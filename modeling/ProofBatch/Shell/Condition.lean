/-
The conditions of `test`: questions about texts, numbers and files, joined by
`!`, `-a`, `-o` and parentheses.

Up to four words are read by their number, so that a text that looks like an
operator can be asked about.
-/
import ProofBatch.FileTree
import ProofBatch.Shell.Printing

namespace ProofBatch.Shell.Condition

/-- Why a condition cannot be judged, or the answer with the words that are
left. -/
abbrev Judged := Except String (Bool × List Bytes)

-- ================================================================ questions

/-- A question about one text. -/
def unary? (files : FileTree) (op : Bytes) : Option (Bytes → Bool) :=
  let path (bytes : Bytes) : Path := ⟨toText bytes⟩
  let reached (test : Node → Bool) (bytes : Bytes) : Bool :=
    match files.node (path bytes) with
    | .ok node => test node
    | .error _ => false
  match op with
  | ['-', 'n'] => some (!·.isEmpty)
  | ['-', 'z'] => some (·.isEmpty)
  | ['-', 'e'] => some (reached fun _ => true)
  | ['-', 'f'] => some (files.isFile ∘ path)
  | ['-', 'd'] => some (files.isDirectory ∘ path)
  | ['-', 'r'] => some (reached fun _ => true)
  | ['-', 'w'] => some (reached fun _ => true)
  | ['-', 'x'] => some (reached fun
    | .file access _ => access.execute
    | .directory access _ => access.execute
    | .link _ => false)
  | ['-', 's'] => some (reached fun
    | .file _ bytes => !bytes.isEmpty
    | _ => true)
  | ['-', 'h'] | ['-', 'L'] => some fun bytes =>
    match files.entry (path bytes) with
    | .ok (.link _) => true
    | _ => false
  | ['-', 't'] => some fun _ => false
  | _ => none

/-- A number in a question about numbers. -/
def number (bytes : Bytes) : Except String Int :=
  match numberOf bytes with
  | (n, .all) => if bytes.isEmpty then .error "Illegal number: " else .ok n
  | _ => .error s!"Illegal number: {toText bytes}"

/-- A question about two texts. -/
def binary? (op : Bytes) : Option (Bytes → Bytes → Except String Bool) :=
  let texts (test : Bytes → Bytes → Bool) (a b : Bytes) : Except String Bool :=
    .ok (test a b)
  let numbers (test : Int → Int → Bool) (a b : Bytes) :
      Except String Bool := do
    return test (← number a) (← number b)
  match String.ofList op with
  | "=" => some (texts (· == ·))
  | "!=" => some (texts (· != ·))
  | "<" => some (texts fun a b => decide (a < b))
  | ">" => some (texts fun a b => decide (b < a))
  | "-eq" => some (numbers (· == ·))
  | "-ne" => some (numbers (· != ·))
  | "-lt" => some (numbers (decide <| · < ·))
  | "-le" => some (numbers (decide <| · ≤ ·))
  | "-gt" => some (numbers (decide <| · > ·))
  | "-ge" => some (numbers (decide <| · ≥ ·))
  | _ => none

/-- Whether a question about one text can be read at the beginning of
`op :: rest`: it cannot where `op` is itself asked about. -/
def asksAboutNext (rest : List Bytes) : Bool :=
  match rest with
  | [] => false
  | [_] => true
  | next :: _ => (binary? next).isNone

-- =========================================================== joined questions

mutual

/-- Questions of which one has to hold. -/
def disjunction (files : FileTree) : Nat → List Bytes → Judged
  | 0, _ => .error "too many terms"
  | budget + 1, words => do
    match ← conjunction files budget words with
    | (answer, ['-', 'o'] :: rest) =>
      let (other, rest) ← disjunction files budget rest
      return (answer || other, rest)
    | judged => return judged

/-- Questions that all have to hold. -/
def conjunction (files : FileTree) : Nat → List Bytes → Judged
  | 0, _ => .error "too many terms"
  | budget + 1, words => do
    match ← single files budget words with
    | (answer, ['-', 'a'] :: rest) =>
      let (other, rest) ← conjunction files budget rest
      return (answer && other, rest)
    | judged => return judged

/-- One question. -/
def single (files : FileTree) : Nat → List Bytes → Judged
  | 0, _ => .error "too many terms"
  | _ + 1, [] => .ok (false, [])
  | budget + 1, word :: rest =>
    if word = ['!'] then do
      let (answer, rest) ← single files budget rest
      return (!answer, rest)
    else if word = ['('] ∧ !rest.isEmpty then do
      match ← disjunction files budget rest with
      | (answer, [')'] :: rest) => return (answer, rest)
      | _ => throw "closing paren expected"
    else
      match (unary? files word).filter fun _ => asksAboutNext rest, rest with
      | some test, subject :: rest => .ok (test subject, rest)
      | _, op :: rest' =>
        match binary? op, rest' with
        | some test, other :: rest => do return (← test word other, rest)
        | some _, [] => .error s!"{toText op}: argument expected"
        | none, _ => .ok (!word.isEmpty, rest)
      | _, [] => .ok (!word.isEmpty, [])

end

/-- Judge the words of a condition. -/
def judge (files : FileTree) (words : List Bytes) : Except String Bool := do
  let budget := 4 * words.length + 4
  let (answer, rest) ← match words with
    | [a, op, b] =>
      match binary? op with
      | some test => do pure (← test a b, [])
      | none => disjunction files budget words
    | _ => disjunction files budget words
  match rest with
  | [] => return answer
  | _ :: _ =>
    let last := (words.take (words.length - rest.length)).getLast?.getD []
    throw s!"{toText last}: unexpected operator"

end ProofBatch.Shell.Condition
