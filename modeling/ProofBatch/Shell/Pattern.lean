/-
Patterns for texts: `*` for any characters, `?` for one, `[...]` for one of a
set. `Pattern.accepts` says which texts a pattern stands for; the four ways of
taking a part off a text are the shortest and the longest part at either end.
-/
import ProofBatch.Shell.Bytes

namespace ProofBatch.Shell

/-- A character of a word after expansion, with what is still to be done with
it. -/
inductive Mark where
  /-- From within quotes: it stands for itself. -/
  | kept (c : Char)
  /-- From outside of quotes: it may have a meaning in a pattern. -/
  | bare (c : Char)
  /-- From an expansion outside of quotes: it may also separate fields. -/
  | loose (c : Char)
  /-- An empty text within quotes, which makes a field even when nothing is
  beside it. -/
  | blank
  /-- The end of one field and the beginning of another. -/
  | cut
  deriving DecidableEq, Repr

/-- The character of a mark; a boundary between fields counts as a space. -/
def Mark.char? : Mark → Option Char
  | kept c => some c
  | bare c => some c
  | loose c => some c
  | blank => none
  | cut => some ' '

/-- The text of marks. -/
def textOf (marks : List Mark) : Bytes :=
  marks.filterMap Mark.char?

/-- One element of a pattern. -/
inductive Atom where
  | one (c : Char)
  | any
  | many
  /-- One character that lies in one of the ranges, or in none of them. -/
  | set (outside : Bool) (ranges : List (Char × Char))
  deriving DecidableEq, Repr

/-- What a text may look like. -/
abbrev Pattern := List Atom

namespace Pattern

/-- A character that has a meaning in patterns, if the mark lets it. -/
def meaning? : Mark → Option Char
  | .bare c => some c
  | .loose c => some c
  | _ => none

/-- Cut marks after the `]` that ends a set. A `]` that comes first belongs to
the set. -/
def splitSet (first : Bool) : List Mark → Option (List Mark × List Mark)
  | [] => none
  | mark :: rest =>
    if meaning? mark = some ']' ∧ !first then some ([], rest)
    else (splitSet false rest).map fun r => (mark :: r.1, r.2)

theorem length_splitSet {first : Bool} {marks inside rest : List Mark}
    (h : splitSet first marks = some (inside, rest)) :
    rest.length < marks.length := by
  induction marks generalizing first inside with
  | nil => simp [splitSet] at h
  | cons mark marks ih =>
    simp only [splitSet] at h
    split at h
    · simp_all
    · obtain ⟨⟨inside', rest'⟩, hr, heq⟩ := Option.map_eq_some_iff.mp h
      obtain rfl : rest' = rest := (Prod.mk.inj heq).2
      have := ih hr
      simp only [List.length_cons]
      omega

/-- The ranges of a set; a character alone is a range of one. -/
def ranges : List Mark → List (Char × Char)
  | low :: dash :: high :: rest =>
    match low.char?, meaning? dash, high.char? with
    | some low, some '-', some high => (low, high) :: ranges rest
    | low, _, _ =>
      (low.map fun c => (c, c)).toList ++ ranges (dash :: high :: rest)
  | mark :: rest => (mark.char?.map fun c => (c, c)).toList ++ ranges rest
  | [] => []

/-- Whether a set begins with the mark for "none of these". -/
def excludes : List Mark → Bool
  | mark :: _ => meaning? mark == some '!' || meaning? mark == some '^'
  | [] => false

/-- A set, read after its `[`, and the marks after it. -/
def readSet (marks : List Mark) : Option (Atom × List Mark) :=
  let outside := excludes marks
  (splitSet true (if outside then marks.tail else marks)).map fun r =>
    (.set outside (ranges r.1), r.2)

theorem length_readSet {marks rest : List Mark} {atom : Atom}
    (h : readSet marks = some (atom, rest)) : rest.length < marks.length := by
  obtain ⟨r, hr, heq⟩ := Option.map_eq_some_iff.mp h
  have hlt := length_splitSet hr
  have hle : (if excludes marks then marks.tail else marks).length
      ≤ marks.length := by
    split <;> simp
  simp_all
  omega

/-- The pattern that a word is. A `[` that begins no set stands for itself. -/
def ofMarks : List Mark → Pattern
  | [] => []
  | mark :: rest =>
    match meaning? mark, mark.char? with
    | some '*', _ => .many :: ofMarks rest
    | some '?', _ => .any :: ofMarks rest
    | some '[', _ =>
      match h : readSet rest with
      | some (atom, rest') =>
        have := length_readSet h
        atom :: ofMarks rest'
      | none => .one '[' :: ofMarks rest
    | _, some c => .one c :: ofMarks rest
    | _, none => ofMarks rest
  termination_by marks => marks.length

/-- Whether one element stands for a character. -/
def fits (c : Char) : Atom → Bool
  | .one d => c == d
  | .any => true
  | .many => false
  | .set outside ranges => (ranges.any fun r => r.1 ≤ c && c ≤ r.2) != outside

/-- Whether a pattern stands for a text. -/
def accepts (p : Pattern) (text : Bytes) : Bool :=
  match p, text with
  | [], [] => true
  | [], _ :: _ => false
  | .many :: p, [] => accepts p []
  | .many :: p, c :: text => accepts p (c :: text) || accepts (.many :: p) text
  | _ :: _, [] => false
  | atom :: p, c :: text => fits c atom && accepts p text
  termination_by (p.length + text.length)

/-- The ways to cut a text in two, the shorter first parts first. -/
def cuts (text : Bytes) : List (Bytes × Bytes) :=
  (List.range (text.length + 1)).map fun n => text.splitAt n

/-- A text without the first part that the pattern stands for: the shortest or
the longest one. -/
def dropFront (longest : Bool) (p : Pattern) (text : Bytes) : Bytes :=
  let ways := if longest then (cuts text).reverse else cuts text
  match ways.find? fun cut => p.accepts cut.1 with
  | some cut => cut.2
  | none => text

/-- A text without the last part that the pattern stands for: the shortest or
the longest one. -/
def dropBack (longest : Bool) (p : Pattern) (text : Bytes) : Bytes :=
  let ways := if longest then cuts text else (cuts text).reverse
  match ways.find? fun cut => p.accepts cut.2 with
  | some cut => cut.1
  | none => text

end Pattern

end ProofBatch.Shell
