/-
The identifier that a proof declares for itself, on a line such as

    PROOF_UID = lists_append

The name stands at the start of the line, blanks may surround the equals sign,
and the identifier is the longest run of word characters after it. The first
line of this form counts, and all others are passed over.
-/
import ProofBatch.Text.Blank
import ProofBatch.Text.Lines
import ProofBatch.Text.Word

namespace ProofBatch.Identifier

open ProofBatch.Text

/-- The name that an identifier is declared under. -/
def keyword : List Char :=
  "PROOF_UID".toList

/-- What follows `start` at the beginning of a line. -/
def after? (start line : List Char) : Option (List Char) :=
  match start, line with
  | [], line => some line
  | _ :: _, [] => none
  | c :: start, d :: line => if c = d then after? start line else none

/-- The identifier that one line declares. -/
def ofLine? (line : List Char) : Option (List Char) :=
  match after? keyword line with
  | none => none
  | some rest =>
    match rest.dropWhile isBlank with
    | '=' :: value =>
      let uid := (value.dropWhile isBlank).takeWhile isWord
      if uid.isEmpty then none else some uid
    | _ => none

/-- The identifier that a text declares, by its first line that declares
one. -/
def declared? (text : String) : Option String :=
  ((lines text.toList).findSome? ofLine?).map String.ofList

end ProofBatch.Identifier
