/-
Statuses for people: `fail_ignored` becomes `Fail Ignored`.

The first letter of every run of letters is put into upper case and the others
into lower case; an underscore becomes a space, and all else stays.
-/
import ProofBatch.Text.Case
import ProofBatch.Text.Letter

namespace ProofBatch.Status

open ProofBatch.Text

/-- The characters of a status for people, where `first` says whether the next
letter begins a run of letters. -/
def prettyChars (first : Bool) : List Char → List Char
  | [] => []
  | c :: rest =>
    if isLetter c then
      (if first then upper c else lower c) ++ prettyChars false rest
    else (if c = '_' then ' ' else c) :: prettyChars true rest

/-- A status for people. -/
def pretty (status : String) : String :=
  .ofList (prettyChars true status.toList)

end ProofBatch.Status
