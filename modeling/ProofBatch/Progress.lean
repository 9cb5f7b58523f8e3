/-
Progress of one pass over the proofs: how many are done, which of them could be
configured and which could not, and the line that shows it.
-/
import ProofBatch.Path

namespace ProofBatch

/-- How the configuration of one proof ended. -/
inductive Outcome where
  | succeeded
  | failed
  deriving DecidableEq, Repr, Inhabited

/-- The word for an outcome. -/
def Outcome.word : Outcome → String
  | succeeded => "succeeded"
  | failed => "failed"

/-- The tally of a pass. -/
structure Progress where
  /-- How many proofs are done. -/
  complete : Nat := 0
  /-- The proofs that were configured, in the order in which they were
  recorded. -/
  succeeded : List Path := []
  /-- The proofs that were not, in the order in which they were recorded. -/
  failed : List Path := []
  /-- How many proofs the pass has. -/
  total : Nat
  /-- The width of the two numbers in the progress line. -/
  width : Nat
  deriving DecidableEq, Repr

namespace Progress

/-- The number of decimal digits of a number; one for zero. -/
def decimalWidth (n : Nat) : Nat :=
  (toString (max n 1)).length

/-- The tally before the first proof. -/
def start (total : Nat) : Progress :=
  { total, width := decimalWidth total }

/-- Count one more proof. -/
def record (p : Progress) (path : Path) (outcome : Outcome) : Progress :=
  match outcome with
  | .succeeded =>
    { p with complete := p.complete + 1, succeeded := p.succeeded ++ [path] }
  | .failed =>
    { p with complete := p.complete + 1, failed := p.failed ++ [path] }

/-- Whether every proof is done. -/
def isDrained (p : Progress) : Bool :=
  p.complete == p.total

/-- A number with spaces in front of it, `width` characters in all unless it is
longer. -/
def padLeft (width n : Nat) : String :=
  let digits := toString n
  .ofList (List.replicate (width - digits.length) ' ') ++ digits

/-- The line that shows a tally. -/
def line (p : Progress) : String :=
  "Configuring CBMC proofs: " ++ padLeft p.width p.complete ++ " / "
    ++ padLeft p.width p.total

end Progress

end ProofBatch
