/-
Processes as a run sees them: what it starts, how that ends, and what it gets
back.
-/
import ProofBatch.Journal
import ProofBatch.Signal

namespace ProofBatch

/-- How a process ended. -/
inductive Ending where
  /-- By itself, with a code. -/
  | exited (code : Nat)
  /-- By a signal. -/
  | killed (signal : Signal)
  deriving DecidableEq, Repr

namespace Ending

/-- Whether a process ended well. -/
def isSuccess (ending : Ending) : Bool :=
  ending == .exited 0

/-- The text of an ending. -/
def message : Ending → String
  | exited code => s!"exit status: {code}"
  | killed signal =>
    match signal.name? with
    | some name => s!"signal: {signal} (SIG{name})"
    | none => s!"signal: {signal}"

theorem isSuccess_iff {ending : Ending} :
    ending.isSuccess = true ↔ ending = .exited 0 := by
  simp [isSuccess]

end Ending

/-- A process to be started. -/
structure Launch where
  /-- The program: a path if it holds a `/`, else a name to search for. -/
  program : String
  arguments : List String
  /-- The directory to start in, unless it is the one that the run is in. -/
  dir : Option Path := none
  /-- Whether the output is kept for the run instead of being shown. -/
  captures : Bool := false
  /-- Whether what goes to the error output is dropped. -/
  hushed : Bool := false
  deriving Repr

/-- What a process leaves. -/
structure Finished where
  ending : Ending
  /-- The output, if it was to be kept. -/
  output : List UInt8 := []
  deriving Repr

/-- What starts processes and waits for their end. -/
abbrev Launcher (σ : Type) := Launch → Action σ (Except IoError Finished)

end ProofBatch
