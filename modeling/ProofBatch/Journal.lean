/-
The journal of a run: all that it said, drew and asked of others, in order.

A run acts on an outside world of any kind `σ`. What the build tool and the
configurer do is given by actions on `σ`; an action answers and may say
something of its own, and the run writes all of that into its journal.
-/
import ProofBatch.Capability
import ProofBatch.Error
import ProofBatch.Progress

namespace ProofBatch

-- ================================================================ remarks

/-- How grave a note is. -/
inductive Level where
  | error
  | warn
  | info
  | debug
  | trace
  deriving DecidableEq, Repr, Inhabited

/-- The two outputs of a program. -/
inductive Stream where
  | out
  | err
  deriving DecidableEq, Repr

/-- What can be said without asking anything. -/
inductive Remark where
  /-- A note for the log. -/
  | note (level : Level) (text : String)
  /-- Bytes written to an output. -/
  | wrote (stream : Stream) (bytes : List UInt8)
  deriving DecidableEq, Repr

/-- What a run asks of the build tool and of the configurer. -/
inductive Call where
  | capabilities
  | init (project : String) (pools : List Pool)
  | configure (dir : Path) (pools : Bool)
  | runBuild (jobs : Option Nat)
  deriving DecidableEq, Repr

/-- What came back from one call. -/
inductive Answer where
  | capabilities (caps : CapabilitySet)
  | init (result : Except RunError Unit)
  | configure (dir : Path) (result : Except RunError Outcome)
  | runBuild (result : Except RunError Unit)
  deriving Repr

/-- One entry of a journal. -/
inductive Event where
  /-- The run itself said something. -/
  | said (remark : Remark)
  /-- One that was asked something said this before it answered. -/
  | heard (remark : Remark)
  /-- Something was asked; the answer comes later. -/
  | asked (call : Call)
  /-- A call came to an end. -/
  | answered (answer : Answer)
  /-- A part of the progress display was written. -/
  | drew (text : String)
  deriving Repr

/-- What a run has said, drawn and asked, the first entry first. -/
abbrev Journal := List Event

namespace Journal

/-- The notes of one level, whoever wrote them, in order. -/
def notes (journal : Journal) (level : Level) : List String :=
  journal.filterMap fun
    | .said (.note l text) => if l = level then some text else none
    | .heard (.note l text) => if l = level then some text else none
    | _ => none

/-- The warnings, in order. -/
def warnings (journal : Journal) : List String :=
  journal.notes .warn

/-- The warnings of the run itself, in order. -/
def ownWarnings (journal : Journal) : List String :=
  journal.filterMap fun
    | .said (.note .warn text) => some text
    | _ => none

/-- All that was asked, in order. -/
def calls (journal : Journal) : List Call :=
  journal.filterMap fun
    | .asked call => some call
    | _ => none

/-- The directories whose configuration was asked for, in order, each with the
pool flag. -/
def configureCalls (journal : Journal) : List (Path × Bool) :=
  journal.calls.filterMap fun
    | .configure dir pools => some (dir, pools)
    | _ => none

/-- What came back from each call, in order. -/
def answers (journal : Journal) : List Answer :=
  journal.filterMap fun
    | .answered answer => some answer
    | _ => none

/-- The directories whose configuration came to an end, in order, each with the
answer. -/
def configureAnswers (journal : Journal) :
    List (Path × Except RunError Outcome) :=
  journal.answers.filterMap fun
    | .configure dir result => some (dir, result)
    | _ => none

/-- The progress display, as one text. -/
def drawn (journal : Journal) : String :=
  String.join (journal.filterMap fun
    | .drew text => some text
    | _ => none)

/-- The most configurations that were under way at once; `now` are under way at
the start. -/
def peakFrom (now : Nat) : Journal → Nat
  | [] => now
  | .asked (.configure ..) :: rest => max now (peakFrom (now + 1) rest)
  | .answered (.configure ..) :: rest => max now (peakFrom (now - 1) rest)
  | _ :: rest => peakFrom now rest

/-- The most configurations that were under way at once. -/
def peak (journal : Journal) : Nat :=
  peakFrom 0 journal

end Journal

-- ========================================================== the outside world

/-- An outside world together with the journal of what has happened. -/
structure World (σ : Type) where
  outside : σ
  journal : Journal := []

/-- What an action on the outside world gives. -/
structure Reply (σ α : Type) where
  answer : α
  outside : σ
  /-- What was said meanwhile. -/
  remarks : List Remark := []

/-- Something that can be asked of the outside world. -/
abbrev Action (σ α : Type) := σ → Reply σ α

namespace World

variable {σ α : Type}

/-- Write an entry into the journal. -/
def log (w : World σ) (event : Event) : World σ :=
  { w with journal := w.journal ++ [event] }

/-- Write a note into the journal. -/
def note (w : World σ) (level : Level) (text : String) : World σ :=
  w.log (.said (.note level text))

/-- Carry out an action. -/
def act (w : World σ) (action : Action σ α) : α × World σ :=
  let reply := action w.outside
  (reply.answer,
    { outside := reply.outside
      journal := w.journal ++ reply.remarks.map .heard })

/-- Ask something: the request is written down, then the action is carried out,
then its answer is written down. -/
def ask (w : World σ) (call : Call) (action : Action σ α)
    (toAnswer : α → Answer) : α × World σ :=
  let (answer, w) := (w.log (.asked call)).act action
  (answer, w.log (.answered (toAnswer answer)))

end World

-- ================================================== the two partners of a run

/-- The tool that runs the jobs of configured proofs. -/
structure BuildTool (σ : Type) where
  /-- The tool, for diagnostics. -/
  describe : String
  /-- Its capabilities; a tool that cannot tell has none. -/
  capabilities : Action σ CapabilitySet
  /-- Begin a build for a project, with the given pools. -/
  init : String → List Pool → Action σ (Except RunError Unit)
  /-- Run all jobs added since, at most so many at once. -/
  runBuild : Option Nat → Action σ (Except RunError Unit)

/-- What adds the jobs of one proof to the build. An error means that it could
not even start. The flag asks for expensive jobs to be put into their pool. -/
abbrev Configurer (σ : Type) :=
  Path → Bool → Action σ (Except RunError Outcome)

end ProofBatch
