/-
What a journal tells of a run: the views of it that statements speak about,
and how each view reads a journal that was written in pieces.

A journal only grows at its end, so every view of it is the view of what was
there before, followed by the view of what is new. `heard` entries, whatever
they say, are in no view here: what a partner says is its own affair.
-/
import ProofBatch.Journal

namespace ProofBatch

namespace Journal

-- ================================================================ views

/-- The directories whose configuration was asked for, in order. -/
def askedDirs (journal : Journal) : List Path :=
  journal.configureCalls.map (·.1)

/-- The directories whose configuration came to an end, in order. -/
def endedDirs (journal : Journal) : List Path :=
  journal.configureAnswers.map (·.1)

/-- The directories whose configuration succeeded, in the order of the
answers. -/
def succeededDirs (journal : Journal) : List Path :=
  journal.configureAnswers.filterMap fun
    | (dir, .ok .succeeded) => some dir
    | _ => none

/-- The directories whose configuration failed or could not even start, in the
order of the answers. -/
def failedDirs (journal : Journal) : List Path :=
  journal.configureAnswers.filterMap fun
    | (_, .ok .succeeded) => none
    | (dir, _) => some dir

/-- The configurations that could not start, in the order of the answers. -/
def notStarted (journal : Journal) : List (Path × RunError) :=
  journal.configureAnswers.filterMap fun
    | (dir, .error e) => some (dir, e)
    | _ => none

/-- Why the build could not be begun, if that was answered. -/
def initError? (journal : Journal) : Option RunError :=
  journal.answers.findSome? fun
    | .init (.error e) => some e
    | _ => none

/-- Why the build did not end well, if that was answered. -/
def buildError? (journal : Journal) : Option RunError :=
  journal.answers.findSome? fun
    | .runBuild (.error e) => some e
    | _ => none

/-- What was drawn, one text for each time. -/
def strokes (journal : Journal) : List String :=
  journal.filterMap fun
    | .drew text => some text
    | _ => none

/-- The display is what was drawn, put together. -/
theorem drawn_eq_join (journal : Journal) :
    journal.drawn = String.join journal.strokes := rfl

-- ================================================ journals in pieces

variable (j k : Journal) (e : Event)

/-- All readings of a journal go from left to right, so of two journals in a
row each is read for itself. This one is of the calls. -/
@[simp] theorem calls_append : calls (j ++ k) = j.calls ++ k.calls :=
  List.filterMap_append

@[simp] theorem answers_append : answers (j ++ k) = j.answers ++ k.answers :=
  List.filterMap_append

@[simp] theorem ownWarnings_append :
    ownWarnings (j ++ k) = j.ownWarnings ++ k.ownWarnings :=
  List.filterMap_append

@[simp] theorem configureCalls_append :
    configureCalls (j ++ k) = j.configureCalls ++ k.configureCalls := by
  simp [configureCalls]

@[simp] theorem configureAnswers_append :
    configureAnswers (j ++ k) = j.configureAnswers ++ k.configureAnswers := by
  simp [configureAnswers]

@[simp] theorem askedDirs_append :
    askedDirs (j ++ k) = j.askedDirs ++ k.askedDirs := by
  simp [askedDirs]

@[simp] theorem endedDirs_append :
    endedDirs (j ++ k) = j.endedDirs ++ k.endedDirs := by
  simp [endedDirs]

@[simp] theorem succeededDirs_append :
    succeededDirs (j ++ k) = j.succeededDirs ++ k.succeededDirs := by
  simp [succeededDirs]

@[simp] theorem failedDirs_append :
    failedDirs (j ++ k) = j.failedDirs ++ k.failedDirs := by
  simp [failedDirs]

@[simp] theorem notStarted_append :
    notStarted (j ++ k) = j.notStarted ++ k.notStarted := by
  simp [notStarted]

/-- The first failure counts, so an earlier one hides those after it. -/
@[simp] theorem initError?_append :
    initError? (j ++ k) = j.initError?.or k.initError? := by
  simp [initError?, List.findSome?_append]

@[simp] theorem buildError?_append :
    buildError? (j ++ k) = j.buildError?.or k.buildError? := by
  simp [buildError?, List.findSome?_append]

@[simp] theorem strokes_append : strokes (j ++ k) = j.strokes ++ k.strokes :=
  List.filterMap_append

-- ================================================== one entry more

@[simp] theorem calls_nil : calls [] = [] := rfl

@[simp] theorem answers_nil : answers [] = [] := rfl

@[simp] theorem ownWarnings_nil : ownWarnings [] = [] := rfl

@[simp] theorem strokes_nil : strokes [] = [] := rfl

/-- An entry is a call or no call. -/
theorem calls_cons :
    calls (e :: k)
      = (match e with | .asked call => [call] | _ => []) ++ k.calls := by
  cases e <;> rfl

theorem answers_cons :
    answers (e :: k)
      = (match e with | .answered answer => [answer] | _ => [])
        ++ k.answers := by
  cases e <;> rfl

theorem ownWarnings_cons :
    ownWarnings (e :: k)
      = (match e with | .said (.note .warn text) => [text] | _ => [])
        ++ k.ownWarnings := by
  match e with
  | .said (.note level _) => cases level <;> rfl
  | .said (.wrote ..) => rfl
  | .heard _ => rfl
  | .asked _ => rfl
  | .answered _ => rfl
  | .drew _ => rfl

theorem strokes_cons :
    strokes (e :: k)
      = (match e with | .drew text => [text] | _ => []) ++ k.strokes := by
  cases e <;> rfl

-- ============================================== what partners say

variable (remarks : List Remark)

/-- What is heard from others is no call. -/
@[simp] theorem calls_heard : calls (remarks.map .heard) = [] := by
  induction remarks with
  | nil => rfl
  | cons _ _ ih => exact ih

@[simp] theorem answers_heard : answers (remarks.map .heard) = [] := by
  induction remarks with
  | nil => rfl
  | cons _ _ ih => exact ih

@[simp] theorem ownWarnings_heard : ownWarnings (remarks.map .heard) = [] := by
  induction remarks with
  | nil => rfl
  | cons _ _ ih => exact ih

@[simp] theorem strokes_heard : strokes (remarks.map .heard) = [] := by
  induction remarks with
  | nil => rfl
  | cons _ _ ih => exact ih

end Journal

-- ================================================== worlds and journals

namespace World

variable {σ α : Type}

/-- An entry goes to the end of a journal. -/
@[simp] theorem journal_log (w : World σ) (e : Event) :
    (w.log e).journal = w.journal ++ [e] := rfl

@[simp] theorem journal_note (w : World σ) (level : Level) (text : String) :
    (w.note level text).journal
      = w.journal ++ [.said (.note level text)] := rfl

/-- A call stands before all that it leads to, and its answer behind. -/
@[simp] theorem journal_ask (w : World σ) (call : Call) (action : Action σ α)
    (toAnswer : α → Answer) :
    (w.ask call action toAnswer).2.journal
      = w.journal ++ .asked call :: (action w.outside).remarks.map .heard
        ++ [.answered (toAnswer (action w.outside).answer)] := by
  simp [ask, act, log]

/-- To ask is one call and one answer, whatever is said in between. -/
theorem ask_spec (w : World σ) (call : Call) (action : Action σ α)
    (toAnswer : α → Answer) :
    (w.ask call action toAnswer).1 = (action w.outside).answer
      ∧ ∃ news, (w.ask call action toAnswer).2.journal = w.journal ++ news
        ∧ news.calls = [call]
        ∧ news.answers = [toAnswer (action w.outside).answer] := by
  refine ⟨rfl, .asked call :: (action w.outside).remarks.map .heard
    ++ [.answered (toAnswer (action w.outside).answer)], ?_, ?_, ?_⟩
  · rw [journal_ask, List.append_assoc]
  · simp [Journal.calls_cons]
  · simp [Journal.answers_cons]

end World

end ProofBatch
