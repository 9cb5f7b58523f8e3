/-
The books of a pass: what the journal says of the configurations asked for and
answered agrees, at every moment, with the proofs claimed, with the tally, and
with the proofs that the workers have in hand.

# What balances

Three accounts, one for each time that a proof moves on:

    claimed    =  asked for  +  claimed by a worker that has not asked yet
    asked for  =  answered   +  under way in some worker
    answered   =  recorded   +  in hand, answered but not yet recorded

(the last one twice, for each outcome). Several workers may overtake each other
between these points, so the sides agree up to order; a single worker finishes
what it began, and they agree as lists (`Alike`).

# How it is kept

Every step moves one worker, so one entry of the list of positions is exchanged
(`filterMap_set_perm`). A step of a worker with nothing in hand changes no
account (`Books.quiet`); each of the other four moves one proof from one side
of an account to the other.
-/
import ProofBatch.Proofs.Journal
import ProofBatch.Proofs.Workers.Interleaving
import Mathlib.Data.List.Perm.Basic

namespace ProofBatch.Workers

variable {σ α β : Type}

-- ==================================================== lists that are alike

/-- The same entries, each as often; and in the same order, unless several
workers take turns. -/
structure Alike (workers : Nat) (l m : List α) : Prop where
  perm : l.Perm m
  eq_of_single : workers ≤ 1 → l = m

theorem Alike.refl (workers : Nat) (l : List α) : Alike workers l l :=
  ⟨.refl l, fun _ => rfl⟩

theorem Alike.map {workers : Nat} {l m : List α} (h : Alike workers l m)
    (f : α → β) : Alike workers (l.map f) (m.map f) :=
  ⟨h.perm.map f, fun hw => congrArg (List.map f) (h.eq_of_single hw)⟩

-- ================================================= one position exchanged

section Exchange

variable {f : Position → Option α} {positions : List Position} {i : Nat}
  {p q : Position} {a : α} {l m : List α}

/-- What one exchanged position takes away and brings. -/
theorem filterMap_set_perm (hp : positions[i]? = some p) :
    ((f p).toList ++ (positions.set i q).filterMap f).Perm
      ((f q).toList ++ positions.filterMap f) := by
  obtain ⟨hi, hget⟩ := List.getElem?_eq_some_iff.mp hp
  have hset := (List.set_perm_cons_eraseIdx hi q).filterMap f
  have hpf := (List.getElem_cons_eraseIdx_perm hi).filterMap f
  rw [hget] at hpf
  simp only [List.filterMap_cons] at hset hpf
  cases hfo : f p <;> cases hfn : f q <;> rw [hfo] at hpf <;>
    rw [hfn] at hset
  · exact hset.trans hpf
  · exact hset.trans (hpf.cons _)
  · exact (hset.cons _).trans hpf
  · exact (hset.cons _).trans ((List.Perm.swap ..).trans (hpf.cons _))

/-- An exchange that `f` does not see. -/
theorem filterMap_set_eq (hp : positions[i]? = some p)
    (hfix : f q = f p) :
    (positions.set i q).filterMap f = positions.filterMap f := by
  induction positions generalizing i with
  | nil => rfl
  | cons first rest ih =>
      cases i with
      | zero =>
          have hfirst : first = p := by simpa using hp
          rw [List.set_cons_zero, List.filterMap_cons, List.filterMap_cons,
            hfix, hfirst]
      | succ i =>
          rw [List.set_cons_succ, List.filterMap_cons, List.filterMap_cons,
            ih (by simpa using hp)]

/-- A single worker is all there is. -/
theorem eq_of_length_le_one (hp : positions[i]? = some p)
    (hlen : positions.length ≤ 1) : positions = [p] ∧ i = 0 := by
  obtain ⟨hi, hget⟩ := List.getElem?_eq_some_iff.mp hp
  have hi0 : i = 0 := by omega
  subst hi0
  have hone : positions.length = 1 := by omega
  obtain ⟨first, rfl⟩ := List.length_eq_one_iff.mp hone
  exact ⟨congrArg (fun x => [x]) hget, rfl⟩

/-- A worker takes something up that enters the books. -/
theorem Alike.enter (hp : positions[i]? = some p) (hpf : f p = none)
    (hqf : f q = some a)
    (h : Alike positions.length l (m ++ positions.filterMap f)) :
    Alike positions.length (l ++ [a])
      (m ++ (positions.set i q).filterMap f) := by
  constructor
  · have hset := filterMap_set_perm (f := f) (q := q) hp
    rw [hpf, hqf] at hset
    have hlast : (positions.filterMap f ++ [a]).Perm
        ((positions.set i q).filterMap f) :=
      (List.perm_append_singleton a _).trans hset.symm
    have hall := h.perm.append_right [a]
    rw [List.append_assoc] at hall
    exact hall.trans (hlast.append_left m)
  · intro hlen
    obtain ⟨rfl, rfl⟩ := eq_of_length_le_one hp hlen
    rw [h.eq_of_single hlen]
    simp [hpf, hqf]

/-- A worker puts something down, and the books move it to the other side. -/
theorem Alike.leave (hp : positions[i]? = some p) (hpf : f p = some a)
    (hqf : f q = none)
    (h : Alike positions.length l (m ++ positions.filterMap f)) :
    Alike positions.length l
      (m ++ [a] ++ (positions.set i q).filterMap f) := by
  constructor
  · have hset := filterMap_set_perm (f := f) (q := q) hp
    rw [hpf, hqf] at hset
    rw [List.append_assoc]
    exact h.perm.trans (hset.symm.append_left m)
  · intro hlen
    obtain ⟨rfl, rfl⟩ := eq_of_length_le_one hp hlen
    rw [h.eq_of_single hlen]
    simp [hpf, hqf]

end Exchange

-- ============================================================== the books

variable {setting : Setting σ} {s t : State σ} {claimed : List ProofUnit}
  {events news : Journal} {i : Nat}

/-- The directory that a worker has claimed and not yet asked for. -/
def Position.unasked? : Position → Option Path
  | asking unit => some unit.path
  | _ => none

/-- The directory that a worker waits for. -/
def Position.underway? : Position → Option Path
  | configuring unit => some unit.path
  | _ => none

/-- The directory whose outcome a worker has yet to record. -/
def Position.unrecorded? (outcome : Outcome) : Position → Option Path
  | recording unit o => if o = outcome then some unit.path else none
  | _ => none

/-- A worker that has no proof in hand. -/
def Position.IsIdle (p : Position) : Prop :=
  p = drawing ∨ p = taking ∨ p = returned

/-- An idle worker owes no call. -/
theorem Position.IsIdle.unasked? {p : Position} (h : p.IsIdle) :
    p.unasked? = none := by
  obtain rfl | rfl | rfl := h <;> rfl

theorem Position.IsIdle.underway? {p : Position} (h : p.IsIdle) :
    p.underway? = none := by
  obtain rfl | rfl | rfl := h <;> rfl

theorem Position.IsIdle.unrecorded? {p : Position} (h : p.IsIdle)
    (outcome : Outcome) : p.unrecorded? outcome = none := by
  obtain rfl | rfl | rfl := h <;> rfl

/-- The directories that a tally lists under an outcome. -/
def listed (p : Progress) : Outcome → List Path
  | .succeeded => p.succeeded
  | .failed => p.failed

/-- The directories whose configuration ended with an outcome. -/
def dirsEnded (events : Journal) : Outcome → List Path
  | .succeeded => events.succeededDirs
  | .failed => events.failedDirs

/-- Every answer that a journal has is one that the configurer gives. -/
def Genuine (setting : Setting σ) (events : Journal) : Prop :=
  ∀ a ∈ events.configureAnswers,
    ∃ o, (setting.configurer a.1 setting.pools o).answer = a.2

/-- The books of a pass in which the proofs `claimed` were claimed, in this
order, and `events` was written. -/
structure Books (setting : Setting σ) (claimed : List ProofUnit)
    (events : Journal) (s : State σ) : Prop where
  calls : events.calls
    = events.askedDirs.map fun dir => .configure dir setting.pools
  answers : events.answers
    = events.configureAnswers.map fun a => .configure a.1 a.2
  warnings : events.ownWarnings
    = events.notStarted.map fun a => complaint a.1 a.2
  genuine : Genuine setting events
  asked : Alike s.positions.length (claimed.map (·.path))
    (events.askedDirs ++ s.positions.filterMap Position.unasked?)
  ended : Alike s.positions.length events.askedDirs
    (events.endedDirs ++ s.positions.filterMap Position.underway?)
  recorded : ∀ outcome, Alike s.positions.length (dirsEnded events outcome)
    (listed s.progress outcome
      ++ s.positions.filterMap (Position.unrecorded? outcome))
  complete : s.progress.complete
    = s.progress.succeeded.length + s.progress.failed.length

-- =========================================================== what is new

theorem dirsEnded_append (events news : Journal) (outcome : Outcome) :
    dirsEnded (events ++ news) outcome
      = dirsEnded events outcome ++ dirsEnded news outcome := by
  cases outcome with
  | succeeded => exact Journal.succeededDirs_append ..
  | failed => exact Journal.failedDirs_append ..

/-- News without a call add nothing to what was asked for. -/
theorem askedDirs_append_of_nil (h : news.calls = []) :
    (events ++ news).askedDirs = events.askedDirs := by
  have hnews : news.askedDirs = [] := by
    rw [Journal.askedDirs, Journal.configureCalls, h]
    rfl
  rw [Journal.askedDirs_append, hnews, List.append_nil]

/-- News without an answer add nothing to what was answered. -/
theorem configureAnswers_append_of_nil (h : news.answers = []) :
    (events ++ news).configureAnswers = events.configureAnswers := by
  have hnews : news.configureAnswers = [] := by
    rw [Journal.configureAnswers, h, List.filterMap_nil]
  rw [Journal.configureAnswers_append, hnews, List.append_nil]

/-- Without an answer, no configuration ends. -/
theorem endedDirs_append_of_nil (h : news.answers = []) :
    (events ++ news).endedDirs = events.endedDirs := by
  rw [Journal.endedDirs, configureAnswers_append_of_nil h]
  rfl

theorem dirsEnded_append_of_nil (h : news.answers = []) (outcome : Outcome) :
    dirsEnded (events ++ news) outcome = dirsEnded events outcome := by
  cases outcome <;>
    simp only [dirsEnded, Journal.succeededDirs, Journal.failedDirs,
      configureAnswers_append_of_nil h]

/-- Without an answer, all answers stay genuine. -/
theorem Genuine.append_of_nil (hg : Genuine setting events)
    (h : news.answers = []) : Genuine setting (events ++ news) := by
  unfold Genuine
  rw [configureAnswers_append_of_nil h]
  exact hg

theorem notStarted_append_of_nil (h : news.answers = []) :
    (events ++ news).notStarted = events.notStarted := by
  rw [Journal.notStarted, configureAnswers_append_of_nil h]
  rfl

/-- The directories that one answer is for. -/
theorem dirsEnded_single {dir : Path} {answer : Except RunError Outcome}
    (h : news.answers = [.configure dir answer]) (outcome : Outcome) :
    dirsEnded news outcome
      = if outcomeOf answer = outcome then [dir] else [] := by
  have hconf : news.configureAnswers = [(dir, answer)] := by
    rw [Journal.configureAnswers, h]
    rfl
  cases outcome <;>
    simp only [dirsEnded, Journal.succeededDirs, Journal.failedDirs, hconf]
  all_goals
    cases answer with
    | error _ => rfl
    | ok own => cases own <;> rfl

/-- What recording adds to a list of the tally. -/
theorem listed_record (p : Progress) (dir : Path) (o outcome : Outcome) :
    listed (p.record dir o) outcome
      = listed p outcome ++ if o = outcome then [dir] else [] := by
  cases o <;> cases outcome <;> simp [listed, Progress.record]

-- ============================================================= the steps

section Steps

variable {unit : ProofUnit} (h : Books setting claimed events s)
include h

/-- A step of a worker with nothing in hand, which asks and answers nothing,
changes no account. -/
theorem Books.quiet {p q : Position} (hp : s.positions[i]? = some p)
    (hpi : p.IsIdle) (hqi : q.IsIdle)
    (hpos : t.positions = s.positions.set i q)
    (hprog : t.progress = s.progress) (hcalls : news.calls = [])
    (hans : news.answers = []) (hwarn : news.ownWarnings = []) :
    Books setting claimed (events ++ news) t := by
  have hlen : t.positions.length = s.positions.length := by
    rw [hpos, List.length_set]
  constructor
  · rw [Journal.calls_append, askedDirs_append_of_nil hcalls, hcalls,
      List.append_nil]
    exact h.calls
  · rw [Journal.answers_append, configureAnswers_append_of_nil hans, hans,
      List.append_nil]
    exact h.answers
  · rw [Journal.ownWarnings_append, notStarted_append_of_nil hans, hwarn,
      List.append_nil]
    exact h.warnings
  · exact h.genuine.append_of_nil hans
  · rw [askedDirs_append_of_nil hcalls, hlen, hpos,
      filterMap_set_eq hp (hqi.unasked?.trans hpi.unasked?.symm)]
    exact h.asked
  · rw [askedDirs_append_of_nil hcalls, endedDirs_append_of_nil hans, hlen,
      hpos, filterMap_set_eq hp (hqi.underway?.trans hpi.underway?.symm)]
    exact h.ended
  · intro outcome
    rw [dirsEnded_append_of_nil hans, hlen, hprog, hpos, filterMap_set_eq hp
        ((hqi.unrecorded? outcome).trans (hpi.unrecorded? outcome).symm)]
    exact h.recorded outcome
  · rw [hprog]
    exact h.complete

/-- A proof is claimed. -/
theorem Books.claim (hp : s.positions[i]? = some .taking)
    (hpos : t.positions = s.positions.set i (.asking unit))
    (hprog : t.progress = s.progress) :
    Books setting (claimed ++ [unit]) events t := by
  have hlen : t.positions.length = s.positions.length := by
    rw [hpos, List.length_set]
  refine ⟨h.calls, h.answers, h.warnings, h.genuine, ?_, ?_, ?_, ?_⟩
  · rw [hlen, hpos, List.map_append]
    exact Alike.enter (f := Position.unasked?) hp rfl rfl h.asked
  · rw [hlen, hpos, filterMap_set_eq hp (by rfl)]
    exact h.ended
  · intro outcome
    rw [hlen, hprog, hpos, filterMap_set_eq hp (by rfl)]
    exact h.recorded outcome
  · rw [hprog]
    exact h.complete

/-- The configuration of a claimed proof is asked for. -/
theorem Books.begin (hp : s.positions[i]? = some (.asking unit))
    (hpos : t.positions = s.positions.set i (.configuring unit))
    (hprog : t.progress = s.progress)
    (hcalls : news.calls = [.configure unit.path setting.pools])
    (hans : news.answers = []) (hwarn : news.ownWarnings = []) :
    Books setting claimed (events ++ news) t := by
  have hlen : t.positions.length = s.positions.length := by
    rw [hpos, List.length_set]
  have hasked : news.askedDirs = [unit.path] := by
    rw [Journal.askedDirs, Journal.configureCalls, hcalls]
    rfl
  constructor
  · rw [Journal.calls_append, Journal.askedDirs_append, h.calls, hcalls,
      hasked, List.map_append]
    rfl
  · rw [Journal.answers_append, configureAnswers_append_of_nil hans, hans,
      List.append_nil]
    exact h.answers
  · rw [Journal.ownWarnings_append, notStarted_append_of_nil hans, hwarn,
      List.append_nil]
    exact h.warnings
  · exact h.genuine.append_of_nil hans
  · rw [Journal.askedDirs_append, hasked, hlen, hpos]
    exact Alike.leave (f := Position.unasked?) hp rfl rfl h.asked
  · rw [Journal.askedDirs_append, hasked, endedDirs_append_of_nil hans, hlen,
      hpos]
    exact Alike.enter (f := Position.underway?) hp rfl rfl h.ended
  · intro outcome
    rw [dirsEnded_append_of_nil hans, hlen, hprog, hpos,
      filterMap_set_eq hp (by rfl)]
    exact h.recorded outcome
  · rw [hprog]
    exact h.complete

/-- A configuration comes to an end. -/
theorem Books.finish {answer : Except RunError Outcome}
    (hp : s.positions[i]? = some (.configuring unit))
    (hpos : t.positions
      = s.positions.set i (.recording unit (outcomeOf answer)))
    (hprog : t.progress = s.progress) (hcalls : news.calls = [])
    (hans : news.answers = [.configure unit.path answer])
    (hgen : ∃ o, (setting.configurer unit.path setting.pools o).answer
      = answer)
    (hwarn : news.ownWarnings
      = news.notStarted.map fun a => complaint a.1 a.2) :
    Books setting claimed (events ++ news) t := by
  have hlen : t.positions.length = s.positions.length := by
    rw [hpos, List.length_set]
  have hconf : news.configureAnswers = [(unit.path, answer)] := by
    rw [Journal.configureAnswers, hans]
    rfl
  have hended : news.endedDirs = [unit.path] := by
    rw [Journal.endedDirs, hconf]
    rfl
  constructor
  · rw [Journal.calls_append, askedDirs_append_of_nil hcalls, hcalls,
      List.append_nil]
    exact h.calls
  · rw [Journal.answers_append, Journal.configureAnswers_append, h.answers,
      hans, hconf, List.map_append]
    rfl
  · rw [Journal.ownWarnings_append, Journal.notStarted_append, h.warnings,
      hwarn, List.map_append]
  · intro a ha
    rw [Journal.configureAnswers_append, hconf] at ha
    rcases List.mem_append.mp ha with hold | hnew
    · exact h.genuine a hold
    · rw [List.mem_singleton.mp hnew]
      exact hgen
  · rw [askedDirs_append_of_nil hcalls, hlen, hpos,
      filterMap_set_eq hp (by rfl)]
    exact h.asked
  · rw [askedDirs_append_of_nil hcalls, Journal.endedDirs_append, hended,
      hlen, hpos]
    exact Alike.leave (f := Position.underway?) hp rfl rfl h.ended
  · intro outcome
    rw [dirsEnded_append, dirsEnded_single hans, hlen, hprog, hpos]
    by_cases ho : outcomeOf answer = outcome
    · rw [if_pos ho]
      exact Alike.enter (f := Position.unrecorded? outcome) hp rfl
        (if_pos ho) (h.recorded outcome)
    · rw [if_neg ho, List.append_nil,
        filterMap_set_eq hp (q := .recording unit (outcomeOf answer))
          (if_neg ho)]
      exact h.recorded outcome
  · rw [hprog]
    exact h.complete

/-- An outcome is recorded. -/
theorem Books.record {o : Outcome}
    (hp : s.positions[i]? = some (.recording unit o)) :
    Books setting claimed events (s.record i unit o) := by
  refine ⟨h.calls, h.answers, h.warnings, h.genuine, ?_, ?_, ?_, ?_⟩
  · simp only [State.record, State.move, List.length_set]
    rw [filterMap_set_eq hp (by rfl)]
    exact h.asked
  · simp only [State.record, State.move, List.length_set]
    rw [filterMap_set_eq hp (by rfl)]
    exact h.ended
  · intro outcome
    simp only [State.record, State.move, List.length_set, listed_record]
    by_cases ho : o = outcome
    · rw [if_pos ho]
      exact Alike.leave (f := Position.unrecorded? outcome) hp (if_pos ho) rfl
        (h.recorded outcome)
    · rw [if_neg ho, List.append_nil,
        filterMap_set_eq hp (q := .drawing) (if_neg ho).symm]
      exact h.recorded outcome
  · have hsum := h.complete
    cases o <;>
      simp only [State.record, State.move, Progress.record,
        List.length_append, List.length_singleton] <;> omega

end Steps

end ProofBatch.Workers
