/-
What a pass does from its start to its end: the invariant of all its states,
and the two ways in which it can end.

# The invariant

`Accounted` joins the queue (`Claims`) and the books (`Books`) for the events
written since the start. Each of the eight steps keeps it, so it holds in every
state that any order of steps leads to.

# The end

Once all workers have returned, nobody has a proof in hand, so what was claimed
was answered and recorded (`Settled`). If the claims of the list are all
granted in turn, the whole list was claimed and the pass gives its tally
(`configureAll_granted`); if one is refused, exactly the proofs before the
first such were claimed, and the pass gives that refusal
(`configureAll_refused`). No schedule has a say in which.
-/
import ProofBatch.Proofs.Workers.Books
import ProofBatch.Proofs.Workers.Queue

namespace ProofBatch

/-- The progress line of a pass over `total` proofs of which `complete` are
done. -/
def Progress.lineAt (total complete : Nat) : String :=
  line { start total with complete }

namespace Workers

variable {σ : Type} {setting : Setting σ} {s t : State σ} {i : Nat}
  {units claimed : List ProofUnit} {events news : Journal}

-- ========================================================== the invariant

/-- What no step changes. -/
structure Framed (workers : Nat) (units : List ProofUnit) (s : State σ) :
    Prop where
  crew : s.positions.length = crew workers units
  total : s.progress.total = units.length
  width : s.progress.width = Progress.decimalWidth units.length

theorem framed_start (workers : Nat) (units : List ProofUnit) (w : World σ) :
    Framed workers units (start workers units w) :=
  ⟨List.length_replicate, rfl, rfl⟩

theorem Framed.step {workers : Nat} (hst : Step setting s i t)
    (h : Framed workers units s) : Framed workers units t := by
  cases hst with
  | record hp =>
      rename_i o
      refine ⟨(List.length_set ..).trans h.crew, ?_, ?_⟩
      · cases o <;> exact h.total
      · cases o <;> exact h.width
  | _ => exact ⟨(List.length_set ..).trans h.crew, h.total, h.width⟩

/-- The state of a pass, accounted for by what was written since its start. -/
def Accounted (setting : Setting σ) (units : List ProofUnit) (before : Journal)
    (s : State σ) : Prop :=
  ∃ claimed refused events, s.world.journal = before ++ events
    ∧ Claims units claimed refused s ∧ Books setting claimed events s

theorem accounted_start (workers : Nat) (units : List ProofUnit)
    (w : World σ) :
    Accounted setting units w.journal (start workers units w) := by
  have hidle : ∀ f : Position → Option Path, f .drawing = none →
      (List.replicate (crew workers units) Position.drawing).filterMap f
        = [] := by
    intro f hf
    rw [List.filterMap_eq_nil_iff]
    intro p hp
    rw [List.eq_of_mem_replicate hp, hf]
  refine ⟨[], none, [], (List.append_nil _).symm, claims_start .., ?_⟩
  constructor
  · rfl
  · rfl
  · rfl
  · exact fun a ha => absurd ha List.not_mem_nil
  · show Alike _ [] ([] ++ List.filterMap _ (List.replicate _ _))
    rw [hidle _ rfl]
    exact .refl ..
  · show Alike _ [] ([] ++ List.filterMap _ (List.replicate _ _))
    rw [hidle _ rfl]
    exact .refl ..
  · intro outcome
    show Alike _ _ (_ ++ List.filterMap _ (List.replicate _ _))
    rw [hidle _ rfl]
    cases outcome <;> exact .refl ..
  · rfl

/-- The entries that a complaint about an answer makes. -/
def complaints (dir : Path) : Except RunError Outcome → Journal
  | .ok _ => []
  | .error e => [.said (.note .warn (complaint dir e))]

/-- The entries that the end of a configuration makes. -/
def finishNews (dir : Path) (reply : Reply σ (Except RunError Outcome)) :
    Journal :=
  reply.remarks.map .heard
    ++ .answered (.configure dir reply.answer) :: complaints dir reply.answer
    ++ [.said (.note .debug
        s!"Proof {dir.text} {(outcomeOf reply.answer).word}")]

/-- What is complained of is written down. -/
theorem journal_complain (dir : Path) (w : World σ)
    (answer : Except RunError Outcome) :
    (complain dir w answer).journal = w.journal ++ complaints dir answer := by
  cases answer with
  | ok => exact (List.append_nil _).symm
  | error => rfl

/-- The end of a configuration is written down with all its news. -/
theorem journal_finish (setting : Setting σ) (s : State σ) (i : Nat)
    (unit : ProofUnit) :
    (s.finish setting i unit).world.journal
      = s.world.journal ++ finishNews unit.path
          (setting.configurer unit.path setting.pools s.world.outside) := by
  simp [State.finish, State.move, finishNews, journal_complain, World.act]

/-- The end of a configuration calls nobody. -/
theorem calls_finishNews (dir : Path)
    (reply : Reply σ (Except RunError Outcome)) :
    (finishNews dir reply).calls = [] := by
  cases h : reply.answer <;>
    simp [finishNews, complaints, h, Journal.calls_cons]

theorem answers_finishNews (dir : Path)
    (reply : Reply σ (Except RunError Outcome)) :
    (finishNews dir reply).answers = [.configure dir reply.answer] := by
  cases h : reply.answer <;>
    simp [finishNews, complaints, h, Journal.answers_cons]

/-- A configuration that could not start is complained of once, and no other
is. -/
theorem ownWarnings_finishNews (dir : Path)
    (reply : Reply σ (Except RunError Outcome)) :
    (finishNews dir reply).ownWarnings
      = (finishNews dir reply).notStarted.map fun a => complaint a.1 a.2 := by
  rw [Journal.notStarted, Journal.configureAnswers, answers_finishNews]
  cases h : reply.answer <;>
    simp [finishNews, complaints, h, Journal.ownWarnings_cons]

/-- Every step keeps the account. -/
theorem Accounted.step {before : Journal} (hst : Step setting s i t)
    (h : Accounted setting units before s) :
    Accounted setting units before t := by
  obtain ⟨claimed, refused, events, hj, hc, hb⟩ := h
  cases hst with
  | draw hp =>
      refine ⟨claimed, refused, events ++ [drawing s.progress], ?_,
        hc.move (p := .taking) nofun rfl rfl rfl rfl rfl,
        hb.quiet hp (.inl rfl) (.inr (.inl rfl)) rfl rfl rfl rfl rfl⟩
      show s.world.journal ++ [_] = _
      rw [hj, List.append_assoc]
  | stop hp hcan =>
      refine ⟨claimed, refused, events ++ [.said (.note .debug
          s!"Worker {i} stopping: run cancelled")], ?_,
        hc.leave (.inr hcan) rfl rfl rfl rfl,
        hb.quiet hp (.inr (.inl rfl)) (.inr (.inr rfl)) rfl rfl rfl rfl rfl⟩
      show s.world.journal ++ [_] = _
      rw [hj, List.append_assoc]
  | exhaust hp hcan hq =>
      refine ⟨claimed, refused, events ++ [], ?_,
        hc.leave (.inl hq) rfl rfl rfl rfl,
        hb.quiet hp (.inr (.inl rfl)) (.inr (.inr rfl)) rfl rfl rfl rfl rfl⟩
      rw [List.append_nil]
      exact hj
  | refuse hp hcan hq he =>
      refine ⟨claimed, _, events ++ [], ?_, hc.refuse hcan hq he,
        hb.quiet hp (.inr (.inl rfl)) (.inr (.inr rfl)) rfl rfl rfl rfl rfl⟩
      rw [List.append_nil]
      exact hj
  | claim hp hcan hq hr =>
      rename_i unit rest registry
      exact ⟨claimed ++ [unit], refused, events, hj, hc.claim hcan hq hr,
        hb.claim hp rfl rfl⟩
  | begin hp =>
      rename_i unit
      refine ⟨claimed, refused, events ++ [
          .said (.note .debug s!"Worker {i} configuring {unit.path.text}"),
          .asked (.configure unit.path setting.pools)], ?_,
        hc.move (p := .configuring unit) nofun rfl rfl rfl rfl rfl,
        hb.begin hp rfl rfl rfl rfl rfl⟩
      show s.world.journal ++ [_] ++ [_] = _
      rw [hj, List.append_assoc, List.append_assoc]
      rfl
  | finish hp =>
      rename_i unit
      refine ⟨claimed, refused, events ++ finishNews unit.path
        (setting.configurer unit.path setting.pools s.world.outside), ?_,
        hc.move (p := .recording unit _) nofun rfl rfl rfl rfl rfl,
        hb.finish hp rfl rfl (calls_finishNews ..) (answers_finishNews ..)
          ⟨_, rfl⟩ (ownWarnings_finishNews ..)⟩
      rw [journal_finish, hj, List.append_assoc]
  | record hp =>
      exact ⟨claimed, refused, events, hj,
        hc.move (p := .drawing) nofun rfl rfl rfl rfl rfl, hb.record hp⟩

/-- At the end, all is accounted for. -/
theorem accounted_pass (setting : Setting σ) (schedule : Schedule)
    (workers : Nat) (units : List ProofUnit) (w : World σ) :
    Accounted setting units w.journal
      (pass setting schedule workers units w) := by
  obtain ⟨turns, hturns⟩ :=
    exists_run?_drive setting schedule 0 (start workers units w)
  exact run?_induction Accounted.step hturns (accounted_start ..)

/-- At the end, the frame still holds. -/
theorem framed_pass (setting : Setting σ) (schedule : Schedule)
    (workers : Nat) (units : List ProofUnit) (w : World σ) :
    Framed workers units (pass setting schedule workers units w) := by
  obtain ⟨turns, hturns⟩ :=
    exists_run?_drive setting schedule 0 (start workers units w)
  exact run?_induction Framed.step hturns (framed_start ..)

-- ================================================================ the end

/-- The books of a pass that has ended: what was claimed was answered, what was
answered is in the tally. -/
structure Settled (setting : Setting σ) (workers : Nat)
    (units claimed : List ProofUnit) (events : Journal) (p : Progress) :
    Prop where
  calls : events.calls
    = events.askedDirs.map fun dir => .configure dir setting.pools
  answers : events.answers
    = events.configureAnswers.map fun a => .configure a.1 a.2
  warnings : events.ownWarnings
    = events.notStarted.map fun a => complaint a.1 a.2
  genuine : Genuine setting events
  asked : Alike workers (claimed.map (·.path)) events.askedDirs
  ended : Alike workers events.askedDirs events.endedDirs
  succeeded : Alike workers events.succeededDirs p.succeeded
  failed : Alike workers events.failedDirs p.failed
  complete : p.complete = claimed.length
  total : p.total = units.length
  width : p.width = Progress.decimalWidth units.length

/-- Every answer counts as a success or as a failure. -/
theorem dirs_perm (events : Journal) :
    (events.succeededDirs ++ events.failedDirs).Perm events.endedDirs := by
  unfold Journal.succeededDirs Journal.failedDirs Journal.endedDirs
  induction events.configureAnswers with
  | nil => exact .refl _
  | cons a rest ih =>
      obtain ⟨dir, answer⟩ := a
      match answer with
      | .ok .succeeded => exact ih.cons dir
      | .ok .failed => exact List.perm_middle.trans (ih.cons dir)
      | .error _ => exact List.perm_middle.trans (ih.cons dir)

/-- A single worker makes a crew of one at most. -/
theorem Alike.of_crew {α : Type} {workers : Nat} {l m : List α}
    (h : Alike (crew workers units) l m) : Alike workers l m := by
  refine ⟨h.perm, fun hw => h.eq_of_single ?_⟩
  unfold crew
  omega

/-- Once all workers have returned, nobody has anything in hand. -/
theorem filterMap_of_allReturned {α : Type} {f : Position → Option α}
    (hf : f .returned = none) (h : s.AllReturned) :
    s.positions.filterMap f = [] := by
  rw [List.filterMap_eq_nil_iff]
  intro p hp
  rw [h p hp, hf]

/-- When all workers have returned the books can be closed. -/
theorem Books.settle {workers : Nat} (h : Books setting claimed events s)
    (hf : Framed workers units s) (hret : s.AllReturned) :
    Settled setting workers units claimed events s.progress := by
  have hasked := h.asked
  have hended := h.ended
  have hrecorded := h.recorded
  rw [filterMap_of_allReturned rfl hret, List.append_nil, hf.crew] at hasked
  rw [filterMap_of_allReturned rfl hret, List.append_nil, hf.crew] at hended
  simp only [filterMap_of_allReturned (f := Position.unrecorded? _) rfl hret,
    List.append_nil, hf.crew] at hrecorded
  have hsucceeded := hrecorded .succeeded
  have hfailed := hrecorded .failed
  refine ⟨h.calls, h.answers, h.warnings, h.genuine, hasked.of_crew,
    hended.of_crew, hsucceeded.of_crew, hfailed.of_crew, ?_, hf.total,
    hf.width⟩
  -- every proof claimed is one call, one answer and one entry of the tally
  have hlen := (hasked.perm.trans hended.perm).length_eq
  have hs : events.succeededDirs.length = s.progress.succeeded.length :=
    hsucceeded.perm.length_eq
  have hl : events.failedDirs.length = s.progress.failed.length :=
    hfailed.perm.length_eq
  have hdirs := (dirs_perm events).length_eq
  rw [List.length_append] at hdirs
  rw [List.length_map] at hlen
  rw [h.complete]
  omega

/-- Closing entries that ask and answer nothing leave the books closed. -/
theorem Settled.append {workers : Nat} {p : Progress}
    (h : Settled setting workers units claimed events p)
    (hcalls : news.calls = []) (hans : news.answers = [])
    (hwarn : news.ownWarnings = []) :
    Settled setting workers units claimed (events ++ news) p := by
  have hs : (events ++ news).succeededDirs = events.succeededDirs :=
    dirsEnded_append_of_nil hans .succeeded
  have hf : (events ++ news).failedDirs = events.failedDirs :=
    dirsEnded_append_of_nil hans .failed
  constructor
  · rw [Journal.calls_append, askedDirs_append_of_nil hcalls, hcalls,
      List.append_nil]
    exact h.calls
  · rw [Journal.answers_append, configureAnswers_append_of_nil hans, hans,
      List.append_nil]
    exact h.answers
  · rw [Journal.ownWarnings_append, notStarted_append_of_nil hans, hwarn,
      List.append_nil]
    exact h.warnings
  · exact h.genuine.append_of_nil hans
  · rw [askedDirs_append_of_nil hcalls]
    exact h.asked
  · rw [askedDirs_append_of_nil hcalls, endedDirs_append_of_nil hans]
    exact h.ended
  · rw [hs]
    exact h.succeeded
  · rw [hf]
    exact h.failed
  · exact h.complete
  · exact h.total
  · exact h.width

/-- Each proof that was claimed is one answer. -/
theorem Settled.returned {workers : Nat} {p : Progress}
    (h : Settled setting workers units claimed events p) :
    Alike workers (claimed.map (·.path)) events.endedDirs :=
  ⟨h.asked.perm.trans h.ended.perm, fun hw =>
    (h.asked.eq_of_single hw).trans (h.ended.eq_of_single hw)⟩

/-- The line that closed books show. -/
theorem Settled.line {workers : Nat} {p : Progress}
    (h : Settled setting workers units claimed events p) :
    p.line = Progress.lineAt units.length claimed.length := by
  unfold Progress.lineAt Progress.line
  rw [h.complete, h.total, h.width]
  rfl

example : Progress.lineAt 12 3 = "Configuring CBMC proofs:  3 / 12" := by
  decide

/-- Without a refusal a pass ends with an empty queue. -/
theorem Claims.queue_eq_nil {workers : Nat} (h : Claims units claimed none s)
    (hf : Framed workers units s) (hret : s.AllReturned) : s.queue = [] := by
  cases hpos : s.positions with
  | nil =>
      have hcrew := hf.crew
      rw [hpos, crew, List.length_nil] at hcrew
      have hnil : units = [] := List.eq_nil_of_length_eq_zero (by omega)
      have hsplit := h.split
      rw [hnil] at hsplit
      exact (List.append_eq_nil_iff.mp hsplit).2
  | cons p rest =>
      have hmem : p ∈ s.positions := by
        rw [hpos]
        exact List.mem_cons_self ..
      rcases h.done (hret p hmem ▸ hmem) with hnil | hcan
      · exact hnil
      · rw [h.cancelled] at hcan
        cases hcan

/-- Every worker returns. -/
theorem pass_returned (setting : Setting σ) (schedule : Schedule)
    (workers : Nat) (units : List ProofUnit) (w : World σ) :
    (pass setting schedule workers units w).AllReturned :=
  drive_returned _ _ _ _

/-- If no worker met an error, the pass gives what was recorded. -/
theorem conclude_ok (h : firstError? s.results = none) :
    (conclude s).1 = .ok s.progress
      ∧ (conclude s).2.journal = s.world.journal
        ++ [drawing s.progress, .drew "\n", .said (.note .debug
          s!"{s.registry.size} proof identifiers registered")] := by
  unfold conclude
  rw [h]
  exact ⟨rfl, by simp⟩

/-- Otherwise it gives the first error, and what was recorded is lost. -/
theorem conclude_error {e : RunError} (h : firstError? s.results = some e) :
    (conclude s).1 = .error e
      ∧ (conclude s).2.journal
        = s.world.journal ++ [drawing s.progress, .drew "\n"] := by
  unfold conclude
  rw [h]
  exact ⟨rfl, by simp⟩

/-- At the end of a pass the books of what was claimed can be closed, and
without a refusal all was claimed. -/
theorem pass_settled (setting : Setting σ) (schedule : Schedule)
    (workers : Nat) (units : List ProofUnit) (w : World σ) :
    ∃ claimed refused events,
      (pass setting schedule workers units w).world.journal
          = w.journal ++ events
        ∧ Claims units claimed refused (pass setting schedule workers units w)
        ∧ Settled setting workers units claimed events
          (pass setting schedule workers units w).progress
        ∧ (refused = none → claimed = units) := by
  obtain ⟨claimed, refused, events, hj, hc, hb⟩ :=
    accounted_pass setting schedule workers units w
  have hf := framed_pass setting schedule workers units w
  have hret := pass_returned setting schedule workers units w
  refine ⟨claimed, refused, events, hj, hc, hb.settle hf hret, ?_⟩
  rintro rfl
  have hsplit := hc.split
  rw [hc.queue_eq_nil hf hret] at hsplit
  simpa using hsplit

/-- A refusal in the pass is the refusal of the list. -/
theorem Claims.claimAll_refused {unit : ProofUnit} {e : RunError}
    (h : Claims units claimed (some (unit, e)) s) :
    units = claimed ++ unit :: s.queue
      ∧ Registry.empty.claimAll units = .error e := by
  have hunits : units = claimed ++ unit :: s.queue := by
    simpa using h.split.symm
  refine ⟨hunits, ?_⟩
  rw [hunits]
  exact Registry.claimAll_refused h.granted (h.refusal _ _ rfl) s.queue

/-- If all claims are granted, every proof is configured and the pass gives its
tally. -/
theorem configureAll_granted (setting : Setting σ) (schedule : Schedule)
    (workers : Nat) {r : Registry} (w : World σ)
    (h : Registry.empty.claimAll units = .ok r) :
    ∃ p events, (configureAll setting schedule workers units w).1 = .ok p
      ∧ (configureAll setting schedule workers units w).2.journal
        = w.journal ++ events
      ∧ Settled setting workers units units events p := by
  obtain ⟨claimed, refused, events, hj, hc, hs, hall⟩ :=
    pass_settled setting schedule workers units w
  cases refused with
  | some refusal =>
      rw [hc.claimAll_refused.2] at h
      cases h
  | none =>
      rw [hall rfl] at hs
      obtain ⟨hok, hend⟩ := conclude_ok hc.error
      rw [hj, List.append_assoc] at hend
      exact ⟨_, _, hok, hend, hs.append rfl rfl rfl⟩

/-- If a claim is refused, the proofs before the first such are configured, and
the pass gives that refusal after it has drawn how many were done. -/
theorem configureAll_refused (setting : Setting σ) (schedule : Schedule)
    (workers : Nat) {e : RunError} (w : World σ)
    (h : Registry.empty.claimAll units = .error e) :
    ∃ i r unit events, units[i]? = some unit
      ∧ Registry.empty.claimAll (units.take i) = .ok r
      ∧ r.claim unit = (.error e, r)
      ∧ (configureAll setting schedule workers units w).1 = .error e
      ∧ (configureAll setting schedule workers units w).2.journal
        = w.journal ++ (events
          ++ [.drew ("\r" ++ Progress.lineAt units.length i), .drew "\n"])
      ∧ Settled setting workers units (units.take i) events
        (pass setting schedule workers units w).progress := by
  obtain ⟨claimed, refused, events, hj, hc, hs, hall⟩ :=
    pass_settled setting schedule workers units w
  cases refused with
  | none =>
      have hgranted := hc.granted
      rw [hall rfl, h] at hgranted
      cases hgranted
  | some refusal =>
      obtain ⟨unit, e'⟩ := refusal
      obtain ⟨hunits, herror⟩ := hc.claimAll_refused
      rw [h] at herror
      cases herror
      have htake : units.take claimed.length = claimed := by
        rw [hunits, List.take_left]
      have hget : units[claimed.length]? = some unit := by
        rw [hunits]
        simp
      obtain ⟨herror, hend⟩ := conclude_error hc.error
      rw [hj, List.append_assoc, drawing, hs.line] at hend
      refine ⟨claimed.length, _, unit, events, hget, ?_, hc.refusal _ _ rfl,
        herror, hend, ?_⟩
      · rw [htake]
        exact hc.granted
      · rw [htake]
        exact hs

end Workers

end ProofBatch
