/-
What is so at every moment of a pass, whatever order of steps led there.

# The cut of the list

A list of proofs is cut in three by its queue: those claimed, at most one that
was refused, those in the queue (`Claims`). What was taken from the queue is
the first two parts, so a refused proof is the last that was taken.

# The ledger

A proof that was claimed is either recorded or in the hand of one worker, and
never both (`Ledger`). The records are kept as proofs with their outcomes, in
the order of recording: the tally lists only directories, and two proofs of a
list may share one.

# After a refusal

The refusal cancels the pass in the step that takes the proof, and no step
takes a proof from the queue of a cancelled pass, so this queue is final
(`queue_eq_of_cancelled`).
-/
import ProofBatch.Proofs.Registry.Sequence
import ProofBatch.Proofs.Workers.Conservation

namespace ProofBatch

namespace Workers

variable {σ : Type} {setting : Setting σ} {s t : State σ} {i workers : Nat}
  {units claimed : List ProofUnit} {refused : Option (ProofUnit × RunError)}
  {records : List (ProofUnit × Outcome)}

-- ================================================================ the ledger

/-- The proof that a worker has in hand: claimed, and not yet recorded. -/
def Position.inHand? : Position → Option ProofUnit
  | asking unit => some unit
  | configuring unit => some unit
  | recording unit _ => some unit
  | _ => none

/-- The proofs that are claimed and not yet recorded. -/
def State.inFlight (s : State σ) : List ProofUnit :=
  s.positions.filterMap Position.inHand?

/-- The directories that were recorded with an outcome. -/
def recordedAs (outcome : Outcome) (records : List (ProofUnit × Outcome)) :
    List Path :=
  records.filterMap fun r => if r.2 = outcome then some r.1.path else none

/-- The last record counts for its own outcome. -/
theorem recordedAs_snoc (outcome : Outcome)
    (records : List (ProofUnit × Outcome)) (unit : ProofUnit) (o : Outcome) :
    recordedAs outcome (records ++ [(unit, o)])
      = recordedAs outcome records
        ++ if o = outcome then [unit.path] else [] := by
  unfold recordedAs
  rw [List.filterMap_append]
  by_cases ho : o = outcome <;> simp [ho]

/-- Every record has one of the two outcomes. -/
theorem length_recordedAs (records : List (ProofUnit × Outcome)) :
    (recordedAs .succeeded records).length +
      (recordedAs .failed records).length
      = records.length := by
  unfold recordedAs
  induction records with
  | nil => rfl
  | cons r rest ih =>
      obtain ⟨unit, o⟩ := r
      cases o <;> simp <;> omega

/-- `records` and the proofs in flight account for those that were claimed. -/
structure Ledger (claimed : List ProofUnit)
    (records : List (ProofUnit × Outcome)) (s : State σ) : Prop where
  accounted : claimed.Perm (records.map (·.1) ++ s.inFlight)
  listed : ∀ outcome, listed s.progress outcome = recordedAs outcome records
  complete : s.progress.complete = records.length

theorem ledger_start (workers : Nat) (units : List ProofUnit) (w : World σ) :
    Ledger [] [] (start workers units w) := by
  have hidle : (start workers units w).inFlight = [] := by
    unfold State.inFlight
    rw [List.filterMap_eq_nil_iff]
    intro p hp
    rw [List.eq_of_mem_replicate hp]
    rfl
  refine ⟨?_, fun outcome => ?_, rfl⟩
  · rw [hidle]
    exact .refl _
  · cases outcome <;> rfl

/-- A step in which no worker takes up or puts down a proof. -/
theorem Ledger.move {p q : Position} (h : Ledger claimed records s)
    (hp : s.positions[i]? = some p) (hfix : q.inHand? = p.inHand?)
    (hpos : t.positions = s.positions.set i q)
    (hprog : t.progress = s.progress) : Ledger claimed records t := by
  have hflight : t.inFlight = s.inFlight := by
    unfold State.inFlight
    rw [hpos, filterMap_set_eq hp hfix]
  constructor
  · rw [hflight]
    exact h.accounted
  · rw [hprog]
    exact h.listed
  · rw [hprog]
    exact h.complete

/-- A worker takes up the proof that it has claimed. -/
theorem Ledger.claim {unit : ProofUnit} (h : Ledger claimed records s)
    (hp : s.positions[i]? = some .taking)
    (hpos : t.positions = s.positions.set i (.asking unit))
    (hprog : t.progress = s.progress) :
    Ledger (claimed ++ [unit]) records t := by
  have hset := filterMap_set_perm (f := Position.inHand?)
    (q := .asking unit) hp
  have hflight : t.inFlight.Perm (unit :: s.inFlight) := by
    unfold State.inFlight
    rw [hpos]
    exact hset
  constructor
  · have hone := (h.accounted.append_right [unit]).trans
      (.of_eq (List.append_assoc ..))
    have hlast := (List.perm_append_singleton unit s.inFlight).trans
      hflight.symm
    exact hone.trans (hlast.append_left _)
  · rw [hprog]
    exact h.listed
  · rw [hprog]
    exact h.complete

/-- A worker puts its proof down by recording the outcome. -/
theorem Ledger.record {unit : ProofUnit} {o : Outcome}
    (h : Ledger claimed records s)
    (hp : s.positions[i]? = some (.recording unit o)) :
    Ledger claimed (records ++ [(unit, o)]) (s.record i unit o) := by
  have hset := filterMap_set_perm (f := Position.inHand?) (q := .drawing) hp
  have hflight : (unit :: (s.record i unit o).inFlight).Perm s.inFlight :=
    hset
  constructor
  · rw [List.map_append, List.append_assoc]
    exact h.accounted.trans (hflight.symm.append_left _)
  · intro outcome
    show Workers.listed (s.progress.record unit.path o) outcome = _
    rw [listed_record, h.listed, recordedAs_snoc]
  · rw [List.length_append, ← h.complete]
    cases o <;> rfl

-- ============================================================= the invariant

/-- The list is cut by the queue, and the ledger accounts for what was
claimed. -/
def Kept (units : List ProofUnit) (s : State σ) : Prop :=
  ∃ claimed refused records, Claims units claimed refused s
    ∧ Ledger claimed records s

/-- Every step keeps both. -/
theorem Kept.step (hst : Step setting s i t) (h : Kept units s) :
    Kept units t := by
  obtain ⟨claimed, refused, records, hc, hl⟩ := h
  cases hst with
  | draw hp =>
      exact ⟨claimed, refused, records,
        hc.move (p := .taking) nofun rfl rfl rfl rfl rfl,
        hl.move (q := .taking) hp rfl rfl rfl⟩
  | stop hp hcan =>
      exact ⟨claimed, refused, records, hc.leave (.inr hcan) rfl rfl rfl rfl,
        hl.move (q := .returned) hp rfl rfl rfl⟩
  | exhaust hp hcan hq =>
      exact ⟨claimed, refused, records, hc.leave (.inl hq) rfl rfl rfl rfl,
        hl.move (q := .returned) hp rfl rfl rfl⟩
  | refuse hp hcan hq he =>
      exact ⟨claimed, _, records, hc.refuse hcan hq he,
        hl.move (q := .returned) hp rfl rfl rfl⟩
  | @claim unit rest registry hp hcan hq hr =>
      exact ⟨claimed ++ [unit], refused, records, hc.claim hcan hq hr,
        hl.claim hp rfl rfl⟩
  | @begin unit hp =>
      exact ⟨claimed, refused, records,
        hc.move (p := .configuring unit) nofun rfl rfl rfl rfl rfl,
        hl.move (q := .configuring unit) hp rfl rfl rfl⟩
  | @finish unit hp =>
      exact ⟨claimed, refused, records,
        hc.move (p := .recording unit _) nofun rfl rfl rfl rfl rfl,
        hl.move (q := .recording unit _) hp rfl rfl rfl⟩
  | @record unit o hp =>
      exact ⟨claimed, refused, records ++ [(unit, o)],
        hc.move (p := .drawing) nofun rfl rfl rfl rfl rfl, hl.record hp⟩

-- ================================================== the queue after a refusal

/-- Nobody takes a proof in a cancelled pass. -/
theorem Step.queue_eq_of_cancelled (hst : Step setting s i t)
    (h : s.cancelled = true) : t.queue = s.queue ∧ t.cancelled = true := by
  cases hst with
  | refuse hp hcan =>
      rw [h] at hcan
      cases hcan
  | claim hp hcan =>
      rw [h] at hcan
      cases hcan
  | _ => exact ⟨rfl, h⟩

/-- The queue of a cancelled pass is final. -/
theorem queue_eq_of_cancelled {turns : List Nat}
    (h : run? setting s turns = some t) (hcan : s.cancelled = true) :
    t.queue = s.queue := by
  have hkept : t.queue = s.queue ∧ t.cancelled = true := by
    refine run?_induction
      (P := fun u => u.queue = s.queue ∧ u.cancelled = true)
      ?_ h ⟨rfl, hcan⟩
    intro u v j hst hu
    obtain ⟨hqueue, hcan⟩ := hst.queue_eq_of_cancelled hu.2
    exact ⟨hqueue.trans hu.1, hcan⟩
  exact hkept.1

-- ============================================================= the statement

/-- How a pass over `units` stands: `claimed` are the proofs whose claims were
granted, `refused` is the one whose claim was not, and `records` are the proofs
that are done. -/
structure Standing (setting : Setting σ) (workers : Nat)
    (units claimed : List ProofUnit) (refused : Option ProofUnit)
    (records : List (ProofUnit × Outcome)) (s : State σ) : Prop where
  /-- What was taken from the queue comes before what is in it, and a refused
  proof comes last. -/
  split : claimed ++ refused.toList ++ s.queue = units
  accounted : claimed.Perm (records.map (·.1) ++ s.inFlight)
  bounded : s.inFlight.length ≤ min (max workers 1) units.length
  succeeded : s.progress.succeeded = recordedAs .succeeded records
  failed : s.progress.failed = recordedAs .failed records
  complete : s.progress.complete = records.length
  tallied : s.progress.complete
    = s.progress.succeeded.length + s.progress.failed.length
  total : s.progress.total = units.length
  within : s.progress.complete ≤ s.progress.total
  registry : s.registry = Registry.empty.claimEach (claimed ++ refused.toList)
  granted : Registry.empty.claimAll claimed = .ok s.registry
  refusal : ∀ unit, refused = some unit →
    ∃ e, s.registry.claim unit = (.error e, s.registry)
  cancelled : s.cancelled = true ↔ refused.isSome
  /-- No further steps change the queue of a cancelled pass. -/
  final : s.cancelled = true → ∀ turns t, run? setting s turns = some t →
    t.queue = s.queue

/-- Nobody has more than one proof in hand. -/
theorem Framed.inFlight_le (h : Framed workers units s) :
    s.inFlight.length ≤ Workers.crew workers units := by
  rw [← h.crew]
  exact List.length_filterMap_le ..

/-- The registry is what claiming gives for all that was taken from the
queue. -/
theorem Claims.registry_eq (h : Claims units claimed refused s) :
    s.registry
      = Registry.empty.claimEach
        (claimed ++ (refused.map (·.1)).toList) := by
  cases refused with
  | none =>
      have hall := Registry.claimEach_of_claimAll h.granted
      simpa using hall.symm
  | some refusal =>
      obtain ⟨unit, e⟩ := refusal
      exact (Registry.claimEach_refused h.granted
        (h.refusal unit e rfl)).symm

/-- No more proofs are done than the list has. -/
theorem Ledger.length_le (hl : Ledger claimed records s)
    (hc : Claims units claimed refused s) :
    records.length ≤ units.length := by
  have hclaimed := hl.accounted.length_eq
  have hunits := congrArg List.length hc.split
  simp only [List.length_append, List.length_map] at hclaimed hunits
  omega

/-- Every order of steps leads to a state that stands so: for every list of
proofs, every number of workers and every behaviour of the configurer. -/
theorem run?_standing (setting : Setting σ) (workers : Nat)
    (units : List ProofUnit) (w : World σ) {turns : List Nat} {s : State σ}
    (h : run? setting (start workers units w) turns = some s) :
    ∃ claimed refused records,
      Standing setting workers units claimed refused records s := by
  have hf : Framed workers units s :=
    run?_induction Framed.step h (framed_start ..)
  obtain ⟨claimed, refused, records, hc, hl⟩ : Kept units s :=
    run?_induction Kept.step h ⟨[], none, [], claims_start .., ledger_start ..⟩
  have hsucceeded := hl.listed .succeeded
  have hfailed := hl.listed .failed
  refine ⟨claimed, refused.map (·.1), records, ?_⟩
  constructor
  · exact hc.split
  · exact hl.accounted
  · exact hf.inFlight_le
  · exact hsucceeded
  · exact hfailed
  · exact hl.complete
  · rw [hl.complete, ← length_recordedAs records, ← hsucceeded, ← hfailed]
    rfl
  · exact hf.total
  · rw [hl.complete, hf.total]
    exact hl.length_le hc
  · exact hc.registry_eq
  · exact hc.granted
  · intro unit hunit
    obtain ⟨⟨_, e⟩, hrefused, rfl⟩ := Option.map_eq_some_iff.mp hunit
    exact ⟨e, hc.refusal _ _ hrefused⟩
  · rw [hc.cancelled, Option.isSome_map]
  · intro hcan turns t hrun
    exact queue_eq_of_cancelled hrun hcan

/-- Three workers race for `collided`: the first has recorded its proof, the
second is yet to ask for its own, and the third has just been refused. -/
theorem run?_standing_collided :
    ∃ s, run? ⟨moody, false⟩ (start 3 collided ⟨(), []⟩)
          [0, 0, 1, 1, 2, 0, 0, 0, 2] = some s
      ∧ s.cancelled = true
      ∧ ∃ claimed refused records,
        Standing ⟨moody, false⟩ 3 collided claimed refused records s := by
  have h : run? ⟨moody, false⟩ (start 3 collided ⟨(), []⟩)
      [0, 0, 1, 1, 2, 0, 0, 0, 2] = some _ := rfl
  exact ⟨_, h, rfl, run?_standing _ _ _ _ h⟩

end Workers

end ProofBatch
