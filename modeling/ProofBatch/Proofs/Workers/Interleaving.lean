/-
The interleavings of a pass: what one step of one worker can do, and which
orders of steps a schedule stands for.

# One step

`Step` lists the eight things that a step can be, each with what it needs and
the state that it leads to. `step?` does nothing else (`Step.of_step?`), and
every invariant of a pass is proved by cases on them.

# Orders of steps

`run?` lets workers step in a given order, a list of their numbers, and fails
where a worker has no step. Every schedule drives a pass along such an order
until all workers have returned (`exists_run?_drive`, `drive_returned`), and
every order that ends there is what some schedule does (`exists_drive_eq`): to
quantify over schedules is to quantify over all interleavings.
-/
import ProofBatch.Workers

namespace ProofBatch.Workers

variable {σ : Type} {setting : Setting σ} {s t u : State σ} {i : Nat}

-- ============================================================= one step

/-- A step of worker `i`. -/
inductive Step (setting : Setting σ) (s : State σ) (i : Nat) : State σ → Prop
  | draw (hp : s.positions[i]? = some .drawing) : Step setting s i (s.draw i)
  /-- The pass is cancelled. -/
  | stop (hp : s.positions[i]? = some .taking) (hc : s.cancelled = true) :
      Step setting s i
        (({ s with
          world := s.world.note .debug
            s!"Worker {i} stopping: run cancelled" }).leave
          i (.ok ()))
  /-- No proof is left. -/
  | exhaust (hp : s.positions[i]? = some .taking) (hc : s.cancelled = false)
      (hq : s.queue = []) : Step setting s i (s.leave i (.ok ()))
  /-- The claim of the next proof is refused. -/
  | refuse {unit : ProofUnit} {rest : List ProofUnit} {e : RunError}
      (hp : s.positions[i]? = some .taking) (hc : s.cancelled = false)
      (hq : s.queue = unit :: rest)
      (he : s.registry.claim unit = (.error e, s.registry)) :
      Step setting s i
        (({ s with queue := rest, cancelled := true }).leave i (.error e))
  /-- The claim of the next proof is granted. -/
  | claim {unit : ProofUnit} {rest : List ProofUnit} {registry : Registry}
      (hp : s.positions[i]? = some .taking) (hc : s.cancelled = false)
      (hq : s.queue = unit :: rest)
      (hr : s.registry.claim unit = (.ok (), registry)) :
      Step setting s i
        (({ s with queue := rest, registry }).move i (.asking unit))
  | begin {unit : ProofUnit} (hp : s.positions[i]? = some (.asking unit)) :
      Step setting s i (s.begin setting i unit)
  | finish {unit : ProofUnit}
      (hp : s.positions[i]? = some (.configuring unit)) :
      Step setting s i (s.finish setting i unit)
  | record {unit : ProofUnit} {outcome : Outcome}
      (hp : s.positions[i]? = some (.recording unit outcome)) :
      Step setting s i (s.record i unit outcome)

/-- What taking does is one of the four steps of a worker that takes. -/
theorem Step.of_take (hp : s.positions[i]? = some .taking) :
    Step setting s i (s.take i) := by
  unfold State.take
  split
  next hc => exact .stop hp hc
  next hc =>
    have hc : s.cancelled = false := by simpa using hc
    split
    next hq => exact .exhaust hp hc hq
    next unit rest hq =>
      split
      next e registry he =>
        obtain rfl := Registry.claim_refused he
        exact .refuse hp hc hq he
      next registry hr => exact .claim hp hc hq hr

/-- `step?` takes a step. -/
theorem Step.of_step? (h : step? setting s i = some t) :
    Step setting s i t := by
  unfold step? at h
  split at h
  next => cases h
  next => cases h
  next hp =>
    cases h
    exact .draw hp
  next hp =>
    cases h
    exact .of_take hp
  next hp =>
    cases h
    exact .begin hp
  next hp =>
    cases h
    exact .finish hp
  next hp =>
    cases h
    exact .record hp

/-- A worker that is there and has not returned has a step. -/
theorem exists_step?_of_ne_returned (setting : Setting σ)
    {position : Position} (hp : s.positions[i]? = some position)
    (hne : position ≠ .returned) :
    ∃ t, step? setting s i = some t := by
  unfold step?
  rw [hp]
  cases position with
  | drawing => exact ⟨_, rfl⟩
  | taking => exact ⟨_, rfl⟩
  | asking => exact ⟨_, rfl⟩
  | configuring => exact ⟨_, rfl⟩
  | recording => exact ⟨_, rfl⟩
  | returned => exact absurd rfl hne

/-- Only a worker that has not returned has a step. -/
theorem mem_live_of_step? (h : step? setting s i = some t) : i ∈ s.live := by
  unfold step? at h
  unfold State.live
  rw [List.mem_filter, List.mem_range, decide_eq_true_eq]
  split at h
  next => cases h
  next => cases h
  all_goals
    rename_i hp
    obtain ⟨hi, -⟩ := List.getElem?_eq_some_iff.mp hp
    exact ⟨hi, by simp [hp]⟩

-- ======================================================= orders of steps

/-- Let workers step in the given order. There is no result if one of them has
no step when its turn comes. -/
def run? (setting : Setting σ) (s : State σ) : List Nat → Option (State σ)
  | [] => some s
  | i :: turns =>
    match step? setting s i with
    | some t => run? setting t turns
    | none => none

theorem run?_cons (h : step? setting s i = some t) (turns : List Nat) :
    run? setting s (i :: turns) = run? setting t turns := by
  rw [run?, h]

/-- What every step keeps, every order of steps keeps. -/
theorem run?_induction {P : State σ → Prop}
    (hstep : ∀ {s t i}, Step setting s i t → P s → P t) :
    ∀ {turns : List Nat} {s t : State σ},
      run? setting s turns = some t → P s → P t := by
  intro turns
  induction turns with
  | nil =>
      intro s t h hs
      cases h
      exact hs
  | cons i turns ih =>
      intro s t h hs
      rw [run?] at h
      split at h
      next s' hs' => exact ih h (hstep (.of_step? hs') hs)
      next => cases h

/-- Whether all workers have returned. -/
def State.AllReturned (s : State σ) : Prop :=
  ∀ p ∈ s.positions, p = .returned

/-- Nobody is left to step exactly when all have returned. -/
theorem live_eq_nil_iff : s.live = [] ↔ s.AllReturned := by
  unfold State.live State.AllReturned
  rw [List.filter_eq_nil_iff]
  constructor
  · intro h p hp
    obtain ⟨i, hi, rfl⟩ := List.mem_iff_getElem.mp hp
    have := h i (List.mem_range.mpr hi)
    simpa [List.getElem?_eq_getElem hi] using this
  · intro h i hi
    have hi := List.mem_range.mp hi
    have := h s.positions[i] (List.getElem_mem hi)
    simp [List.getElem?_eq_getElem hi, this]

-- ============================================================ schedules

/-- A schedule drives a pass along some order of steps. -/
theorem exists_run?_drive (setting : Setting σ) (schedule : Schedule)
    (turn : Nat) (s : State σ) :
    ∃ turns, run? setting s turns = some (drive setting schedule turn s) := by
  fun_induction drive setting schedule turn s with
  | case1 => exact ⟨[], rfl⟩
  | case2 => exact ⟨[], rfl⟩
  | case3 turn s i _ t ht ih =>
      obtain ⟨turns, hturns⟩ := ih
      exact ⟨i :: turns, (run?_cons ht turns).trans hturns⟩

/-- A schedule drives a pass until all workers have returned. -/
theorem drive_returned (setting : Setting σ) (schedule : Schedule)
    (turn : Nat) (s : State σ) :
    (drive setting schedule turn s).AllReturned := by
  fun_induction drive setting schedule turn s with
  | case1 turn s hnone =>
      rw [List.getElem?_eq_none_iff] at hnone
      rw [← live_eq_nil_iff, ← List.length_eq_zero_iff]
      rcases Nat.eq_zero_or_pos s.live.length with hzero | hpos
      · exact hzero
      · have := Nat.mod_lt (schedule turn) hpos
        omega
  | case2 turn s i hi hnone =>
      have hmem := List.mem_of_getElem? hi
      unfold State.live at hmem
      obtain ⟨hrange, hne⟩ := List.mem_filter.mp hmem
      have hlt := List.mem_range.mp hrange
      obtain ⟨t, ht⟩ := exists_step?_of_ne_returned setting
        (List.getElem?_eq_getElem hlt)
        (by simpa [List.getElem?_eq_getElem hlt] using hne)
      rw [hnone] at ht
      cases ht
  | case3 _ _ _ _ _ _ ih => exact ih

/-- Once all workers have returned, a schedule does nothing. -/
theorem drive_of_allReturned (schedule : Schedule) (turn : Nat)
    (h : s.AllReturned) : drive setting schedule turn s = s := by
  rw [drive, live_eq_nil_iff.mpr h]
  rfl

/-- Choices before the present turn do not count. -/
theorem drive_congr {schedule schedule' : Schedule} {turn : Nat}
    (h : ∀ n, turn ≤ n → schedule n = schedule' n) :
    drive setting schedule turn s = drive setting schedule' turn s := by
  fun_induction drive setting schedule turn s with
  | case1 turn s hnone =>
      rw [h turn (Nat.le_refl _)] at hnone
      rw [drive, hnone]
  | case2 turn s i hi hnone =>
      rw [h turn (Nat.le_refl _)] at hi
      rw [drive]
      simp only [hi]
      split
      next => rfl
      next ht => rw [hnone] at ht; cases ht
  | case3 turn s i hi t ht ih =>
      rw [h turn (Nat.le_refl _)] at hi
      rw [ih fun n hn => h n (by omega)]
      conv => rhs; rw [drive]
      simp only [hi]
      split
      next hnone => rw [ht] at hnone; cases hnone
      next t' ht' =>
        rw [ht] at ht'
        cases ht'
        rfl

/-- Every order of steps that ends with all workers returned is what some
schedule does. -/
theorem exists_drive_eq (turns : List Nat) :
    ∀ {turn : Nat} {s t : State σ}, run? setting s turns = some t →
      t.AllReturned → ∃ schedule, drive setting schedule turn s = t := by
  induction turns with
  | nil =>
      intro turn s t h ht
      cases h
      exact ⟨fun _ => 0, drive_of_allReturned _ _ ht⟩
  | cons i turns ih =>
      intro turn s t h ht
      rw [run?] at h
      split at h
      next s' hs' =>
        obtain ⟨schedule, hschedule⟩ := @ih (turn + 1) _ _ h ht
        obtain ⟨k, hk, hki⟩ := List.mem_iff_getElem.mp (mem_live_of_step? hs')
        refine ⟨fun n => if n = turn then k else schedule n, ?_⟩
        rw [drive]
        simp only [if_true, Nat.mod_eq_of_lt hk,
          List.getElem?_eq_getElem hk, hki]
        split
        next hnone => rw [hs'] at hnone; cases hnone
        next s'' hs'' =>
          rw [hs'] at hs''
          cases hs''
          rw [← hschedule]
          refine drive_congr fun n hn => if_neg ?_
          omega
      next => cases h

end ProofBatch.Workers
