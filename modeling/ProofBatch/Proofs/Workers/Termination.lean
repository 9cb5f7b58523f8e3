/-
Every pass comes to an end, and how long it takes.

# What a step costs

A step takes one off the weight of a pass (`State.weight`), with one exception:
a claim that is refused takes a proof from the queue that nobody configures, so
the five steps of its configuration go with it. That cancels the pass and comes
once at most, so

    steps + weight left + 5 if cancelled = weight at the start

(`run?_weight`). No order of steps is longer than the weight at the start, and
none goes on forever.

# Rounds

A round begins when a worker draws. A worker that has recorded a proof is about
to draw again, so at every moment

    rounds begun + workers about to draw = workers + proofs recorded

(`run?_rounds`): every worker has a last round in which it configures nothing,
and all other rounds configure one proof each.

# The end

A worker that has not returned can always step, also in a cancelled pass, so a
pass stops only when all have returned. Then the two equations give the numbers
of rounds and steps by the proofs that were configured (`Ended`).
-/
import Mathlib.Order.OrderIsoNat
import ProofBatch.Proofs.Workers.Conservation
import ProofBatch.Proofs.Workers.Display

namespace ProofBatch.Workers

variable {σ : Type} {setting : Setting σ} {s t u : State σ} {i workers : Nat}
  {units : List ProofUnit} {turns : List Nat}

-- ============================================================ orders of steps

/-- What an order of steps does, put together from its first step and the
rest. -/
theorem run?_turns {P : State σ → List Nat → State σ → Prop}
    (nil : ∀ s, P s [] s)
    (cons : ∀ {s t u i turns}, step? setting s i = some t → P t turns u →
      P s (i :: turns) u)
    (h : run? setting s turns = some u) : P s turns u := by
  induction turns generalizing s with
  | nil =>
      cases h
      exact nil _
  | cons i turns ih =>
      rw [run?] at h
      split at h
      next t ht => exact cons ht (ih h)
      next => cases h

-- ====================================================================== steps

/-- A step that takes nothing from the queue exchanges the weight of one
position for one less. -/
theorem weight_quiet {p q : Position} (hp : s.positions[i]? = some p)
    (hless : q.weight + 1 = p.weight)
    (hpos : t.positions = s.positions.set i q) (hqueue : t.queue = s.queue)
    (hcan : t.cancelled = s.cancelled) :
    t.weight + 1 + 5 * t.cancelled.toNat
      = s.weight + 5 * s.cancelled.toNat := by
  have hset := totalWeight_set hp q
  unfold State.weight
  rw [hpos, hqueue, hcan]
  omega

/-- A step takes one off the weight, and the five of a proof that it
refuses. -/
theorem Step.weight_eq (hst : Step setting s i t) :
    t.weight + 1 + 5 * t.cancelled.toNat
      = s.weight + 5 * s.cancelled.toNat := by
  cases hst with
  | draw hp => exact weight_quiet (q := .taking) hp rfl rfl rfl rfl
  | stop hp => exact weight_quiet (q := .returned) hp rfl rfl rfl rfl
  | exhaust hp => exact weight_quiet (q := .returned) hp rfl rfl rfl rfl
  | refuse hp hcan hq he =>
      have hset := totalWeight_set hp .returned
      simp only [Position.weight] at hset
      rw [hcan]
      simp only [State.weight, State.leave, State.move, hq, List.length_cons,
        Bool.toNat_true, Bool.toNat_false]
      omega
  | @claim unit rest registry hp hcan hq hr =>
      have hset := totalWeight_set hp (.asking unit)
      simp only [Position.weight] at hset
      simp only [State.weight, State.move, hq, List.length_cons]
      omega
  | @begin unit hp =>
      exact weight_quiet (q := .configuring unit) hp rfl rfl rfl rfl
  | @finish unit hp =>
      exact weight_quiet (q := .recording unit _) hp rfl rfl rfl rfl
  | @record unit o hp => exact weight_quiet (q := .drawing) hp rfl rfl rfl rfl

/-- The weight pays for every step. -/
theorem run?_weight (h : run? setting s turns = some t) :
    turns.length + t.weight + 5 * t.cancelled.toNat
      = s.weight + 5 * s.cancelled.toNat := by
  refine run?_turns (P := fun s turns t =>
    turns.length + t.weight + 5 * t.cancelled.toNat
      = s.weight + 5 * s.cancelled.toNat) ?_ ?_ h
  · intro s
    rw [List.length_nil, Nat.zero_add]
  · intro s s' t i turns hstep hrest
    have hfirst := (Step.of_step? hstep).weight_eq
    rw [List.length_cons]
    omega

/-- The weight of all that there is to do at the start. -/
theorem weight_start (workers : Nat) (units : List ProofUnit) (w : World σ) :
    (start workers units w).weight
      = 5 * units.length + 2 * crew workers units := by
  have hcrew : ∀ n, totalWeight (List.replicate n .drawing) = 2 * n := by
    intro n
    induction n with
    | zero => rfl
    | succ n ih =>
        rw [List.replicate_succ, totalWeight, ih, Position.weight]
        omega
  show 5 * units.length + totalWeight (List.replicate _ .drawing) = _
  rw [hcrew]

/-- Nothing is left to do once all workers have returned. -/
theorem totalWeight_of_allReturned (h : s.AllReturned) :
    totalWeight s.positions = 0 := by
  unfold State.AllReturned at h
  generalize s.positions = positions at h
  induction positions with
  | nil => rfl
  | cons p rest ih =>
      obtain ⟨rfl, hrest⟩ := List.forall_mem_cons.mp h
      rw [totalWeight, ih hrest]
      rfl

-- ===================================================================== rounds

/-- How many rounds begin in an order of steps: a round begins with the step of
a worker that is about to draw. -/
def rounds (setting : Setting σ) (s : State σ) : List Nat → Nat
  | [] => 0
  | i :: turns =>
    match step? setting s i with
    | some t =>
      (if s.positions[i]? = some .drawing then 1 else 0)
        + rounds setting t turns
    | none => 0

/-- A step begins a round if a worker draws. -/
theorem rounds_cons (h : step? setting s i = some t) (turns : List Nat) :
    rounds setting s (i :: turns)
      = (if s.positions[i]? = some .drawing then 1 else 0)
        + rounds setting t turns := by
  rw [rounds, h]

/-- A step that neither draws nor leaves anybody about to draw, and records
nothing. -/
theorem drawing_quiet {p q : Position} (hp : s.positions[i]? = some p)
    (hpd : p ≠ .drawing) (hqd : q ≠ .drawing)
    (hpos : t.positions = s.positions.set i q)
    (hprog : t.progress = s.progress) :
    (if s.positions[i]? = some .drawing then 1 else 0)
        + t.positions.count .drawing + s.progress.complete
      = s.positions.count .drawing + t.progress.complete := by
  have hidle : s.positions[i]? ≠ some .drawing := by
    rw [hp]
    exact fun heq => hpd (Option.some.inj heq)
  rw [if_neg hidle, hpos, hprog, count_set_of_ne hp hpd hqd, Nat.zero_add]

/-- Whoever draws is no longer about to, and whoever records is. -/
theorem Step.drawing_eq (hst : Step setting s i t) :
    (if s.positions[i]? = some .drawing then 1 else 0)
        + t.positions.count .drawing + s.progress.complete
      = s.positions.count .drawing + t.progress.complete := by
  cases hst with
  | draw hp =>
      have hset := count_set hp .taking .drawing
      rw [if_pos rfl, if_neg nofun] at hset
      rw [if_pos hp]
      show 1 + (s.positions.set i .taking).count .drawing + s.progress.complete
        = _ + s.progress.complete
      omega
  | stop hp => exact drawing_quiet (q := .returned) hp nofun nofun rfl rfl
  | exhaust hp => exact drawing_quiet (q := .returned) hp nofun nofun rfl rfl
  | refuse hp => exact drawing_quiet (q := .returned) hp nofun nofun rfl rfl
  | @claim unit rest registry hp =>
      exact drawing_quiet (q := .asking unit) hp nofun nofun rfl rfl
  | @begin unit hp =>
      exact drawing_quiet (q := .configuring unit) hp nofun nofun rfl rfl
  | @finish unit hp =>
      exact drawing_quiet (q := .recording unit _) hp nofun nofun rfl rfl
  | @record unit o hp =>
      have hset := count_set hp .drawing .drawing
      rw [if_neg nofun, if_pos rfl] at hset
      have hcomplete : (s.record i unit o).progress.complete
          = s.progress.complete + 1 := by
        cases o <;> rfl
      rw [hp, if_neg nofun, hcomplete]
      show 0 + (s.positions.set i .drawing).count .drawing + _ = _
      omega

/-- The rounds that begin in an order of steps, by the tally and by the workers
that are about to draw. -/
theorem run?_rounds (h : run? setting s turns = some t) :
    rounds setting s turns + t.positions.count .drawing + s.progress.complete
      = s.positions.count .drawing + t.progress.complete := by
  refine run?_turns (P := fun s turns t =>
    rounds setting s turns + t.positions.count .drawing + s.progress.complete
      = s.positions.count .drawing + t.progress.complete) ?_ ?_ h
  · intro s
    rw [rounds, Nat.zero_add]
  · intro s s' t i turns hstep hrest
    have hfirst := (Step.of_step? hstep).drawing_eq
    rw [rounds_cons hstep]
    omega

/-- Every round is the first of a worker, or comes after a proof that is
complete. -/
theorem run?_rounds_start {w : World σ}
    (h : run? setting (start workers units w) turns = some s) :
    rounds setting (start workers units w) turns + s.positions.count .drawing
      = crew workers units + s.progress.complete := by
  have hrounds := run?_rounds h
  have hcount : (start workers units w).positions.count .drawing
      = crew workers units := List.count_replicate_self
  have hzero : (start workers units w).progress.complete = 0 := rfl
  omega

-- ==================================================================== the end

/-- A pass over `units` whose workers have all returned after the given turns.
`claimed` are the proofs that were claimed and configured, `refused` is the one
whose claim was not granted, and `events` is what the pass wrote. -/
structure Ended (setting : Setting σ) (workers : Nat) (units : List ProofUnit)
    (w : World σ) (turns : List Nat) (claimed : List ProofUnit)
    (refused : Option (ProofUnit × RunError)) (events : Journal)
    (s : State σ) : Prop where
  split : claimed ++ (refused.map (·.1)).toList ++ s.queue = units
  journal : s.world.journal = w.journal ++ events
  configured : events.configureCalls.Perm
    (claimed.map fun u => (u.path, setting.pools))
  answered : events.endedDirs.Perm (claimed.map (·.path))
  /-- One round for each proof, and a last one for each worker. -/
  rounds : rounds setting (start workers units w) turns
    = min (max workers 1) units.length + claimed.length
  /-- A round that configures a proof has five steps, a last one has two. -/
  steps : turns.length
    = 2 * min (max workers 1) units.length + 5 * claimed.length
  drained : refused = none → s.queue = [] ∧ (conclude s).1 = .ok s.progress
  stopped : ∀ unit e, refused = some (unit, e) →
    Registry.empty.claimAll claimed = .ok s.registry
      ∧ s.registry.claim unit = (.error e, s.registry)
      ∧ (conclude s).1 = .error e

/-- A pass whose workers have all returned has ended in one of the two ways. -/
theorem exists_ended {w : World σ}
    (h : run? setting (start workers units w) turns = some s)
    (hret : s.AllReturned) :
    ∃ claimed refused events,
      Ended setting workers units w turns claimed refused events s := by
  have hf : Framed workers units s :=
    run?_induction Framed.step h (framed_start ..)
  obtain ⟨claimed, refused, events, hj, hc, hb⟩ :
      Accounted setting units w.journal s :=
    run?_induction Accounted.step h (accounted_start ..)
  have hs := hb.settle hf hret
  have hcrew : crew workers units = min (max workers 1) units.length := rfl
  refine ⟨claimed, refused, events, ?_⟩
  constructor
  case split => exact hc.split
  case journal => exact hj
  case configured => exact hs.called.perm.symm
  case answered => exact hs.returned.perm.symm
  case rounds =>
    have hrounds := run?_rounds_start h
    have hnone : s.positions.count .drawing = 0 := by
      apply List.count_eq_zero.mpr
      intro hmem
      cases hret _ hmem
    rw [hnone, hs.complete, hcrew] at hrounds
    exact hrounds
  case steps =>
    have hsteps := run?_weight h
    have hlength := congrArg List.length hc.split
    have hcancelled : s.cancelled.toNat
        = ((refused.map (·.1)).toList).length := by
      rw [hc.cancelled]
      cases refused <;> rfl
    have hstart : (start workers units w).cancelled.toNat = 0 := rfl
    simp only [List.length_append] at hlength
    rw [weight_start, hstart, State.weight, totalWeight_of_allReturned hret,
      hcrew] at hsteps
    omega
  case drained =>
    rintro rfl
    exact ⟨hc.queue_eq_nil hf hret, (conclude_ok hc.error).1⟩
  case stopped =>
    intro unit e hrefused
    refine ⟨hc.granted, hc.refusal unit e hrefused, ?_⟩
    have herror := hc.error
    rw [hrefused] at herror
    exact (conclude_error herror).1

/-- How a pass over `units` comes to an end, in whatever order its workers
step. -/
structure Terminates (setting : Setting σ) (workers : Nat)
    (units : List ProofUnit) (w : World σ) : Prop where
  /-- No sequence of steps goes on forever. -/
  finite : ¬∃ states : Nat → State σ, states 0 = start workers units w
    ∧ ∀ n, ∃ i, step? setting (states n) i = some (states (n + 1))
  bounded : ∀ turns s, run? setting (start workers units w) turns = some s →
    turns.length ≤ 2 * min (max workers 1) units.length + 5 * units.length
  rounds : ∀ turns s, run? setting (start workers units w) turns = some s →
    rounds setting (start workers units w) turns + s.positions.count .drawing
      = min (max workers 1) units.length + s.progress.complete
  /-- Whoever has not returned can step. -/
  unstuck : ∀ turns s, run? setting (start workers units w) turns = some s →
    ∀ i p, s.positions[i]? = some p → p ≠ .returned →
      ∃ t, step? setting s i = some t
  ended : ∀ turns s, run? setting (start workers units w) turns = some s →
    s.AllReturned → ∃ claimed refused events,
      Ended setting workers units w turns claimed refused events s
  /-- Every schedule comes to such an end, and its result is that of the
  pass. -/
  returns : ∀ schedule, ∃ turns s,
    run? setting (start workers units w) turns = some s ∧ s.AllReturned
      ∧ configureAll setting schedule workers units w = conclude s

/-- A step lowers the weight, so there are not infinitely many. -/
theorem not_steps_forever (states : Nat → State σ) :
    ¬∀ n, ∃ i, step? setting (states n) i = some (states (n + 1)) := by
  intro h
  apply not_strictAnti_of_wellFoundedLT fun n => (states n).weight
  apply strictAnti_nat_of_succ_lt
  intro n
  obtain ⟨i, hi⟩ := h n
  exact weight_lt_of_step? hi

/-- Every pass comes to an end: for every list of proofs, every number of
workers, every behaviour of a configurer that answers, and every
interleaving. -/
theorem configureAll_terminates (setting : Setting σ) (workers : Nat)
    (units : List ProofUnit) (w : World σ) :
    Terminates setting workers units w := by
  constructor
  case finite =>
    rintro ⟨states, -, hsteps⟩
    exact not_steps_forever states hsteps
  case bounded =>
    intro turns s h
    have hsteps := run?_weight h
    have hstart : (start workers units w).cancelled.toNat = 0 := rfl
    have hcrew : crew workers units = min (max workers 1) units.length := rfl
    rw [weight_start, hstart, hcrew] at hsteps
    omega
  case rounds => exact fun _ _ => run?_rounds_start
  case unstuck =>
    intro _ s _ i p
    exact exists_step?_of_ne_returned setting
  case ended => exact fun _ _ => exists_ended
  case returns =>
    intro schedule
    obtain ⟨turns, hturns⟩ :=
      exists_run?_drive setting schedule 0 (start workers units w)
    exact ⟨turns, _, hturns, drive_returned _ _ _ _, rfl⟩

end ProofBatch.Workers
