/-
The queue of a pass: which proofs were taken from it, and what became of their
claims.

At every moment the list of proofs is cut in three: those claimed, in the order
of the list; then at most one whose claim was refused; then those in the queue
(`Claims`). The registry is what claiming the first part in turn gives, because
a worker takes a proof and claims its identifier in one step. A refused claim
cancels the pass in the same step, so the one refused proof is the last that
any worker takes, and its error is the only one that any worker returns with.
-/
import ProofBatch.Proofs.Registry
import ProofBatch.Proofs.Workers.Interleaving

namespace ProofBatch.Workers

variable {σ : Type} {s t : State σ} {i : Nat}
  {units claimed rest : List ProofUnit} {unit : ProofUnit}
  {refused : Option (ProofUnit × RunError)}

/-- What became of the proofs of a pass: `claimed` are those whose claims were
granted, in this order, `refused` is the one whose claim was not. -/
structure Claims (units claimed : List ProofUnit)
    (refused : Option (ProofUnit × RunError)) (s : State σ) : Prop where
  split : claimed ++ (refused.map (·.1)).toList ++ s.queue = units
  granted : Registry.empty.claimAll claimed = .ok s.registry
  refusal : ∀ unit e, refused = some (unit, e) →
    s.registry.claim unit = (.error e, s.registry)
  cancelled : s.cancelled = refused.isSome
  error : firstError? s.results = refused.map (·.2)
  done : .returned ∈ s.positions → s.queue = [] ∨ s.cancelled = true

theorem claims_start (workers : Nat) (units : List ProofUnit) (w : World σ) :
    Claims units [] none (start workers units w) := by
  constructor
  · rfl
  · rfl
  · intro unit e h
    cases h
  · rfl
  · rfl
  · intro h
    cases List.eq_of_mem_replicate h

/-- A worker that has not just returned had not returned before. -/
theorem returned_mem_of_set {positions : List Position} {p : Position}
    (hne : p ≠ .returned) (h : .returned ∈ positions.set i p) :
    .returned ∈ positions := by
  rcases List.mem_or_eq_of_mem_set h with hmem | heq
  · exact hmem
  · exact absurd heq.symm hne

-- ============================================================= the steps

/-- A step that leaves the queue alone. -/
theorem Claims.move {p : Position} (h : Claims units claimed refused s)
    (hne : p ≠ .returned) (hqueue : t.queue = s.queue)
    (hreg : t.registry = s.registry) (hcan : t.cancelled = s.cancelled)
    (hres : t.results = s.results) (hpos : t.positions = s.positions.set i p) :
    Claims units claimed refused t := by
  constructor
  · rw [hqueue]
    exact h.split
  · rw [hreg]
    exact h.granted
  · rw [hreg]
    exact h.refusal
  · rw [hcan]
    exact h.cancelled
  · rw [hres]
    exact h.error
  · rw [hpos, hqueue, hcan]
    intro hmem
    exact h.done (returned_mem_of_set hne hmem)

/-- The first error stays the first. -/
theorem firstError?_snoc (results : List (Except RunError Unit))
    (result : Except RunError Unit) :
    firstError? (results ++ [result])
      = (firstError? results).or (firstError? [result]) :=
  List.findSome?_append

/-- A worker returns because nothing is left for it. -/
theorem Claims.leave (h : Claims units claimed refused s)
    (hdone : s.queue = [] ∨ s.cancelled = true) (hqueue : t.queue = s.queue)
    (hreg : t.registry = s.registry) (hcan : t.cancelled = s.cancelled)
    (hres : t.results = s.results ++ [.ok ()]) :
    Claims units claimed refused t := by
  constructor
  · rw [hqueue]
    exact h.split
  · rw [hreg]
    exact h.granted
  · rw [hreg]
    exact h.refusal
  · rw [hcan]
    exact h.cancelled
  · rw [hres, firstError?_snoc, h.error]
    exact Option.or_none
  · rw [hqueue, hcan]
    exact fun _ => hdone

/-- Before a claim is refused nothing is. -/
theorem Claims.refused_eq_none (h : Claims units claimed refused s)
    (hc : s.cancelled = false) : refused = none := by
  rw [h.cancelled] at hc
  exact Option.isNone_iff_eq_none.mp (Option.isSome_eq_false_iff.mp hc)

/-- The claim of the next proof is refused. -/
theorem Claims.refuse {e : RunError} (h : Claims units claimed refused s)
    (hc : s.cancelled = false) (hq : s.queue = unit :: rest)
    (he : s.registry.claim unit = (.error e, s.registry)) :
    Claims units claimed (some (unit, e))
      (({ s with queue := rest, cancelled := true }).leave i (.error e)) := by
  have hnone := h.refused_eq_none hc
  subst hnone
  constructor
  · rw [← h.split, hq]
    simp [State.leave, State.move]
  · exact h.granted
  · intro unit' e' heq
    cases heq
    exact he
  · rfl
  · show firstError? (s.results ++ [.error e]) = _
    rw [firstError?_snoc, h.error]
    rfl
  · exact fun _ => .inr rfl

/-- The claim of the next proof is granted. -/
theorem Claims.claim {registry : Registry} (h : Claims units claimed refused s)
    (hc : s.cancelled = false) (hq : s.queue = unit :: rest)
    (hr : s.registry.claim unit = (.ok (), registry)) :
    Claims units (claimed ++ [unit]) refused
      (({ s with queue := rest, registry }).move i (.asking unit)) := by
  have hnone := h.refused_eq_none hc
  subst hnone
  constructor
  · rw [← h.split, hq]
    simp [State.move]
  · exact Registry.claimAll_snoc h.granted hr
  · intro unit' e heq
    cases heq
  · exact h.cancelled
  · exact h.error
  · intro hmem
    have hne : Position.asking unit ≠ .returned := by
      intro heq
      cases heq
    have hbefore : .returned ∈ s.positions := returned_mem_of_set hne hmem
    rcases h.done hbefore with hnil | hcan
    · rw [hq] at hnil
      cases hnil
    · rw [hc] at hcan
      cases hcan

end ProofBatch.Workers
