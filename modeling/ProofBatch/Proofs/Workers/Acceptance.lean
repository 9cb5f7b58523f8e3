/-
Whether a set of proofs is accepted does not depend on its order.

Claiming does depend on it: the first to declare an identifier wins, and the
first refusal keeps the rest from being claimed. But whether there is a refusal
at all depends on which proofs there are and on nothing else, since all claims
are granted exactly if the proofs are compatible (`claimAll_ok_iff`). A pass
gives its tally under the same condition, whoever steps when
(`configureAll_ok_iff`), so the order of the proofs has no say in that either.
-/
import ProofBatch.Proofs.Registry.Sequence
import ProofBatch.Proofs.Workers.Conservation

namespace ProofBatch

namespace Registry

variable {r r' : Registry} {units units' : List ProofUnit}

/-- The claims of a list in turn are all granted exactly if it is
compatible. -/
theorem claimAll_ok_iff :
    (∃ r, empty.claimAll units = .ok r) ↔ Compatible units := by
  constructor
  · rintro ⟨r, hr⟩
    exact compatible_of_claimAll_ok hr
  · exact claimAll_ok_of_compatible

/-- Compatibility asks only which proofs there are. -/
theorem Compatible.perm (hc : Compatible units) (h : units.Perm units') :
    Compatible units' := by
  constructor
  · intro u hu
    exact hc.declared u (h.mem_iff.mpr hu)
  · intro u hu v hv huv
    exact hc.same u (h.mem_iff.mpr hu) v (h.mem_iff.mpr hv) huv

/-- Whether proofs are compatible does not depend on their order. -/
theorem compatible_perm_iff (h : units.Perm units') :
    Compatible units ↔ Compatible units' :=
  ⟨fun hc => hc.perm h, fun hc => hc.perm h.symm⟩

/-- If all claims are granted, the identifiers held are those of the list. -/
theorem mem_held_claimAll {uid : String} (h : empty.claimAll units = .ok r) :
    uid ∈ r.held ↔ uid ∈ units.filterMap (·.uid) := by
  rw [← claimEach_of_claimAll h]
  exact mem_held_claimEach

/-- Claims that are all granted are of different identifiers. -/
theorem nodup_held_claimAll (h : empty.claimAll units = .ok r) :
    r.held.Nodup := by
  rw [← claimEach_of_claimAll h]
  exact nodup_held_claimEach (r := empty) List.nodup_nil units

/-- Whichever way the proofs are put, the same identifiers are held in the
end. -/
theorem held_perm (h : units.Perm units') (hr : empty.claimAll units = .ok r)
    (hr' : empty.claimAll units' = .ok r') : r.held.Perm r'.held := by
  rw [List.perm_ext_iff_of_nodup (nodup_held_claimAll hr)
    (nodup_held_claimAll hr')]
  intro uid
  rw [mem_held_claimAll hr, mem_held_claimAll hr']
  exact (h.filterMap _).mem_iff

end Registry

namespace Workers

variable {σ : Type} {units units' : List ProofUnit}

/-- A pass gives its tally exactly if the proofs are compatible: the behaviour
of the configurer, the number of workers and their interleaving have no say. -/
theorem configureAll_ok_iff (setting : Setting σ) (schedule : Schedule)
    (workers : Nat) (units : List ProofUnit) (w : World σ) :
    (∃ p, (configureAll setting schedule workers units w).1 = .ok p)
      ↔ Registry.Compatible units := by
  rw [← Registry.claimAll_ok_iff]
  cases h : Registry.empty.claimAll units with
  | ok r =>
      obtain ⟨p, -, hp, -⟩ := configureAll_granted setting schedule workers w h
      exact ⟨fun _ => ⟨r, rfl⟩, fun _ => ⟨p, hp⟩⟩
  | error e =>
      obtain ⟨-, -, -, -, -, -, -, he, -⟩ :=
        configureAll_refused setting schedule workers w h
      rw [he]
      exact ⟨nofun, nofun⟩

/-- Two lists of proofs of which both are accepted or none is. -/
structure AcceptedAlike (units units' : List ProofUnit) : Prop where
  claims : (∃ r, Registry.empty.claimAll units = .ok r)
    ↔ ∃ r, Registry.empty.claimAll units' = .ok r
  /-- What decides. -/
  compatible : (∃ r, Registry.empty.claimAll units = .ok r)
    ↔ Registry.Compatible units
  /-- The same identifiers are held in the end. -/
  held : ∀ r r', Registry.empty.claimAll units = .ok r →
    Registry.empty.claimAll units' = .ok r' → r.held.Perm r'.held
  /-- Nothing else of the two passes need be alike. -/
  passes : ∀ {σ σ' : Type} (setting : Setting σ) (setting' : Setting σ')
    (schedule schedule' : Schedule) (workers workers' : Nat) (w : World σ)
    (w' : World σ'),
    (∃ p, (configureAll setting schedule workers units w).1 = .ok p)
      ↔ ∃ p, (configureAll setting' schedule' workers' units' w').1 = .ok p

/-- The order of the proofs has no say in whether they are accepted. -/
theorem acceptedAlike_of_perm (h : units.Perm units') :
    AcceptedAlike units units' := by
  have hcompatible := Registry.compatible_perm_iff h
  constructor
  case claims =>
    rw [Registry.claimAll_ok_iff, Registry.claimAll_ok_iff]
    exact hcompatible
  case compatible => exact Registry.claimAll_ok_iff
  case held =>
    intro r r' hr hr'
    exact Registry.held_perm h hr hr'
  case passes =>
    intro σ σ' setting setting' schedule schedule' workers workers' w w'
    rw [configureAll_ok_iff, configureAll_ok_iff]
    exact hcompatible

/-- Backwards, the directory with two spellings comes under the other one
first. -/
theorem acceptedAlike_respelled :
    respelled.Perm respelled.reverse
      ∧ AcceptedAlike respelled respelled.reverse
      ∧ Registry.Compatible respelled :=
  have h : respelled.Perm respelled.reverse := (List.reverse_perm _).symm
  ⟨h, acceptedAlike_of_perm h, by decide, by decide⟩

end Workers

end ProofBatch
