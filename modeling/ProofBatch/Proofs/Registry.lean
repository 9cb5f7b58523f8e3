/-
The registry over a list of claims: claiming the proofs of a list in turn goes
on until the first claim that is refused, and none is refused exactly when the
list is compatible.

# The owners

What carries the induction is where the owners come from: whoever holds an
identifier is a proof claimed before, and it declared that identifier
(`OwnersFrom`). So a claim can only be refused against a proof of the list, and
in a compatible list that proof is in the same directory. What one claim can
do is told by `Claimed`, beside the definition, and each of these steps is a
case analysis of it.
-/
import ProofBatch.Registry

namespace ProofBatch.Registry

-- ======================================================= claims in turn

/-- After a claim that is granted, the others are made of what it leaves. -/
theorem claimAll_cons {r r' : Registry} {unit : ProofUnit}
    (h : r.claim unit = (.ok (), r')) (rest : List ProofUnit) :
    r.claimAll (unit :: rest) = r'.claimAll rest := by
  rw [claimAll, h]

/-- A list is claimed like its two parts, one after the other. -/
theorem claimAll_append {r r' : Registry} {units : List ProofUnit}
    (h : r.claimAll units = .ok r') (later : List ProofUnit) :
    r.claimAll (units ++ later) = r'.claimAll later := by
  induction units generalizing r with
  | nil =>
      cases h
      rfl
  | cons unit rest ih =>
      rw [claimAll] at h
      split at h
      next hc =>
        rw [List.cons_append, claimAll_cons hc]
        exact ih h
      next => cases h

/-- One more claim that is granted. -/
theorem claimAll_snoc {r r' r'' : Registry} {units : List ProofUnit}
    {unit : ProofUnit} (h : r.claimAll units = .ok r')
    (hc : r'.claim unit = (.ok (), r'')) :
    r.claimAll (units ++ [unit]) = .ok r'' := by
  rw [claimAll_append h, claimAll_cons hc]
  rfl

/-- The first claim that is refused decides: what comes after it does not
count. -/
theorem claimAll_refused {r r' r'' : Registry} {units : List ProofUnit}
    {unit : ProofUnit} {e : RunError} (h : r.claimAll units = .ok r')
    (hc : r'.claim unit = (.error e, r'')) (later : List ProofUnit) :
    r.claimAll (units ++ unit :: later) = .error e := by
  rw [claimAll_append h, claimAll, hc]

-- ===================================================== compatible lists

/-- Proofs that can be configured together: each declares an identifier, and
two that declare the same one are in the same directory. -/
structure Compatible (units : List ProofUnit) : Prop where
  declared : ∀ u ∈ units, u.uid.isSome
  same : ∀ u ∈ units, ∀ v ∈ units, u.uid = v.uid → u.path.same v.path

/-- Whoever holds an identifier is one of the given proofs. -/
def OwnersFrom (units : List ProofUnit) (r : Registry) : Prop :=
  ∀ uid dir, r.owner? uid = some dir →
    ∃ u ∈ units, u.uid = some uid ∧ u.path = dir

/-- No identifier has an owner at first. -/
theorem ownersFrom_empty : OwnersFrom [] .empty := by
  intro uid dir h
  cases h

/-- A new owner does not displace another. -/
theorem owner?_snoc (r : Registry) (uid : String) (dir : Path) (x : String) :
    owner? ⟨r.claims ++ [(uid, dir)]⟩ x
      = (r.owner? x).or (if x = uid then some dir else none) := by
  unfold owner?
  rw [List.lookup_append]
  congr 1
  by_cases hx : x = uid
  · subst hx
    simp
  · rw [if_neg hx]
    rw [List.lookup_cons, beq_eq_false_iff_ne.mpr hx]
    rfl

/-- A granted claim makes nobody an owner but the claimant. -/
theorem OwnersFrom.claim {units : List ProofUnit} {r r' : Registry}
    {unit : ProofUnit} (hr : OwnersFrom units r)
    (h : r.claim unit = (.ok (), r')) :
    OwnersFrom (units ++ [unit]) r' := by
  have hmono : OwnersFrom (units ++ [unit]) r := by
    intro uid dir ho
    obtain ⟨u, hu, hprops⟩ := hr uid dir ho
    exact ⟨u, List.mem_append_left _ hu, hprops⟩
  cases Claimed.of_claim h with
  | again => exact hmono
  | @free uid declared unowned =>
      intro x dir ho
      rw [owner?_snoc] at ho
      cases hx : r.owner? x with
      | some other =>
          rw [hx] at ho
          cases ho
          exact hmono x dir hx
      | none =>
          rw [hx, Option.none_or] at ho
          split at ho
          next hxu =>
            cases ho
            subst hxu
            exact ⟨unit, by simp, declared, rfl⟩
          next => cases ho

/-- In a compatible list the next claim is granted. -/
theorem exists_claim_ok {done later : List ProofUnit} {unit : ProofUnit}
    {r : Registry} (hr : OwnersFrom done r)
    (hc : Compatible (done ++ unit :: later)) :
    ∃ r', r.claim unit = (.ok (), r') := by
  have hmem : unit ∈ done ++ unit :: later := by simp
  generalize hclaim : r.claim unit = answer
  obtain ⟨answer, r'⟩ := answer
  cases Claimed.of_claim hclaim with
  | again => exact ⟨_, rfl⟩
  | free => exact ⟨_, rfl⟩
  | undeclared undeclared =>
      have hsome := hc.declared unit hmem
      rw [undeclared] at hsome
      cases hsome
  | taken declared owner apart =>
      obtain ⟨u, hu, huu, rfl⟩ := hr _ _ owner
      have hsame : u.path.same unit.path = true :=
        hc.same u (List.mem_append_left _ hu) unit hmem
          (huu.trans declared.symm)
      cases apart.symm.trans hsame

/-- All claims of a compatible list are granted. -/
theorem claimAll_ok_of_compatible {units : List ProofUnit}
    (h : Compatible units) : ∃ r, Registry.empty.claimAll units = .ok r := by
  suffices key : ∀ (done rest : List ProofUnit) (r : Registry),
      OwnersFrom done r → Compatible (done ++ rest) →
      ∃ r', r.claimAll rest = .ok r' from
    key [] units .empty ownersFrom_empty h
  intro done rest
  induction rest generalizing done with
  | nil =>
      intro r _ _
      exact ⟨r, rfl⟩
  | cons unit rest ih =>
      intro r hr hc
      obtain ⟨r', hr'⟩ := exists_claim_ok hr hc
      rw [claimAll_cons hr']
      refine ih (done ++ [unit]) r' (hr.claim hr') ?_
      rw [List.append_assoc]
      exact hc

-- ========================================================= granted claims

/-- The identifier of each of the given proofs is taken, by its directory. -/
def Holds (units : List ProofUnit) (r : Registry) : Prop :=
  ∀ u ∈ units, ∃ uid dir, u.uid = some uid ∧ r.owner? uid = some dir
    ∧ dir.same u.path

/-- A granted claim displaces no owner, and its identifier is taken by the
directory of the claimant. -/
theorem claim_ok {r r' : Registry} {unit : ProofUnit}
    (h : r.claim unit = (.ok (), r')) :
    (∀ uid dir, r.owner? uid = some dir → r'.owner? uid = some dir)
      ∧ ∃ uid dir, unit.uid = some uid ∧ r'.owner? uid = some dir
        ∧ dir.same unit.path := by
  cases Claimed.of_claim h with
  | again declared owner same =>
      exact ⟨fun _ _ ho => ho, _, _, declared, owner, same⟩
  | @free uid declared unowned =>
      refine ⟨?_, uid, unit.path, declared, ?_, Path.same_iff.mpr rfl⟩
      · intro x dir ho
        rw [owner?_snoc, ho]
        rfl
      · rw [owner?_snoc, unowned, if_pos rfl]
        rfl

/-- A registry that is right about some proofs is right about one more, once
its claim is granted. -/
theorem Holds.claim {units : List ProofUnit} {r r' : Registry}
    {unit : ProofUnit} (hr : Holds units r)
    (h : r.claim unit = (.ok (), r')) :
    Holds (units ++ [unit]) r' := by
  obtain ⟨hkept, hnew⟩ := claim_ok h
  intro u hu
  rcases List.mem_append.mp hu with hu | hu
  · obtain ⟨uid, dir, huid, howner, hsame⟩ := hr u hu
    exact ⟨uid, dir, huid, hkept uid dir howner, hsame⟩
  · rw [List.mem_singleton.mp hu]
    exact hnew

/-- Proofs whose identifiers are all taken by their directories are
compatible. -/
theorem Holds.compatible {units : List ProofUnit} {r : Registry}
    (h : Holds units r) : Compatible units := by
  constructor
  · intro u hu
    obtain ⟨uid, dir, huid, -⟩ := h u hu
    rw [huid]
    rfl
  · intro u hu v hv huv
    obtain ⟨uid, dir, huid, howner, hsame⟩ := h u hu
    obtain ⟨uid', dir', huid', howner', hsame'⟩ := h v hv
    cases huid.symm.trans (huv.trans huid')
    cases howner.symm.trans howner'
    exact Path.same_iff.mpr
      ((Path.same_iff.mp hsame).symm.trans (Path.same_iff.mp hsame'))

/-- If all claims of a list are granted, the list is compatible. -/
theorem compatible_of_claimAll_ok {units : List ProofUnit} {r : Registry}
    (h : Registry.empty.claimAll units = .ok r) : Compatible units := by
  suffices key : ∀ (done rest : List ProofUnit) (r r' : Registry),
      Holds done r → r.claimAll rest = .ok r' → Holds (done ++ rest) r' from
    (key [] units .empty r
      (fun u hu => absurd hu List.not_mem_nil) h).compatible
  intro done rest
  induction rest generalizing done with
  | nil =>
      intro r r' hr h
      cases h
      rw [List.append_nil]
      exact hr
  | cons unit rest ih =>
      intro r r' hr h
      rw [claimAll] at h
      split at h
      next r'' hc =>
        have hrest := ih (done ++ [unit]) r'' r' (hr.claim hc) h
        rw [List.append_assoc] at hrest
        exact hrest
      next => cases h

-- ========================================================= refused claims

/-- Two of the given proofs, in different directories, declare an
identifier. -/
structure Collision (units : List ProofUnit) (uid : String)
    (dir first : Path) : Prop where
  claims : ∃ u ∈ units, u.path = dir ∧ u.uid = some uid
  holds : ∃ u ∈ units, u.path = first ∧ u.uid = some uid
  apart : first.same dir = false

/-- Why a claim is refused that names two directories. -/
theorem claim_duplicate {r r' : Registry} {unit : ProofUnit} {uid : String}
    {dir first : Path}
    (h : r.claim unit = (.error (.duplicateUid uid dir first), r')) :
    unit.path = dir ∧ unit.uid = some uid ∧ r.owner? uid = some first
      ∧ first.same dir = false := by
  cases Claimed.of_claim h with
  | taken declared owner apart => exact ⟨rfl, declared, owner, apart⟩

/-- A collision is only reported where there is one. -/
theorem collision_of_claimAll {units : List ProofUnit} {uid : String}
    {dir first : Path} (h : Registry.empty.claimAll units
      = .error (.duplicateUid uid dir first)) :
    Collision units uid dir first := by
  suffices key : ∀ (done rest : List ProofUnit) (r : Registry),
      OwnersFrom done r →
      r.claimAll rest = .error (.duplicateUid uid dir first) →
      Collision (done ++ rest) uid dir first from
    key [] units .empty ownersFrom_empty h
  intro done rest
  induction rest generalizing done with
  | nil =>
      intro r _ h
      cases h
  | cons unit rest ih =>
      intro r hr h
      rw [claimAll] at h
      split at h
      next r' hc =>
        have hrest := ih (done ++ [unit]) r' (hr.claim hc) h
        rw [List.append_assoc] at hrest
        exact hrest
      next hc =>
        cases h
        obtain ⟨hdir, huid, howner, happart⟩ := claim_duplicate hc
        obtain ⟨u, hu, huu, hfirst⟩ := hr uid first howner
        exact ⟨⟨unit, by simp, hdir, huid⟩,
          ⟨u, List.mem_append_left _ hu, hfirst, huu⟩, happart⟩

end ProofBatch.Registry
