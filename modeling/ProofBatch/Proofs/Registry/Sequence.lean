/-
The registry over a sequence of claims, of which some may be refused.

# Who owns an identifier

The first to declare it: one claim changes at most the owner of its own
identifier, and only if that had none (`owner?_claimEach_single`). So the
owners after a sequence can be told from the sequence alone
(`owner?_claimEach`), and so can the answer to its next claim.

# The law

`claimEach_law` says both for each claim of a sequence: what it is answered,
and what the registry holds after it. A refusal or a repeated claim leaves no
trace, so there is no need to know which of the earlier claims were granted.
-/
import Mathlib.Data.Finset.Card
import ProofBatch.Proofs.Registry

namespace ProofBatch.Registry

variable {r r' r'' : Registry} {units : List ProofUnit}
  {unit first : ProofUnit} {uid : String} {e : RunError} {j k : Nat}

-- ==================================================== sequences of claims

/-- Claim the identifiers of several proofs in turn, whatever each claim is
answered. -/
def claimEach (r : Registry) : List ProofUnit → Registry
  | [] => r
  | unit :: rest => (r.claim unit).2.claimEach rest

/-- Without a refusal it does not matter whether one would stop at it. -/
theorem claimEach_of_claimAll (h : r.claimAll units = .ok r') :
    r.claimEach units = r' := by
  induction units generalizing r with
  | nil =>
      cases h
      rfl
  | cons unit rest ih =>
      rw [claimAll] at h
      split at h
      next hc =>
        rw [claimEach, hc]
        exact ih h
      next => cases h

/-- Claims go on where those before them have stopped. -/
theorem claimEach_append (r : Registry) (units later : List ProofUnit) :
    r.claimEach (units ++ later) = (r.claimEach units).claimEach later := by
  induction units generalizing r with
  | nil => rfl
  | cons unit rest ih =>
      rw [List.cons_append, claimEach, claimEach]
      exact ih _

/-- One claim leaves the registry that comes with its answer. -/
theorem claimEach_of_claim {answer : Except RunError Unit}
    (h : r.claim unit = (answer, r')) : r.claimEach [unit] = r' := by
  rw [claimEach, h]
  rfl

/-- One claim that is refused changes nothing. -/
theorem claimEach_of_refusal (h : r.claim unit = (.error e, r')) :
    r.claimEach [unit] = r := by
  rw [claimEach_of_claim h, claim_refused h]

/-- A refusal at the end changes nothing. -/
theorem claimEach_refused (h : r.claimAll units = .ok r')
    (he : r'.claim unit = (.error e, r'')) :
    r.claimEach (units ++ [unit]) = r' := by
  rw [claimEach_append, claimEach_of_claimAll h, claimEach_of_refusal he]

/-- One claim further. -/
theorem claimEach_take_succ (r : Registry) (h : units[k]? = some unit) :
    r.claimEach (units.take (k + 1))
      = (r.claimEach (units.take k)).claimEach [unit] := by
  rw [List.take_add_one, h, claimEach_append]
  rfl

-- ============================================================== one claim

/-- A proof without an identifier is refused, and the registry is as it was. -/
theorem claim_undeclared (r : Registry) (h : unit.uid = none) :
    r.claim unit = (.error (.missingUid unit.path), r) := by
  unfold claim
  rw [h]

/-- An identifier that is held is granted to its holder alone; either way the
registry is as it was. -/
theorem claim_owned {dir : Path} (h : unit.uid = some uid)
    (ho : r.owner? uid = some dir) :
    r.claim unit
      = (if dir.same unit.path then .ok ()
        else .error (.duplicateUid uid unit.path dir), r) := by
  unfold claim
  simp only [h, ho]
  split <;> rfl

/-- A free identifier is granted, and held from then on. -/
theorem claim_free (h : unit.uid = some uid) (ho : r.owner? uid = none) :
    r.claim unit = (.ok (), ⟨r.claims ++ [(uid, unit.path)]⟩) := by
  unfold claim
  simp only [h, ho]

/-- Two proofs in different directories that declare the same. -/
theorem claimAll_pair (unit other : ProofUnit) (h : unit.uid = some uid)
    (h' : other.uid = some uid) (happart : unit.path.same other.path = false) :
    empty.claimAll [unit, other]
      = .error (.duplicateUid uid other.path unit.path) := by
  have howned : (Registry.mk [(uid, unit.path)]).owner? uid = some unit.path :=
    List.lookup_cons_self
  rw [claimAll_cons (claim_free h rfl), claimAll]
  simp only [empty, List.nil_append, claim_owned h' howned, happart]
  rfl

/-- The claim of an identifier that is taken changes nothing, whether it is
granted or not. -/
theorem claimEach_owned {dir : Path} (h : unit.uid = some uid)
    (ho : r.owner? uid = some dir) : r.claimEach [unit] = r :=
  claimEach_of_claim (claim_owned h ho)

/-- A claim gives its own identifier an owner if that had none, and no
other. -/
theorem owner?_claimEach_single (r : Registry) (unit : ProofUnit)
    (uid : String) :
    (r.claimEach [unit]).owner? uid
      = (r.owner? uid).or
        (if unit.uid = some uid then some unit.path else none) := by
  cases hx : unit.uid with
  | none =>
      rw [claimEach_of_refusal (claim_undeclared r hx), if_neg nofun,
        Option.or_none]
  | some x =>
      cases ho : r.owner? x with
      | none =>
          rw [claimEach_of_claim (claim_free hx ho), owner?_snoc]
          congr 1
          by_cases heq : uid = x
          · rw [if_pos heq, if_pos (congrArg some heq.symm)]
          · rw [if_neg heq, if_neg fun h => heq (Option.some.inj h).symm]
      | some dir =>
          rw [claimEach_owned hx ho]
          by_cases heq : x = uid
          · subst heq
            rw [ho, Option.some_or]
          · rw [if_neg fun h => heq (Option.some.inj h), Option.or_none]

/-- After a sequence of claims an identifier belongs to whom it belonged
before, and else to the first who declared it. -/
theorem owner?_claimEach (r : Registry) (units : List ProofUnit)
    (uid : String) :
    (r.claimEach units).owner? uid
      = (r.owner? uid).or
        ((units.find? fun u => u.uid = some uid).map (·.path)) := by
  induction units generalizing r with
  | nil => exact Option.or_none.symm
  | cons unit rest ih =>
      have hsplit : r.claimEach (unit :: rest)
          = (r.claimEach [unit]).claimEach rest :=
        claimEach_append r [unit] rest
      rw [hsplit, ih, owner?_claimEach_single, Option.or_assoc,
        List.find?_cons]
      by_cases hu : unit.uid = some uid
      · simp [hu]
      · simp [hu]

-- ================================================== the identifiers held

/-- The identifiers that are taken. -/
def held (r : Registry) : List String :=
  r.claims.map (·.1)

theorem length_held (r : Registry) : r.held.length = r.size :=
  List.length_map ..

/-- The identifiers that are held are those that have an owner. -/
theorem mem_held : uid ∈ r.held ↔ r.owner? uid ≠ none := by
  unfold held owner?
  rw [ne_eq, List.lookup_eq_none_iff, List.mem_map]
  constructor
  · rintro ⟨claim, hclaim, rfl⟩ hall
    simpa using hall claim hclaim
  · intro hsome
    by_contra hnone
    apply hsome
    intro claim hclaim
    rw [bne_iff_ne]
    rintro rfl
    exact hnone ⟨claim, hclaim, rfl⟩

/-- An identifier that is new is not held twice. -/
theorem nodup_held_snoc {dir : Path} (h : r.held.Nodup) (hnew : uid ∉ r.held) :
    (held ⟨r.claims ++ [(uid, dir)]⟩).Nodup := by
  unfold held at h hnew ⊢
  rw [List.map_append, List.map_singleton, ← List.concat_eq_append]
  exact h.concat hnew

/-- No claim makes an identifier held twice. -/
theorem nodup_held_claim (h : r.held.Nodup) (unit : ProofUnit) :
    (r.claim unit).2.held.Nodup := by
  cases hx : unit.uid with
  | none =>
      rw [claim_undeclared r hx]
      exact h
  | some x =>
      cases ho : r.owner? x with
      | some dir =>
          rw [claim_owned hx ho]
          exact h
      | none =>
          rw [claim_free hx ho]
          exact nodup_held_snoc h fun hmem => mem_held.mp hmem ho

/-- No identifier is ever taken twice. -/
theorem nodup_held_claimEach (h : r.held.Nodup) (units : List ProofUnit) :
    (r.claimEach units).held.Nodup := by
  induction units generalizing r with
  | nil => exact h
  | cons unit rest ih => exact ih (nodup_held_claim h unit)

/-- What is held after a sequence of claims is what was declared in it. -/
theorem mem_held_claimEach :
    uid ∈ (empty.claimEach units).held ↔ uid ∈ units.filterMap (·.uid) := by
  have hempty : empty.owner? uid = none := rfl
  rw [mem_held, owner?_claimEach, hempty, Option.none_or, ne_eq,
    Option.map_eq_none_iff, List.find?_eq_none, List.mem_filterMap]
  simp

/-- As many identifiers are held as different ones were declared. -/
theorem size_claimEach (units : List ProofUnit) :
    (empty.claimEach units).size
      = (units.filterMap (·.uid)).toFinset.card := by
  have hnodup : (empty.claimEach units).held.Nodup :=
    nodup_held_claimEach (r := empty) List.nodup_nil units
  have hset : (empty.claimEach units).held.toFinset
      = (units.filterMap (·.uid)).toFinset := by
    ext uid
    rw [List.mem_toFinset, List.mem_toFinset, mem_held_claimEach]
  rw [← length_held, ← List.toFinset_card_of_nodup hnodup, hset]

-- ========================================================== first claims

/-- Claim `j` of a sequence, made by `first`, is the first that declares an
identifier. -/
structure FirstClaim (units : List ProofUnit) (uid : String) (j : Nat)
    (first : ProofUnit) : Prop where
  made : units[j]? = some first
  declares : first.uid = some uid
  earliest : ∀ i u, i < j → units[i]? = some u → u.uid ≠ some uid

/-- The first to claim an identifier is the first that declares it. -/
theorem exists_firstClaim_iff :
    (∃ j, FirstClaim units uid j first)
      ↔ units.find? (fun u => u.uid = some uid) = some first := by
  rw [List.find?_eq_some_iff_getElem]
  constructor
  · rintro ⟨j, hmade, hdeclares, hearliest⟩
    obtain ⟨hj, hget⟩ := List.getElem?_eq_some_iff.mp hmade
    refine ⟨decide_eq_true hdeclares, j, hj, hget, ?_⟩
    intro i hi
    have hi' : i < units.length := by omega
    simpa using hearliest i units[i] hi (List.getElem?_eq_getElem hi')
  · rintro ⟨hdeclares, j, hj, hget, hearliest⟩
    refine ⟨j, ?_, of_decide_eq_true hdeclares, ?_⟩
    · rw [List.getElem?_eq_getElem hj, hget]
    · intro i u hi hu
      obtain ⟨-, rfl⟩ := List.getElem?_eq_some_iff.mp hu
      simpa using hearliest i hi

/-- The first claims of a beginning are those that are made in it. -/
theorem firstClaim_take_iff :
    FirstClaim (units.take k) uid j first
      ↔ j < k ∧ FirstClaim units uid j first := by
  constructor
  · rintro ⟨hmade, hdeclares, hearliest⟩
    rw [List.getElem?_take] at hmade
    split at hmade
    next hj =>
      refine ⟨hj, hmade, hdeclares, ?_⟩
      intro i u hi hu
      apply hearliest i u hi
      rw [List.getElem?_take_of_lt (by omega), hu]
    next => cases hmade
  · rintro ⟨hj, hmade, hdeclares, hearliest⟩
    refine ⟨?_, hdeclares, ?_⟩
    · rw [List.getElem?_take_of_lt hj, hmade]
    · intro i u hi hu
      rw [List.getElem?_take_of_lt (by omega)] at hu
      exact hearliest i u hi hu

/-- After `k` claims an identifier belongs to the first who declared it. -/
theorem owner?_claimEach_take {dir : Path} :
    (empty.claimEach (units.take k)).owner? uid = some dir
      ↔ ∃ j first, j < k ∧ FirstClaim units uid j first
        ∧ first.path = dir := by
  have hempty : empty.owner? uid = none := rfl
  rw [owner?_claimEach, hempty, Option.none_or, Option.map_eq_some_iff]
  constructor
  · rintro ⟨first, hfirst, hdir⟩
    obtain ⟨j, hj⟩ := exists_firstClaim_iff.mpr hfirst
    obtain ⟨hlt, hclaim⟩ := firstClaim_take_iff.mp hj
    exact ⟨j, first, hlt, hclaim, hdir⟩
  · rintro ⟨j, first, hlt, hclaim, hdir⟩
    exact ⟨first, exists_firstClaim_iff.mp
      ⟨j, firstClaim_take_iff.mpr ⟨hlt, hclaim⟩⟩, hdir⟩

-- ================================================================ the law

/-- What claim `k` of a sequence, made by `unit`, does to an empty registry
that has seen the claims before it. -/
structure ClaimLaw (units : List ProofUnit) (k : Nat) (unit : ProofUnit)
    (before after : Registry) : Prop where
  undeclared : unit.uid = none →
    before.claim unit = (.error (.missingUid unit.path), after)
  /-- The first claim of the same identifier decides, which may be this one. -/
  declared : ∀ uid, unit.uid = some uid →
    ∃ j first, j ≤ k ∧ FirstClaim units uid j first
      ∧ before.claim unit
        = (if first.path.same unit.path then .ok ()
          else .error (.duplicateUid uid unit.path first.path), after)
  refused : ∀ e, (before.claim unit).1 = .error e → after = before
  repeated : ∀ uid dir, unit.uid = some uid →
    before.owner? uid = some dir → after = before
  /-- Each identifier declared so far belongs to the directory of its first
  claim, and no other has an owner. -/
  owners : ∀ uid dir, after.owner? uid = some dir
    ↔ ∃ j first, j ≤ k ∧ FirstClaim units uid j first ∧ first.path = dir
  size : after.size
    = ((units.take (k + 1)).filterMap (·.uid)).toFinset.card

/-- A claim that is the first of its identifier is granted, and any other is
measured by the first. -/
theorem claim_of_declared (h : units[k]? = some unit)
    (hu : unit.uid = some uid) :
    ∃ j first, j ≤ k ∧ FirstClaim units uid j first
      ∧ (empty.claimEach (units.take k)).claim unit
        = (if first.path.same unit.path then .ok ()
          else .error (.duplicateUid uid unit.path first.path),
          empty.claimEach (units.take (k + 1))) := by
  rw [claimEach_take_succ empty h]
  cases ho : (empty.claimEach (units.take k)).owner? uid with
  | some dir =>
      obtain ⟨j, first, hj, hfirst, rfl⟩ := owner?_claimEach_take.mp ho
      refine ⟨j, first, by omega, hfirst, ?_⟩
      rw [claimEach_owned hu ho]
      exact claim_owned hu ho
  | none =>
      -- nobody has declared it before, so this claim is the first
      refine ⟨k, unit, Nat.le_refl k, ⟨h, hu, ?_⟩, ?_⟩
      · intro i u hi hget huid
        have hmem : u ∈ units.take k := by
          apply List.mem_of_getElem? (i := i)
          rw [List.getElem?_take_of_lt hi, hget]
        have hheld : uid ∈ (empty.claimEach (units.take k)).held :=
          mem_held_claimEach.mpr (List.mem_filterMap.mpr ⟨u, hmem, huid⟩)
        exact mem_held.mp hheld ho
      · have hclaim := claim_free hu ho
        rw [if_pos (Path.same_iff.mpr rfl), claimEach_of_claim hclaim]
        exact hclaim

/-- The law of every claim of every sequence. -/
theorem claimEach_law (units : List ProofUnit) (k : Nat) {unit : ProofUnit}
    (h : units[k]? = some unit) :
    ClaimLaw units k unit (empty.claimEach (units.take k))
      (empty.claimEach (units.take (k + 1))) := by
  constructor
  case undeclared =>
    intro hu
    have hclaim := claim_undeclared (empty.claimEach (units.take k)) hu
    rw [claimEach_take_succ empty h, claimEach_of_claim hclaim, hclaim]
  case declared =>
    intro uid hu
    exact claim_of_declared h hu
  case refused =>
    intro e he
    rw [claimEach_take_succ empty h]
    exact claimEach_of_refusal (Prod.ext he rfl)
  case repeated =>
    intro uid dir hu ho
    rw [claimEach_take_succ empty h]
    exact claimEach_owned hu ho
  case owners =>
    intro uid dir
    rw [owner?_claimEach_take]
    simp only [Nat.lt_succ_iff]
  case size => exact size_claimEach _

/-- Claims of one identifier under three spellings of a directory and from a
different one, with a proof that declares nothing among them. -/
def contested : List ProofUnit :=
  [⟨⟨"a//d"⟩, true, some "x"⟩, ⟨⟨"b"⟩, true, none⟩,
    ⟨⟨"a/./d/"⟩, true, some "x"⟩, ⟨⟨"a/d"⟩, true, some "y"⟩,
    ⟨⟨"c"⟩, true, some "x"⟩]

/-- The last of them is refused in the words of the first. -/
theorem claimEach_law_contested :
    contested[4]? = some ⟨⟨"c"⟩, true, some "x"⟩
      ∧ ClaimLaw contested 4 ⟨⟨"c"⟩, true, some "x"⟩
        (empty.claimEach (contested.take 4)) (empty.claimEach contested)
      ∧ (empty.claimEach (contested.take 4)).claim ⟨⟨"c"⟩, true, some "x"⟩
        = (.error (.duplicateUid "x" ⟨"c"⟩ ⟨"a//d"⟩),
          empty.claimEach contested) :=
  ⟨rfl, claimEach_law contested 4 rfl, by decide⟩

end ProofBatch.Registry
