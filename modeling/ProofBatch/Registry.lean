/-
The identifiers that are taken, each with the directory that claimed it first.
A directory may claim its identifier again; no other directory may.
-/
import ProofBatch.ProofUnit

namespace ProofBatch

/-- The identifiers claimed so far, in the order of their first claims. -/
structure Registry where
  claims : List (String × Path) := []
  deriving DecidableEq, Repr, Inhabited

namespace Registry

/-- No identifier is taken. -/
def empty : Registry :=
  {}

/-- The directory that claimed an identifier first. -/
def owner? (r : Registry) (uid : String) : Option Path :=
  r.claims.lookup uid

/-- How many identifiers are taken. -/
def size (r : Registry) : Nat :=
  r.claims.length

/-- Claim the identifier of a proof: the answer, and the registry after it. -/
def claim (r : Registry) (unit : ProofUnit) :
    Except RunError Unit × Registry :=
  match unit.uid with
  | none => (.error (.missingUid unit.path), r)
  | some uid =>
    match r.owner? uid with
    | some first =>
      if first.same unit.path then (.ok (), r)
      else (.error (.duplicateUid uid unit.path first), r)
    | none => (.ok (), ⟨r.claims ++ [(uid, unit.path)]⟩)

/-- What a claim can be answered, and the registry that it leaves. -/
inductive Claimed (r : Registry) (unit : ProofUnit) :
    Except RunError Unit → Registry → Prop
  | undeclared (undeclared : unit.uid = none) :
      Claimed r unit (.error (.missingUid unit.path)) r
  /-- The directory claims again what it has. -/
  | again {uid : String} {first : Path} (declared : unit.uid = some uid)
      (owner : r.owner? uid = some first) (same : first.same unit.path = true) :
      Claimed r unit (.ok ()) r
  /-- Another directory has it. -/
  | taken {uid : String} {first : Path} (declared : unit.uid = some uid)
      (owner : r.owner? uid = some first)
      (apart : first.same unit.path = false) :
      Claimed r unit (.error (.duplicateUid uid unit.path first)) r
  | free {uid : String} (declared : unit.uid = some uid)
      (unowned : r.owner? uid = none) :
      Claimed r unit (.ok ()) ⟨r.claims ++ [(uid, unit.path)]⟩

/-- A claim is answered in one of these ways. -/
theorem Claimed.of_claim {r r' : Registry} {unit : ProofUnit}
    {answer : Except RunError Unit} (h : r.claim unit = (answer, r')) :
    Claimed r unit answer r' := by
  unfold claim at h
  split at h
  next hnone =>
    cases h
    exact .undeclared hnone
  next uid huid =>
    split at h
    next first howner =>
      split at h
      next hsame =>
        cases h
        exact .again huid howner hsame
      next hsame =>
        cases h
        exact .taken huid howner (by simpa using hsame)
    next hfree =>
      cases h
      exact .free huid hfree

/-- A claim that is refused leaves the registry as it was. -/
theorem claim_refused {r r' : Registry} {unit : ProofUnit} {e : RunError}
    (h : r.claim unit = (.error e, r')) : r' = r := by
  cases Claimed.of_claim h with
  | undeclared => rfl
  | taken => rfl

/-- Claim the identifiers of several proofs in turn, up to the first that is
refused. -/
def claimAll (r : Registry) : List ProofUnit → Except RunError Registry
  | [] => .ok r
  | unit :: rest =>
    match r.claim unit with
    | (.ok (), r) => r.claimAll rest
    | (.error e, _) => .error e

end Registry

end ProofBatch
