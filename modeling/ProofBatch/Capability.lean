/-
What the build tool can do, and what is asked of it with regard to pools: the
set of its capabilities, the ways to restrict expensive jobs, and the pools
that are declared to it.
-/
import ProofBatch.Text.Quoted

namespace ProofBatch

-- ======================================================= sets of capabilities

/-- A set of capabilities, by their names in ascending order, each once. -/
structure CapabilitySet where
  names : List String
  deriving DecidableEq, Repr, Inhabited

namespace CapabilitySet

/-- Put a name at its place in an ascending list; one that is there already is
not repeated. -/
def insertName (name : String) : List String → List String
  | [] => [name]
  | other :: rest =>
    if name = other then other :: rest
    else if name < other then name :: other :: rest
    else other :: insertName name rest

/-- The set without elements. -/
def empty : CapabilitySet :=
  ⟨[]⟩

/-- The set of the given names. -/
def ofList (names : List String) : CapabilitySet :=
  ⟨names.foldr insertName []⟩

def contains (caps : CapabilitySet) (name : String) : Bool :=
  caps.names.contains name

def isEmpty (caps : CapabilitySet) : Bool :=
  caps.names.isEmpty

theorem mem_insertName {x name : String} {names : List String} :
    x ∈ insertName name names ↔ x = name ∨ x ∈ names := by
  induction names with
  | nil => simp [insertName]
  | cons other rest ih => grind [insertName]

@[simp] theorem contains_ofList (names : List String) (x : String) :
    (ofList names).contains x = names.contains x := by
  have h : x ∈ names.foldr insertName [] ↔ x ∈ names := by
    induction names with
    | nil => simp
    | cons name rest ih => simp [mem_insertName, ih]
  simp only [ofList, contains, List.contains_eq_mem, h]

/-- The set as it is written in diagnostics. -/
def describe (caps : CapabilitySet) : String :=
  "CapabilitySet \x7b features: \x7b"
    ++ ", ".intercalate (caps.names.map Text.quoted)
    ++ "\x7d \x7d"

end CapabilitySet

/-- The capability of build tools that know job pools. -/
def poolsCapability : String :=
  "pools"

-- ========================================================= restriction, pools

/-- Whether expensive jobs are to be kept in a pool of their own. -/
inductive Restriction where
  | yes
  | no
  | auto
  deriving DecidableEq, Repr, Inhabited

namespace Restriction

/-- The word for a restriction. -/
def word : Restriction → String
  | yes => "yes"
  | no => "no"
  | auto => "auto"

/-- The restriction that a word stands for. -/
def ofWord? (text : String) : Option Restriction :=
  [yes, no, auto].find? fun r => r.word = text

@[simp] theorem ofWord?_word (r : Restriction) : ofWord? r.word = some r := by
  cases r <;> decide

end Restriction

/-- A pool of jobs, of which at most `size` run at once. -/
structure Pool where
  name : String
  size : Nat
  deriving DecidableEq, Repr, Inhabited

/-- The pool that expensive jobs are kept in. -/
def Pool.expensive (size : Nat) : Pool :=
  { name := "expensive", size }

/-- A pool as it is declared to the build tool. -/
def Pool.text (pool : Pool) : String :=
  s!"{pool.name}:{pool.size}"

end ProofBatch
