/-
Places below a node: what is reached from it by names alone, no link being
followed.

A place is the list of the names on the way to it. Names are taken as file
systems give them out (`Node.isWellNamed`): a name of an entry stands for
itself in a path, and no two entries of a directory share one. So every entry
is a place, and different entries are different places.
-/
import ProofBatch.FileTree
import ProofBatch.Proofs.Path

namespace ProofBatch

-- ================================================================ entry names

/-- A name that an entry of a directory can have. -/
structure EntryName (name : String) : Prop extends PlainName name where
  unended : Char.ofNat 0 ∉ name.toList
  short : name.utf8ByteSize ≤ maxNameBytes

instance (name : String) : Decidable (EntryName name) :=
  decidable_of_iff
    (PlainName name ∧ Char.ofNat 0 ∉ name.toList
      ∧ name.utf8ByteSize ≤ maxNameBytes)
    ⟨fun ⟨h₁, h₂, h₃⟩ => ⟨h₁, h₂, h₃⟩,
      fun h => ⟨h.toPlainName, h.unended, h.short⟩⟩

mutual

/-- Whether all names in a node and below it are names of entries, and no two
entries of a directory share one. -/
def Node.isWellNamed : Node → Bool
  | .directory _ entries =>
    decide (entries.map (·.1)).Nodup && Node.areWellNamed entries
  | .file .. => true
  | .link _ => true

/-- Whether the names of some entries, and all names below them, are so. -/
def Node.areWellNamed : List (String × Node) → Bool
  | [] => true
  | (name, node) :: rest =>
    decide (EntryName name) && node.isWellNamed && Node.areWellNamed rest

end

namespace Node

variable {node child : Node} {access : Access}
  {entries : List (String × Node)} {name : String} {steps rest : List String}

/-- Entries are well named if each of them is, and all below it. -/
theorem areWellNamed_iff :
    areWellNamed entries = true
      ↔ ∀ e ∈ entries, EntryName e.1 ∧ e.2.isWellNamed = true := by
  induction entries with
  | nil => simp [areWellNamed]
  | cons e rest ih =>
      obtain ⟨name, node⟩ := e
      simp only [areWellNamed, Bool.and_eq_true, decide_eq_true_eq, ih,
        List.forall_mem_cons]

/-- A directory is well named if its entries are, and no two share a name. -/
theorem isWellNamed_directory :
    (directory access entries).isWellNamed = true
      ↔ (entries.map (·.1)).Nodup
        ∧ ∀ e ∈ entries, EntryName e.1 ∧ e.2.isWellNamed = true := by
  rw [isWellNamed, Bool.and_eq_true, decide_eq_true_eq, areWellNamed_iff]

/-- To prove something of all nodes, prove it of a directory if it holds of its
entries. -/
@[elab_as_elim]
theorem entriesInduction {P : Node → Prop}
    (file : ∀ access bytes, P (.file access bytes))
    (link : ∀ target, P (.link target))
    (directory : ∀ access entries, (∀ e ∈ entries, P e.2) →
      P (.directory access entries)) (node : Node) : P node := by
  refine @Node.rec P (fun entries => ∀ e ∈ entries, P e.2) (fun e => P e.2)
    file link directory ?_ ?_ ?_ node
  · exact fun e he => absurd he List.not_mem_nil
  · exact fun e rest he hrest => List.forall_mem_cons.mpr ⟨he, hrest⟩
  · exact fun _ _ h => h

-- ==================================================================== descent

theorem descend?_cons (node : Node) (name : String) (rest : List String) :
    node.descend? (name :: rest)
      = (node.entries.lookup name).bind (·.descend? rest) := by
  rw [descend?]
  cases node.entries.lookup name <;> rfl

/-- Two ways down, one after the other, are one. -/
theorem descend?_append (node : Node) (steps rest : List String) :
    node.descend? (steps ++ rest)
      = (node.descend? steps).bind (·.descend? rest) := by
  induction steps generalizing node with
  | nil => rfl
  | cons name steps ih =>
      rw [List.cons_append, descend?_cons, descend?_cons]
      cases node.entries.lookup name with
      | none => rfl
      | some child => exact ih child

/-- Only a directory can be descended into. -/
theorem descend?_cons_eq_some {d : Node}
    (h : node.descend? (name :: rest) = some d) :
    ∃ access entries child, node = .directory access entries
      ∧ entries.lookup name = some child ∧ child.descend? rest = some d := by
  rw [descend?_cons] at h
  obtain ⟨child, hchild, hd⟩ := Option.bind_eq_some_iff.mp h
  cases node with
  | file => cases hchild
  | link => cases hchild
  | directory access entries =>
      exact ⟨access, entries, child, rfl, hchild, hd⟩

theorem mem_of_lookup (h : entries.lookup name = some child) :
    (name, child) ∈ entries := by
  obtain ⟨before, after, rfl, -⟩ := List.lookup_eq_some_iff.mp h
  simp

/-- Each entry is found under its name. -/
theorem lookup_of_mem {e : String × Node}
    (hnames : (entries.map (·.1)).Nodup) (h : e ∈ entries) :
    entries.lookup e.1 = some e.2 := by
  induction entries with
  | nil => cases h
  | cons first rest ih =>
      rw [List.map_cons, List.nodup_cons] at hnames
      rcases List.mem_cons.mp h with rfl | hmem
      · exact List.lookup_cons_self
      · have hne : e.1 ≠ first.1 := by
          intro heq
          exact hnames.1 (heq ▸ List.mem_map_of_mem hmem)
        rw [List.lookup_cons, beq_eq_false_iff_ne.mpr hne]
        exact ih hnames.2 hmem

theorem isWellNamed_of_lookup
    (h : (directory access entries).isWellNamed = true)
    (hchild : entries.lookup name = some child) :
    EntryName name ∧ child.isWellNamed = true :=
  (isWellNamed_directory.mp h).2 _ (mem_of_lookup hchild)

/-- What is below a well-named node is well-named, and so are the names on the
way to it. -/
theorem isWellNamed_of_descend {d : Node} (h : node.isWellNamed = true)
    (hd : node.descend? steps = some d) :
    (∀ s ∈ steps, EntryName s) ∧ d.isWellNamed = true := by
  induction steps generalizing node with
  | nil =>
      cases hd
      exact ⟨fun s hs => absurd hs List.not_mem_nil, h⟩
  | cons name rest ih =>
      obtain ⟨access, entries, child, rfl, hchild, hd⟩ :=
        descend?_cons_eq_some hd
      obtain ⟨hname, hwell⟩ := isWellNamed_of_lookup h hchild
      obtain ⟨hrest, hd⟩ := ih hwell hd
      exact ⟨List.forall_mem_cons.mpr ⟨hname, hrest⟩, hd⟩

-- ================================================================ directories

/-- The given names lead to a directory. -/
def HasDirectory (node : Node) (steps : List String) : Prop :=
  ∃ access entries, node.descend? steps = some (.directory access entries)

/-- A directory below a node is below one of its entries. -/
theorem hasDirectory_cons :
    node.HasDirectory (name :: rest)
      ↔ ∃ access entries child, node = .directory access entries
        ∧ entries.lookup name = some child ∧ child.HasDirectory rest := by
  constructor
  · rintro ⟨access', entries', hd⟩
    obtain ⟨access, entries, child, hnode, hchild, hd⟩ :=
      descend?_cons_eq_some hd
    exact ⟨access, entries, child, hnode, hchild, access', entries', hd⟩
  · rintro ⟨access, entries, child, rfl, hchild, access', entries', hd⟩
    refine ⟨access', entries', ?_⟩
    rw [descend?_cons]
    exact Option.bind_eq_some_iff.mpr ⟨child, hchild, hd⟩

/-- Whether every directory that the given names go through lets one pass. -/
def canPass (node : Node) : List String → Bool
  | [] => true
  | name :: rest =>
    match node with
    | .directory access entries =>
      access.execute
        && (match entries.lookup name with
          | some child => child.canPass rest
          | none => false)
    | _ => false

/-- Whether one can list the directory that the given names lead to.
`reachable` says whether one can pass to the node itself. -/
def canList (reachable : Bool) (node : Node) : List String → Bool
  | [] =>
    match node with
    | .directory access _ => reachable && access.read
    | _ => false
  | name :: rest =>
    match node with
    | .directory access entries =>
      match entries.lookup name with
      | some child => child.canList (reachable && access.execute) rest
      | none => false
    | _ => false

/-- One can list a directory if one can pass to it and may read it. -/
theorem canList_eq (reachable : Bool)
    (hd : node.descend? steps = some (.directory access entries)) :
    node.canList reachable steps
      = (reachable && node.canPass steps && access.read) := by
  induction steps generalizing node reachable with
  | nil =>
      cases hd
      simp [canList, canPass]
  | cons name rest ih =>
      obtain ⟨above, siblings, child, rfl, hchild, hd⟩ :=
        descend?_cons_eq_some hd
      simp only [canList, canPass, hchild, ih _ hd, Bool.and_assoc]

end Node

end ProofBatch
