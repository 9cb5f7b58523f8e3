/-
What a walk visits, and in which order.

# The order

A walk comes to a directory before its entries, and to the entries in the order
of their names. On places, which are lists of names, that is the lexicographic
order: a directory is before all that is below it, and of two places that part
ways in one directory the one with the smaller name is first.

# The end of a way

A directory that cannot be listed is visited, but nothing below it is
(`Node.IsVisited`); the walk tells of it, and goes on after it. Files and links
are stops as well, and none that anybody asks about.

`Node.exists_survey` says all of that of the walk over any node: its stops are
what the places visited give, one after the other in their order.
-/
import Mathlib.Data.List.Basic
import ProofBatch.Proofs.FileTree.Places

namespace ProofBatch

/-- A stop at a directory. -/
def Visit.isAtDirectory : Visit → Bool
  | .directory _ => true
  | .other _ => false
  | .unlistable .. => true

namespace Node

variable {node child : Node} {access : Access}
  {entries : List (String × Node)} {reachable : Bool} {name : String}
  {path : Path} {steps rest : List String}

-- ================================================================ the entries

/-- The entries of a well-named directory stand in the walk by increasing
name. -/
theorem pairwise_lt_mergeSort (h : (entries.map (·.1)).Nodup) :
    (entries.mergeSort entryLe).Pairwise fun x y => x.1 < y.1 := by
  have hle : (entries.mergeSort entryLe).Pairwise fun x y => x.1 ≤ y.1 := by
    have hsorted : (entries.mergeSort entryLe).Pairwise
        fun x y => entryLe x y = true := by
      apply List.pairwise_mergeSort
      · intro a b c hab hbc
        exact decide_eq_true (String.le_trans (of_decide_eq_true hab)
          (of_decide_eq_true hbc))
      · intro a b
        simpa [entryLe] using String.le_total a.1 b.1
    exact hsorted.imp of_decide_eq_true
  have hne : (entries.mergeSort entryLe).Pairwise fun x y => x.1 ≠ y.1 := by
    have hperm := (List.mergeSort_perm entries entryLe).map (·.1)
    exact List.pairwise_map.mp (hperm.nodup_iff.mpr h)
  refine hle.imp₂ ?_ hne
  intro x y hxy hxy'
  apply String.not_le.mp
  intro hyx
  exact hxy' (String.le_antisymm hxy hyx)

theorem mem_mergeSort_entryLe {e : String × Node} :
    e ∈ entries.mergeSort entryLe ↔ e ∈ entries :=
  (List.mergeSort_perm entries entryLe).mem_iff

/-- Below a directory, each entry is walked over for itself. -/
theorem visitsBelow_eq_map (reachable : Bool) (path : Path)
    (entries : List (String × Node)) :
    visitsBelow reachable path entries
      = entries.map fun e => (e.1, e.2.visits reachable (path.join e.1)) := by
  induction entries with
  | nil => rfl
  | cons e rest ih => rw [visitsBelow, ih, List.map_cons]

/-- The walk over a directory that can be listed. -/
theorem visits_directory (h : (reachable && access.read) = true) :
    (directory access entries).visits reachable path
      = .directory path :: (entries.mergeSort entryLe).flatMap fun e =>
          e.2.visits (reachable && access.execute) (path.join e.1) := by
  have hsort := List.map_mergeSort (r := entryLe) (s := entryLe)
    (f := fun e : String × Node =>
      (e.1, e.2.visits (reachable && access.execute) (path.join e.1)))
    (l := entries) fun _ _ _ _ => rfl
  rw [visits, if_pos h, visitsBelow_eq_map, ← hsort, List.flatMap_map]

/-- The walk over a directory comes to it first. -/
theorem exists_visits_directory (access : Access)
    (entries : List (String × Node)) (path : Path) :
    ∃ rest, (directory access entries).visits true path
      = .directory path :: rest := by
  rw [visits]
  exact ⟨_, rfl⟩

-- ======================================================== visited directories

/-- The walk comes to the directory at the given place: all directories above
it can be listed. -/
def IsVisited (reachable : Bool) (node : Node) (steps : List String) : Prop :=
  node.HasDirectory steps
    ∧ ∀ above below, above ++ below = steps → below ≠ [] →
      node.canList reachable above = true

theorem isVisited_nil :
    (directory access entries).IsVisited reachable [] := by
  refine ⟨⟨access, entries, rfl⟩, ?_⟩
  intro above below h hne
  exact absurd (List.append_eq_nil_iff.mp h).2 hne

/-- What is visited in a directory is visited in one of its entries, if the
directory can be listed. -/
theorem isVisited_cons :
    (directory access entries).IsVisited reachable (name :: rest)
      ↔ (reachable && access.read) = true
        ∧ ∃ child, entries.lookup name = some child
          ∧ child.IsVisited (reachable && access.execute) rest := by
  constructor
  · rintro ⟨hdir, habove⟩
    obtain ⟨_, _, child, ⟨⟩, hchild, hdir⟩ := hasDirectory_cons.mp hdir
    refine ⟨habove [] (name :: rest) rfl (List.cons_ne_nil _ _), child, hchild,
      hdir, ?_⟩
    intro above below h hne
    have hlist := habove (name :: above) below (by rw [← h]; rfl) hne
    simpa [canList, hchild] using hlist
  · rintro ⟨hread, child, hchild, hdir, habove⟩
    refine ⟨hasDirectory_cons.mpr ⟨access, entries, child, rfl, hchild, hdir⟩,
      ?_⟩
    intro above below h hne
    cases above with
    | nil => exact hread
    | cons first above =>
        rw [List.cons_append, List.cons.injEq] at h
        obtain ⟨rfl, h⟩ := h
        have hlist := habove above below h hne
        simpa [canList, hchild] using hlist

/-- In what is no directory, a walk comes to none. -/
theorem not_isVisited (h : node.isDirectory = false) :
    ¬node.IsVisited reachable steps := by
  rintro ⟨⟨access, entries, hd⟩, -⟩
  cases steps with
  | nil =>
      cases hd
      cases h
  | cons name rest =>
      obtain ⟨_, _, _, rfl, -, -⟩ := descend?_cons_eq_some hd
      cases h

-- ================================================================= the survey

/-- What a walk tells of the directory at a place. -/
def stops (reachable : Bool) (node : Node) (path : Path)
    (steps : List String) : List Visit :=
  .directory (path.under steps) ::
    if node.canList reachable steps then []
    else [.unlistable (path.under steps) .accessDenied]

/-- The directories that a walk over a node visits, in the order of the
walk. -/
structure Survey (reachable : Bool) (node : Node)
    (places : List (List String)) : Prop where
  sorted : places.Pairwise (· < ·)
  mem : ∀ steps, steps ∈ places ↔ node.IsVisited reachable steps
  stops : ∀ path, (node.visits reachable path).filter Visit.isAtDirectory
    = places.flatMap (node.stops reachable path)

/-- A directory is what its walk comes to first. -/
theorem Survey.exists_eq_cons {places : List (List String)}
    (survey : Survey reachable (directory access entries) places) :
    ∃ later, places = [] :: later := by
  have hmem := (survey.mem []).mpr isVisited_nil
  cases places with
  | nil => cases hmem
  | cons first later =>
      rcases List.mem_cons.mp hmem with rfl | hmem
      · exact ⟨later, rfl⟩
      · have hlt := (List.pairwise_cons.mp survey.sorted).1 [] hmem
        exact absurd hlt (List.not_lt_nil _)

/-- Nothing is visited in what is no directory. -/
theorem Survey.empty (h : node.isDirectory = false) :
    Survey reachable node [] := by
  refine ⟨.nil, fun steps => ?_, fun path => ?_⟩
  · exact ⟨fun hmem => absurd hmem List.not_mem_nil,
      fun hvisited => absurd hvisited (not_isVisited h)⟩
  · cases node with
    | file => rfl
    | link => rfl
    | directory => cases h

/-- A directory that cannot be listed is all that is visited. -/
theorem Survey.closed (h : (reachable && access.read) = false) :
    Survey reachable (directory access entries) [[]] := by
  refine ⟨List.pairwise_singleton .., fun steps => ?_, fun path => ?_⟩
  · cases steps with
    | nil =>
        exact ⟨fun _ => isVisited_nil, fun _ => List.mem_singleton.mpr rfl⟩
    | cons name rest =>
        rw [isVisited_cons, h]
        simp
  · rw [visits, if_neg (by rw [h]; decide)]
    simp [Node.stops, canList, h, Visit.isAtDirectory]

/-- The places in a directory: itself, and then what is below its entries. -/
def placesBelow (entries : List (String × Node))
    (below : String × Node → List (List String)) : List (List String) :=
  [] :: (entries.mergeSort entryLe).flatMap fun e => (below e).map (e.1 :: ·)

section Listed

variable {below : String × Node → List (List String)}
  (hnames : (entries.map (·.1)).Nodup)
  (hbelow : ∀ e ∈ entries, Survey (reachable && access.execute) e.2 (below e))

include hnames

/-- The places in a directory are those in its entries, and itself. -/
theorem mem_placesBelow :
    name :: rest ∈ placesBelow entries below
      ↔ ∃ child, entries.lookup name = some child
        ∧ rest ∈ below (name, child) := by
  unfold placesBelow
  constructor
  · intro h
    rcases List.mem_cons.mp h with h | h
    · cases h
    · obtain ⟨e, he, h⟩ := List.mem_flatMap.mp h
      obtain ⟨steps, hsteps, heq⟩ := List.mem_map.mp h
      rw [List.cons.injEq] at heq
      obtain ⟨rfl, rfl⟩ := heq
      exact ⟨e.2, lookup_of_mem hnames (mem_mergeSort_entryLe.mp he), hsteps⟩
  · rintro ⟨child, hchild, hrest⟩
    apply List.mem_cons_of_mem
    apply List.mem_flatMap.mpr
    exact ⟨(name, child), mem_mergeSort_entryLe.mpr (mem_of_lookup hchild),
      List.mem_map_of_mem hrest⟩

include hbelow

/-- The places in a directory stand in the order of the walk. -/
theorem sorted_placesBelow :
    (placesBelow entries below).Pairwise (· < ·) := by
  unfold placesBelow
  refine List.pairwise_cons.mpr ⟨?_, List.pairwise_flatMap.mpr ⟨?_, ?_⟩⟩
  · intro steps h
    obtain ⟨e, -, h⟩ := List.mem_flatMap.mp h
    obtain ⟨rest, -, rfl⟩ := List.mem_map.mp h
    exact List.nil_lt_cons ..
  · intro e he
    apply List.pairwise_map.mpr
    apply (hbelow e (mem_mergeSort_entryLe.mp he)).sorted.imp
    intro x y hxy
    exact List.cons_lt_cons_iff.mpr (.inr ⟨rfl, hxy⟩)
  · refine (pairwise_lt_mergeSort hnames).imp ?_
    intro e e' hlt x hx y hy
    obtain ⟨_, -, rfl⟩ := List.mem_map.mp hx
    obtain ⟨_, -, rfl⟩ := List.mem_map.mp hy
    exact List.cons_lt_cons_iff.mpr (.inl hlt)

/-- The survey of a directory is put together from those of its entries. -/
theorem Survey.listed (h : (reachable && access.read) = true) :
    Survey reachable (directory access entries)
      (placesBelow entries below) := by
  refine ⟨sorted_placesBelow hnames hbelow, fun steps => ?_, fun path => ?_⟩
  · cases steps with
    | nil => exact ⟨fun _ => isVisited_nil, fun _ => List.mem_cons_self ..⟩
    | cons name rest =>
        rw [mem_placesBelow hnames, isVisited_cons, h]
        constructor
        · rintro ⟨child, hchild, hrest⟩
          have hsurvey := hbelow _ (mem_of_lookup hchild)
          exact ⟨rfl, child, hchild, (hsurvey.mem rest).mp hrest⟩
        · rintro ⟨-, child, hchild, hvisited⟩
          have hsurvey := hbelow _ (mem_of_lookup hchild)
          exact ⟨child, hchild, (hsurvey.mem rest).mpr hvisited⟩
  · have hfirst : (directory access entries).stops reachable path []
        = [.directory path] := by
      simp [Node.stops, canList, h]
    rw [visits_directory h, placesBelow, List.flatMap_cons, hfirst,
      List.filter_cons, if_pos (by rfl), List.filter_flatMap,
      List.flatMap_assoc, List.singleton_append]
    congr 1
    apply List.flatMap_congr
    intro e he
    rw [(hbelow e (mem_mergeSort_entryLe.mp he)).stops, List.flatMap_map]
    apply List.flatMap_congr
    intro rest _
    simp only [Node.stops, Path.under_cons, canList,
      lookup_of_mem hnames (mem_mergeSort_entryLe.mp he)]

end Listed

/-- The walk over a well-named node, told by places. -/
theorem exists_survey (node : Node) (reachable : Bool)
    (h : node.isWellNamed = true) :
    ∃ places, Survey reachable node places := by
  induction node using entriesInduction generalizing reachable with
  | file => exact ⟨[], .empty rfl⟩
  | link => exact ⟨[], .empty rfl⟩
  | directory access entries ih =>
      obtain ⟨hnames, hentries⟩ := isWellNamed_directory.mp h
      -- one survey for each entry, all chosen at once
      have hall : ∀ e : String × Node, ∃ places, e ∈ entries →
          Survey (reachable && access.execute) e.2 places := by
        intro e
        by_cases he : e ∈ entries
        · obtain ⟨places, hplaces⟩ :=
            ih e he (reachable && access.execute) (hentries e he).2
          exact ⟨places, fun _ => hplaces⟩
        · exact ⟨[], fun hmem => absurd hmem he⟩
      obtain ⟨below, hbelow⟩ := Classical.skolem.mp hall
      cases hread : reachable && access.read with
      | false => exact ⟨_, .closed hread⟩
      | true => exact ⟨_, .listed hnames hbelow hread⟩

end Node

end ProofBatch
