/-
What is so of the proofs that a search found, wherever it started and whatever
was asked for.

No directory is found twice, each is one that was asked for, and the identifier
of a proof is the one that the `Makefile` in its directory declares (`Found`).
-/
import ProofBatch.Proofs.Discovery.Scan

namespace ProofBatch

/-- The directory that a walk stops at. -/
def Visit.directory? : Visit → Option Path
  | .directory dir => some dir
  | .other _ => none
  | .unlistable .. => none

namespace Discovery

variable {t : FileTree} {marker : String} {requested : Option (List String)}
  {root dir : Path} {units : List ProofUnit} {unit : ProofUnit}

-- ============================================================== what is taken

/-- The `Makefile` in a directory declares an identifier. -/
def Declares (t : FileTree) (dir : Path) (uid : String) : Prop :=
  ∃ text, t.readText (dir.join ProofUnit.makefile) = .ok text
    ∧ Identifier.declared? text = some uid

/-- A makefile declares one identifier. -/
theorem Declares.unique {uid uid' : String} (h : Declares t dir uid)
    (h' : Declares t dir uid') : uid = uid' := by
  obtain ⟨text, htext, huid⟩ := h
  obtain ⟨text', htext', huid'⟩ := h'
  cases htext.symm.trans htext'
  exact Option.some.inj (huid.symm.trans huid')

/-- A proof that is loaded has the identifier of its makefile. -/
theorem load_ok (h : ProofUnit.load t dir marker = .ok unit) :
    unit.path = dir
      ∧ ∀ uid, unit.uid = some uid → Declares t unit.path uid := by
  cases hread : t.readText (dir.join ProofUnit.makefile) with
  | ok text =>
      cases (load_text hread).symm.trans h
      exact ⟨rfl, fun uid huid => ⟨text, hread, huid⟩⟩
  | error cause =>
      by_cases habsent : cause = .notFound
      · rw [habsent] at hread
        cases (load_absent hread).symm.trans h
        exact ⟨rfl, fun uid huid => nomatch huid⟩
      · cases (load_illegible hread habsent).symm.trans h

/-- The proofs that were collected are loaded from directories on the walk,
each from another stop. -/
theorem collect_ok {visits : List Visit}
    (h : (collect t marker requested visits).result = .ok units) :
    (units.map (·.path)).Sublist (visits.filterMap Visit.directory?)
      ∧ ∀ u ∈ units, wanted requested u.path = true
        ∧ ∀ uid, u.uid = some uid → Declares t u.path uid := by
  induction visits generalizing units with
  | nil =>
      cases h
      exact ⟨.slnil, fun u hu => absurd hu List.not_mem_nil⟩
  | cons visit rest ih =>
      cases visit with
      | unlistable path cause => cases h
      | other path => exact ih h
      | directory dir =>
          show List.Sublist _ (dir :: rest.filterMap Visit.directory?) ∧ _
          cases hproof : isProof t marker requested dir with
          | false =>
              rw [collect_passed hproof] at h
              obtain ⟨hsub, hall⟩ := ih h
              exact ⟨hsub.cons dir, hall⟩
          | true =>
              cases hload : ProofUnit.load t dir marker with
              | error e =>
                  rw [collect_unloaded hproof hload] at h
                  cases h
              | ok unit =>
                  rw [collect_loaded hproof hload] at h
                  cases hrest : (collect t marker requested rest).result with
                  | error e =>
                      rw [hrest] at h
                      cases h
                  | ok later =>
                      rw [hrest] at h
                      cases h
                      obtain ⟨hsub, hall⟩ := ih hrest
                      obtain ⟨rfl, huid⟩ := load_ok hload
                      exact ⟨hsub.cons_cons _, List.forall_mem_cons.mpr
                        ⟨⟨wanted_of_isProof hproof, huid⟩, hall⟩⟩

-- ============================================================ the directories

/-- A tour comes to each directory once. -/
theorem filterMap_directory_tour {places : List (List String)} {top : Node}
    (htop : t.node root = .ok top) (tour : t.Tour root places) :
    (top.visits true root).filterMap Visit.directory?
      = places.map root.under := by
  have hfilter (visits : List Visit) :
      (visits.filter Visit.isAtDirectory).filterMap Visit.directory?
        = visits.filterMap Visit.directory? := by
    rw [List.filterMap_filter]
    apply List.filterMap_congr
    intro visit _
    cases visit <;> rfl
  have hone (dir : Path) :
      (t.stopsAt dir).filterMap Visit.directory? = [dir] := by
    unfold FileTree.stopsAt
    cases t.list dir <;> rfl
  rw [← hfilter, tour.stops top htop, List.filterMap_flatMap]
  simp only [hone, List.flatMap_singleton']

/-- The directories on a walk are all different. -/
theorem directories_distinct (hwell : t.root.isWellNamed = true)
    (hroot : t.isDirectory root = true) :
    ((t.visits root).filterMap Visit.directory?).Pairwise
      fun p q => ¬p.same q := by
  obtain ⟨places, tour⟩ := FileTree.exists_tour hwell hroot
  obtain ⟨access, entries, htop⟩ :=
    FileTree.exists_directory_of_isDirectory hroot
  have hplaces : (places.map root.under).Pairwise fun p q => ¬p.same q := by
    apply List.pairwise_map.mpr
    apply tour.sorted.imp_of_mem
    intro x y hx hy hlt hsame
    have heq := ((tour.below x hx).same_iff hwell (tour.below y hy)).mp hsame
    exact List.lt_irrefl _ (heq ▸ hlt)
  rw [← filterMap_directory_tour htop tour] at hplaces
  cases hlink : t.isLink root with
  | false =>
      rw [FileTree.visits_of_node htop hlink]
      exact hplaces
  | true =>
      rw [FileTree.visits_of_link htop hlink]
      exact hplaces.sublist ((List.tail_sublist _).filterMap _)

/-- What is so of the proofs that a search found. -/
structure Found (t : FileTree) (requested : Option (List String))
    (units : List ProofUnit) : Prop where
  distinct : (units.map (·.path)).Pairwise fun p q => ¬p.same q
  declared : ∀ u ∈ units, ∀ uid, u.uid = some uid → Declares t u.path uid
  wanted : ∀ u ∈ units, wanted requested u.path = true

/-- A search that finds something has somewhere to look. -/
theorem isDirectory_of_discover
    (h : discover t root marker requested = .ok units) :
    marker ≠ "" ∧ t.isDirectory root = true := by
  unfold discover search at h
  split at h
  next => cases h
  next hmarker =>
    split at h
    next => cases h
    next hroot => exact ⟨hmarker, by simpa using hroot⟩

/-- What a search found is what was collected on its walk. -/
theorem collect_of_discover
    (h : discover t root marker requested = .ok units) :
    (collect t marker requested (t.visits root)).result = .ok units := by
  obtain ⟨hmarker, hroot⟩ := isDirectory_of_discover h
  rw [discover_eq hmarker hroot] at h
  split at h
  next => cases h
  next collected hresult =>
    split at h
    next =>
      cases h
      exact hresult
    next => cases h

/-- All that a search gives was found in the tree. -/
theorem discover_found (hwell : t.root.isWellNamed = true)
    (h : discover t root marker requested = .ok units) :
    Found t requested units := by
  obtain ⟨-, hroot⟩ := isDirectory_of_discover h
  obtain ⟨hsub, hall⟩ := collect_ok (collect_of_discover h)
  exact ⟨(directories_distinct hwell hroot).sublist hsub,
    fun u hu => (hall u hu).2, fun u hu => (hall u hu).1⟩

end Discovery

end ProofBatch
