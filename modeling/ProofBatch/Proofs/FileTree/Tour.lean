/-
The walk over what a path leads to.

Places are taken below the path here, and directories by their paths
(`FileTree.Below`). The walk comes to them in the order of their places; it
misses one only if it could not list a directory on the way, which it has told
before (`Tour`). What it tells of a directory is what the tree answers about
that directory's path: whether it can be listed (`FileTree.stopsAt`).
-/
import ProofBatch.Proofs.FileTree.Resolution
import ProofBatch.Proofs.FileTree.Visits

namespace ProofBatch

-- ======================================================= visited, or cut off

/-- The walk comes to every directory but those below one that it cannot
list. -/
theorem Node.isVisited_or_cut {node : Node} {reachable : Bool}
    {steps : List String} (h : node.HasDirectory steps) :
    node.IsVisited reachable steps
      ∨ ∃ above, above < steps ∧ node.IsVisited reachable above
        ∧ node.canList reachable above = false := by
  induction steps generalizing node reachable with
  | nil =>
      obtain ⟨access, entries, hd⟩ := h
      cases hd
      exact .inl isVisited_nil
  | cons name rest ih =>
      obtain ⟨access, entries, child, rfl, hchild, hdir⟩ :=
        hasDirectory_cons.mp h
      cases hread : reachable && access.read with
      | false =>
          right
          exact ⟨[], List.nil_lt_cons .., isVisited_nil, hread⟩
      | true =>
          rcases @ih child (reachable && access.execute) hdir with
            hvisited | ⟨above, hlt, hvisited, hlist⟩
          · left
            exact isVisited_cons.mpr ⟨hread, child, hchild, hvisited⟩
          · right
            refine ⟨name :: above, List.cons_lt_cons_iff.mpr (.inr ⟨rfl, hlt⟩),
              isVisited_cons.mpr ⟨hread, child, hchild, hvisited⟩, ?_⟩
            simpa [canList, hchild] using hlist

namespace FileTree

variable {t : FileTree} {root : Path} {top : Node} {steps : List String}

-- =========================================================== below a path

/-- The given names lead from the directory at `root` to a directory with the
given entries. No link is followed on the way. -/
def EntriesAt (t : FileTree) (root : Path) (steps : List String)
    (entries : List (String × Node)) : Prop :=
  ∃ top access, t.node root = .ok top
    ∧ top.descend? steps = some (.directory access entries)

/-- The given names lead from the directory at `root` to a directory. -/
def Below (t : FileTree) (root : Path) (steps : List String) : Prop :=
  ∃ entries, t.EntriesAt root steps entries

/-- Whether a path names a link. -/
def isLink (t : FileTree) (p : Path) : Bool :=
  match t.entry p with
  | .ok (.link _) => true
  | _ => false

theorem below_iff (h : t.node root = .ok top) :
    t.Below root steps ↔ top.HasDirectory steps := by
  constructor
  · rintro ⟨entries, top', access, htop, hd⟩
    cases h.symm.trans htop
    exact ⟨access, entries, hd⟩
  · rintro ⟨access, entries, hd⟩
    exact ⟨entries, top, access, h, hd⟩

/-- What a path leads to in a well-named tree is well-named. -/
theorem isWellNamed_of_node (hwell : t.root.isWellNamed = true)
    (h : t.node root = .ok top) : top.isWellNamed = true := by
  obtain ⟨place, -, hplace⟩ := exists_place_of_node h
  exact (Node.isWellNamed_of_descend hwell hplace).2

/-- A path to a directory leads to a node with entries. -/
theorem exists_directory_of_isDirectory (h : t.isDirectory root = true) :
    ∃ access entries, t.node root = .ok (.directory access entries) := by
  unfold isDirectory at h
  split at h
  next node hnode =>
    cases node with
    | file => cases h
    | link => cases h
    | directory access entries => exact ⟨access, entries, hnode⟩
  next => cases h

/-- Names of entries only are on the way to a directory below a path. -/
theorem Below.entryName (hwell : t.root.isWellNamed = true)
    (h : t.Below root steps) : ∀ s ∈ steps, EntryName s := by
  obtain ⟨entries, top, access, htop, hd⟩ := h
  exact (Node.isWellNamed_of_descend (isWellNamed_of_node hwell htop) hd).1

/-- Directories at different places below a path have different paths. -/
theorem Below.same_iff {steps' : List String}
    (hwell : t.root.isWellNamed = true) (h : t.Below root steps)
    (h' : t.Below root steps') :
    (root.under steps).same (root.under steps') ↔ steps = steps' := by
  have hplain : ∀ s ∈ steps, PlainName s :=
    fun s hs => (h.entryName hwell s hs).toPlainName
  have hplain' : ∀ s ∈ steps', PlainName s :=
    fun s hs => (h'.entryName hwell s hs).toPlainName
  obtain ⟨entries, top, access, htop, -⟩ := h
  exact Path.same_under_iff (text_ne_of_node htop) hplain hplain'

-- ================================================================ the tour

/-- What a walk tells of a directory. -/
def stopsAt (t : FileTree) (dir : Path) : List Visit :=
  .directory dir ::
    match t.list dir with
    | .ok _ => []
    | .error cause => [.unlistable dir cause]

/-- The directories that a walk over a path comes to, by their places and in
the order of the walk. -/
structure Tour (t : FileTree) (root : Path) (places : List (List String)) :
    Prop where
  sorted : places.Pairwise (· < ·)
  below : ∀ steps ∈ places, t.Below root steps
  complete : ∀ steps, t.Below root steps → steps ∈ places
    ∨ ∃ above ∈ places, above < steps
      ∧ ∃ cause, t.list (root.under above) = .error cause
  stops : ∀ top, t.node root = .ok top →
    (top.visits true root).filter Visit.isAtDirectory
      = (places.map root.under).flatMap t.stopsAt

/-- A walk that could list all directories it came to before comes to a
directory below the path. -/
theorem Tour.mem {places : List (List String)} (tour : Tour t root places)
    (hbelow : t.Below root steps)
    (h : ∀ above ∈ places, above < steps →
      ∃ names, t.list (root.under above) = .ok names) : steps ∈ places := by
  rcases tour.complete steps hbelow with
    hmem | ⟨above, hmem, hlt, cause, hcause⟩
  · exact hmem
  · obtain ⟨names, hnames⟩ := h above hmem hlt
    cases hnames.symm.trans hcause

/-- What comes before one of the places on a tour stands before it. -/
theorem Tour.mem_of_lt {earlier later : List (List String)}
    {place : List String} (tour : Tour t root (earlier ++ steps :: later))
    (hmem : place ∈ earlier ++ steps :: later) (hlt : place < steps) :
    place ∈ earlier := by
  rcases List.mem_append.mp hmem with hmem | hmem
  · exact hmem
  · exfalso
    rcases List.mem_cons.mp hmem with rfl | hmem
    · exact List.lt_irrefl _ hlt
    · have hsorted := (List.pairwise_append.mp tour.sorted).2.1
      have hgt := (List.pairwise_cons.mp hsorted).1 place hmem
      exact List.lt_asymm hlt hgt

/-- What the walk tells of a directory is what the tree answers about its
path. -/
theorem stops_eq_stopsAt (hwell : t.root.isWellNamed = true)
    (htop : t.node root = .ok top) (h : top.HasDirectory steps) :
    top.stops true root steps = t.stopsAt (root.under steps) := by
  obtain ⟨access, entries, hd⟩ := h
  have hbelow : t.Below root steps := ⟨entries, top, access, htop, hd⟩
  unfold Node.stops stopsAt
  rw [list_under htop (hbelow.entryName hwell) hd]
  cases top.canList true steps <;> rfl

/-- A walk from a path that is no link is the walk over what it leads to. -/
theorem visits_of_node (h : t.node root = .ok top)
    (hlink : t.isLink root = false) :
    t.visits root = top.visits true root := by
  unfold isLink at hlink
  unfold visits
  rw [h]
  split
  next target _ hentry _ =>
    rw [hentry] at hlink
    cases hlink
  next hfound _ =>
    cases hfound
    rfl
  next hfound => cases hfound

/-- A link that a walk starts at stands for the directory it leads to. -/
theorem visits_of_link (h : t.node root = .ok top)
    (hlink : t.isLink root = true) :
    t.visits root = .other root :: (top.visits true root).tail := by
  unfold isLink at hlink
  split at hlink
  next target hentry =>
    unfold visits
    rw [h, hentry]
  next => cases hlink

/-- What a survey says of a node is a tour of each path that leads there. -/
theorem Tour.of_survey {places : List (List String)}
    (hwell : t.root.isWellNamed = true) (htop : t.node root = .ok top)
    (survey : Node.Survey true top places) : Tour t root places := by
  refine ⟨survey.sorted, ?below, ?complete, ?stops⟩
  case below =>
    intro steps hsteps
    exact (below_iff htop).mpr ((survey.mem steps).mp hsteps).1
  case complete =>
    intro steps hbelow
    rcases Node.isVisited_or_cut ((below_iff htop).mp hbelow) with
      hvisited | ⟨above, hlt, hvisited, hlist⟩
    · exact .inl ((survey.mem steps).mpr hvisited)
    · right
      refine ⟨above, (survey.mem above).mpr hvisited, hlt, .accessDenied, ?_⟩
      obtain ⟨access', entries', hd⟩ := hvisited.1
      have habove := ((below_iff htop).mpr hvisited.1).entryName hwell
      rw [list_under htop habove hd, hlist]
      rfl
  case stops =>
    intro top' htop'
    cases htop.symm.trans htop'
    rw [survey.stops root, List.flatMap_map]
    apply List.flatMap_congr
    intro steps hsteps
    exact stops_eq_stopsAt hwell htop ((survey.mem steps).mp hsteps).1

/-- The walk over a directory of a well-named tree is a tour. -/
theorem exists_tour (hwell : t.root.isWellNamed = true)
    (h : t.isDirectory root = true) : ∃ places, Tour t root places := by
  obtain ⟨access, entries, htop⟩ := exists_directory_of_isDirectory h
  obtain ⟨places, survey⟩ :=
    Node.exists_survey _ true (isWellNamed_of_node hwell htop)
  exact ⟨places, .of_survey hwell htop survey⟩

end FileTree

end ProofBatch
