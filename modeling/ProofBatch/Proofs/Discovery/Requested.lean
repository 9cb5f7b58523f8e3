/-
What a search finds when proofs are asked for by name.

# The filter

The names filter all proofs, and a name without a proof is reported, unless a
fault comes first (`Filtered`). So it is whenever the root leads to a
directory, with one proviso for a root that is a link.

# Its limits

A root that leads to no directory is refused as such, whatever names are asked
for; and the directory behind a link is never taken itself, only what is in it.
In both cases the names do not act as a filter.
-/
import ProofBatch.Proofs.Discovery.Scan

namespace ProofBatch

/-- A refusal by the system while directories and files were read. -/
def RunError.isReadError : RunError → Bool
  | .proofFile .. => true
  | .unlistable .. => true
  | .io _ => true
  | _ => false

namespace Discovery

variable {t : FileTree} {marker : String} {root dir : Path} {e : RunError}
  {req : List String} {all : List (List String)} {units : List ProofUnit}

-- ===================================================================== faults

/-- A directory below a path cannot be listed, or a proof that is asked for has
a `Makefile` that cannot be read. -/
def Troubled (t : FileTree) (root : Path) (marker : String)
    (req : List String) : Prop :=
  (∃ steps, t.Below root steps
      ∧ ∃ cause, t.list (root.under steps) = .error cause)
    ∨ ∃ steps, Marked t root marker steps
      ∧ (root.under steps).baseName ∈ req ∧ ¬Legible t (root.under steps)

theorem wanted_some : wanted (some req) dir = true ↔ dir.baseName ∈ req :=
  List.contains_iff_mem

/-- A search has no trouble if and only if nothing that it needs is at
fault. -/
theorem not_troubled_iff (hwell : t.root.isWellNamed = true)
    (hmarker : PlainName marker) :
    ¬Troubled t root marker req ↔ Intact t root marker (some req) := by
  rw [intact_iff hwell hmarker]
  unfold Troubled
  constructor
  · intro h
    obtain ⟨hlist, hlegible⟩ := not_or.mp h
    constructor
    · intro steps hbelow
      cases hanswer : t.list (root.under steps) with
      | ok names => exact ⟨names, rfl⟩
      | error cause => exact absurd ⟨steps, hbelow, cause, hanswer⟩ hlist
    · intro steps hmarked hwanted
      by_contra hillegible
      exact hlegible ⟨steps, hmarked, wanted_some.mp hwanted, hillegible⟩
  · rintro ⟨hlist, hlegible⟩ (⟨steps, hbelow, cause, hcause⟩
      | ⟨steps, hmarked, hname, hillegible⟩)
    · obtain ⟨names, hnames⟩ := hlist steps hbelow
      cases hnames.symm.trans hcause
    · exact hillegible (hlegible steps hmarked (wanted_some.mpr hname))

/-- All faults are of reading. -/
theorem Fault.isReadError {requested : Option (List String)}
    (h : Fault t marker requested dir e) : e.isReadError = true := by
  cases h <;> rfl

-- ====================================================================== names

/-- The names under which the proofs at some places are asked for. -/
def baseNames (root : Path) (all : List (List String)) : List String :=
  (all.map root.under).map (·.baseName)

/-- What the names asked for select of all proofs: the ones so named, provided
that each name has one. -/
inductive Selected (t : FileTree) (root : Path) (req : List String)
    (all : List (List String)) : Except RunError (List ProofUnit) → Prop
  | missing (some_missing : ∃ name ∈ req, name ∉ baseNames root all) :
      Selected t root req all
        (.error (.proofsNotFound (req.filter (· ∉ baseNames root all))))
  | found {units : List ProofUnit}
      (all_there : ∀ name ∈ req, name ∈ baseNames root all)
      (told : List.Forall₂ (Describes t)
        ((all.map root.under).filter (·.baseName ∈ req)) units) :
      Selected t root req all (.ok units)

/-- The proofs are told under the paths of their directories. -/
theorem paths_of_told {dirs : List Path}
    (h : List.Forall₂ (Describes t) dirs units) :
    units.map (·.path) = dirs := by
  induction h with
  | nil => rfl
  | cons hunit _ ih => rw [List.map_cons, hunit.path, ih]

/-- A name that is asked for is missing among the proofs taken if no proof at
all has it. -/
theorem missing_eq (htold : List.Forall₂ (Describes t)
      ((all.map root.under).filter (wanted (some req))) units) :
    missing (some req) units = req.filter (· ∉ baseNames root all) := by
  have hnames : units.map (·.path.baseName)
      = ((all.map root.under).filter (wanted (some req))).map
        (·.baseName) := by
    rw [← paths_of_told htold, List.map_map]
    rfl
  unfold missing
  rw [hnames, Option.getD_some]
  apply List.filter_congr
  intro name hname
  have hmem : name ∈ ((all.map root.under).filter (wanted (some req))).map
        (·.baseName) ↔ name ∈ baseNames root all := by
    unfold baseNames
    simp only [List.mem_map (b := name), List.mem_filter, wanted_some]
    constructor
    · rintro ⟨dir, ⟨hdir, -⟩, rfl⟩
      exact ⟨dir, hdir, rfl⟩
    · rintro ⟨dir, hdir, rfl⟩
      exact ⟨dir, ⟨hdir, hname⟩, rfl⟩
  rw [List.contains_eq_mem, ← decide_not]
  exact decide_eq_decide.mpr (not_congr hmem)

/-- The answer to a search that nothing was in the way of. -/
theorem selected_of_told (htold : List.Forall₂ (Describes t)
      ((all.map root.under).filter (wanted (some req))) units) :
    Selected t root req all
      (match missing (some req) units with
        | [] => .ok units
        | names => .error (.proofsNotFound names)) := by
  rw [missing_eq htold]
  cases hmissing : req.filter (· ∉ baseNames root all) with
  | nil =>
      refine .found ?_ ?_
      · intro name hname
        simpa using List.filter_eq_nil_iff.mp hmissing name hname
      · have hfilter : (fun dir : Path => decide (dir.baseName ∈ req))
            = wanted (some req) := by
          funext dir
          exact Bool.eq_iff_iff.mpr (decide_eq_true_iff.trans wanted_some.symm)
        rw [hfilter]
        exact htold
  | cons name names =>
      have hname : name ∈ req.filter (· ∉ baseNames root all) := by
        rw [hmissing]
        exact List.mem_cons_self ..
      obtain ⟨hreq, hnone⟩ := List.mem_filter.mp hname
      show Selected t root req all (.error (.proofsNotFound (name :: names)))
      rw [← hmissing]
      exact .missing ⟨name, hreq, of_decide_eq_true hnone⟩

-- ================================================================= the filter

/-- The names asked for act as a filter on all proofs. -/
structure Filtered (t : FileTree) (root : Path) (marker : String)
    (req : List String) (answer : Except RunError (List ProofUnit)) :
    Prop where
  refused : (∃ e, answer = .error e ∧ e.isReadError = true)
    ↔ Troubled t root marker req
  answered : ¬Troubled t root marker req →
    ∃ all, Catalogue t root marker all ∧ Selected t root req all answer
  none_asked : req = [] → ¬Troubled t root marker req → answer = .ok []

/-- Of no names nothing is selected, and nothing is missing. -/
theorem Selected.eq_ok_nil {answer : Except RunError (List ProofUnit)}
    (h : Selected t root [] all answer) : answer = .ok [] := by
  cases h with
  | missing some_missing =>
      obtain ⟨name, hname, -⟩ := some_missing
      exact absurd hname List.not_mem_nil
  | found all_there told =>
      simp only [List.not_mem_nil, decide_false, List.filter_false] at told
      cases told
      rfl

/-- Where names are missing, nothing could not be read. -/
theorem Selected.not_isReadError (h : Selected t root req all (.error e)) :
    e.isReadError = false := by
  cases h
  rfl

/-- A search without trouble is filtered if it selects. -/
theorem Filtered.of_selected {answer : Except RunError (List ProofUnit)}
    (hcalm : ¬Troubled t root marker req)
    (hcatalogue : Catalogue t root marker all)
    (h : Selected t root req all answer) :
    Filtered t root marker req answer := by
  refine ⟨⟨?_, fun htroubled => absurd htroubled hcalm⟩,
    fun _ => ⟨all, hcatalogue, h⟩, ?_⟩
  · rintro ⟨e, rfl, hread⟩
    cases hread.symm.trans h.not_isReadError
  · rintro rfl -
    exact h.eq_ok_nil

/-- A search with trouble is filtered if it says so. -/
theorem Filtered.of_refused (htroubled : Troubled t root marker req)
    (h : e.isReadError = true) : Filtered t root marker req (.error e) :=
  ⟨⟨fun _ => htroubled, fun _ => ⟨e, rfl, h⟩⟩,
    fun hcalm => absurd htroubled hcalm, fun _ hcalm => absurd htroubled hcalm⟩

/-- A search by names below a directory is filtered. If the search starts at a
link, its directory must not be a proof that is asked for. -/
theorem discover_filtered (hwell : t.root.isWellNamed = true)
    (hroot : t.isDirectory root = true) (hmarker : PlainName marker)
    (hlink : t.isLink root = true → root.baseName ∈ req →
      t.isFile (root.join marker) = false) :
    Filtered t root marker req (discover t root marker (some req)) := by
  have hcalm : ¬Troubled t root marker req ↔ Intact t root marker (some req) :=
    not_troubled_iff hwell hmarker
  have hbehind : t.isLink root = true →
      isProof t marker (some req) root = false := by
    intro hl
    apply Bool.eq_false_iff.mpr
    intro hproof
    have hname := wanted_some.mp (wanted_of_isProof hproof)
    cases (hlink hl hname).symm.trans (isFile_of_isProof hproof)
  have houtcome := collect_visits hwell hroot hmarker hbehind
  rw [discover_eq hmarker.nonempty hroot]
  generalize (collect t marker (some req) (t.visits root)).result = collected
    at houtcome
  cases houtcome with
  | complete intact catalogue told =>
      exact .of_selected (hcalm.mpr intact) catalogue (selected_of_told told)
  | stopped first =>
      refine .of_refused ?_ first.fault.isReadError
      by_contra hnone
      exact first.not_intact (hcalm.mp hnone)

/-- Nothing is looked for below a root that is no directory. -/
theorem discover_of_not_directory {requested : Option (List String)}
    (hmarker : marker ≠ "") (hroot : t.isDirectory root = false) :
    discover t root marker requested = .error (.proofRoot root) := by
  unfold discover search
  rw [if_neg hmarker, hroot]
  rfl

/-- A proof with another one in it, and a link to the outer one. -/
def linked : FileTree :=
  { root := .directory {} [
      ("d", .directory {} [
        ("a", .directory {} [("mark", .file {} [])]), ("mark", .file {} [])]),
      ("l", .link "d")] }

theorem visits_linked : linked.visits ⟨"l"⟩
    = [.other ⟨"l"⟩, .directory ⟨"l/a"⟩, .other ⟨"l/a/mark"⟩,
      .other ⟨"l/mark"⟩] := by
  rw [FileTree.visits_of_link rfl rfl]
  simp [Node.visits, Node.visitsBelow, List.mergeSort, entryLe, Path.join]

theorem root_linked :
    linked.isDirectory ⟨"l"⟩ = true ∧ linked.isDirectory ⟨"nope"⟩ = false :=
  ⟨rfl, rfl⟩

theorem isFile_linked :
    linked.isFile ((Path.mk "l").join "mark") = true
      ∧ linked.isFile ((Path.mk "l/a").join "mark") = true :=
  ⟨rfl, rfl⟩

theorem readText_linked :
    linked.readText ((Path.mk "l/a").join ProofUnit.makefile)
      = .error .notFound :=
  rfl

/-- Behind the link, only the inner proof can be found by name. -/
theorem discover_linked (req : List String) :
    discover linked ⟨"l"⟩ "mark" (some req)
      = match missing (some req)
          (if "a" ∈ req then [⟨⟨"l/a"⟩, true, none⟩] else []) with
        | [] => .ok (if "a" ∈ req then [⟨⟨"l/a"⟩, true, none⟩] else [])
        | names => .error (.proofsNotFound names) := by
  have hname : (Path.mk "l/a").baseName = "a" := by decide
  have hwanted : wanted (some req) ⟨"l/a"⟩ = decide ("a" ∈ req) := by
    rw [Bool.eq_iff_iff, wanted_some, hname, decide_eq_true_iff]
  rw [discover_eq (by decide) root_linked.1, visits_linked]
  simp only [collect_directory, collect_other, isProof, isFile_linked.2,
    hwanted, load_absent readText_linked]
  by_cases ha : "a" ∈ req <;> simp only [ha] <;> rfl

/-- Names without a proof are reported as often as they are asked for. -/
theorem discover_filtered_linked :
    linked.root.isWellNamed = true ∧ linked.isDirectory ⟨"l"⟩ = true
      ∧ PlainName "mark"
      ∧ (linked.isLink ⟨"l"⟩ = true
        → (Path.mk "l").baseName ∈ ["b", "a", "b"] →
        linked.isFile ((Path.mk "l").join "mark") = false)
      ∧ Filtered linked ⟨"l"⟩ "mark" ["b", "a", "b"]
        (.error (.proofsNotFound ["b", "b"])) := by
  have hwell : linked.root.isWellNamed = true := by decide
  have hroot : linked.isDirectory ⟨"l"⟩ = true := root_linked.1
  have hmarker : PlainName "mark" := by decide
  have hlink : linked.isLink ⟨"l"⟩ = true →
      (Path.mk "l").baseName ∈ ["b", "a", "b"] →
      linked.isFile ((Path.mk "l").join "mark") = false := by
    intro _ hname
    exact absurd hname (by decide)
  have hanswer : discover linked ⟨"l"⟩ "mark" (some ["b", "a", "b"])
      = .error (.proofsNotFound ["b", "b"]) := discover_linked _
  refine ⟨hwell, hroot, hmarker, hlink, ?_⟩
  rw [← hanswer]
  exact discover_filtered hwell hroot hmarker hlink

-- ================================================================= the limits

/-- An error in selecting means that some name is missing. -/
theorem Selected.some_missing (h : Selected t root req all (.error e)) :
    ∃ name ∈ req, name ∉ baseNames root all := by
  cases h with
  | missing some_missing => exact some_missing

/-- An error that is not of reading comes of selecting. -/
theorem Filtered.selected (h : Filtered t root marker req (.error e))
    (he : e.isReadError = false) :
    ∃ all, Catalogue t root marker all
      ∧ Selected t root req all (.error e) := by
  apply h.answered
  intro htroubled
  obtain ⟨e', he', hread⟩ := h.refused.mpr htroubled
  cases he'
  cases he.symm.trans hread

/-- Names are no filter if the root leads to no directory, nor if it is a link
and the directory behind it is asked for. -/
theorem not_filtered :
    ¬Filtered linked ⟨"nope"⟩ "mark" ["a"]
        (discover linked ⟨"nope"⟩ "mark" (some ["a"]))
      ∧ ¬Filtered linked ⟨"l"⟩ "mark" ["l"]
        (discover linked ⟨"l"⟩ "mark" (some ["l"])) := by
  constructor
  · rw [discover_of_not_directory (by decide) root_linked.2]
    intro h
    obtain ⟨all, -, hselected⟩ := h.selected rfl
    cases hselected
  · have hanswer : discover linked ⟨"l"⟩ "mark" (some ["l"])
        = .error (.proofsNotFound ["l"]) := discover_linked _
    rw [hanswer]
    intro h
    obtain ⟨all, hcatalogue, hselected⟩ := h.selected rfl
    obtain ⟨name, hname, hnone⟩ := hselected.some_missing
    cases List.mem_singleton.mp hname
    -- the directory behind the link is a proof, and has the name of the link
    apply hnone
    obtain ⟨access, entries, htop⟩ :=
      FileTree.exists_directory_of_isDirectory root_linked.1
    have hbelow : linked.Below ⟨"l"⟩ [] := ⟨entries, _, access, htop, rfl⟩
    have hmarked : Marked linked ⟨"l"⟩ "mark" [] :=
      (marked_iff (by decide) (by decide)).mpr ⟨hbelow, isFile_linked.1⟩
    have hbase : (Path.mk "l").baseName = "l" := by decide
    have hmem := (hcatalogue.mem []).mpr hmarked
    exact List.mem_map.mpr ⟨⟨"l"⟩, List.mem_map.mpr ⟨[], hmem, rfl⟩, hbase⟩

end Discovery

end ProofBatch
