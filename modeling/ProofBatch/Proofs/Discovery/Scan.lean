/-
What a search makes of the directories that a walk comes to.

# One directory

A directory can be at fault in two ways: it is a proof that is asked for and
has a `Makefile` that cannot be read, or it cannot be listed (`Fault`). The
first is met before the second. If a directory is at fault the search ends with
that (`collect_fault`), otherwise it goes on, with one proof more if the
directory is one (`collect_sound`).

# All directories

So a search finds all proofs, if no directory is at fault, and otherwise ends
with the fault of the first one that is (`collect_tour`).
-/
import Mathlib.Data.List.Forall2
import ProofBatch.Discovery
import ProofBatch.Proofs.FileTree.Tour

namespace ProofBatch.Discovery

variable {t : FileTree} {marker : String} {requested : Option (List String)}
  {root dir : Path} {e : RunError} {unit : ProofUnit} {steps : List String}

-- =================================================================== one stop

/-- At a directory, the search takes the proof in it, if it is one, and goes on
or stops there. -/
theorem collect_directory (rest : List Visit) :
    collect t marker requested (.directory dir :: rest)
      = if isProof t marker requested dir then
          match ProofUnit.load t dir marker with
          | .error e => { found := [dir], result := .error e }
          | .ok unit =>
            let later := collect t marker requested rest
            { found := dir :: later.found
              result := later.result.map (unit :: ·) }
        else collect t marker requested rest :=
  (rfl)

theorem collect_other (rest : List Visit) :
    collect t marker requested (.other dir :: rest)
      = collect t marker requested rest :=
  rfl

/-- A directory that is no proof, or not wanted, is passed. -/
theorem collect_passed (h : isProof t marker requested dir = false)
    (rest : List Visit) :
    collect t marker requested (.directory dir :: rest)
      = collect t marker requested rest := by
  rw [collect_directory, h]
  rfl

/-- A proof that can be loaded comes before all that are found later. -/
theorem collect_loaded (h : isProof t marker requested dir = true)
    (hload : ProofUnit.load t dir marker = .ok unit) (rest : List Visit) :
    (collect t marker requested (.directory dir :: rest)).result
      = (collect t marker requested rest).result.map (unit :: ·) := by
  rw [collect_directory, if_pos h, hload]

/-- A proof that cannot be loaded stops the search. -/
theorem collect_unloaded (h : isProof t marker requested dir = true)
    (hload : ProofUnit.load t dir marker = .error e) (rest : List Visit) :
    (collect t marker requested (.directory dir :: rest)).result
      = .error e := by
  rw [collect_directory, if_pos h, hload]

-- ================================================================== one proof

/-- The `Makefile` of a directory is absent, or a text that can be read. -/
def Legible (t : FileTree) (dir : Path) : Prop :=
  ∀ cause, t.readText (dir.join ProofUnit.makefile) = .error cause →
    cause = .notFound

/-- What is told of the proof in a directory: the identifier is the one that
the `Makefile` declares, none if there is no `Makefile`. -/
structure Describes (t : FileTree) (dir : Path) (unit : ProofUnit) : Prop where
  path : unit.path = dir
  marked : unit.marked = true
  uid : (∃ text, t.readText (dir.join ProofUnit.makefile) = .ok text
      ∧ unit.uid = Identifier.declared? text)
    ∨ (t.readText (dir.join ProofUnit.makefile) = .error .notFound
      ∧ unit.uid = none)

theorem isFile_of_isProof (h : isProof t marker requested dir = true) :
    t.isFile (dir.join marker) = true :=
  (Bool.and_eq_true_iff.mp h).1

theorem wanted_of_isProof (h : isProof t marker requested dir = true) :
    wanted requested dir = true :=
  (Bool.and_eq_true_iff.mp h).2

/-- A proof with a makefile has the identifier that it declares. -/
theorem load_text {text : String}
    (h : t.readText (dir.join ProofUnit.makefile) = .ok text) :
    ProofUnit.load t dir marker
      = .ok ⟨dir, t.isFile (dir.join marker), Identifier.declared? text⟩ := by
  unfold ProofUnit.load ProofUnit.loadUid
  rw [h]

/-- A proof without a makefile has no identifier, and that is not an error. -/
theorem load_absent
    (h : t.readText (dir.join ProofUnit.makefile) = .error .notFound) :
    ProofUnit.load t dir marker
      = .ok ⟨dir, t.isFile (dir.join marker), none⟩ := by
  unfold ProofUnit.load ProofUnit.loadUid
  rw [h]

/-- A makefile that cannot be read is an error, and the error names it. -/
theorem load_illegible {cause : IoError}
    (h : t.readText (dir.join ProofUnit.makefile) = .error cause)
    (hne : cause ≠ .notFound) :
    ProofUnit.load t dir marker
      = .error (.proofFile (dir.join ProofUnit.makefile) cause) := by
  unfold ProofUnit.load ProofUnit.loadUid
  rw [h]
  cases cause with
  | notFound => exact absurd rfl hne
  | _ => rfl

/-- The proof in a directory can be loaded if its `Makefile` is legible. -/
theorem exists_load_ok (h : isProof t marker requested dir = true)
    (hlegible : Legible t dir) :
    ∃ unit, ProofUnit.load t dir marker = .ok unit ∧ Describes t dir unit := by
  cases hread : t.readText (dir.join ProofUnit.makefile) with
  | ok text =>
      exact ⟨_, load_text hread, rfl, isFile_of_isProof h,
        .inl ⟨text, hread, rfl⟩⟩
  | error cause =>
      cases hlegible cause hread
      exact ⟨_, load_absent hread, rfl, isFile_of_isProof h, .inr ⟨hread, rfl⟩⟩

-- ============================================================== one directory

/-- What is wrong with a directory when a search comes to it. -/
inductive Fault (t : FileTree) (marker : String)
    (requested : Option (List String)) (dir : Path) : RunError → Prop
  | makefile {cause : IoError} (proof : isProof t marker requested dir = true)
      (unread : t.readText (dir.join ProofUnit.makefile) = .error cause)
      (there : cause ≠ .notFound) :
      Fault t marker requested dir
        (.proofFile (dir.join ProofUnit.makefile) cause)
  | listing {cause : IoError}
      (legible : isProof t marker requested dir = true → Legible t dir)
      (unlisted : t.list dir = .error cause) :
      Fault t marker requested dir (.unlistable dir cause)

/-- Of a directory at fault one thing is told. -/
theorem Fault.unique {e' : RunError} (h : Fault t marker requested dir e)
    (h' : Fault t marker requested dir e') : e = e' := by
  cases h with
  | makefile proof unread there =>
      cases h' with
      | makefile _ unread' _ =>
          cases unread.symm.trans unread'
          rfl
      | listing legible _ => exact absurd (legible proof _ unread) there
  | listing legible unlisted =>
      cases h' with
      | makefile proof unread there =>
          exact absurd (legible proof _ unread) there
      | listing _ unlisted' =>
          cases unlisted.symm.trans unlisted'
          rfl

/-- A directory is not at fault if it can be listed and, should it be a proof
that is asked for, its `Makefile` can be read. -/
theorem no_fault_iff :
    (∀ e, ¬Fault t marker requested dir e)
      ↔ (∃ names, t.list dir = .ok names)
        ∧ (isProof t marker requested dir = true → Legible t dir) := by
  constructor
  · intro h
    have hlegible : isProof t marker requested dir = true → Legible t dir := by
      intro hproof cause hcause
      by_contra hne
      exact h _ (.makefile hproof hcause hne)
    refine ⟨?_, hlegible⟩
    cases hlist : t.list dir with
    | ok names => exact ⟨names, rfl⟩
    | error cause => exact absurd (.listing hlegible hlist) (h _)
  · rintro ⟨⟨names, hlist⟩, hlegible⟩ e he
    cases he with
    | makefile proof unread there =>
        exact there (hlegible proof _ unread)
    | listing _ unlisted => cases hlist.symm.trans unlisted

/-- A directory at fault ends a search. -/
theorem collect_fault (h : Fault t marker requested dir e)
    (rest : List Visit) :
    (collect t marker requested (t.stopsAt dir ++ rest)).result
      = .error e := by
  unfold FileTree.stopsAt
  rw [List.cons_append]
  cases h with
  | makefile proof unread there =>
      exact collect_unloaded proof (load_illegible unread there) _
  | listing legible unlisted =>
      rw [unlisted]
      cases hproof : isProof t marker requested dir with
      | false =>
          rw [collect_passed hproof]
          rfl
      | true =>
          obtain ⟨unit, hload, -⟩ := exists_load_ok hproof (legible hproof)
          rw [collect_loaded hproof hload]
          rfl

/-- Past a directory that is not at fault a search goes on, with its proof if
there is one. -/
theorem collect_sound (h : ∀ e, ¬Fault t marker requested dir e)
    (rest : List Visit) :
    ∃ units, List.Forall₂ (Describes t)
        ([dir].filter (isProof t marker requested)) units
      ∧ (collect t marker requested (t.stopsAt dir ++ rest)).result
        = (collect t marker requested rest).result.map (units ++ ·) := by
  obtain ⟨⟨names, hlist⟩, hlegible⟩ := no_fault_iff.mp h
  unfold FileTree.stopsAt
  rw [hlist, List.singleton_append]
  cases hproof : isProof t marker requested dir with
  | false =>
      refine ⟨[], ?_, ?_⟩
      · rw [List.filter_cons_of_neg (by rw [hproof]; decide)]
        exact .nil
      · rw [collect_passed hproof]
        cases (collect t marker requested rest).result <;> rfl
  | true =>
      obtain ⟨unit, hload, hunit⟩ := exists_load_ok hproof (hlegible hproof)
      refine ⟨[unit], ?_, collect_loaded hproof hload rest⟩
      rw [List.filter_cons_of_pos hproof]
      exact .cons hunit .nil

-- ============================================================ all directories

/-- A search of the given directories, one after the other. -/
theorem collect_dirs (dirs : List Path) :
    (∃ units, (collect t marker requested (dirs.flatMap t.stopsAt)).result
          = .ok units
        ∧ List.Forall₂ (Describes t)
          (dirs.filter (isProof t marker requested)) units
        ∧ ∀ dir ∈ dirs, ∀ e, ¬Fault t marker requested dir e)
      ∨ ∃ before dir after e, dirs = before ++ dir :: after
        ∧ (collect t marker requested (dirs.flatMap t.stopsAt)).result
          = .error e
        ∧ Fault t marker requested dir e
        ∧ ∀ d ∈ before, ∀ e, ¬Fault t marker requested d e := by
  induction dirs with
  | nil => exact .inl ⟨[], rfl, .nil, fun d hd => absurd hd List.not_mem_nil⟩
  | cons dir rest ih =>
      rw [List.flatMap_cons]
      -- either the search is over, or it goes on as if it started here
      by_cases hfault : ∃ e, Fault t marker requested dir e
      · obtain ⟨e, he⟩ := hfault
        right
        exact ⟨[], dir, rest, e, rfl, collect_fault he _, he,
          fun d hd => absurd hd List.not_mem_nil⟩
      · have hsound : ∀ e, ¬Fault t marker requested dir e :=
          not_exists.mp hfault
        obtain ⟨units, hunits, hresult⟩ :=
          collect_sound hsound (rest.flatMap t.stopsAt)
        rw [hresult]
        rcases ih with ⟨later, hlater, hall, hrest⟩
          | ⟨before, d, after, e, rfl, hlater, he, hbefore⟩
        · left
          refine ⟨units ++ later, by rw [hlater]; rfl, ?_,
            List.forall_mem_cons.mpr ⟨hsound, hrest⟩⟩
          have hsplit : (dir :: rest).filter (isProof t marker requested)
              = [dir].filter (isProof t marker requested)
                ++ rest.filter (isProof t marker requested) :=
            List.filter_append [dir] rest
          rw [hsplit]
          exact List.rel_append hunits hall
        · right
          exact ⟨dir :: before, d, after, e, rfl, by rw [hlater]; rfl, he,
            List.forall_mem_cons.mpr ⟨hsound, hbefore⟩⟩

/-- Only stops at directories count. -/
theorem collect_filter (visits : List Visit) :
    collect t marker requested (visits.filter Visit.isAtDirectory)
      = collect t marker requested visits := by
  induction visits with
  | nil => rfl
  | cons visit rest ih =>
      cases visit with
      | other path => exact ih
      | directory dir =>
          rw [List.filter_cons_of_pos (by rfl), collect_directory,
            collect_directory, ih]
      | unlistable path cause => rfl

-- =================================================================== the tour

/-- The given names lead from the directory at `root` to a directory that has
an entry for the marker, and that entry leads to a file. -/
structure Marked (t : FileTree) (root : Path) (marker : String)
    (steps : List String) : Prop where
  entry : ∃ entries, t.EntriesAt root steps entries
    ∧ marker ∈ entries.map (·.1)
  file : t.isFile ((root.under steps).join marker) = true

/-- A marker file that is found below a path is an entry of its directory. -/
theorem marked_iff (hwell : t.root.isWellNamed = true)
    (hmarker : PlainName marker) :
    Marked t root marker steps
      ↔ t.Below root steps
        ∧ t.isFile ((root.under steps).join marker) = true := by
  constructor
  · rintro ⟨⟨entries, hentries, -⟩, hfile⟩
    exact ⟨⟨entries, hentries⟩, hfile⟩
  · rintro ⟨hbelow, hfile⟩
    have hnames := hbelow.entryName hwell
    obtain ⟨entries, top, access, htop, hd⟩ := hbelow
    obtain ⟨entry, hentry⟩ :=
      FileTree.exists_entry_of_isFile htop hnames hd hmarker hfile
    have hmem := List.mem_map_of_mem (f := (·.1)) (Node.mem_of_lookup hentry)
    exact ⟨⟨entries, ⟨top, access, htop, hd⟩, hmem⟩, hfile⟩

/-- All proofs below a path, asked for or not, each once. The lexicographic
order on places is that of a walk: a directory comes before all that is below
it, and entries of a directory come by name. -/
structure Catalogue (t : FileTree) (root : Path) (marker : String)
    (all : List (List String)) : Prop where
  sorted : all.Pairwise (· < ·)
  mem : ∀ steps, steps ∈ all ↔ Marked t root marker steps

/-- No directory below a path is at fault. -/
def Intact (t : FileTree) (root : Path) (marker : String)
    (requested : Option (List String)) : Prop :=
  ∀ steps, t.Below root steps →
    ∀ e, ¬Fault t marker requested (root.under steps) e

/-- No directory is at fault when all can be listed and every proof that is
asked for has a `Makefile` that can be read, or none. -/
theorem intact_iff (hwell : t.root.isWellNamed = true)
    (hmarker : PlainName marker) :
    Intact t root marker requested
      ↔ (∀ steps, t.Below root steps →
          ∃ names, t.list (root.under steps) = .ok names)
        ∧ ∀ steps, Marked t root marker steps →
          wanted requested (root.under steps) = true →
          Legible t (root.under steps) := by
  constructor
  · intro h
    refine ⟨fun steps hbelow => (no_fault_iff.mp (h steps hbelow)).1, ?_⟩
    intro steps hmarked hwanted
    obtain ⟨hbelow, hfile⟩ := (marked_iff hwell hmarker).mp hmarked
    apply (no_fault_iff.mp (h steps hbelow)).2
    exact Bool.and_eq_true_iff.mpr ⟨hfile, hwanted⟩
  · rintro ⟨hlist, hlegible⟩ steps hbelow
    apply no_fault_iff.mpr
    refine ⟨hlist steps hbelow, fun hproof => ?_⟩
    have hfile := isFile_of_isProof hproof
    exact hlegible steps ((marked_iff hwell hmarker).mpr ⟨hbelow, hfile⟩)
      (wanted_of_isProof hproof)

/-- The directory at fault that a walk comes to first. -/
structure FirstFault (t : FileTree) (root : Path) (marker : String)
    (requested : Option (List String)) (steps : List String) (e : RunError) :
    Prop where
  below : t.Below root steps
  fault : Fault t marker requested (root.under steps) e
  first : ∀ earlier, earlier < steps → t.Below root earlier →
    ∀ e', ¬Fault t marker requested (root.under earlier) e'

/-- Where there is a first fault, something is at fault. -/
theorem FirstFault.not_intact
    (h : FirstFault t root marker requested steps e) :
    ¬Intact t root marker requested :=
  fun hintact => hintact steps h.below e h.fault

/-- There is only one first fault: each of two would come before the other. -/
theorem FirstFault.unique {steps' : List String} {e' : RunError}
    (h : FirstFault t root marker requested steps e)
    (h' : FirstFault t root marker requested steps' e') : e = e' := by
  have hnot : ¬steps' < steps :=
    fun hlt => h.first steps' hlt h'.below e' h'.fault
  have hnot' : ¬steps < steps' :=
    fun hlt => h'.first steps hlt h.below e h.fault
  cases Std.Trichotomous.trichotomous steps steps' hnot' hnot
  exact h.fault.unique h'.fault

/-- What a search of all directories below a path comes to: the proofs that are
asked for, or the first fault. -/
inductive Outcome (t : FileTree) (root : Path) (marker : String)
    (requested : Option (List String)) :
    Except RunError (List ProofUnit) → Prop
  | complete {all : List (List String)} {units : List ProofUnit}
      (intact : Intact t root marker requested)
      (catalogue : Catalogue t root marker all)
      (told : List.Forall₂ (Describes t)
        ((all.map root.under).filter (wanted requested)) units) :
      Outcome t root marker requested (.ok units)
  | stopped {steps : List String} {e : RunError}
      (first : FirstFault t root marker requested steps e) :
      Outcome t root marker requested (.error e)

/-- The proofs that are asked for, taken from all proofs. -/
theorem filter_isProof (places : List (List String)) :
    ((places.filter fun steps => t.isFile ((root.under steps).join marker)).map
        root.under).filter (wanted requested)
      = (places.map root.under).filter (isProof t marker requested) := by
  rw [List.filter_map, List.filter_map, List.filter_filter]
  congr 1
  apply List.filter_congr
  intro steps _
  exact Bool.and_comm ..

section Tour

variable {places : List (List String)} (tour : t.Tour root places)

include tour

/-- If no directory that a walk comes to is at fault, it comes to all. -/
theorem mem_of_sound (hsound : ∀ dir ∈ places.map root.under,
      ∀ e, ¬Fault t marker requested dir e)
    (hbelow : t.Below root steps) : steps ∈ places := by
  apply tour.mem hbelow
  intro above hmem _
  exact (no_fault_iff.mp (hsound _ (List.mem_map_of_mem hmem))).1

/-- The directory at fault that a walk comes to first is the first of all. What
the walk misses is below a directory that cannot be listed, and that one is at
fault itself. -/
theorem firstFault_of_tour {earlier later : List (List String)}
    (hplaces : places = earlier ++ steps :: later)
    (hfault : Fault t marker requested (root.under steps) e)
    (hsound : ∀ dir ∈ earlier.map root.under,
      ∀ e, ¬Fault t marker requested dir e) :
    FirstFault t root marker requested steps e := by
  subst hplaces
  refine ⟨tour.below steps (by simp), hfault, ?_⟩
  have hvisited : ∀ place ∈ earlier ++ steps :: later, place < steps →
      ∀ e, ¬Fault t marker requested (root.under place) e := by
    intro place hmem hlt
    exact hsound _ (List.mem_map_of_mem (tour.mem_of_lt hmem hlt))
  -- so no directory on the way to an earlier one can have cut the walk off
  intro place hlt hbelow
  apply hvisited place ?_ hlt
  apply tour.mem hbelow
  intro above hmem habove
  exact (no_fault_iff.mp (hvisited above hmem (List.lt_trans habove hlt))).1

variable (hwell : t.root.isWellNamed = true)

include hwell

/-- If no directory is at fault, all proofs are among those that a walk comes
to. -/
theorem catalogue_of_sound (hmarker : PlainName marker)
    (hsound : ∀ dir ∈ places.map root.under,
      ∀ e, ¬Fault t marker requested dir e) :
    Catalogue t root marker
      (places.filter fun steps =>
        t.isFile ((root.under steps).join marker)) := by
  refine ⟨tour.sorted.filter _, fun steps => ?_⟩
  rw [List.mem_filter, marked_iff hwell hmarker]
  constructor
  · rintro ⟨hmem, hfile⟩
    exact ⟨tour.below steps hmem, hfile⟩
  · rintro ⟨hbelow, hfile⟩
    exact ⟨mem_of_sound tour hsound hbelow, hfile⟩

/-- A search of all directories that a walk comes to. -/
theorem collect_tour (hmarker : PlainName marker) :
    Outcome t root marker requested (collect t marker requested
      ((places.map root.under).flatMap t.stopsAt)).result := by
  rcases collect_dirs (places.map root.under) with
    ⟨units, hresult, hunits, hsound⟩
    | ⟨before, dir, after, e, hdirs, hresult, hfault, hsound⟩
  · rw [hresult]
    refine .complete ?_ (catalogue_of_sound tour hwell hmarker hsound) ?_
    · intro steps hbelow
      have hmem := mem_of_sound tour hsound hbelow
      exact hsound _ (List.mem_map_of_mem hmem)
    · rw [filter_isProof]
      exact hunits
  · rw [hresult]
    obtain ⟨earlier, tail, hplaces, rfl, htail⟩ :=
      List.map_eq_append_iff.mp hdirs
    obtain ⟨steps, later, rfl, rfl, -⟩ := List.map_eq_cons_iff.mp htail
    exact .stopped (firstFault_of_tour tour hplaces hfault hsound)

end Tour

-- =================================================================== the walk

/-- A search of a directory and all below it. A link that the search starts at
makes no difference unless the directory it leads to is itself a proof that is
asked for. -/
theorem collect_visits (hwell : t.root.isWellNamed = true)
    (hroot : t.isDirectory root = true) (hmarker : PlainName marker)
    (hlink : t.isLink root = true → isProof t marker requested root = false) :
    Outcome t root marker requested
      (collect t marker requested (t.visits root)).result := by
  obtain ⟨places, tour⟩ := FileTree.exists_tour hwell hroot
  obtain ⟨access, entries, htop⟩ :=
    FileTree.exists_directory_of_isDirectory hroot
  have hsame : collect t marker requested (t.visits root)
      = collect t marker requested
        ((Node.directory access entries).visits true root) := by
    cases hl : t.isLink root with
    | false => rw [FileTree.visits_of_node htop hl]
    | true =>
        obtain ⟨rest, hrest⟩ :=
          Node.exists_visits_directory access entries root
        rw [FileTree.visits_of_link htop hl, hrest, List.tail_cons,
          collect_other, collect_passed (hlink hl)]
  rw [hsame, ← collect_filter, tour.stops _ htop]
  exact collect_tour tour hwell hmarker

/-- What a search answers with: what it collected, unless a name asked for is
missing. -/
theorem discover_eq (hmarker : marker ≠ "")
    (hroot : t.isDirectory root = true) :
    discover t root marker requested
      = match (collect t marker requested (t.visits root)).result with
        | .error e => .error e
        | .ok units =>
          match missing requested units with
          | [] => .ok units
          | names => .error (.proofsNotFound names) := by
  unfold discover search
  rw [if_neg hmarker, hroot, if_neg (by decide)]
  cases hresult : (collect t marker requested (t.visits root)).result with
  | error e => simp only [hresult]
  | ok units =>
      cases hmissing : missing requested units with
      | nil => simp only [hresult, hmissing]
      | cons name names => simp only [hresult, hmissing]

end ProofBatch.Discovery
