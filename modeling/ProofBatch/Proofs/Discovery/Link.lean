/-
A search that starts at a link, and one that starts at the directory that the
link leads to.

# Below the directory

Both searches come to the same directories, each under its own path, and find
the same in them: the walk goes by the tree, and what is asked of a path below
goes on from where the link leads (`FileTree.Alias`). So from their first
directory on, both answer the same but for the paths (`agree_pastFirst`).

# The directory itself

The walk that starts at a link tells of the link, and not of the directory
behind it. So a proof in that directory itself is found by one search only.
That is all the difference there is (`ThroughLink`): the searches agree unless
the directory is marked, and if it is, only where both are refused.
-/
import ProofBatch.Proofs.Discovery.Exact
import ProofBatch.Proofs.Discovery.Requested
import ProofBatch.Proofs.FileTree.Aliases

namespace ProofBatch.Discovery

variable {t : FileTree} {marker : String} {p q dir link : Path}
  {steps : List String}

-- ================================================================== agreement

/-- Two answers in the given relation, or two refusals. -/
inductive Agree {α : Type} (R : α → α → Prop) :
    Except RunError α → Except RunError α → Prop
  | ok {a b : α} (related : R a b) : Agree R (.ok a) (.ok b)
  | error (e e' : RunError) : Agree R (.error e) (.error e')

/-- The same is told of the proofs in one directory below `p` and in the one at
the same place below `q`. -/
structure Moved (t : FileTree) (p q : Path) (unit unit' : ProofUnit) :
    Prop where
  path : ∃ steps, t.Below p steps
    ∧ unit.path = p.under steps ∧ unit'.path = q.under steps
  marked : unit.marked = unit'.marked
  uid : unit.uid = unit'.uid

/-- All that a search asks about a directory has the same answers under both
paths. -/
structure Twins (t : FileTree) (marker : String) (p q : Path)
    (steps : List String) : Prop where
  below : t.Below p steps
  file : t.isFile ((p.under steps).join marker)
    = t.isFile ((q.under steps).join marker)
  text : t.readText ((p.under steps).join ProofUnit.makefile)
    = t.readText ((q.under steps).join ProofUnit.makefile)
  listing : t.list (p.under steps) = t.list (q.under steps)

/-- One stop of each walk: at twins, or at two directories that cannot be
listed. -/
inductive Abreast (t : FileTree) (marker : String) (p q : Path) :
    Visit → Visit → Prop
  | directory {steps : List String} (twins : Twins t marker p q steps) :
      Abreast t marker p q (.directory (p.under steps))
        (.directory (q.under steps))
  | unlistable (path path' : Path) (cause cause' : IoError) :
      Abreast t marker p q (.unlistable path cause) (.unlistable path' cause')

/-- At one place, the walks stop abreast. -/
theorem Twins.stops (h : Twins t marker p q steps) :
    List.Forall₂ (Abreast t marker p q) (t.stopsAt (p.under steps))
      (t.stopsAt (q.under steps)) := by
  unfold FileTree.stopsAt
  rw [h.listing]
  cases t.list (q.under steps) with
  | ok names => exact .cons (.directory h) .nil
  | error cause => exact .cons (.directory h) (.cons (.unlistable ..) .nil)

/-- A place is a proof under both paths or under neither. -/
theorem Twins.isProof (h : Twins t marker p q steps) :
    isProof t marker none (p.under steps)
      = isProof t marker none (q.under steps) := by
  unfold Discovery.isProof
  rw [h.file]
  rfl

/-- The two walks stop abreast all the way. -/
theorem forall₂_stopsAt {places : List (List String)}
    (h : ∀ steps ∈ places, Twins t marker p q steps) :
    List.Forall₂ (Abreast t marker p q)
      ((places.map p.under).flatMap t.stopsAt)
      ((places.map q.under).flatMap t.stopsAt) := by
  induction places with
  | nil => exact .nil
  | cons steps rest ih =>
      obtain ⟨hsteps, hrest⟩ := List.forall_mem_cons.mp h
      exact List.rel_append hsteps.stops (ih hrest)

/-- Of twins the same is told. -/
theorem Twins.load (h : Twins t marker p q steps) :
    Agree (Moved t p q) (ProofUnit.load t (p.under steps) marker)
      (ProofUnit.load t (q.under steps) marker) := by
  have hpath : ∃ steps', t.Below p steps' ∧ p.under steps = p.under steps'
      ∧ q.under steps = q.under steps' := ⟨steps, h.below, rfl, rfl⟩
  cases htext : t.readText ((q.under steps).join ProofUnit.makefile) with
  | ok text =>
      rw [load_text htext, load_text (h.text.trans htext)]
      exact .ok ⟨hpath, h.file, rfl⟩
  | error cause =>
      by_cases habsent : cause = .notFound
      · subst habsent
        rw [load_absent htext, load_absent (h.text.trans htext)]
        exact .ok ⟨hpath, h.file, rfl⟩
      · rw [load_illegible htext habsent,
          load_illegible (h.text.trans htext) habsent]
        exact .error ..

/-- Searches that stop abreast agree. -/
theorem agree_collect {visits visits' : List Visit}
    (h : List.Forall₂ (Abreast t marker p q) visits visits') :
    Agree (List.Forall₂ (Moved t p q)) (collect t marker none visits).result
      (collect t marker none visits').result := by
  induction h with
  | nil => exact .ok .nil
  | @cons visit visit' rest rest' hfirst _ ih =>
      cases hfirst with
      | unlistable => exact .error ..
      | @directory steps htwins =>
          cases hproof : isProof t marker none (q.under steps) with
          | false =>
              rw [collect_passed hproof,
                collect_passed (htwins.isProof.trans hproof)]
              exact ih
          | true =>
              have hproof' := htwins.isProof.trans hproof
              have hload := htwins.load
              generalize hunit : ProofUnit.load t (p.under steps) marker = unit
                at hload
              generalize hunit' :
                ProofUnit.load t (q.under steps) marker = unit' at hload
              cases hload with
              | error e e' =>
                  rw [collect_unloaded hproof' hunit,
                    collect_unloaded hproof hunit']
                  exact .error e e'
              | ok hmoved =>
                  rw [collect_loaded hproof' hunit,
                    collect_loaded hproof hunit']
                  generalize (collect t marker none rest).result = later
                    at ih ⊢
                  generalize (collect t marker none rest').result = later'
                    at ih ⊢
                  cases ih with
                  | ok hlater => exact .ok (.cons hmoved hlater)
                  | error e e' => exact .error e e'

-- ================================================================== two walks

/-- A link, and a path to the directory that it leads to. -/
structure LeadsTo (t : FileTree) (link dir : Path) : Prop where
  linked : t.isLink link = true
  solid : t.isLink dir = false
  directory : t.isDirectory dir = true
  same : t.Alias dir link

/-- No file that a search asks for below a path is out of reach for the links
on its way. -/
def WithinLinks (t : FileTree) (marker : String) (root : Path) : Prop :=
  ∀ steps, t.Below root steps → ∀ name ∈ [marker, ProofUnit.makefile],
    t.Followed ((root.under steps).join name)

/-- Directories at one place below two paths to one place are twins. -/
theorem twins_of_below (hwell : t.root.isWellNamed = true)
    (hmarker : PlainName marker) (hsame : t.Alias p q)
    (hp : WithinLinks t marker p) (hq : WithinLinks t marker q)
    (hbelow : t.Below p steps) : Twins t marker p q steps := by
  have hnames := hbelow.entryName hwell
  obtain ⟨entries, top, access, htop, hd⟩ := hbelow
  have hbelow : t.Below p steps := ⟨entries, top, access, htop, hd⟩
  have hbelow' : t.Below q steps :=
    ⟨entries, top, access, hsame.node_eq ▸ htop, hd⟩
  have hspot : ∀ name ∈ [marker, ProofUnit.makefile], PlainName name →
      t.spot true ((p.under steps).join name)
        = t.spot true ((q.under steps).join name) := by
    intro name hname hplain
    have hp := hp steps hbelow name hname
    have hq := hq steps hbelow' name hname
    rw [← Path.under_snoc] at hp hq ⊢
    rw [← Path.under_snoc]
    refine hsame.spot_under_eq (by simp) ?_ hp hq
    intro s hs
    rcases List.mem_append.mp hs with hs | hs
    · exact (hnames s hs).toPlainName
    · rw [List.mem_singleton.mp hs]
      exact hplain
  exact
    { below := hbelow
      file := FileTree.isFile_congr (hspot marker (by simp) hmarker)
      text := FileTree.readText_congr
        (hspot ProofUnit.makefile (by simp) (by decide))
      listing := hsame.list_under_eq htop hnames hd }

/-- What a search for all proofs comes to past its first stop. -/
def pastFirst (t : FileTree) (marker : String) (root : Path) :
    Except RunError (List ProofUnit) :=
  (collect t marker none (t.visits root).tail).result

/-- A search that starts at a link passes by the link. -/
theorem discover_of_link (hmarker : PlainName marker)
    (hlink : t.isLink p = true) (hdir : t.isDirectory p = true) :
    discover t p marker none = pastFirst t marker p := by
  obtain ⟨access, entries, htop⟩ :=
    FileTree.exists_directory_of_isDirectory hdir
  rw [discover_none hmarker.nonempty hdir, pastFirst,
    FileTree.visits_of_link htop hlink]
  rfl

/-- A search that starts at a directory looks at the directory first. -/
theorem discover_of_directory (hmarker : PlainName marker)
    (hsolid : t.isLink p = false) (hdir : t.isDirectory p = true) :
    discover t p marker none
      = if t.isFile (p.join marker) then
          match ProofUnit.load t p marker with
          | .error e => .error e
          | .ok unit => (pastFirst t marker p).map (unit :: ·)
        else pastFirst t marker p := by
  obtain ⟨access, entries, htop⟩ :=
    FileTree.exists_directory_of_isDirectory hdir
  obtain ⟨rest, hrest⟩ := Node.exists_visits_directory access entries p
  rw [discover_none hmarker.nonempty hdir, pastFirst,
    FileTree.visits_of_node htop hsolid, hrest, List.tail_cons]
  have hproof : isProof t marker none p = t.isFile (p.join marker) :=
    Bool.and_true _
  cases hfile : t.isFile (p.join marker) with
  | false =>
      rw [collect_passed (hproof.trans hfile), if_neg Bool.false_ne_true]
  | true =>
      rw [if_pos rfl]
      cases hload : ProofUnit.load t p marker with
      | error e => rw [collect_unloaded (hproof.trans hfile) hload]
      | ok unit => rw [collect_loaded (hproof.trans hfile) hload]

/-- The first stop of a walk is the directory that it starts at. -/
theorem filter_tail_visits {access : Access} {entries : List (String × Node)} :
    (((Node.directory access entries).visits true p).tail).filter
        Visit.isAtDirectory
      = (((Node.directory access entries).visits true p).filter
        Visit.isAtDirectory).tail := by
  obtain ⟨rest, hrest⟩ := Node.exists_visits_directory access entries p
  rw [hrest]
  rfl

/-- Past their first stops, a search that starts at the directory and one that
starts at the link agree. -/
theorem agree_pastFirst (hwell : t.root.isWellNamed = true)
    (hmarker : PlainName marker) (hlink : LeadsTo t link dir)
    (hdir : WithinLinks t marker dir) (hbehind : WithinLinks t marker link) :
    Agree (List.Forall₂ (Moved t dir link)) (pastFirst t marker dir)
      (pastFirst t marker link) := by
  obtain ⟨access, entries, htop⟩ :=
    FileTree.exists_directory_of_isDirectory hlink.directory
  have htop' := hlink.same.node_eq ▸ htop
  obtain ⟨places, survey⟩ :=
    Node.exists_survey _ true (FileTree.isWellNamed_of_node hwell htop)
  obtain ⟨later, rfl⟩ := survey.exists_eq_cons
  have tour := FileTree.Tour.of_survey hwell htop survey
  have tour' := FileTree.Tour.of_survey hwell htop' survey
  have htwins : ∀ steps ∈ [] :: later, Twins t marker dir link steps :=
    fun steps hsteps => twins_of_below hwell hmarker hlink.same hdir hbehind
      (tour.below steps hsteps)
  have habreast := forall₂_stopsAt htwins
  unfold pastFirst
  rw [FileTree.visits_of_node htop hlink.solid,
    FileTree.visits_of_link htop' hlink.linked, List.tail_cons,
    ← collect_filter,
    ← collect_filter (Node.visits ..).tail, filter_tail_visits,
    filter_tail_visits, tour.stops _ htop, tour'.stops _ htop']
  apply agree_collect
  cases habreast with
  | cons _ hlater => exact hlater

/-- Something below a path stands in the way of a search for all proofs: a
directory that cannot be listed, or a proof other than the first directory with
a `Makefile` that cannot be read. -/
def Blocked (t : FileTree) (marker : String) (p : Path) : Prop :=
  (∃ steps, t.Below p steps ∧ ∃ cause, t.list (p.under steps) = .error cause)
    ∨ ∃ steps, steps ≠ [] ∧ Marked t p marker steps
      ∧ ¬Legible t (p.under steps)

section Later

variable {later : List (List String)} (hwell : t.root.isWellNamed = true)
  (hmarker : PlainName marker) (tour : t.Tour p ([] :: later))

include hwell hmarker tour

/-- Where nothing is at fault past the first directory, nothing is in the
way. -/
theorem not_blocked (hfirst : ∃ names, t.list p = .ok names)
    (hsound : ∀ dir ∈ later.map p.under, ∀ e, ¬Fault t marker none dir e) :
    ¬Blocked t marker p := by
  have hsound : ∀ steps ∈ later,
      ∀ e, ¬Fault t marker none (p.under steps) e :=
    fun steps hsteps => hsound _ (List.mem_map_of_mem hsteps)
  have hlisted : ∀ steps ∈ [] :: later,
      ∃ names, t.list (p.under steps) = .ok names := by
    refine List.forall_mem_cons.mpr ⟨hfirst, ?_⟩
    exact fun steps hsteps => (no_fault_iff.mp (hsound steps hsteps)).1
  -- all directories are listed, so the walk has come to all there are
  have hall : ∀ steps, t.Below p steps → steps ∈ [] :: later :=
    fun steps hbelow => tour.mem hbelow fun above hmem _ => hlisted above hmem
  rintro (⟨steps, hbelow, cause, hcause⟩ | ⟨steps, hne, hmarked, hbad⟩)
  · obtain ⟨names, hnames⟩ := hlisted steps (hall steps hbelow)
    cases hnames.symm.trans hcause
  · obtain ⟨hbelow, hfile⟩ := (marked_iff hwell hmarker).mp hmarked
    have hlater := (List.mem_cons.mp (hall steps hbelow)).resolve_left hne
    have hlegible := (no_fault_iff.mp (hsound steps hlater)).2
    exact hbad (hlegible (Bool.and_eq_true_iff.mpr ⟨hfile, rfl⟩))

/-- A fault below the root blocks the search behind the link as well. -/
theorem blocked_of_fault {e : RunError} (hdir : dir ∈ later.map p.under)
    (h : Fault t marker none dir e) : Blocked t marker p := by
  obtain ⟨steps, hsteps, rfl⟩ := List.mem_map.mp hdir
  have hbelow := tour.below steps (List.mem_cons_of_mem _ hsteps)
  cases h with
  | listing _ unlisted => exact .inl ⟨steps, hbelow, _, unlisted⟩
  | makefile proof unread there =>
      refine .inr ⟨steps, ?_, (marked_iff hwell hmarker).mpr
        ⟨hbelow, isFile_of_isProof proof⟩, fun hl => there (hl _ unread)⟩
      rintro rfl
      exact List.lt_irrefl _ ((List.pairwise_cons.mp tour.sorted).1 [] hsteps)

end Later

/-- A search is refused past its first stop if something is in its way. -/
theorem pastFirst_error_iff (hwell : t.root.isWellNamed = true)
    (hmarker : PlainName marker) (hsolid : t.isLink p = false)
    (hdir : t.isDirectory p = true) :
    (∃ e, pastFirst t marker p = .error e) ↔ Blocked t marker p := by
  obtain ⟨access, entries, htop⟩ :=
    FileTree.exists_directory_of_isDirectory hdir
  obtain ⟨places, survey⟩ :=
    Node.exists_survey _ true (FileTree.isWellNamed_of_node hwell htop)
  obtain ⟨later, rfl⟩ := survey.exists_eq_cons
  have tour := FileTree.Tour.of_survey hwell htop survey
  have hresult : pastFirst t marker p
      = (collect t marker none ((t.stopsAt p).tail
        ++ (later.map p.under).flatMap t.stopsAt)).result := by
    unfold pastFirst
    rw [FileTree.visits_of_node htop hsolid, ← collect_filter,
      filter_tail_visits, tour.stops _ htop]
    rfl
  rw [hresult]
  unfold FileTree.stopsAt
  rw [List.tail_cons]
  cases hlist : t.list p with
  | error cause =>
      refine ⟨fun _ => .inl ⟨[], ?_, cause, hlist⟩, fun _ => ⟨_, rfl⟩⟩
      exact tour.below [] List.mem_cons_self
  | ok names =>
      rcases collect_dirs (later.map p.under) with
        ⟨units, hunits, -, hsound⟩ |
          ⟨before, dir, after, e, hdirs, he, hfault, -⟩
      · have hclear := not_blocked hwell hmarker tour ⟨names, hlist⟩ hsound
        refine ⟨fun ⟨e, he⟩ => ?_, fun hblocked => absurd hblocked hclear⟩
        cases hunits.symm.trans he
      · have hmem : dir ∈ later.map p.under := by
          rw [hdirs]
          simp
        exact ⟨fun _ => blocked_of_fault hwell hmarker tour hmem hfault,
          fun _ => ⟨e, he⟩⟩

-- =========================================================== through the link

/-- What it changes that a search starts at a link, and not at the directory
that the link leads to. -/
structure ThroughLink (t : FileTree) (marker : String) (link dir : Path) :
    Prop where
  /-- The proofs found are those that the other search finds below the
  directory, without the one in the directory itself. -/
  found : ∀ units', discover t link marker none = .ok units' →
    ∃ units, List.Forall₂ (Moved t dir link) units units'
      ∧ discover t dir marker none
        = if t.isFile (dir.join marker) then
            (ProofUnit.load t dir marker).map (· :: units)
          else .ok units
  /-- A refusal is not made up. -/
  refused : ∀ e', discover t link marker none = .error e' →
    ∃ e, discover t dir marker none = .error e
  refused_iff : (∃ e, discover t link marker none = .error e)
    ↔ Blocked t marker dir
  /-- Both searches agree, unless the directory itself is a proof and nothing
  else is in the way. -/
  agree_iff : Agree (List.Forall₂ (Moved t dir link))
      (discover t dir marker none) (discover t link marker none)
    ↔ t.isFile (dir.join marker) = false ∨ Blocked t marker dir

/-- With one more, proofs that agreed do so no longer. -/
theorem not_agree_cons {units units' : List ProofUnit}
    {R : ProofUnit → ProofUnit → Prop} (h : List.Forall₂ R units units')
    {own : Except RunError ProofUnit} :
    ¬Agree (List.Forall₂ R) (own.map (· :: units)) (.ok units') := by
  intro hagree
  cases own with
  | error e => cases hagree
  | ok unit =>
      cases hagree with
      | ok hall =>
          have hlength := hall.length_eq
          rw [List.length_cons, h.length_eq] at hlength
          exact absurd hlength (Nat.succ_ne_self _)

/-- A search that starts at a link differs in one thing from one that starts at
the directory it leads to: the directory itself is left out. -/
theorem discover_through_link (hwell : t.root.isWellNamed = true)
    (hmarker : PlainName marker) (hlink : LeadsTo t link dir)
    (hdir : WithinLinks t marker dir) (hbehind : WithinLinks t marker link) :
    ThroughLink t marker link dir := by
  have hbehindDirectory : t.isDirectory link = true := by
    unfold FileTree.isDirectory
    rw [← hlink.same.node_eq]
    exact hlink.directory
  have hthrough := discover_of_link hmarker hlink.linked hbehindDirectory
  have hfrom := discover_of_directory hmarker hlink.solid hlink.directory
  have hblocked :=
    pastFirst_error_iff hwell hmarker hlink.solid hlink.directory
  have hagree := agree_pastFirst hwell hmarker hlink hdir hbehind
  generalize pastFirst t marker dir = later at hfrom hblocked hagree
  generalize pastFirst t marker link = later' at hthrough hagree
  cases hagree with
  | @ok units units' hmoved =>
      have hclear : ¬Blocked t marker dir := fun h =>
        nomatch hblocked.mpr h
      have hown : discover t dir marker none
          = if t.isFile (dir.join marker) then
              (ProofUnit.load t dir marker).map (· :: units)
            else .ok units := by
        rw [hfrom]
        cases ProofUnit.load t dir marker <;> rfl
      refine ⟨?found, ?refused, ?refused_iff, ?agree_iff⟩
      case found =>
        intro _ h
        cases hthrough.symm.trans h
        exact ⟨units, hmoved, hown⟩
      case refused =>
        intro _ h
        cases hthrough.symm.trans h
      case refused_iff =>
        refine ⟨fun ⟨e, h⟩ => ?_, fun h => absurd h hclear⟩
        cases hthrough.symm.trans h
      case agree_iff =>
        rw [hthrough, hown]
        constructor
        · intro hagree
          cases hfile : t.isFile (dir.join marker) with
          | false => exact .inl rfl
          | true =>
              rw [hfile, if_pos rfl] at hagree
              exact absurd hagree (not_agree_cons hmoved)
        · rintro (hfile | hblocked)
          · rw [hfile]
            exact .ok hmoved
          · exact absurd hblocked hclear
  | error e e' =>
      have hown : ∃ e, discover t dir marker none = .error e := by
        rw [hfrom]
        split
        next => cases ProofUnit.load t dir marker <;> exact ⟨_, rfl⟩
        next => exact ⟨e, rfl⟩
      have hin : Blocked t marker dir := hblocked.mp ⟨e, rfl⟩
      refine ⟨?found, ?refused, ?refused_iff, ?agree_iff⟩
      case found =>
        intro _ h
        cases hthrough.symm.trans h
      case refused => exact fun _ _ => hown
      case refused_iff => exact ⟨fun _ => hin, fun _ => ⟨e', hthrough⟩⟩
      case agree_iff =>
        obtain ⟨e, he⟩ := hown
        rw [he, hthrough]
        exact ⟨fun _ => .inr hin, fun _ => .error e e'⟩

theorem leadsTo_linked : LeadsTo linked ⟨"l"⟩ ⟨"d"⟩ :=
  ⟨rfl, rfl, rfl, ["d"], rfl, rfl⟩

theorem not_hasDirectory_file {access : Access} {bytes : List UInt8} :
    ¬(Node.file access bytes).HasDirectory steps := by
  intro h
  cases steps with
  | nil => simp [Node.HasDirectory, Node.descend?] at h
  | cons name rest =>
      obtain ⟨_, _, _, hnode, -⟩ := Node.hasDirectory_cons.mp h
      cases hnode

/-- The outer proof of the tree. -/
def outer : Node :=
  .directory {} [
    ("a", .directory {} [("mark", .file {} [])]), ("mark", .file {} [])]

/-- Below the outer proof there is only the inner one. -/
theorem below_outer (htop : t.node p = .ok outer) (h : t.Below p steps) :
    steps = [] ∨ steps = ["a"] := by
  rw [FileTree.below_iff htop] at h
  cases steps with
  | nil => exact .inl rfl
  | cons name rest =>
      obtain ⟨_, _, child, ⟨⟩, hchild, hrest⟩ := Node.hasDirectory_cons.mp h
      rcases List.mem_cons.mp (Node.mem_of_lookup hchild) with hentry | hentry
      · cases hentry
        cases rest with
        | nil => exact .inr rfl
        | cons name' rest =>
            obtain ⟨_, _, child', ⟨⟩, hchild', hrest'⟩ :=
              Node.hasDirectory_cons.mp hrest
            cases List.mem_singleton.mp (Node.mem_of_lookup hchild')
            exact absurd hrest' not_hasDirectory_file
      · cases List.mem_singleton.mp hentry
        exact absurd hrest not_hasDirectory_file

theorem node_linked :
    linked.node ⟨"d"⟩ = .ok outer ∧ linked.node ⟨"l"⟩ = .ok outer :=
  ⟨rfl, rfl⟩

/-- No path in this tree takes more links than there may be. -/
theorem withinLinks_linked {root : Path}
    (hroot : root = ⟨"d"⟩ ∨ root = ⟨"l"⟩) :
    WithinLinks linked "mark" root := by
  intro steps hbelow name hname
  have htop : linked.node root = .ok outer := by
    rcases hroot with rfl | rfl
    · exact node_linked.1
    · exact node_linked.2
  have hname : name = "mark" ∨ name = ProofUnit.makefile := by
    simpa using hname
  obtain rfl | rfl := hroot <;> obtain rfl | rfl := below_outer htop hbelow <;>
    obtain rfl | rfl := hname <;>
    nofun

/-- Behind this link the outer of two proofs is missed. -/
theorem discover_through_link_linked :
    linked.root.isWellNamed = true ∧ PlainName "mark"
      ∧ LeadsTo linked ⟨"l"⟩ ⟨"d"⟩ ∧ WithinLinks linked "mark" ⟨"d"⟩
      ∧ WithinLinks linked "mark" ⟨"l"⟩
      ∧ ThroughLink linked "mark" ⟨"l"⟩ ⟨"d"⟩ := by
  have hwell : linked.root.isWellNamed = true := by decide
  have hmarker : PlainName "mark" := by decide
  have hdir := withinLinks_linked (.inl rfl)
  have hbehind := withinLinks_linked (.inr rfl)
  exact ⟨hwell, hmarker, leadsTo_linked, hdir, hbehind,
    discover_through_link hwell hmarker leadsTo_linked hdir hbehind⟩

theorem visits_linked_directory : linked.visits ⟨"d"⟩
    = [.directory ⟨"d"⟩, .directory ⟨"d/a"⟩, .other ⟨"d/a/mark"⟩,
      .other ⟨"d/mark"⟩] := by
  rw [FileTree.visits_of_node rfl rfl]
  simp [Node.visits, Node.visitsBelow, List.mergeSort, entryLe, Path.join]

theorem isFile_linked_directory :
    linked.isFile ((Path.mk "d").join "mark") = true
      ∧ linked.isFile ((Path.mk "d/a").join "mark") = true :=
  ⟨rfl, rfl⟩

theorem readText_linked_directory :
    linked.readText ((Path.mk "d").join ProofUnit.makefile) = .error .notFound
      ∧ linked.readText ((Path.mk "d/a").join ProofUnit.makefile)
        = .error .notFound :=
  ⟨rfl, rfl⟩

/-- The two searches do not agree: one finds the outer proof, the other does
not. -/
theorem not_agree_linked :
    discover linked ⟨"d"⟩ "mark" none
        = .ok [⟨⟨"d"⟩, true, none⟩, ⟨⟨"d/a"⟩, true, none⟩]
      ∧ discover linked ⟨"l"⟩ "mark" none = .ok [⟨⟨"l/a"⟩, true, none⟩]
      ∧ ¬Agree (List.Forall₂ (Moved linked ⟨"d"⟩ ⟨"l"⟩))
        (discover linked ⟨"d"⟩ "mark" none)
        (discover linked ⟨"l"⟩ "mark" none) := by
  have hdir : discover linked ⟨"d"⟩ "mark" none
      = .ok [⟨⟨"d"⟩, true, none⟩, ⟨⟨"d/a"⟩, true, none⟩] := by
    rw [discover_none (by decide) leadsTo_linked.directory,
      visits_linked_directory]
    simp only [collect_directory, collect_other, isProof, wanted,
      Bool.and_true, isFile_linked_directory,
      load_absent readText_linked_directory.1,
      load_absent readText_linked_directory.2]
    rfl
  have hbehind : discover linked ⟨"l"⟩ "mark" none
      = .ok [⟨⟨"l/a"⟩, true, none⟩] := by
    rw [discover_none (by decide) root_linked.1, visits_linked]
    simp only [collect_directory, collect_other, isProof, wanted,
      Bool.and_true, isFile_linked.2, load_absent readText_linked]
    rfl
  refine ⟨hdir, hbehind, ?_⟩
  rw [hdir, hbehind]
  intro hagree
  cases hagree with
  | ok hall => exact absurd hall.length_eq (by decide)

end ProofBatch.Discovery
