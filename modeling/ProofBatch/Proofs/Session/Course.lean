/-
The course of a session that runs the proofs.

# What is started

First come the questions of a way (`Preparation`), and those are the ones that
are needed (`Needed`). Then, in a session that has found out all it needs, come
the launches of a build (`Building`), and no question is one of these.

# The law

So the questions are asked when they are needed, and then only; a session that
fails before all is known has started nothing but questions (`Stopped`); and
any other exits as the run of the proofs ends (`Proceeded`).

All of this is said of every host: of any launcher and file tree, any format of
settings files, and any order in which the workers of the pass step.
-/
import ProofBatch.Proofs.Session.Environment
import ProofBatch.Settings.Yaml

namespace ProofBatch.Session

open Activity Commands

variable {σ : Type} {host : Host σ} {given : Overrides} {config : Option Path}
  {file : FileSettings} {plan : Plan} {o o' : σ} {queries : List Launch}
  {launch : Launch}

-- ================================================================ when to ask

/-- The questions that a session needs to ask. -/
inductive Needed (host : Host σ) (given : Overrides) (config : Option Path)
    (o : σ) : Launch → Prop
  | litani {file : FileSettings} {plan : Plan}
      (resolved : Resolved host given config o file plan)
      (not_given : given.litani = none) (not_in_file : file.litani = none) :
      Needed host given config o (litaniQuery plan.root)
  | project {file : FileSettings} {plan : Plan} {path : Path} {o₁ : σ}
      {queries : List Launch}
      (resolved : Resolved host given config o file plan)
      (litani : LitaniPath host plan o (some path) o₁ queries)
      (standalone : given.noStandalone = false)
      (not_given : given.project = none) (not_in_file : file.project = none) :
      Needed host given config o (projectQuery plan.root)

theorem Needed.isQuery (h : Needed host given config o launch) :
    IsQuery launch := by
  cases h with
  | litani => exact ⟨_, .inl rfl⟩
  | project => exact ⟨_, .inr rfl⟩

/-- The first question is needed where there is a plan and no setting tells the
path. -/
theorem needed_litaniQuery_iff {root : Path} :
    Needed host given config o (litaniQuery root)
      ↔ ∃ file plan, Resolved host given config o file plan ∧ plan.root = root
        ∧ given.litani = none ∧ file.litani = none := by
  constructor
  · intro h
    generalize hlaunch : litaniQuery root = launch at h
    cases h with
    | litani resolved not_given not_in_file =>
        exact ⟨_, _, resolved, (litaniQuery_injective hlaunch).symm, not_given,
          not_in_file⟩
    | project => exact absurd hlaunch (litaniQuery_ne_projectQuery _ _)
  · rintro ⟨file, plan, hresolved, rfl, hgiven, hfile⟩
    exact .litani hresolved hgiven hfile

/-- The second is needed where the path is known, the run begins the build, and
no setting tells the name. -/
theorem needed_projectQuery_iff {root : Path} :
    Needed host given config o (projectQuery root)
      ↔ ∃ file plan path o₁ queries, Resolved host given config o file plan
        ∧ LitaniPath host plan o (some path) o₁ queries ∧ plan.root = root
        ∧ given.noStandalone = false ∧ given.project = none
        ∧ file.project = none := by
  constructor
  · intro h
    generalize hlaunch : projectQuery root = launch at h
    cases h with
    | litani => exact absurd hlaunch.symm (litaniQuery_ne_projectQuery _ _)
    | project resolved litani standalone not_given not_in_file =>
        exact ⟨_, _, _, _, _, resolved, litani,
          (projectQuery_injective hlaunch).symm, standalone, not_given,
          not_in_file⟩
  · rintro ⟨file, plan, path, o₁, queries, hresolved, hlitani, rfl,
      hstandalone, hgiven, hfile⟩
    exact .project hresolved hlitani hstandalone hgiven hfile

/-- What a plan takes over from the settings. -/
theorem Resolved.plan_eq (h : Resolved host given config o file plan) :
    plan.litani = given.litani.or file.litani
      ∧ plan.project = given.project.or file.project
      ∧ plan.standalone = !given.noStandalone := by
  have hresolved := h.resolved
  unfold Plan.resolve at hresolved
  simp only [Option.orElse_eq_orElse, Option.orElse_eq_or] at hresolved
  -- there is a root, and nothing that is checked is at fault
  split at hresolved
  · cases hresolved
  · split at hresolved
    · cases hresolved
    · split at hresolved
      · cases hresolved
      · split at hresolved
        · cases hresolved
        · cases hresolved
          exact ⟨rfl, rfl, rfl⟩

/-- No path in the plan means no path on the command line and none in the
file. -/
theorem Resolved.litani_eq_none_iff
    (h : Resolved host given config o file plan) :
    plan.litani = none ↔ given.litani = none ∧ file.litani = none := by
  rw [h.plan_eq.1, Option.or_eq_none_iff]

theorem Resolved.project_eq_none_iff
    (h : Resolved host given config o file plan) :
    plan.project = none ↔ given.project = none ∧ file.project = none := by
  rw [h.plan_eq.2.1, Option.or_eq_none_iff]

theorem Resolved.standalone_iff (h : Resolved host given config o file plan) :
    plan.standalone = true ↔ given.noStandalone = false := by
  rw [h.plan_eq.2.2, Bool.not_eq_true']

section Stages

variable {path : Option Path} {name : Option (String × Bool)}

/-- All that the first stage asks is its question, and only for want of a
path. -/
theorem LitaniPath.eq_of_mem (h : LitaniPath host plan o path o' queries)
    (hmem : launch ∈ queries) :
    launch = litaniQuery plan.root ∧ plan.litani = none := by
  cases h with
  | set => cases hmem
  | told unset => exact ⟨List.mem_singleton.mp hmem, unset⟩
  | failed unset => exact ⟨List.mem_singleton.mp hmem, unset⟩

/-- For want of a path, the question is asked. -/
theorem LitaniPath.mem (h : LitaniPath host plan o path o' queries)
    (hunset : plan.litani = none) : litaniQuery plan.root ∈ queries := by
  cases h with
  | set set => cases set.symm.trans hunset
  | told => exact List.mem_singleton_self _
  | failed => exact List.mem_singleton_self _

/-- All that the second stage asks is its question, only for want of a name,
and only in a run that begins the build. -/
theorem ProjectName.eq_of_mem (h : ProjectName host plan o name o' queries)
    (hmem : launch ∈ queries) : launch = projectQuery plan.root
      ∧ plan.project = none ∧ plan.standalone = true := by
  cases h with
  | set => cases hmem
  | unneeded => cases hmem
  | told unset standalone =>
      exact ⟨List.mem_singleton.mp hmem, unset, standalone⟩
  | nameless unset standalone =>
      exact ⟨List.mem_singleton.mp hmem, unset, standalone⟩
  | failed unset standalone =>
      exact ⟨List.mem_singleton.mp hmem, unset, standalone⟩

/-- For want of a name, a run that begins the build asks. -/
theorem ProjectName.mem (h : ProjectName host plan o name o' queries)
    (hunset : plan.project = none) (hstandalone : plan.standalone = true) :
    projectQuery plan.root ∈ queries := by
  cases h with
  | set set => cases set.symm.trans hunset
  | unneeded _ hosted => cases hosted.symm.trans hstandalone
  | told => exact List.mem_singleton_self _
  | nameless => exact List.mem_singleton_self _
  | failed => exact List.mem_singleton_self _

/-- What the first stage asks needs to be asked. -/
theorem LitaniPath.needed (h : LitaniPath host plan o path o' queries)
    (hresolved : Resolved host given config o file plan)
    (hmem : launch ∈ queries) : Needed host given config o launch := by
  obtain ⟨rfl, hunset⟩ := h.eq_of_mem hmem
  obtain ⟨hgiven, hfile⟩ := hresolved.litani_eq_none_iff.mp hunset
  exact .litani hresolved hgiven hfile

/-- What the second stage asks needs to be asked. -/
theorem ProjectName.needed {path : Path} {o₁ : σ} {asked : List Launch}
    (h : ProjectName host plan o₁ name o' queries)
    (hresolved : Resolved host given config o file plan)
    (hlitani : LitaniPath host plan o (some path) o₁ asked)
    (hmem : launch ∈ queries) : Needed host given config o launch := by
  obtain ⟨rfl, hunset, hstandalone⟩ := h.eq_of_mem hmem
  obtain ⟨hgiven, hfile⟩ := hresolved.project_eq_none_iff.mp hunset
  exact .project hresolved hlitani (hresolved.standalone_iff.mp hstandalone)
    hgiven hfile

end Stages

/-- On any way, only needed questions are asked. -/
theorem Preparation.needed {found : Option Environment}
    (h : Preparation host given config o found o' queries)
    (hmem : launch ∈ queries) : Needed host given config o launch := by
  cases h with
  | unresolved => cases hmem
  | no_litani resolved litani => exact litani.needed resolved hmem
  | no_project resolved litani project =>
      exact (List.mem_append.mp hmem).elim (litani.needed resolved)
        (project.needed resolved litani)
  | ready resolved litani project =>
      exact (List.mem_append.mp hmem).elim (litani.needed resolved)
        (project.needed resolved litani)

/-- A needed question is asked on some way. -/
theorem Needed.exists_preparation (h : Needed host given config o launch) :
    ∃ found o' queries, Preparation host given config o found o' queries
      ∧ launch ∈ queries := by
  cases h with
  | litani resolved not_given not_in_file =>
      obtain ⟨found, o', path, o₁, queries, queries', hprepared, hlitani⟩ :=
        exists_preparation_of_resolved resolved
      have hunset := resolved.litani_eq_none_iff.mpr ⟨not_given, not_in_file⟩
      exact ⟨found, o', _, hprepared,
        List.mem_append_left _ (hlitani.mem hunset)⟩
  | project resolved litani standalone not_given not_in_file =>
      obtain ⟨found, o', queries', hprepared, name, hproject⟩ :=
        exists_preparation_of_litani resolved litani
      have hunset := resolved.project_eq_none_iff.mpr ⟨not_given, not_in_file⟩
      exact ⟨found, o', _, hprepared, List.mem_append_right _
        (hproject.mem hunset (resolved.standalone_iff.mpr standalone))⟩

-- ================================================================== the build

/-- Of two worlds, one has a record of what is started in both. It has grown
since some time, and by nothing but launches of a build. -/
def Building (path : Path) (before : List Launch) (w : World (σ × List Launch))
    (w' : World σ) : Prop :=
  w.outside.1 = w'.outside ∧ ∃ others, w.outside.2 = before ++ others
    ∧ ∀ launch ∈ others, IsBuildLaunch path launch

theorem lockstep_building (path : Path) (before : List Launch) :
    Lockstep (Building (σ := σ) path before) :=
  ⟨fun _ h => h⟩

/-- The partners of a run start nothing but launches of a build, so the record
only grows by these. -/
theorem partners_building (host : Host σ) (path : Path)
    (before : List Launch) :
    Run.Partners.Alike (Building path before)
      (partners host.recording path) (partners host path) := by
  refine partners_alike (lockstep_building path before) rfl
    fun launch hbuild => ?_
  intro w w' h
  obtain ⟨⟨outside, log⟩, journal⟩ := w
  obtain ⟨outside', journal'⟩ := w'
  obtain ⟨rfl, others, rfl, hothers⟩ := h
  refine .intro _ ⟨rfl, others ++ [launch], ?_, ?_⟩
  · exact List.append_assoc before others [launch]
  · intro launch' hmem
    rcases List.mem_append.mp hmem with hold | hnew
    · exact hothers _ hold
    · rw [List.mem_singleton.mp hnew]
      exact hbuild

/-- A run of the proofs starts nothing but a build, and a record of that
changes nothing in the run. -/
theorem run_building (host : Host σ) (found : Environment)
    {w : World (σ × List Launch)} {w' : World σ}
    (h : w.outside.1 = w'.outside) :
    (found.run host.recording w).1 = (found.run host w').1
      ∧ (found.run host.recording w).2.outside.1
        = (found.run host w').2.outside
      ∧ ∃ others, (found.run host.recording w).2.outside.2
          = w.outside.2 ++ others
        ∧ ∀ launch ∈ others, IsBuildLaunch found.litani launch := by
  have hstart : Building found.litani w.outside.2 w w' :=
    ⟨h, [], (List.append_nil _).symm, fun _ h => nomatch h⟩
  have hpaired := Run.runProofs_paired found.plan found.project
    (lockstep_building found.litani w.outside.2)
    (partners_building host found.litani w.outside.2) (host.files w'.outside)
    hstart
  have hfiles : host.recording.files w.outside = host.files w'.outside :=
    congrArg host.files h
  unfold Environment.run
  rw [hfiles]
  generalize Run.runProofs (host.files w'.outside) found.plan found.project
    (partners host.recording found.litani) w = x at hpaired ⊢
  generalize Run.runProofs (host.files w'.outside) found.plan found.project
    (partners host found.litani) w' = y at hpaired ⊢
  cases hpaired with
  | intro answer world => exact ⟨rfl, world⟩

-- ============================================================== the exit code

section ExitCode

variable {α β : Type}

/-- The exit code that goes with an answer. -/
def exitCode : Except RunError α → Nat
  | .ok _ => 0
  | .error _ => 1

@[simp] theorem exitCode_map (f : α → β) (answer : Except RunError α) :
    exitCode (answer.map f) = exitCode answer := by
  cases answer <;> rfl

/-- Zero is for success alone. -/
theorem exitCode_eq_zero_iff {answer : Except RunError α} :
    exitCode answer = 0 ↔ ∃ a, answer = .ok a := by
  cases answer with
  | ok a => exact ⟨fun _ => ⟨a, rfl⟩, fun _ => rfl⟩
  | error e => exact ⟨(nomatch ·), fun ⟨_, h⟩ => nomatch h⟩

/-- One is for failure alone; so no failure is turned into success. -/
theorem exitCode_eq_one_iff {answer : Except RunError α} :
    exitCode answer = 1 ↔ ∃ e, answer = .error e := by
  cases answer with
  | ok a => exact ⟨(nomatch ·), fun ⟨_, h⟩ => nomatch h⟩
  | error e => exact ⟨fun _ => ⟨e, rfl⟩, fun _ => rfl⟩

end ExitCode

section Run

variable {arguments : List String} {invocation : CommandLine.Invocation}

/-- The world that a session starts in. -/
def opening (invocation : CommandLine.Invocation) (o : σ) : World σ :=
  ({ outside := o } : World σ).note .debug
    s!"Logger initialized with level: {(logLevel invocation).name}"

/-- A session leaves what it carried out, and exits accordingly. -/
theorem run_carried {answer : Except RunError Unit} {w : World σ}
    (hparse : CommandLine.parse arguments = .ok invocation)
    (hcarried : (carryOut host invocation).outcome (opening invocation o)
      = (answer, w)) :
    let result := run host arguments o
    result.code = exitCode answer
      ∧ result.outside = w.outside
      ∧ w.journal.shown (logLevel invocation) ⊆ result.shown := by
  intro result
  unfold result run
  rw [hparse]
  unfold outcome opening at hcarried
  simp only
  rw [hcarried]
  cases answer with
  | ok _ => exact ⟨rfl, rfl, fun _ h => h⟩
  | error e => exact ⟨rfl, rfl, fun _ h => List.mem_append_left _ h⟩

end Run

-- ==================================================================== the law

/-- A session that has not found out what it needs. -/
structure Stopped (host : Host σ) (arguments : List String) (o : σ)
    (queries : List Launch) : Prop where
  code : (run host arguments o).code = 1
  launches_eq : launches host arguments o = queries
  /-- Neither the build tool nor any configuration was started. -/
  no_build : ∀ launch ∈ launches host arguments o,
    ∀ path, ¬IsBuildLaunch path launch

/-- A session that has found out what it needs, with the outside as it is
then. -/
structure Proceeded (host : Host σ) (arguments : List String)
    (invocation : CommandLine.Invocation) (o : σ) (found : Environment)
    (o' : σ)
    (queries : List Launch) : Prop where
  launches_eq : ∃ others, launches host arguments o = queries ++ others
    ∧ ∀ launch ∈ others, IsBuildLaunch found.litani launch
  /-- It succeeds if the run of the proofs does. -/
  code_eq_zero : ∀ w : World σ, w.outside = o' →
    ((run host arguments o).code = 0
      ↔ ∃ summary, (found.run host w).1 = .ok summary)
  code_eq_one : ∀ w : World σ, w.outside = o' →
    ((run host arguments o).code = 1 ↔ ∃ e, (found.run host w).1 = .error e)
  outside_eq : ∀ w : World σ, w.outside = o' →
    (run host arguments o).outside = (found.run host w).2.outside
  /-- A warning goes with the name that stands for none. -/
  placeholder : found.nameless = true → found.project = Make.placeholderName
    ∧ (Level.warn.rank ≤ (logLevel invocation).rank →
      (Stream.err, Text.encode s!"{programName}: {Make.namelessWarning}\n")
        ∈ (run host arguments o).shown)

/-- The law of a session that runs the proofs. -/
structure EnvironmentFirst (host : Host σ) (arguments : List String)
    (invocation : CommandLine.Invocation) (given : Overrides) (o : σ) :
    Prop where
  litani_asked_iff : ∀ root, litaniQuery root ∈ launches host arguments o
    ↔ ∃ file plan, Resolved host given invocation.config o file plan
      ∧ plan.root = root ∧ given.litani = none ∧ file.litani = none
  project_asked_iff : ∀ root, projectQuery root ∈ launches host arguments o
    ↔ ∃ file plan path o₁ queries,
      Resolved host given invocation.config o file plan
      ∧ LitaniPath host plan o (some path) o₁ queries ∧ plan.root = root
      ∧ given.noStandalone = false ∧ given.project = none ∧ file.project = none
  stopped : ∀ o' queries,
    Preparation host given invocation.config o none o' queries →
      Stopped host arguments o queries
  proceeded : ∀ found o' queries,
    Preparation host given invocation.config o (some found) o' queries →
      Proceeded host arguments invocation o found o' queries
  /-- It is one or the other. -/
  decided : ∃ found o' queries,
    Preparation host given invocation.config o found o' queries

section Law

variable {arguments : List String} {invocation : CommandLine.Invocation}
  {named : Bool} (hparse : CommandLine.parse arguments = .ok invocation)
  (hrun : invocation.request = .run named given)

include hparse hrun

/-- What a session leaves that runs the proofs, and the processes it
started. -/
theorem run_of_runProofs {answer : Except RunError Unit}
    {w : World (σ × List Launch)}
    (h : (runProofs host.recording given invocation.config).outcome
      (opening invocation (o, [])) = (answer, w)) :
    let result := run host arguments o
    result.code = exitCode answer
      ∧ launches host arguments o = w.outside.2
      ∧ result.outside = w.outside.1
      ∧ w.journal.shown (logLevel invocation) ⊆ result.shown := by
  have hcarry : carryOut host.recording invocation
      = runProofs host.recording given invocation.config := by
    unfold carryOut
    rw [hrun]
  rw [← hcarry] at h
  obtain ⟨hcode, houtside, hshown⟩ := run_carried hparse h
  obtain ⟨hcode', hshown', houtside'⟩ := run_recording host arguments o []
  refine ⟨hcode'.symm.trans hcode, ?_, ?_, hshown' ▸ hshown⟩
  · unfold launches
    rw [houtside]
  · rw [← houtside', houtside]

/-- A way that stops short makes a session that stops. -/
theorem stopped_of_none
    (h : Preparation host given invocation.config o none o' queries) :
    Stopped host arguments o queries := by
  obtain ⟨e, w, hcarried, hout⟩ := outcome_runProofs_of_none
    (w := opening invocation (o, [])) h rfl
  obtain ⟨hcode, hlaunches, -, -⟩ := run_of_runProofs hparse hrun hcarried
  rw [hout, List.nil_append] at hlaunches
  refine ⟨hcode, hlaunches, ?_⟩
  rw [hlaunches]
  exact fun launch hmem path => (h.needed hmem).isQuery.not_isBuildLaunch path

/-- A way to the end makes a session that goes on to the run, whichever world
the run is put in. -/
theorem proceeded_of_some {found : Environment}
    (h : Preparation host given invocation.config o (some found) o' queries) :
    Proceeded host arguments invocation o found o' queries := by
  obtain ⟨w₁, hout₁, hnameless, w₂, hcarried, hout₂, hjournal⟩ :=
    outcome_runProofs_of_some (w := opening invocation (o, [])) h rfl
  obtain ⟨hcode, hlaunches, houtside, hshown⟩ :=
    run_of_runProofs hparse hrun hcarried
  -- the recorded run against the same run from any other world
  have hsame (w : World σ) (hw : w.outside = o') :=
    run_building host found (show w₁.outside.1 = w.outside by rw [hout₁, hw])
  refine
    { launches_eq := ?_, code_eq_zero := fun w hw => ?_
      code_eq_one := fun w hw => ?_, outside_eq := fun w hw => ?_
      placeholder := fun hyes => ?_ }
  · obtain ⟨-, -, others, hothers, hbuild⟩ := hsame { outside := o' } rfl
    refine ⟨others, ?_, hbuild⟩
    rw [hlaunches, hout₂, hothers, hout₁, List.nil_append]
  · rw [hcode, exitCode_map, (hsame w hw).1, exitCode_eq_zero_iff]
  · rw [hcode, exitCode_map, (hsame w hw).1, exitCode_eq_one_iff]
  · rw [houtside, hout₂, (hsame w hw).2.1]
  · obtain ⟨hname, hheard⟩ := hnameless hyes
    refine ⟨hname, fun hlevel => hshown ?_⟩
    exact List.mem_filterMap.mpr ⟨_, hjournal hheard, if_pos hlevel⟩

/-- A session asks the questions that it needs to ask, and no others. -/
theorem mem_launches_iff (hquery : IsQuery launch) :
    launch ∈ launches host arguments o
      ↔ Needed host given invocation.config o launch := by
  -- whichever way it goes, all that may come after the way is a build
  have hasked : ∀ found o' queries,
      Preparation host given invocation.config o found o' queries →
        (launch ∈ launches host arguments o ↔ launch ∈ queries) := by
    intro found o' queries h
    cases found with
    | none => rw [(stopped_of_none hparse hrun h).launches_eq]
    | some found =>
        obtain ⟨others, heq, hothers⟩ :=
          (proceeded_of_some hparse hrun h).launches_eq
        rw [heq, List.mem_append, or_iff_left]
        exact fun hmem => hquery.not_isBuildLaunch _ (hothers _ hmem)
  constructor
  · intro hmem
    obtain ⟨found, o', queries, h⟩ :=
      exists_preparation host given invocation.config o
    exact h.needed ((hasked found o' queries h).mp hmem)
  · intro hneeded
    obtain ⟨found, o', queries, h, hmem⟩ := hneeded.exists_preparation
    exact (hasked found o' queries h).mpr hmem

/-- A session that runs the proofs finds out first what it needs. -/
theorem environment_first :
    EnvironmentFirst host arguments invocation given o where
  litani_asked_iff root := by
    rw [mem_launches_iff hparse hrun ⟨root, .inl rfl⟩, needed_litaniQuery_iff]
  project_asked_iff root := by
    rw [mem_launches_iff hparse hrun ⟨root, .inr rfl⟩, needed_projectQuery_iff]
  stopped _ _ h := stopped_of_none hparse hrun h
  proceeded _ _ _ h := proceeded_of_some hparse hrun h
  decided := exists_preparation host given invocation.config o

end Law

/-- A host with a file of settings. Its `make` tells where the build tool is,
but no name of the project. -/
def namelessHost : Host Unit where
  files _ :=
    { root := .directory {}
        [("c.yml", .file {} "configure_jobs: 3\n".toByteArray.toList)] }
  start launch _ :=
    { answer := .ok
        { ending := .exited 0
          output := if launch.arguments = Commands.projectName then []
            else Text.encode "/litani\n" }
      outside := () }
  cpus := 1
  format := FileSettings.yaml
  schedule turn := turn * turn

/-- The invocation that names the file. -/
def fileInvocation : CommandLine.Invocation :=
  { logLevel := "warn", verbose := false, config := some ⟨"c.yml"⟩
    request := .run false {} }

theorem settingsIn_namelessHost :
    settingsIn namelessHost.format (namelessHost.files ()) (some ⟨"c.yml"⟩)
      = .ok { configureJobs := some 3 } := by
  have hdecode : Text.decode? "configure_jobs: 3\n".toByteArray.toList
      = some "configure_jobs: 3\n" := by decide +kernel
  have hread : (namelessHost.files ()).readText ⟨"c.yml"⟩
      = .ok "configure_jobs: 3\n" := FileTree.readText_of_bytes rfl hdecode
  unfold settingsIn FileSettings.load
  simp only [hread]
  rfl

/-- With that file both questions are asked there, and the session goes on. -/
theorem environment_first_nameless :
    CommandLine.parse ["-c", "c.yml"] = .ok fileInvocation
      ∧ fileInvocation.request = .run false {}
      ∧ EnvironmentFirst namelessHost ["-c", "c.yml"] fileInvocation {} ()
      ∧ ∃ found, found.nameless = true ∧ found.plan.configureJobs = 3
        ∧ Preparation namelessHost {} (some ⟨"c.yml"⟩) () (some found) ()
          [litaniQuery ⟨"/"⟩, projectQuery ⟨"/"⟩] := by
  have hparse : CommandLine.parse ["-c", "c.yml"] = .ok fileInvocation := by
    rfl
  refine ⟨hparse, rfl, environment_first hparse rfl, ?_⟩
  have hresolved : Resolved namelessHost {} (some ⟨"c.yml"⟩) ()
      { configureJobs := some 3 }
      { root := ⟨"/"⟩, marker := defaultMarker, proofs := none
        standalone := true, project := none, restriction := .auto
        expensiveJobs := 1, configureJobs := 3, parallelJobs := none
        litani := none } :=
    ⟨settingsIn_namelessHost, rfl⟩
  have hprinted : Printed (namelessHost.start (litaniQuery ⟨"/"⟩) ()).answer
      "/litani\n" := ⟨_, rfl, rfl, by decide +kernel⟩
  have hlitani : LitaniPath namelessHost _ () _ () [litaniQuery ⟨"/"⟩] :=
    .told hresolved.plan_eq.1 hprinted (by decide +kernel)
  have hsilent : Printed (namelessHost.start (projectQuery ⟨"/"⟩) ()).answer
      "" := ⟨_, rfl, rfl, by decide +kernel⟩
  have hproject : ProjectName namelessHost _ () _ () [projectQuery ⟨"/"⟩] :=
    .nameless hresolved.plan_eq.2.1 rfl hsilent (by decide +kernel)
  exact ⟨_, rfl, rfl, .ready hresolved hlitani hproject⟩

end ProofBatch.Session
