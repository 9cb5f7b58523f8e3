/-
What a session finds out before it runs the proofs.

# Three stages

First the settings are loaded and resolved to a plan (`Resolved`). Then, if no
setting tells it, `make` is asked for the path of the build tool
(`LitaniPath`), and, if none tells it and the session begins the build, for the
name of the project (`ProjectName`). Each question is one process, and nothing
else is started before all is known (`Preparation`).

# What comes of them

Every session goes one of these ways (`exists_preparation`). If not all is
found out, it fails with nothing started but questions
(`outcome_runProofs_of_none`); else it goes on to the run of the proofs and
ends as that does (`outcome_runProofs_of_some`).
-/
import Mathlib.Data.List.DropRight
import ProofBatch.Proofs.Run.Course
import ProofBatch.Proofs.Session.Launches

namespace ProofBatch.Session

open Activity Commands

variable {σ : Type} {host : Host σ} {given : Overrides} {config : Option Path}
  {file : FileSettings} {plan : Plan} {o o' : σ} {queries : List Launch}

-- ============================================================== what is found

/-- The settings of the file that is named, or none. -/
def settingsIn (format : SettingsFormat) (files : FileTree)
    (config : Option Path) : Except SettingsError FileSettings :=
  match config with
  | none => .ok {}
  | some path => FileSettings.load format files path

/-- The settings can be loaded, and a plan comes of them. -/
structure Resolved (host : Host σ) (given : Overrides) (config : Option Path)
    (o : σ) (file : FileSettings) (plan : Plan) : Prop where
  loaded : settingsIn host.format (host.files o) config = .ok file
  resolved : Plan.resolve { here := (host.files o).current, cpus := host.cpus }
    given file = .ok plan

/-- A process ended well, and this is what it printed. -/
def Printed (answer : Except IoError Finished) (text : String) : Prop :=
  ∃ finished, answer = .ok finished ∧ finished.ending = .exited 0
    ∧ Text.decodeLossy finished.output = text

/-- A process could not be started, or did not end well. -/
def Unanswered (answer : Except IoError Finished) : Prop :=
  (∃ e, answer = .error e)
    ∨ ∃ finished, answer = .ok finished ∧ finished.ending ≠ .exited 0

/-- How the path of the build tool is found, or not: where that leaves the
outside, and what is asked. -/
inductive LitaniPath (host : Host σ) (plan : Plan) (o : σ) :
    Option Path → σ → List Launch → Prop
  | set {path : Path} (set : plan.litani = some path) :
      LitaniPath host plan o (some path) o []
  | told {text : String} (unset : plan.litani = none)
      (printed : Printed (host.start (litaniQuery plan.root) o).answer text)
      (some_text : Text.allBlank text = false) :
      LitaniPath host plan o (some ⟨Text.trim text⟩)
        (host.start (litaniQuery plan.root) o).outside [litaniQuery plan.root]
  | failed (unset : plan.litani = none)
      (failure : Unanswered (host.start (litaniQuery plan.root) o).answer
        ∨ ∃ text, Printed (host.start (litaniQuery plan.root) o).answer text
          ∧ Text.allBlank text = true) :
      LitaniPath host plan o none
        (host.start (litaniQuery plan.root) o).outside [litaniQuery plan.root]

/-- How the name of the project is found, or not, and whether it has none. -/
inductive ProjectName (host : Host σ) (plan : Plan) (o : σ) :
    Option (String × Bool) → σ → List Launch → Prop
  | set {name : String} (set : plan.project = some name) :
      ProjectName host plan o (some (name, false)) o []
  | unneeded (unset : plan.project = none) (hosted : plan.standalone = false) :
      ProjectName host plan o (some ("", false)) o []
  | told {text : String} (unset : plan.project = none)
      (standalone : plan.standalone = true)
      (printed : Printed (host.start (projectQuery plan.root) o).answer text)
      (some_text : Text.allBlank text = false) :
      ProjectName host plan o (some (Text.trim text, false))
        (host.start (projectQuery plan.root) o).outside
          [projectQuery plan.root]
  | nameless {text : String} (unset : plan.project = none)
      (standalone : plan.standalone = true)
      (printed : Printed (host.start (projectQuery plan.root) o).answer text)
      (blank : Text.allBlank text = true) :
      ProjectName host plan o (some (Make.placeholderName, true))
        (host.start (projectQuery plan.root) o).outside
          [projectQuery plan.root]
  | failed (unset : plan.project = none) (standalone : plan.standalone = true)
      (failure : Unanswered (host.start (projectQuery plan.root) o).answer) :
      ProjectName host plan o none
        (host.start (projectQuery plan.root) o).outside
          [projectQuery plan.root]

/-- All that a run of the proofs needs to know. -/
structure Environment where
  plan : Plan
  litani : Path
  project : String
  /-- Whether the name of the project stands for one that it does not have. -/
  nameless : Bool

/-- The run of the proofs with all that is known, with the workers of the host
in any order. -/
def Environment.run (found : Environment) (host : Host σ) (w : World σ) :
    Except RunError Run.Summary × World σ :=
  Run.runProofs (host.files w.outside) found.plan found.project
    (partners host found.litani) w

/-- The way to all that, or to the stage that fails. -/
inductive Preparation (host : Host σ) (given : Overrides)
    (config : Option Path) (o : σ) :
    Option Environment → σ → List Launch → Prop
  | unresolved (none_resolved : ∀ file plan,
        ¬Resolved host given config o file plan) :
      Preparation host given config o none o []
  | no_litani {file : FileSettings} {plan : Plan} {o₁ : σ}
      {queries : List Launch}
      (resolved : Resolved host given config o file plan)
      (litani : LitaniPath host plan o none o₁ queries) :
      Preparation host given config o none o₁ queries
  | no_project {file : FileSettings} {plan : Plan} {path : Path} {o₁ o₂ : σ}
      {queries queries' : List Launch}
      (resolved : Resolved host given config o file plan)
      (litani : LitaniPath host plan o (some path) o₁ queries)
      (project : ProjectName host plan o₁ none o₂ queries') :
      Preparation host given config o none o₂ (queries ++ queries')
  | ready {file : FileSettings} {plan : Plan} {path : Path} {name : String}
      {nameless : Bool} {o₁ o₂ : σ} {queries queries' : List Launch}
      (resolved : Resolved host given config o file plan)
      (litani : LitaniPath host plan o (some path) o₁ queries)
      (project : ProjectName host plan o₁ (some (name, nameless)) o₂
        queries') :
      Preparation host given config o (some ⟨plan, path, name, nameless⟩) o₂
        (queries ++ queries')

-- ================================================================ one of each

/-- A process ends well and prints something, if only nothing; or it does
not. -/
theorem printed_or_unanswered (answer : Except IoError Finished) :
    (∃ text, Printed answer text) ∨ Unanswered answer := by
  cases answer with
  | error e => exact .inr (.inl ⟨e, rfl⟩)
  | ok finished =>
      by_cases hwell : finished.ending = .exited 0
      · exact .inl ⟨_, finished, rfl, hwell, rfl⟩
      · exact .inr (.inr ⟨finished, rfl, hwell⟩)

/-- The first question is answered one way or the other, or not needed. -/
theorem exists_litaniPath (host : Host σ) (plan : Plan) (o : σ) :
    ∃ found o' queries, LitaniPath host plan o found o' queries := by
  cases hset : plan.litani with
  | some path => exact ⟨_, _, _, .set hset⟩
  | none =>
      rcases printed_or_unanswered
        (host.start (litaniQuery plan.root) o).answer with
          ⟨text, htext⟩ | hfail
      · cases hblank : Text.allBlank text with
        | false => exact ⟨_, _, _, .told hset htext hblank⟩
        | true => exact ⟨_, _, _, .failed hset (.inr ⟨text, htext, hblank⟩)⟩
      · exact ⟨_, _, _, .failed hset (.inl hfail)⟩

/-- So is the second. -/
theorem exists_projectName (host : Host σ) (plan : Plan) (o : σ) :
    ∃ found o' queries, ProjectName host plan o found o' queries := by
  cases hset : plan.project with
  | some name => exact ⟨_, _, _, .set hset⟩
  | none =>
      cases hstandalone : plan.standalone with
      | false => exact ⟨_, _, _, .unneeded hset hstandalone⟩
      | true =>
          rcases printed_or_unanswered
            (host.start (projectQuery plan.root) o).answer with
            ⟨text, htext⟩ | hfail
          · cases hblank : Text.allBlank text with
            | false => exact ⟨_, _, _, .told hset hstandalone htext hblank⟩
            | true => exact ⟨_, _, _, .nameless hset hstandalone htext hblank⟩
          · exact ⟨_, _, _, .failed hset hstandalone hfail⟩

/-- Where the plan and the path of the build tool are known, a way goes on from
there. -/
theorem exists_preparation_of_litani {path : Path} {o₁ : σ}
    (hresolved : Resolved host given config o file plan)
    (hlitani : LitaniPath host plan o (some path) o₁ queries) :
    ∃ found o' queries', Preparation host given config o found o'
        (queries ++ queries')
      ∧ ∃ name, ProjectName host plan o₁ name o' queries' := by
  obtain ⟨found, o₂, queries', hproject⟩ := exists_projectName host plan o₁
  cases found with
  | none =>
      exact ⟨_, _, _, .no_project hresolved hlitani hproject, _, hproject⟩
  | some found =>
      exact ⟨_, _, _, .ready hresolved hlitani hproject, _, hproject⟩

/-- Where the plan is known, a way goes on from there. -/
theorem exists_preparation_of_resolved
    (hresolved : Resolved host given config o file plan) :
    ∃ found o' path o₁ queries queries',
      Preparation host given config o found o' (queries ++ queries')
        ∧ LitaniPath host plan o path o₁ queries := by
  obtain ⟨path, o₁, queries, hlitani⟩ := exists_litaniPath host plan o
  cases path with
  | none =>
      refine ⟨none, o₁, none, o₁, queries, [], ?_, hlitani⟩
      rw [List.append_nil]
      exact .no_litani hresolved hlitani
  | some path =>
      obtain ⟨found, o', queries', hprepared, -⟩ :=
        exists_preparation_of_litani hresolved hlitani
      exact ⟨found, o', _, o₁, queries, queries', hprepared, hlitani⟩

/-- One of the ways is gone. -/
theorem exists_preparation (host : Host σ) (given : Overrides)
    (config : Option Path) (o : σ) :
    ∃ found o' queries, Preparation host given config o found o' queries := by
  by_cases h : ∃ file plan, Resolved host given config o file plan
  · obtain ⟨file, plan, hresolved⟩ := h
    obtain ⟨found, o', -, -, queries, queries', hprepared, -⟩ :=
      exists_preparation_of_resolved hresolved
    exact ⟨found, o', _, hprepared⟩
  · refine ⟨none, o, [], .unresolved fun file plan hresolved => h ?_⟩
    exact ⟨file, plan, hresolved⟩

-- ============================================================= what make says

/-- Nothing is left of a text without its blanks if it has nothing else. -/
theorem isEmpty_trim (text : String) :
    (Text.trim text).isEmpty = Text.allBlank text := by
  -- what is left ends with no blank, and after the first cut begins with none
  have hnil : (text.toList.dropWhile Text.isBlank).rdropWhile Text.isBlank = []
      ↔ ∀ c ∈ text.toList, Text.isBlank c = true := by
    rw [List.rdropWhile_eq_nil_iff, ← List.dropWhile_eq_nil_iff,
      List.dropWhile_idempotent, List.dropWhile_eq_nil_iff]
  rw [Bool.eq_iff_iff, String.isEmpty_iff, Text.allBlank, List.all_eq_true,
    ← hnil]
  exact String.ofList_eq_empty_iff

section Answers

variable {answer : Except IoError Finished} {text : String}

/-- A path is what was printed, without the blanks around it. -/
theorem litaniAnswer_told (h : Printed answer text)
    (hsome : Text.allBlank text = false) :
    Make.litaniAnswer answer = .ok ⟨Text.trim text⟩ := by
  obtain ⟨finished, rfl, hending, rfl⟩ := h
  rw [← isEmpty_trim] at hsome
  simp only [Make.litaniAnswer, Ending.isSuccess_iff.mpr hending, hsome,
    Bool.not_false, Bool.and_self, if_true]

/-- A process that did not end well tells no path, nor does one that printed
only blanks. -/
theorem litaniAnswer_failed (h : Unanswered answer
      ∨ ∃ text, Printed answer text ∧ Text.allBlank text = true) :
    ∃ e, Make.litaniAnswer answer = .error e := by
  obtain (⟨e, rfl⟩ | ⟨finished, rfl, hending⟩)
    | ⟨text, ⟨finished, rfl, hending, rfl⟩, hblank⟩ := h
  · exact ⟨_, rfl⟩
  · refine ⟨_, if_neg fun h => hending ?_⟩
    exact Ending.isSuccess_iff.mp (Bool.and_eq_true_iff.mp h).1
  · rw [← isEmpty_trim] at hblank
    refine ⟨_, if_neg fun h => ?_⟩
    have hsome := (Bool.and_eq_true_iff.mp h).2
    rw [hblank] at hsome
    cases hsome

/-- A name is what was printed, without the blanks around it. -/
theorem projectAnswer_told (h : Printed answer text)
    (hsome : Text.allBlank text = false) :
    Make.projectAnswer answer = (.ok (Text.trim text), []) := by
  obtain ⟨finished, rfl, hending, rfl⟩ := h
  rw [← isEmpty_trim] at hsome
  simp only [Make.projectAnswer, Ending.isSuccess_iff.mpr hending, hsome,
    Bool.not_true, Bool.false_eq_true, if_false]

/-- Only blanks mean a project without a name, and that is not an error. -/
theorem projectAnswer_nameless (h : Printed answer text)
    (hblank : Text.allBlank text = true) :
    Make.projectAnswer answer
      = (.ok Make.placeholderName, [.note .warn Make.namelessWarning]) := by
  obtain ⟨finished, rfl, hending, rfl⟩ := h
  rw [← isEmpty_trim] at hblank
  simp only [Make.projectAnswer, Ending.isSuccess_iff.mpr hending, hblank,
    Bool.not_true, Bool.false_eq_true, if_false, if_true]

theorem projectAnswer_failed (h : Unanswered answer) :
    ∃ e, (Make.projectAnswer answer).1 = .error e := by
  obtain ⟨e, rfl⟩ | ⟨finished, rfl, hending⟩ := h
  · exact ⟨_, rfl⟩
  · have hfail : finished.ending.isSuccess = false :=
      Bool.eq_false_iff.mpr fun h => hending (Ending.isSuccess_iff.mp h)
    simp only [Make.projectAnswer, hfail, Bool.not_false, if_true]
    exact ⟨_, rfl⟩

end Answers

-- ================================================================= the stages

section Recorded

variable {w : World (σ × List Launch)} {log : List Launch}

/-- What one process comes to while launches are recorded. -/
theorem act_oneProcess_recording {α : Type} (host : Host σ) (launch : Launch)
    (before : List Remark) (make : Except IoError Finished → α × List Remark)
    (hw : w.outside = (o, log)) :
    ∃ w₁, w.act (oneProcess host.recording.start launch before make)
        = ((make (host.start launch o).answer).1, w₁)
      ∧ w₁.outside = ((host.start launch o).outside, log ++ [launch])
      ∧ ∀ remark ∈ (make (host.start launch o).answer).2,
        Event.heard remark ∈ w₁.journal := by
  obtain ⟨outside, journal⟩ := w
  subst hw
  refine ⟨_, rfl, rfl, fun remark hremark => ?_⟩
  exact List.mem_append_right _
    (List.mem_map_of_mem (List.mem_append_right _ hremark))

/-- The first question leaves the outside as its one process does, with that
process on record. -/
theorem act_litaniPath (host : Host σ) (root : Path)
    (hw : w.outside = (o, log)) :
    ∃ w₁, w.act (Make.litaniPath host.recording.start root)
        = (Make.litaniAnswer (host.start (litaniQuery root) o).answer, w₁)
      ∧ w₁.outside = ((host.start (litaniQuery root) o).outside,
        log ++ [litaniQuery root]) := by
  rw [Make.litaniPath_eq]
  obtain ⟨w₁, hact, hout, -⟩ := act_oneProcess_recording host _ _ _ hw
  exact ⟨w₁, hact, hout⟩

/-- So does the second; what it remarks goes into the journal. -/
theorem act_projectName (host : Host σ) (root : Path)
    (hw : w.outside = (o, log)) :
    ∃ w₁, w.act (Make.projectName host.recording.start root)
        = ((Make.projectAnswer (host.start (projectQuery root) o).answer).1,
          w₁)
      ∧ w₁.outside = ((host.start (projectQuery root) o).outside,
        log ++ [projectQuery root])
      ∧ ∀ remark ∈ (Make.projectAnswer
          (host.start (projectQuery root) o).answer).2,
        Event.heard remark ∈ w₁.journal := by
  rw [Make.projectName_eq]
  exact act_oneProcess_recording host _ _ _ hw

/-- The stage of the first question goes the way that is described. -/
theorem outcome_litaniPath {found : Option Path}
    (h : LitaniPath host plan o found o' queries) (hw : w.outside = (o, log)) :
    ∃ answer w₁, (litaniPath host.recording plan).outcome w = (answer, w₁)
      ∧ answer.toOption = found ∧ w₁.outside = (o', log ++ queries) := by
  unfold Session.litaniPath
  cases h with
  | @set path set =>
      rw [set]
      exact ⟨_, w, rfl, rfl, by rw [hw, List.append_nil]⟩
  | told unset printed some_text =>
      rw [unset]
      obtain ⟨w₁, hact, hout⟩ := act_litaniPath host plan.root hw
      rw [litaniAnswer_told printed some_text] at hact
      exact ⟨_, w₁, hact, rfl, hout⟩
  | failed unset failure =>
      rw [unset]
      obtain ⟨w₁, hact, hout⟩ := act_litaniPath host plan.root hw
      obtain ⟨e, he⟩ := litaniAnswer_failed failure
      rw [he] at hact
      exact ⟨_, w₁, hact, rfl, hout⟩

/-- The stage of the second goes the way that is described, and tells of a name
that stands for none. -/
theorem outcome_projectName {found : Option (String × Bool)}
    (h : ProjectName host plan o found o' queries)
    (hw : w.outside = (o, log)) :
    ∃ answer w₁, (projectName host.recording plan).outcome w = (answer, w₁)
      ∧ answer.toOption = found.map (·.1) ∧ w₁.outside = (o', log ++ queries)
      ∧ ∀ name, found = some (name, true) → name = Make.placeholderName
        ∧ Event.heard (.note .warn Make.namelessWarning) ∈ w₁.journal := by
  unfold Session.projectName
  cases h with
  | @set name set =>
      rw [set]
      refine ⟨_, w, rfl, rfl, by rw [hw, List.append_nil], fun _ h => ?_⟩
      cases h
  | unneeded unset hosted =>
      rw [unset, hosted]
      refine ⟨_, w, rfl, rfl, by rw [hw, List.append_nil], fun _ h => ?_⟩
      cases h
  | told unset standalone printed some_text =>
      rw [unset, standalone]
      obtain ⟨w₁, hact, hout, -⟩ := act_projectName host plan.root hw
      rw [projectAnswer_told printed some_text] at hact
      refine ⟨_, w₁, hact, rfl, hout, fun _ h => ?_⟩
      cases h
  | nameless unset standalone printed blank =>
      rw [unset, standalone]
      obtain ⟨w₁, hact, hout, hheard⟩ := act_projectName host plan.root hw
      rw [projectAnswer_nameless printed blank] at hact hheard
      refine ⟨_, w₁, hact, rfl, hout, fun name hname => ?_⟩
      cases hname
      exact ⟨rfl, hheard _ List.mem_cons_self⟩
  | failed unset standalone failure =>
      rw [unset, standalone]
      obtain ⟨w₁, hact, hout, -⟩ := act_projectName host plan.root hw
      obtain ⟨e, he⟩ := projectAnswer_failed failure
      rw [he] at hact
      refine ⟨_, w₁, hact, rfl, hout, fun _ h => ?_⟩
      cases h

end Recorded

/-- Loading the settings only reads: it leaves the outside alone. -/
theorem outcome_fileSettings (host : Host σ) (config : Option Path)
    (w : World σ) :
    ∃ w₁, w₁.outside = w.outside ∧ (fileSettings host config).outcome w
      = ((settingsIn host.format (host.files w.outside) config).mapError
        .settings, w₁) := by
  unfold fileSettings settingsIn
  cases config with
  | none => exact ⟨w, rfl, rfl⟩
  | some path =>
      refine ⟨w.note .info s!"Loading configuration from {path.text}", rfl, ?_⟩
      rw [outcome_bind_ok (outcome_note ..),
        outcome_bind_ok (outcome_filesNow ..),
        show (w.note _ _).outside = w.outside from rfl]
      dsimp only
      cases FileSettings.load host.format (host.files w.outside) path <;> rfl

/-- The stage of the settings comes to the plan that is described. -/
theorem outcome_plan_resolved {w : World σ}
    (h : Resolved host given config w.outside file plan) :
    ∃ w₁, w₁.outside = w.outside
      ∧ (Session.plan host given config).outcome w = (.ok plan, w₁) := by
  obtain ⟨w₁, hw₁, hfile⟩ := outcome_fileSettings host config w
  rw [h.loaded] at hfile
  refine ⟨w₁.note .info s!"Proof root: {plan.root.text}", hw₁, ?_⟩
  unfold Session.plan
  rw [outcome_bind_ok hfile, outcome_bind_ok (outcome_filesNow ..), hw₁]
  dsimp only
  rw [h.resolved]
  rfl

/-- If no plan is described, that stage fails, and the outside is left
alone. -/
theorem outcome_plan_unresolved {w : World σ}
    (h : ∀ file plan, ¬Resolved host given config w.outside file plan) :
    ∃ e w₁, w₁.outside = w.outside
      ∧ (Session.plan host given config).outcome w = (.error e, w₁) := by
  obtain ⟨w₁, hw₁, hfile⟩ := outcome_fileSettings host config w
  unfold Session.plan
  cases hloaded : settingsIn host.format (host.files w.outside) config with
  | error e =>
      rw [hloaded] at hfile
      exact ⟨_, w₁, hw₁, outcome_bind_error hfile _⟩
  | ok file =>
      rw [hloaded] at hfile
      rw [outcome_bind_ok hfile, outcome_bind_ok (outcome_filesNow ..), hw₁]
      dsimp only
      cases hresolved : Plan.resolve
          { here := (host.files w.outside).current, cpus := host.cpus } given
          file with
      | ok plan => exact absurd ⟨hloaded, hresolved⟩ (h file plan)
      | error e => exact ⟨_, w₁, hw₁, rfl⟩

-- ================================================================ the session

section Recorded

variable {w : World (σ × List Launch)} {log : List Launch}

/-- Keeping a record does not change what is found out. -/
theorem Resolved.recording (h : Resolved host given config o file plan)
    (hw : w.outside = (o, log)) :
    Resolved host.recording given config w.outside file plan := by
  rw [hw]
  exact ⟨h.loaded, h.resolved⟩

/-- A session that cannot find out what it needs stops there. -/
theorem outcome_runProofs_of_none
    (h : Preparation host given config o none o' queries)
    (hw : w.outside = (o, log)) :
    ∃ e w₁, (runProofs host.recording given config).outcome w = (.error e, w₁)
      ∧ w₁.outside = (o', log ++ queries) := by
  unfold Session.runProofs
  cases h with
  | unresolved none_resolved =>
      have hnone : ∀ file plan,
          ¬Resolved host.recording given config w.outside file plan := by
        rw [hw]
        exact fun file plan h => none_resolved file plan ⟨h.loaded, h.resolved⟩
      obtain ⟨e, w₁, hout, hplan⟩ := outcome_plan_unresolved hnone
      refine ⟨e, w₁, outcome_bind_error hplan _, ?_⟩
      rw [hout, hw, List.append_nil]
  | no_litani resolved litani =>
      obtain ⟨w₁, hout, hplan⟩ := outcome_plan_resolved (resolved.recording hw)
      obtain ⟨answer, w₂, hlitani, hfound, hout'⟩ :=
        outcome_litaniPath litani (hout.trans hw)
      cases answer with
      | ok path => cases hfound
      | error e =>
          refine ⟨e, w₂, ?_, hout'⟩
          rw [outcome_bind_ok hplan, outcome_bind_error hlitani]
  | no_project resolved litani project =>
      obtain ⟨w₁, hout, hplan⟩ := outcome_plan_resolved (resolved.recording hw)
      obtain ⟨answer, w₂, hlitani, hfound, hout'⟩ :=
        outcome_litaniPath litani (hout.trans hw)
      obtain ⟨answer', w₃, hproject, hfound', hout'', -⟩ :=
        outcome_projectName project hout'
      cases answer with
      | error e => cases hfound
      | ok path =>
          cases hfound
          cases answer' with
          | ok name => cases hfound'
          | error e =>
              refine ⟨e, w₃, ?_, by rw [hout'', List.append_assoc]⟩
              rw [outcome_bind_ok hplan, outcome_bind_ok hlitani,
                outcome_bind_error hproject]

/-- What a session says at the end of a run. -/
def announce (summary : Run.Summary) : Activity σ Unit := do
  let succeeded := summary.progress.succeeded.length
  tell .err s!"SUCCESS: Configured {succeeded} CBMC proofs\n"
  if summary.built then tell .err "INFO: Litani build completed\n"
  else
    tell .err "INFO: Run `litani run-build` to execute the configured proofs\n"

/-- The end of a session goes well and starts nothing. -/
theorem outcome_announce (summary : Run.Summary) (w : World σ) :
    ∃ w₁, (announce summary).outcome w = (.ok (), w₁)
      ∧ w₁.outside = w.outside ∧ w.journal ⊆ w₁.journal := by
  unfold announce
  rw [outcome_bind_ok (outcome_tell ..)]
  cases summary.built with
  | true => exact ⟨_, rfl, rfl, fun _ h => by simp [World.log, h]⟩
  | false => exact ⟨_, rfl, rfl, fun _ h => by simp [World.log, h]⟩

/-- A run of the proofs comes to the end of the session. -/
theorem outcome_run_announce
    (run : World σ → Except RunError Run.Summary × World σ)
    (w : World σ) :
    ∃ w₁, (ExceptT.mk run >>= announce : Activity σ Unit).outcome w
        = ((run w).1.map fun _ => (), w₁)
      ∧ w₁.outside = (run w).2.outside ∧ (run w).2.journal ⊆ w₁.journal := by
  have hrun : Activity.outcome (ExceptT.mk run) w = run w := rfl
  rw [outcome_bind, hrun]
  generalize run w = ended
  obtain ⟨_ | summary, w₁⟩ := ended
  · exact ⟨w₁, rfl, rfl, fun _ h => h⟩
  · exact outcome_announce summary w₁

/-- A session that has found out what it needs goes on to the run of the
proofs, and ends as that does. -/
theorem outcome_runProofs_of_some {found : Environment}
    (h : Preparation host given config o (some found) o' queries)
    (hw : w.outside = (o, log)) :
    ∃ w₁, w₁.outside = (o', log ++ queries)
      ∧ (found.nameless = true → found.project = Make.placeholderName
        ∧ Event.heard (.note .warn Make.namelessWarning) ∈ w₁.journal)
      ∧ ∃ w₂, (runProofs host.recording given config).outcome w
          = ((found.run host.recording w₁).1.map fun _ => (), w₂)
        ∧ w₂.outside = (found.run host.recording w₁).2.outside
        ∧ w₁.journal ⊆ w₂.journal := by
  cases h with
  | @ready file plan path name nameless o₁ _ asked asked' resolved litani
      project =>
      obtain ⟨w₁, hout, hplan⟩ := outcome_plan_resolved (resolved.recording hw)
      obtain ⟨answer, w₂, hlitani, hfound, hout'⟩ :=
        outcome_litaniPath litani (hout.trans hw)
      obtain ⟨answer', w₃, hproject, hfound', hout'', hnameless⟩ :=
        outcome_projectName project hout'
      cases answer with
      | error e => cases hfound
      | ok path' =>
      cases hfound
      cases answer' with
      | error e => cases hfound'
      | ok name' =>
      cases hfound'
      -- the run begins here, and its journal keeps what was heard before
      let w₄ := w₃.note .info s!"Using Litani at {path.text}"
      have hout₄ : w₄.outside = (o', log ++ (asked ++ asked')) := by
        rw [show w₄.outside = w₃.outside from rfl, hout'', List.append_assoc]
      let found : Environment := ⟨plan, path, name, nameless⟩
      obtain ⟨w₅, hend, hout₅, hjournal₅⟩ :=
        outcome_run_announce (found.run host.recording) w₄
      obtain ⟨events, hjournal, -⟩ := Run.runProofs_course
        (host.recording.files w₄.outside) plan name
        (partners host.recording path) w₄
      refine ⟨w₄, hout₄, fun hyes => ?_, w₅, ?_, hout₅, fun e he => ?_⟩
      · cases hyes
        obtain ⟨hname, hheard⟩ := hnameless _ rfl
        exact ⟨hname, List.mem_append_left _ hheard⟩
      · rw [← hend]
        unfold Session.runProofs
        rw [outcome_bind_ok hplan, outcome_bind_ok hlitani,
          outcome_bind_ok hproject, outcome_bind_ok (outcome_note ..),
          outcome_bind_ok (outcome_filesNow ..), outcome_bind, outcome_bind]
        rfl
      · refine hjournal₅ ?_
        unfold Environment.run
        rw [hjournal]
        exact List.mem_append_left _ he

end Recorded

end ProofBatch.Session
