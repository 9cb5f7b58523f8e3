/-
Settings: where those of a plan are taken from, and when there is no plan.

# Taking

Each setting is taken from the command line, else from the file, else from the
defaults, whatever the others are (`Takes`, `Plan.Merges`).

# Checking

Three settings can be at fault, and the first that is decides what is said. The
settings of a plan are checked when they have been taken, those of a file by
themselves, but it is one check (`check`): no default is at fault, so a setting
that a file leaves out may be checked as its default. A file is refused, then,
if no plan can be made of it alone, and for the same fault; and one that is not
refused gives rise to no fault, as the defaults in its place would
(`validate_agrees`).
-/
import ProofBatch.Settings

namespace ProofBatch

open Text

-- ===================================================================== taking

section Taking

variable {α β : Type}

/-- A value from the command line counts before one from the file, and that
before the default. -/
inductive Takes (put : α → β) : Option α → Option α → β → β → Prop
  | given {a : α} {file : Option α} {default : β} :
      Takes put (some a) file default (put a)
  | file {a : α} {default : β} : Takes put none (some a) default (put a)
  | default {default : β} : Takes put none none default default

/-- What is taken with a default comes from the first source that gives
anything. -/
theorem takes_getD (given file : Option α) (default : α) :
    Takes id given file default ((given <|> file).getD default) := by
  cases given with
  | some a => exact .given
  | none =>
      cases file with
      | some a => exact .file
      | none => exact .default

/-- A setting without a default is left out if it is nowhere given. -/
theorem takes_orElse (given file : Option α) :
    Takes some given file none (given <|> file) := by
  cases given with
  | some a => exact .given
  | none =>
      cases file with
      | some a => exact .file
      | none => exact .default

end Taking

-- =================================================================== checking

section Checking

variable {α : Type} {marker : String} {configureJobs expensiveJobs : Nat}
  {e e' : SettingsError} {x : α}

/-- Nothing but blanks, if anything. -/
def IsBlank (text : String) : Prop :=
  ∀ c ∈ text.toList, isBlank c = true

/-- The check of a marker tells whether it is blank. -/
theorem allBlank_iff (text : String) : allBlank text = true ↔ IsBlank text :=
  List.all_eq_true

/-- None of the settings that are checked is at fault. -/
structure Faultless (marker : String) (configureJobs expensiveJobs : Nat) :
    Prop where
  marker : ¬IsBlank marker
  configureJobs : 1 ≤ configureJobs
  expensiveJobs : 1 ≤ expensiveJobs

/-- The first of the settings that is at fault, in the order in which they are
checked, and what is said of it. -/
inductive FirstAtFault (marker : String) (configureJobs expensiveJobs : Nat) :
    SettingsError → Prop
  | marker (blank : IsBlank marker) :
      FirstAtFault marker configureJobs expensiveJobs
        (.invalid "proof_marker" "must not be empty")
  | configureJobs (marked : ¬IsBlank marker) (zero : configureJobs = 0) :
      FirstAtFault marker configureJobs expensiveJobs
        (.invalid "configure_jobs" "must be at least 1")
  | expensiveJobs (marked : ¬IsBlank marker) (configures : 1 ≤ configureJobs)
      (zero : expensiveJobs = 0) :
      FirstAtFault marker configureJobs expensiveJobs
        (.invalid "expensive_jobs_parallelism" "must be at least 1")

/-- What has a first fault has a fault. -/
theorem FirstAtFault.not_faultless
    (h : FirstAtFault marker configureJobs expensiveJobs e) :
    ¬Faultless marker configureJobs expensiveJobs := by
  intro hsound
  cases h with
  | marker blank => exact hsound.marker blank
  | configureJobs _ zero =>
      have := hsound.configureJobs
      omega
  | expensiveJobs _ _ zero =>
      have := hsound.expensiveJobs
      omega

/-- The check, with what there is if it finds no fault. -/
def check (marker : String) (configureJobs expensiveJobs : Nat) (x : α) :
    Except SettingsError α :=
  if allBlank marker then .error blankMarker
  else if configureJobs = 0 then .error (zeroJobs "configure_jobs")
  else if expensiveJobs = 0 then .error (zeroJobs "expensive_jobs_parallelism")
  else .ok x

/-- The check tells the first fault, or that there is none. -/
theorem check_spec (marker : String) (configureJobs expensiveJobs : Nat)
    (x : α) :
    (check marker configureJobs expensiveJobs x = .ok x
        ∧ Faultless marker configureJobs expensiveJobs)
      ∨ ∃ e, check marker configureJobs expensiveJobs x = .error e
        ∧ FirstAtFault marker configureJobs expensiveJobs e := by
  unfold check
  by_cases hblank : allBlank marker = true
  · rw [if_pos hblank]
    exact .inr ⟨_, rfl, .marker ((allBlank_iff marker).mp hblank)⟩
  · have hmarked : ¬IsBlank marker :=
      fun h => hblank ((allBlank_iff marker).mpr h)
    rw [if_neg hblank]
    by_cases hconfigure : configureJobs = 0
    · rw [if_pos hconfigure]
      exact .inr ⟨_, rfl, .configureJobs hmarked hconfigure⟩
    · rw [if_neg hconfigure]
      by_cases hexpensive : expensiveJobs = 0
      · rw [if_pos hexpensive]
        exact .inr ⟨_, rfl, .expensiveJobs hmarked (by omega) hexpensive⟩
      · rw [if_neg hexpensive]
        exact .inl ⟨rfl, hmarked, by omega, by omega⟩

/-- The checks let pass what has no fault, and change nothing. -/
theorem check_eq_ok_iff {y : α} :
    check marker configureJobs expensiveJobs x = .ok y
      ↔ x = y ∧ Faultless marker configureJobs expensiveJobs := by
  rcases check_spec marker configureJobs expensiveJobs x
    with ⟨hok, hsound⟩ | ⟨e, herror, hfault⟩
  · rw [hok, Except.ok.injEq]
    exact (and_iff_left hsound).symm
  · rw [herror]
    constructor
    · intro h
      cases h
    · intro h
      exact absurd h.2 hfault.not_faultless

/-- There is only one first fault, as all faults before it are excluded. -/
theorem FirstAtFault.unique
    (h : FirstAtFault marker configureJobs expensiveJobs e)
    (h' : FirstAtFault marker configureJobs expensiveJobs e') : e = e' := by
  cases h with
  | marker blank =>
      cases h' with
      | marker => rfl
      | configureJobs marked => exact absurd blank marked
      | expensiveJobs marked => exact absurd blank marked
  | configureJobs marked zero =>
      cases h' with
      | marker blank => exact absurd blank marked
      | configureJobs => rfl
      | expensiveJobs _ configures => omega
  | expensiveJobs marked configures =>
      cases h' with
      | marker blank => exact absurd blank marked
      | configureJobs _ zero => omega
      | expensiveJobs => rfl

/-- The checks report the first fault. -/
theorem check_eq_error_iff :
    check marker configureJobs expensiveJobs x = .error e
      ↔ FirstAtFault marker configureJobs expensiveJobs e := by
  rcases check_spec marker configureJobs expensiveJobs x
    with ⟨hok, hsound⟩ | ⟨e', herror, hfault⟩
  · rw [hok]
    constructor
    · intro h
      cases h
    · intro h
      exact absurd hsound h.not_faultless
  · rw [herror, Except.error.injEq]
    constructor
    · intro h
      rw [← h]
      exact hfault
    · intro h
      exact hfault.unique h

end Checking

-- =================================================================== the plan

section Plan

variable {here there : Surroundings} {root : Path} {given : Overrides}
  {file : FileSettings} {plan : Plan} {e : SettingsError}

/-- The default never leaves a run without anybody to configure its proofs. -/
theorem poolSize_pos (cpus : Nat) : 1 ≤ poolSize cpus := by
  unfold poolSize
  split
  · exact Nat.le_refl 1
  · omega

/-- The default of the marker passes its check. -/
theorem defaultMarker_not_isBlank : ¬IsBlank defaultMarker := by
  rw [← allBlank_iff]
  decide

/-- The marker that is taken. -/
def markerOf (given : Overrides) (file : FileSettings) : String :=
  (given.marker <|> file.marker).getD defaultMarker

/-- The number of proofs to configure at once that is taken. -/
def configureJobsOf (here : Surroundings) (given : Overrides)
    (file : FileSettings) : Nat :=
  (given.configureJobs <|> file.configureJobs).getD (poolSize here.cpus)

/-- The room for expensive jobs that is taken. -/
def expensiveJobsOf (given : Overrides) (file : FileSettings) : Nat :=
  (given.expensiveJobs <|> file.expensiveJobs).getD 1

/-- Each setting of a plan is taken from its own sources. -/
structure Plan.Merges (here : Surroundings) (root : Path) (given : Overrides)
    (file : FileSettings) (plan : Plan) : Prop where
  root : plan.root = root
  marker : Takes id given.marker file.marker "cbmc-proof.txt" plan.marker
  project : Takes some given.project file.project none plan.project
  restriction : Takes id given.restriction file.restriction .auto
    plan.restriction
  expensiveJobs : Takes id given.expensiveJobs file.expensiveJobs 1
    plan.expensiveJobs
  configureJobs : Takes id given.configureJobs file.configureJobs
    (if here.cpus < 3 then 1 else here.cpus - 2) plan.configureJobs
  parallelJobs : Takes some given.parallelJobs file.parallelJobs none
    plan.parallelJobs
  litani : Takes some given.litani file.litani none plan.litani
  /-- Only the command line names proofs, and no names ask for none in
  particular. -/
  proofs : ∀ names, plan.proofs = some names
    ↔ given.proofs = some names ∧ names ≠ []
  standalone : plan.standalone = !given.noStandalone

/-- The plan of the settings that are taken, checked or not. -/
def merged (here : Surroundings) (root : Path) (given : Overrides)
    (file : FileSettings) : Plan where
  root := root
  marker := markerOf given file
  proofs := given.proofs.filter (!·.isEmpty)
  standalone := !given.noStandalone
  project := given.project <|> file.project
  restriction := (given.restriction <|> file.restriction).getD .auto
  expensiveJobs := expensiveJobsOf given file
  configureJobs := configureJobsOf here given file
  parallelJobs := given.parallelJobs <|> file.parallelJobs
  litani := given.litani <|> file.litani

/-- The plan of all that is taken takes each setting from its own sources. -/
theorem merges_merged (here : Surroundings) (root : Path) (given : Overrides)
    (file : FileSettings) :
    (merged here root given file).Merges here root given file where
  root := rfl
  marker := takes_getD ..
  project := takes_orElse ..
  restriction := takes_getD ..
  expensiveJobs := takes_getD ..
  configureJobs := takes_getD ..
  parallelJobs := takes_orElse ..
  litani := takes_orElse ..
  proofs names := by
    show given.proofs.filter (!·.isEmpty) = some names ↔ _
    rw [Option.filter_eq_some_iff, Bool.not_eq_true',
      List.isEmpty_eq_false_iff]
  standalone := rfl

/-- A plan is what has been taken, when that has been checked. -/
theorem resolve_eq_check (here : Surroundings) (root : Path)
    (given : Overrides)
    (file : FileSettings) :
    Plan.resolve here { given with root := some root } file
      = check (markerOf given file) (configureJobsOf here given file)
        (expensiveJobsOf given file) (merged here root given file) :=
  rfl

/-- There is a plan if and only if none of the settings that are taken is at
fault; otherwise the first that is decides what is said. -/
theorem resolve_merges (here : Surroundings) (root : Path) (given : Overrides)
    (file : FileSettings) :
    ∃ marker configureJobs expensiveJobs,
      Takes id given.marker file.marker "cbmc-proof.txt" marker
      ∧ Takes id given.configureJobs file.configureJobs
        (if here.cpus < 3 then 1 else here.cpus - 2) configureJobs
      ∧ Takes id given.expensiveJobs file.expensiveJobs 1 expensiveJobs
      ∧ ((∃ plan, Plan.resolve here { given with root := some root } file
          = .ok plan) ↔ Faultless marker configureJobs expensiveJobs)
      ∧ (∀ e, Plan.resolve here { given with root := some root } file
        = .error e
          ↔ FirstAtFault marker configureJobs expensiveJobs e)
      ∧ ∀ plan, Plan.resolve here { given with root := some root } file
          = .ok plan →
        plan.Merges here root given file
          ∧ Faultless plan.marker plan.configureJobs plan.expensiveJobs := by
  refine ⟨markerOf given file, configureJobsOf here given file,
    expensiveJobsOf given file, takes_getD .., takes_getD .., takes_getD ..,
    ?_, ?_, ?_⟩
  · rw [resolve_eq_check]
    constructor
    · intro h
      obtain ⟨plan, hplan⟩ := h
      exact (check_eq_ok_iff.mp hplan).2
    · intro h
      exact ⟨_, check_eq_ok_iff.mpr ⟨rfl, h⟩⟩
  · intro e
    rw [resolve_eq_check]
    exact check_eq_error_iff
  · intro plan h
    rw [resolve_eq_check] at h
    obtain ⟨hplan, hsound⟩ := check_eq_ok_iff.mp h
    rw [← hplan]
    exact ⟨merges_merged here root given file, hsound⟩

-- ================================================================== one check

/-- A marker in a file is at fault if and only if the marker that is taken
without a command line is. -/
theorem allBlank_markerOf (file : FileSettings) :
    allBlank (markerOf {} file) = file.marker.any allBlank := by
  show allBlank (file.marker.getD defaultMarker) = _
  cases file.marker with
  | none => decide
  | some marker => rfl

/-- A number that is taken is zero only if it was given so. -/
theorem getD_eq_zero_iff {given : Option Nat} {default : Nat}
    (h : 1 ≤ default) : given.getD default = 0 ↔ given = some 0 := by
  cases given with
  | none =>
      show default = 0 ↔ none = some 0
      simp
      omega
  | some n =>
      show n = 0 ↔ some n = some 0
      simp

/-- What a file leaves out may be checked as its default. -/
theorem validate_eq_check (file : FileSettings) (here : Surroundings) :
    file.validate = check (markerOf {} file) (configureJobsOf here {} file)
      (expensiveJobsOf {} file) () := by
  have hconfigure : configureJobsOf here {} file = 0
      ↔ file.configureJobs = some 0 :=
        getD_eq_zero_iff (poolSize_pos here.cpus)
  have hexpensive : expensiveJobsOf {} file = 0
      ↔ file.expensiveJobs = some 0 :=
    getD_eq_zero_iff (Nat.le_refl 1)
  rw [FileSettings.validate, check, allBlank_markerOf]
  simp only [hconfigure, hexpensive]

/-- Faults are told from what is tested. -/
theorem FirstAtFault.congr {marker marker' : String}
    {configureJobs configureJobs' expensiveJobs expensiveJobs' : Nat}
    (hmarker : IsBlank marker ↔ IsBlank marker')
    (hconfigure : configureJobs = 0 ↔ configureJobs' = 0)
    (hexpensive : expensiveJobs = 0 ↔ expensiveJobs' = 0)
    (h : FirstAtFault marker configureJobs expensiveJobs e) :
    FirstAtFault marker' configureJobs' expensiveJobs' e := by
  cases h with
  | marker blank => exact .marker (hmarker.mp blank)
  | configureJobs marked zero =>
      exact .configureJobs (mt hmarker.mpr marked) (hconfigure.mp zero)
  | expensiveJobs marked configures zero =>
      exact .expensiveJobs (mt hmarker.mpr marked) (by omega)
        (hexpensive.mp zero)

/-- What is taken is bad because of the command line, if neither the file nor
the default is bad. -/
theorem bad_taken_iff {α : Type} (Bad : α → Prop) {given file : Option α}
    {default default' : α} (hfile : ¬Bad (file.getD default))
    (hdefault : ¬Bad default') :
    Bad ((given <|> file).getD default)
      ↔ Bad ((given <|> none).getD default') := by
  cases given with
  | some a => exact Iff.rfl
  | none => exact iff_of_false hfile hdefault

/-- In place of a file without fault, no file at all would do as well. -/
theorem firstAtFault_iff_of_faultless
    (h : Faultless (markerOf {} file) (configureJobsOf here {} file)
      (expensiveJobsOf {} file)) (given : Overrides) :
    FirstAtFault (markerOf given file) (configureJobsOf here given file)
        (expensiveJobsOf given file) e
      ↔ FirstAtFault (markerOf given {}) (configureJobsOf there given {})
        (expensiveJobsOf given {}) e := by
  have hmarker : IsBlank (markerOf given file) ↔ IsBlank (markerOf given {}) :=
    bad_taken_iff IsBlank h.marker defaultMarker_not_isBlank
  have hconfigure : configureJobsOf here given file = 0
      ↔ configureJobsOf there given {} = 0 :=
    bad_taken_iff (· = 0) (Nat.one_le_iff_ne_zero.mp h.configureJobs)
      (Nat.one_le_iff_ne_zero.mp (poolSize_pos there.cpus))
  have hexpensive : expensiveJobsOf given file = 0
      ↔ expensiveJobsOf given {} = 0 :=
    bad_taken_iff (· = 0) (Nat.one_le_iff_ne_zero.mp h.expensiveJobs)
      Nat.one_ne_zero
  constructor
  · exact FirstAtFault.congr hmarker hconfigure hexpensive
  · exact FirstAtFault.congr hmarker.symm hconfigure.symm hexpensive.symm

/-- A file is refused if and only if no plan can be made of it alone, and for
the same fault. One that is not refused neither causes nor hides a fault. -/
theorem validate_agrees (here there : Surroundings) (root : Path)
    (file : FileSettings) :
    (file.validate = .ok ()
        ↔ ∃ plan, Plan.resolve here { root := some root } file = .ok plan)
      ∧ (∀ e, file.validate = .error e
        ↔ Plan.resolve here { root := some root } file = .error e)
      ∧ (∀ e, file.validate = .error e
        → ∃ key problem, e = .invalid key problem)
      ∧ (file.validate = .ok () → ∀ (given : Overrides) (e : SettingsError),
        Plan.resolve here { given with root := some root } file = .error e
          ↔ Plan.resolve there { given with root := some root } {}
            = .error e) := by
  have hplan : Plan.resolve here { root := some root } file
      = check (markerOf {} file) (configureJobsOf here {} file)
        (expensiveJobsOf {} file) (merged here root {} file) :=
    resolve_eq_check here root {} file
  rw [validate_eq_check file here, hplan]
  refine ⟨?_, ?_, ?_, ?_⟩
  · rw [check_eq_ok_iff, and_iff_right rfl]
    constructor
    · intro h
      exact ⟨_, check_eq_ok_iff.mpr ⟨rfl, h⟩⟩
    · intro h
      obtain ⟨plan, hplan⟩ := h
      exact (check_eq_ok_iff.mp hplan).2
  · intro e
    rw [check_eq_error_iff, check_eq_error_iff]
  · intro e h
    rw [check_eq_error_iff] at h
    cases h with
    | marker => exact ⟨_, _, rfl⟩
    | configureJobs => exact ⟨_, _, rfl⟩
    | expensiveJobs => exact ⟨_, _, rfl⟩
  · intro hok given e
    have hsound := (check_eq_ok_iff.mp hok).2
    rw [resolve_eq_check, resolve_eq_check, check_eq_error_iff,
      check_eq_error_iff]
    exact firstAtFault_iff_of_faultless hsound given

/-- A good marker in the file does not make up for a blank one on the command
line. -/
theorem validate_agrees_blank :
    FileSettings.validate
      { marker := some "proof.txt", configureJobs := some 3 }
        = .ok ()
      ∧ Plan.resolve ⟨.ok ⟨"/"⟩, 8⟩
          { marker := some "\u2003 ", configureJobs := some 0,
            root := some ⟨"p"⟩ }
          { marker := some "proof.txt", configureJobs := some 3 }
        = .error (.invalid "proof_marker" "must not be empty") := by
  have hfile : FileSettings.validate
      { marker := some "proof.txt", configureJobs := some 3 } = .ok () := by
    rfl
  obtain ⟨-, -, -, hagrees⟩ := validate_agrees ⟨.ok ⟨"/"⟩, 8⟩
    ⟨.error .notFound, 1⟩ ⟨"p"⟩
    { marker := some "proof.txt", configureJobs := some 3 }
  refine ⟨hfile, (hagrees hfile
    { marker := some "\u2003 ", configureJobs := some 0 } _).mpr ?_⟩
  rfl

end Plan

end ProofBatch
