/-
Settings: what a file and the command line may say about a run, and the plan
that comes of both.

A value from the command line counts before one from the file, and that before
the default. The plan is refused when its marker is blank, then when it
configures no proof at a time, then when the pool of expensive jobs has no
room; a settings file is refused for the same faults in the same order. Before
all that there is no plan without a root, if the run is started in a directory
that is gone.
-/
import ProofBatch.Capability
import ProofBatch.Error
import ProofBatch.Path
import ProofBatch.Text.Blank

namespace ProofBatch

-- ============================================================== what is given

/-- The settings that a file may hold. -/
structure FileSettings where
  /-- The name of the file that marks proofs. -/
  marker : Option String := none
  /-- The name of the project, for the build tool. -/
  project : Option String := none
  /-- Whether to restrict expensive jobs. -/
  restriction : Option Restriction := none
  /-- How many expensive jobs may run at once. -/
  expensiveJobs : Option Nat := none
  /-- How many proofs are configured at once. -/
  configureJobs : Option Nat := none
  /-- How many jobs the build runs at once. -/
  parallelJobs : Option Nat := none
  /-- The path of the build tool. -/
  litani : Option Path := none
  deriving DecidableEq, Repr, Inhabited

/-- The settings that the command line may hold. -/
structure Overrides where
  /-- The directory that holds the proofs. -/
  root : Option Path := none
  marker : Option String := none
  /-- The names of the proofs to take. -/
  proofs : Option (List String) := none
  /-- Leave the beginning and the running of the build to the caller. -/
  noStandalone : Bool := false
  project : Option String := none
  restriction : Option Restriction := none
  expensiveJobs : Option Nat := none
  configureJobs : Option Nat := none
  parallelJobs : Option Nat := none
  litani : Option Path := none
  deriving DecidableEq, Repr, Inhabited

/-- What a run goes by. -/
structure Plan where
  root : Path
  marker : String
  proofs : Option (List String)
  /-- Whether the run begins and runs the build itself. -/
  standalone : Bool
  project : Option String
  restriction : Restriction
  expensiveJobs : Nat
  configureJobs : Nat
  parallelJobs : Option Nat
  litani : Option Path
  deriving DecidableEq, Repr, Inhabited

-- ================================================================ defaults

/-- The name of the marker file, unless another is given. -/
def defaultMarker : String :=
  "cbmc-proof.txt"

/-- How many proofs are configured at once on a machine with so many
processors, unless a number is given: two processors are left for other
work. -/
def poolSize (cpus : Nat) : Nat :=
  if cpus < 3 then 1 else cpus - 2

/-- Where a run is started. -/
structure Surroundings where
  /-- The directory that it is started in, unless that is gone. -/
  here : Except IoError Path
  /-- The number of processors. -/
  cpus : Nat
  deriving Repr, Inhabited

-- ================================================================ faults

/-- A blank marker. -/
def blankMarker : SettingsError :=
  .invalid "proof_marker" "must not be empty"

/-- A number that must not be zero. -/
def zeroJobs (key : String) : SettingsError :=
  .invalid key "must be at least 1"

/-- Refuse the settings of a file that no plan could be made of. -/
def FileSettings.validate (file : FileSettings) : Except SettingsError Unit :=
  if file.marker.any Text.allBlank then .error blankMarker
  else if file.configureJobs = some 0 then .error (zeroJobs "configure_jobs")
  else if file.expensiveJobs = some 0 then
    .error (zeroJobs "expensive_jobs_parallelism")
  else .ok ()

-- ================================================================ the plan

/-- The plan of a run. An empty list of proofs asks for none in particular, as
no list does. Where the run is started is looked up only if no root is given,
and before anything is checked. -/
def Plan.resolve (surroundings : Surroundings) (given : Overrides)
    (file : FileSettings) : Except SettingsError Plan :=
  match given.root.elim surroundings.here .ok with
  | .error e => .error (.unreadable e)
  | .ok root =>
    let marker := (given.marker <|> file.marker).getD defaultMarker
    let configureJobs :=
      (given.configureJobs <|> file.configureJobs).getD
        (poolSize surroundings.cpus)
    let expensiveJobs := (given.expensiveJobs <|> file.expensiveJobs).getD 1
    if Text.allBlank marker then .error blankMarker
    else if configureJobs = 0 then .error (zeroJobs "configure_jobs")
    else if expensiveJobs = 0 then
      .error (zeroJobs "expensive_jobs_parallelism")
    else
      .ok
        { root
          marker
          proofs := given.proofs.filter (!·.isEmpty)
          standalone := !given.noStandalone
          project := given.project <|> file.project
          restriction := (given.restriction <|> file.restriction).getD .auto
          expensiveJobs
          configureJobs
          parallelJobs := given.parallelJobs <|> file.parallelJobs
          litani := given.litani <|> file.litani }

end ProofBatch
