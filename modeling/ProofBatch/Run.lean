/-
A run: find the proofs, decide about pools, begin the build, configure every
proof, run the build.

A standalone run begins and runs the build itself; any other leaves both to its
caller. The build is run only when every proof was configured.
-/
import ProofBatch.Discovery
import ProofBatch.Pools
import ProofBatch.Settings
import ProofBatch.Workers

namespace ProofBatch.Run

variable {σ : Type}

/-- What a run has done. -/
structure Summary where
  progress : Progress
  /-- Whether expensive jobs went into their pool. -/
  pools : Bool
  /-- Whether the build was run. -/
  built : Bool
  deriving DecidableEq, Repr

/-- The partners of a run, and the order in which its workers step. -/
structure Partners (σ : Type) where
  tool : BuildTool σ
  configurer : Configurer σ
  schedule : Workers.Schedule

/-- The pools that are declared at the beginning of a build. -/
def declaredPools (plan : Plan) (pools : Bool) : List Pool :=
  if pools then [.expensive plan.expensiveJobs] else []

/-- The beginning of the build. -/
def beginBuild (plan : Plan) (project : String) (tool : BuildTool σ)
    (pools : Bool) (w : World σ) : Except RunError Unit × World σ :=
  if plan.standalone then
    let declared := declaredPools plan pools
    w.ask (.init project declared) (tool.init project declared) .init
  else (.ok (), w)

/-- The end of a run whose proofs are all configured. -/
def finishBuild (plan : Plan) (tool : BuildTool σ) (w : World σ) :
    Except RunError Bool × World σ :=
  if plan.standalone then
    let (answer, w) :=
      w.ask (.runBuild plan.parallelJobs) (tool.runBuild plan.parallelJobs)
        .runBuild
    (answer.map fun _ => true, w)
  else (.ok false, w)

/-- What is left of a run after the pass over its proofs. -/
def afterPass (plan : Plan) (tool : BuildTool σ) (pools : Bool)
    (passed : Except RunError Progress) (w : World σ) :
    Except RunError Summary × World σ :=
  match passed with
  | .error e => (.error e, w)
  | .ok progress =>
    if progress.failed.isEmpty then
      let (built, w) := finishBuild plan tool w
      (built.map fun built => { progress, pools, built }, w)
    else (.error (.configurationFailed progress.failed), w)

/-- A run over proofs that are found already. -/
def runUnits (plan : Plan) (project : String) (partners : Partners σ)
    (units : List ProofUnit) (w : World σ) :
    Except RunError Summary × World σ :=
  let (pools, w) := Pools.detect partners.tool plan.restriction w
  let w := w.note .debug s!"Expensive job pool enabled: {pools}"
  match beginBuild plan project partners.tool pools w with
  | (.error e, w) => (.error e, w)
  | (.ok (), w) =>
    let (passed, w) :=
      Workers.configureAll ⟨partners.configurer, pools⟩ partners.schedule
        plan.configureJobs units w
    afterPass plan partners.tool pools passed w

/-- Write down which directories a search took. -/
def noteFound (found : List Path) (w : World σ) : World σ :=
  found.foldl
    (fun w dir => w.note .debug s!"Found proof directory {dir.text}") w

/-- A run over the proofs below the root of a plan. -/
def runProofs (files : FileTree) (plan : Plan) (project : String)
    (partners : Partners σ) (w : World σ) :
    Except RunError Summary × World σ :=
  let search := Discovery.search files plan.root plan.marker plan.proofs
  let w := noteFound search.found w
  match search.result with
  | .error e => (.error e, w)
  | .ok [] => (.error (.noProofs plan.root), w)
  | .ok units =>
    runUnits plan project partners units
      (w.note .info s!"Found {units.length} proof directories")

end ProofBatch.Run
