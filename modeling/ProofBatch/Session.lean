/-
A session: the program from its command line to its exit code.

A session runs the proofs or summarizes a finished build. What it shows is a
view of its journal: the notes up to the level of the log and the progress
display go to the error output, and what was written goes where it was written.
-/
import ProofBatch.BuildSummary.RunFile
import ProofBatch.CommandLine.Parse
import ProofBatch.Litani
import ProofBatch.Make
import ProofBatch.Run
import ProofBatch.Settings.File
import ProofBatch.Text.Case

namespace ProofBatch

-- ============================================================== what is shown

namespace Level

/-- The levels, the gravest first. -/
def rank : Level → Nat
  | error => 0
  | warn => 1
  | info => 2
  | debug => 3
  | trace => 4

/-- The name of a level. -/
def name : Level → String
  | error => "ERROR"
  | warn => "WARN"
  | info => "INFO"
  | debug => "DEBUG"
  | trace => "TRACE"

/-- The level with a name, in any case of letters. A name that no level has
stands for warnings. -/
def ofWord (word : String) : Level :=
  match String.ofList (word.toList.flatMap Text.lower) with
  | "trace" => trace
  | "debug" => debug
  | "info" => info
  | "error" => error
  | _ => warn

end Level

/-- The program, as it calls itself. -/
def programName : String :=
  "run-cbmc-proofs"

/-- The version of the program. -/
def programVersion : String :=
  "0.1.0"

/-- What a remark shows, when notes are shown up to a level. -/
def Remark.shown (level : Level) : Remark → Option (Stream × List UInt8)
  | .note l text =>
    if l.rank ≤ level.rank then
      some (.err, Text.encode s!"{programName}: {text}\n")
    else none
  | .wrote stream bytes => some (stream, bytes)

/-- What an entry of a journal shows, when notes are shown up to a level. -/
def Event.shown (level : Level) : Event → Option (Stream × List UInt8)
  | .said remark => remark.shown level
  | .heard remark => remark.shown level
  | .drew text => some (.err, Text.encode text)
  | .asked _ => none
  | .answered _ => none

/-- All that a journal shows, in order. -/
def Journal.shown (journal : Journal) (level : Level) :
    List (Stream × List UInt8) :=
  journal.filterMap (Event.shown level)

-- ================================================================ activities

namespace Session

/-- What a session asks of the place that it runs in. -/
structure Host (σ : Type) where
  /-- The file tree, as seen from the directory that the session is in. -/
  files : σ → FileTree
  start : Launcher σ
  /-- The number of processors. -/
  cpus : Nat
  /-- The format of settings files. -/
  format : SettingsFormat
  /-- The order in which the workers of a pass step. -/
  schedule : Workers.Schedule

/-- A part of a session: it goes on in the world or fails. -/
abbrev Activity (σ α : Type) := ExceptT RunError (StateM (World σ)) α

namespace Activity

variable {σ α : Type}

/-- Write a note. -/
def note (level : Level) (text : String) : Activity σ Unit :=
  modify (·.note level text)

/-- Write a line of text. -/
def tell (stream : Stream) (text : String) : Activity σ Unit :=
  modify (·.log (.said (.wrote stream (Text.encode text))))

/-- Carry out an action that may fail. -/
def perform (action : Action σ (Except RunError α)) : Activity σ α :=
  ExceptT.mk fun w => w.act action

/-- The file tree as it is now. -/
def filesNow (host : Host σ) : Activity σ FileTree :=
  return host.files (← get).outside

end Activity

open Activity

variable {σ : Type}

/-- The settings in the file that the command line names. -/
def fileSettings (host : Host σ) (config : Option Path) :
    Activity σ FileSettings := do
  match config with
  | none => return {}
  | some path =>
    note .info s!"Loading configuration from {path.text}"
    match FileSettings.load host.format (← filesNow host) path with
    | .ok file => return file
    | .error e => throw (.settings e)

/-- The plan of a run. -/
def plan (host : Host σ) (given : Overrides) (config : Option Path) :
    Activity σ Plan := do
  let file ← fileSettings host config
  let here := (← filesNow host).current
  match Plan.resolve { here, cpus := host.cpus } given file with
  | .ok plan =>
    note .info s!"Proof root: {plan.root.text}"
    return plan
  | .error e => throw (.settings e)

/-- The path of the build tool: the one of the plan, or what the makefile
says. -/
def litaniPath (host : Host σ) (plan : Plan) : Activity σ Path :=
  match plan.litani with
  | some path => return path
  | none => perform (Make.litaniPath host.start plan.root)

/-- The name of the project: the one of the plan, or what the makefile says if
the run begins the build. -/
def projectName (host : Host σ) (plan : Plan) : Activity σ String :=
  match plan.project with
  | some name => return name
  | none =>
    if plan.standalone then perform (Make.projectName host.start plan.root)
    else return ""

/-- The partners of a run: the build tool at a path, and `make`. -/
def partners (host : Host σ) (litani : Path) : Run.Partners σ where
  tool := Litani.tool host.start litani
  configurer := Make.configurer host.start
  schedule := host.schedule

/-- Run the proofs. -/
def runProofs (host : Host σ) (given : Overrides) (config : Option Path) :
    Activity σ Unit := do
  let plan ← plan host given config
  let litani ← litaniPath host plan
  let project ← projectName host plan
  note .info s!"Using Litani at {litani.text}"
  let files ← filesNow host
  let summary ←
    ExceptT.mk (Run.runProofs files plan project (partners host litani))
  let succeeded := summary.progress.succeeded.length
  tell .err s!"SUCCESS: Configured {succeeded} CBMC proofs\n"
  if summary.built then tell .err "INFO: Litani build completed\n"
  else
    tell .err "INFO: Run `litani run-build` to execute the configured proofs\n"

/-- Where the reports are, if both parts of it are given. -/
def reportLocation (domain directory : Option String) :
    Option ReportLocation :=
  match domain, directory with
  | some domain, some directory => some { domain, directory }
  | _, _ => none

/-- Summarize a finished build. -/
def summarize (host : Host σ) (runFile : Path)
    (location : Option ReportLocation) : Activity σ Unit := do
  match BuildRecord.load (← filesNow host) runFile with
  | .error e => throw e
  | .ok run => tell .out ((BuildSummary.render? location run).getD "")

/-- Carry out what a command line asks for. -/
def carryOut (host : Host σ) (invocation : CommandLine.Invocation) :
    Activity σ Unit :=
  match invocation.request with
  | .run _ given => runProofs host given invocation.config
  | .summarize runFile domain directory =>
    summarize host runFile (reportLocation domain directory)

-- ================================================================ sessions

/-- What a session leaves. -/
structure Result (σ : Type) where
  code : Nat
  /-- What it has shown, in order. -/
  shown : List (Stream × List UInt8)
  outside : σ

/-- All that was shown on one of the outputs. -/
def Result.output (result : Result σ) (stream : Stream) : List UInt8 :=
  (result.shown.filter (·.1 = stream)).flatMap (·.2)

/-- The level up to which notes are shown. -/
def logLevel (invocation : CommandLine.Invocation) : Level :=
  if invocation.verbose then .debug else .ofWord invocation.logLevel

/-- The line that tells why a session failed. -/
def errorLine (e : RunError) : String :=
  "ERROR: " ++ ": ".intercalate e.chain ++ "\n"

/-- The usage of the program: its commands with their options. -/
def usage : String :=
  let options (context : CommandLine.Context) : List String :=
    context.words.map fun
      | .switch s => s!"      --{s.long}"
      | .opt o => s!"      --{o.long} <VALUE>"
  "\n".intercalate (
    ["Configure and run all CBMC proofs in parallel", "",
     s!"Usage: {programName} [OPTIONS]",
     s!"       {programName} run [OPTIONS]",
     s!"       {programName} summarize [OPTIONS] --run-file <FILE>", "",
     "Options:"]
    ++ options .root ++ ["", "Options of summarize:"] ++ options .summarize)
    ++ "\n"

/-- What is wrong with a command line. -/
def faultText : CommandLine.Fault → String
  | .unknownArgument => "unknown argument"
  | .invalidValue => "a value is missing, empty or none of those listed"
  | .valueValidation => "a value is no number"
  | .argumentConflict =>
    "an argument is given twice, or together with one that excludes it"
  | .missingRequiredArgument => "a required argument is missing"
  | .invalidSubcommand => "unknown command"
  | .tooManyValues => "a value for an argument that takes none"
  | .displayHelp => "help"
  | .displayVersion => "version"

/-- What is shown of a command line that asks for nothing to be done, with the
exit code. -/
def faultAnswer : CommandLine.Fault → Nat × Stream × String
  | .displayHelp => (0, .out, usage)
  | .displayVersion => (0, .out, s!"{programName} {programVersion}\n")
  | fault => (2, .err, "error: " ++ faultText fault ++ "\n\n" ++ usage)

/-- A session. -/
def run (host : Host σ) (arguments : List String) (outside : σ) : Result σ :=
  match CommandLine.parse arguments with
  | .error fault =>
    let (code, stream, text) := faultAnswer fault
    { code, shown := [(stream, Text.encode text)], outside }
  | .ok invocation =>
    let level := logLevel invocation
    let w :=
      ({ outside } : World σ).note .debug
        s!"Logger initialized with level: {level.name}"
    match (carryOut host invocation).run.run w with
    | (.ok (), w) =>
      { code := 0, shown := w.journal.shown level, outside := w.outside }
    | (.error e, w) =>
      { code := 1
        shown := w.journal.shown level ++ [(.err, Text.encode (errorLine e))]
        outside := w.outside }

end Session

end ProofBatch
