/-
Litani as the build tool of a run. Each request is one process; before it is
started, the log gets its command line.
-/
import ProofBatch.Capability.Report
import ProofBatch.Commands
import ProofBatch.Process
import ProofBatch.Text.Blank
import ProofBatch.Text.Utf8

namespace ProofBatch.Litani

variable {σ : Type}

/-- The command line of a request, for the log. -/
def logLine (path : Path) (arguments : List String) : Remark :=
  .note .debug (path.text ++ " " ++ " ".intercalate arguments)

/-- A request that gives nothing but its status. `command` names it in
errors. -/
def request (start : Launcher σ) (path : Path) (command : String)
    (arguments : List String) :
    Action σ (Except RunError Unit) := fun outside =>
  let reply := start { program := path.text, arguments } outside
  let answer := match reply.answer with
    | .error e => .error (.buildTool ("litani " ++ command) e.message)
    | .ok finished =>
      if finished.ending.isSuccess then .ok ()
      else
        .error (.buildTool ("litani " ++ command)
          ("exited with " ++ finished.ending.message))
  { answer
    outside := reply.outside
    remarks := logLine path arguments :: reply.remarks }

/-- The capabilities in a report, with a complaint about one that cannot be
read. -/
def capabilitiesIn (report : String) : CapabilitySet × List Remark :=
  match CapabilitySet.ofReport? report with
  | some capabilities => (capabilities, [])
  | none =>
    (.empty, [.note .warn
      s!"Could not load litani capabilities: '{Text.trim report}'"])

/-- Ask for the capabilities. A tool that cannot be asked has none. -/
def capabilities (start : Launcher σ) (path : Path) :
    Action σ CapabilitySet := fun outside =>
  let reply := start
    { program := path.text, arguments := Commands.capabilities
      captures := true, hushed := true }
    outside
  let (answer, remarks) := match reply.answer with
    | .error e =>
      (.empty, [.note .debug
        s!"Could not run litani print-capabilities: {e.message}"])
    | .ok finished =>
      if finished.ending.isSuccess then
        capabilitiesIn (Text.decodeLossy finished.output)
      else
        (.empty, [.note .debug
          s!"litani print-capabilities exited with {finished.ending.message}"])
  { answer, outside := reply.outside
    remarks := logLine path Commands.capabilities :: reply.remarks ++ remarks }

/-- Litani at a path. -/
def tool (start : Launcher σ) (path : Path) : BuildTool σ where
  describe := "Litani at " ++ path.text
  capabilities := capabilities start path
  init project pools := request start path "init" (Commands.init project pools)
  runBuild jobs := request start path "run-build" (Commands.runBuild jobs)

end ProofBatch.Litani
