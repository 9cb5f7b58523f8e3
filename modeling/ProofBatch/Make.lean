/-
`make` in a run: it configures proofs, and it answers questions about the
project from the makefile that all proofs share.
-/
import ProofBatch.Commands
import ProofBatch.Process
import ProofBatch.Text.Blank
import ProofBatch.Text.Utf8

namespace ProofBatch.Make

variable {σ : Type}

-- ================================================================ configuring

/-- Configure the proof in a directory, with a command line whose first word is
the program. -/
def configureBy (start : Launcher σ) (command : List String) (dir : Path) :
    Action σ (Except RunError Outcome) := fun outside =>
  let reply := start
    { program := command.headD "", arguments := command.tail
      dir := some dir } outside
  let answer := match reply.answer with
    | .error e => .error (.io e.message)
    | .ok finished =>
      .ok (if finished.ending.isSuccess then .succeeded else .failed)
  { answer, outside := reply.outside
    remarks :=
      .note .debug (dir.text ++ ": " ++ " ".intercalate command)
        :: reply.remarks }

/-- The configurer that runs `make` in the directory of a proof, as work that
gives way to other work. -/
def configurer (start : Launcher σ) : Configurer σ := fun dir pools =>
  configureBy start (Commands.configure pools) dir

-- ================================================================ questions

/-- Ask the shared makefile: the answer without blanks at its ends, if `make`
did well. -/
def query (start : Launcher σ) (root : Path) (arguments : List String) :
    Action σ (Except IoError (Option String)) := fun outside =>
  let reply :=
    start { program := "make", arguments, dir := some root, captures := true }
      outside
  let answer := reply.answer.map fun finished =>
    if finished.ending.isSuccess then
      some (Text.trim (Text.decodeLossy finished.output))
    else none
  { answer, outside := reply.outside
    remarks :=
      .note .debug ("make " ++ " ".intercalate arguments) :: reply.remarks }

/-- The name of a project that has none. -/
def placeholderName : String :=
  "<PROJECT NAME HERE>"

/-- The warning that a project has no name. -/
def namelessWarning : String :=
  "project name has not been set; using generic name instead. "
    ++ "Set the PROJECT_NAME value in Makefile-project-defines "
    ++ "to remove this warning"

/-- Ask for the name of the project. An empty name is replaced, with a
warning. -/
def projectName (start : Launcher σ) (root : Path) :
    Action σ (Except RunError String) :=
  fun outside =>
    let reply := query start root Commands.projectName outside
    let (answer, remarks) := match reply.answer with
      | .error e => (.error (.projectName e.message), [])
      | .ok none => (.error (.projectName "make echo-project-name failed"), [])
      | .ok (some name) =>
        if name.isEmpty then
          (.ok placeholderName, [.note .warn namelessWarning])
        else (.ok name, [])
    { answer, outside := reply.outside, remarks := reply.remarks ++ remarks }

/-- Ask for the path of the build tool. -/
def litaniPath (start : Launcher σ) (root : Path) :
    Action σ (Except RunError Path) :=
  fun outside =>
    let reply := query start root (Commands.litaniPath root) outside
    let failed (problem : String) : Except RunError Path :=
      .error (.toolPath "litani" problem)
    let answer := match reply.answer with
      | .error e => failed e.message
      | .ok none => failed "make litani-path failed"
      | .ok (some path) =>
        if path.isEmpty then failed "make litani-path failed" else .ok ⟨path⟩
    { reply with answer }

end ProofBatch.Make
