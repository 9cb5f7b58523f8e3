/-
A machine in memory: a file tree and an environment. Its programs are scripts
of the shell, found along the search list `PATH`.
-/
import ProofBatch.Shell.Evaluation

namespace ProofBatch

/-- A file tree with an environment for the programs in it. -/
structure Machine where
  files : FileTree
  environment : Shell.Environment

namespace Machine

/-- How deep the evaluation of a script may go before it is killed. -/
def scriptBudget : Nat :=
  100000

/-- The pocket for output that is kept. -/
def keepPocket : Nat :=
  0

/-- Whether a launch can be handed to the machine at all: none of its texts
holds the character that ends a text there. -/
def isSound (launch : Launch) : Bool :=
  let texts :=
    launch.program :: (launch.dir.map (·.text)).toList ++ launch.arguments
  !texts.any (·.contains (Char.ofNat 0))

/-- The search list of an environment. -/
def searchList (machine : Machine) : Shell.Bytes :=
  (machine.environment.lookup "PATH").getD []

/-- The state in which the process of a launch finds itself. -/
def processState (machine : Machine) (files : FileTree) (launch : Launch) :
    Shell.State where
  files := files
  name := []
  arguments := []
  values := machine.environment
  exported := machine.environment.map (·.1)
  channels :=
    [(1, if launch.captures then .pocket keepPocket else .stream .out),
     (2, if launch.hushed then .nowhere else .stream .err)]
  pockets := keepPocket + 1

/-- What a finished process has written to the outputs of the program. -/
def remarks (s : Shell.State) : List Remark :=
  s.written.filterMap fun
    | (.stream stream, bytes) => some (.wrote stream (Shell.toBytes bytes))
    | _ => none

/-- Start a process and wait for its end. First its directory has to be there,
then its program. -/
def launch : Launcher Machine := fun launch machine =>
  let refuse (e : IoError) : Reply Machine (Except IoError Finished) :=
    { answer := .error e, outside := machine }
  if !isSound launch then refuse (.other "nul byte found in provided data")
  else
    match launch.dir.elim (.ok machine.files) machine.files.enter with
    | .error e => refuse e
    | .ok files =>
      match Shell.Program.find (Shell.Program.loadHeaded files)
        machine.searchList
          launch.program with
      | .error e => refuse e
      | .ok (path, program) =>
        let (s, ending) := Shell.start scriptBudget path program
          (launch.arguments.map Shell.ofText)
          (machine.processState files launch)
        let (output, s) := s.emptyPocket keepPocket
        { answer := .ok { ending, output := Shell.toBytes output }
          outside :=
            { machine with
              files := { s.files with here := machine.files.here } }
          remarks := remarks s }

end Machine

end ProofBatch
