/-
The ways in which a run comes to nothing, and the text of each.
-/
import ProofBatch.IoError
import ProofBatch.Path

namespace ProofBatch

/-- Why settings cannot be used. -/
inductive SettingsError where
  /-- The settings file cannot be read, or nobody knows where the run is
  started. -/
  | unreadable (cause : IoError)
  /-- The settings file holds no settings. -/
  | malformed (problem : String)
  /-- A setting has a value that it must not have. -/
  | invalid (key problem : String)
  deriving DecidableEq, Repr

/-- The text of a fault in the settings. -/
def SettingsError.message : SettingsError → String
  | unreadable cause => "Failed to read config file: " ++ cause.message
  | malformed problem => "Failed to parse config file: " ++ problem
  | invalid key problem => s!"Invalid value for {key}: {problem}"

/-- Why a run comes to nothing. -/
inductive RunError where
  /-- Proofs were asked for by names that no proof has. -/
  | proofsNotFound (names : List String)
  /-- The proof root is no directory. -/
  | proofRoot (path : Path)
  /-- The name of the marker is empty. -/
  | emptyMarker
  /-- There is no proof below the proof root. -/
  | noProofs (root : Path)
  /-- A proof declares no identifier. -/
  | missingUid (dir : Path)
  /-- A proof declares the identifier of another one, which claimed it
  first. -/
  | duplicateUid (uid : String) (dir first : Path)
  /-- A file of a proof cannot be read. -/
  | proofFile (path : Path) (cause : IoError)
  /-- Some proofs could not be configured. -/
  | configurationFailed (paths : List Path)
  /-- The record of a finished build cannot be read. -/
  | runFile (path : Path) (problem : String)
  /-- The build tool did not do what it was asked for. -/
  | buildTool (tool problem : String)
  /-- The name of the project cannot be found out. -/
  | projectName (problem : String)
  /-- The path of a tool cannot be found out. -/
  | toolPath (tool problem : String)
  /-- The settings cannot be used. -/
  | settings (error : SettingsError)
  /-- A worker stopped without an answer. -/
  | worker (problem : String)
  /-- A directory below the proof root cannot be listed. -/
  | unlistable (dir : Path) (cause : IoError)
  /-- Any other refusal by the system. -/
  | io (problem : String)
  deriving DecidableEq, Repr

/-- What was being done when a directory could not be listed. -/
def listingProblem (dir : Path) (cause : IoError) : String :=
  s!"IO error for operation on {dir.text}: {cause.message}"

/-- The text of an error. -/
def RunError.message : RunError → String
  | proofsNotFound names =>
    "The following proofs were not found: " ++ ", ".intercalate names
  | proofRoot path => s!"Proof root {path.text} is not a directory"
  | emptyMarker => "The proof marker file name must not be empty"
  | noProofs root => s!"No proof directories found under {root.text}"
  | missingUid dir =>
    "The Makefile in directory '" ++ dir.text
      ++ "' should contain a line like\n"
      ++ "PROOF_UID = ...\nwith a unique identifier for the proof."
  | duplicateUid uid dir first =>
    "The Makefile in directory '" ++ dir.text
      ++ "' should have a different PROOF_UID than the Makefile in directory '"
      ++ first.text
      ++ "' (both declare '" ++ uid ++ "')"
  | proofFile path cause => s!"Failed to read {path.text}: {cause.message}"
  | configurationFailed paths =>
    "Failed to configure the following proofs:\n"
      ++ "\n".intercalate (paths.map (·.text))
  | runFile path problem =>
    s!"Could not read Litani run file {path.text}: {problem}"
  | buildTool tool problem => s!"Failed to run {tool}: {problem}"
  | projectName problem =>
    "Could not run make to determine project name: " ++ problem
  | toolPath tool problem => s!"Could not determine path to {tool}: {problem}"
  | settings error => "Configuration error: " ++ error.message
  | worker problem => "Proof worker stopped unexpectedly: " ++ problem
  | unlistable dir cause => "I/O error: " ++ listingProblem dir cause
  | io problem => "I/O error: " ++ problem

-- ================================================================ causes

/-- The texts of what a fault in the settings comes from, the nearest first. -/
def SettingsError.causes : SettingsError → List String
  | unreadable cause => [cause.message]
  | malformed problem => [problem]
  | invalid .. => []

/-- The text of an error and of what it comes from, the nearest first. A fault
in the settings speaks for itself. -/
def RunError.chain : RunError → List String
  | settings error => error.message :: error.causes
  | proofFile path cause => [(proofFile path cause).message, cause.message]
  | unlistable dir cause =>
    [(unlistable dir cause).message, listingProblem dir cause, cause.message]
  | io problem => [(io problem).message, problem]
  | error => [error.message]

end ProofBatch
