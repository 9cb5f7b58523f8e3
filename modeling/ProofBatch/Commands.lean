/-
The argument lists of the programs that a run starts: the build tool, and
`make` for the configuration of proofs and for questions about the project.
-/
import ProofBatch.Capability
import ProofBatch.Path

namespace ProofBatch.Commands

-- ============================================================= the build tool

/-- Ask for the capabilities. -/
def capabilities : List String :=
  ["print-capabilities"]

/-- Begin a build. -/
def init (project : String) (pools : List Pool) : List String :=
  ["init"] ++ (if pools.isEmpty then [] else "--pools" :: pools.map Pool.text)
    ++ ["--project", project]

/-- Run the jobs of a build. -/
def runBuild (jobs : Option Nat) : List String :=
  ["run-build"] ++
    match jobs with
    | some n => ["-j", toString n]
    | none => []

-- ================================================================ make

/-- How much configuration gives way to other work. -/
def niceness : Nat :=
  15

/-- Configure the proof in the current directory; the program comes first. -/
def configure (pools : Bool) : List String :=
  ["nice", "-n", toString niceness, "make"]
    ++ (if pools then ["ENABLE_POOLS=true"] else [])
    ++ ["-B", "--quiet", "_report"]

/-- The makefile that all proofs share. -/
def sharedMakefile : String :=
  "Makefile.common"

/-- Ask for the name of the project. -/
def projectName : List String :=
  ["-f", sharedMakefile, "echo-project-name"]

/-- Ask for the path of the build tool. -/
def litaniPath (root : Path) : List String :=
  [s!"PROOF_ROOT={root.text}", "-f", sharedMakefile, "litani-path"]

end ProofBatch.Commands
