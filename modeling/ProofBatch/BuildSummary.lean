/-
The summary of a finished build: how many pipelines ended with each status, and
the status of each, as two tables.
-/
import ProofBatch.Status
import ProofBatch.Table

namespace ProofBatch

/-- One pipeline of a finished build: the jobs of one proof. -/
structure Pipeline where
  name : String
  status : String
  deriving DecidableEq, Repr, Inhabited

/-- The record of a finished build. -/
structure BuildRecord where
  pipelines : List Pipeline
  deriving DecidableEq, Repr, Inhabited

-- ================================================================ reports

/-- Where the reports of a build are served. -/
structure ReportLocation where
  /-- The domain that serves them. -/
  domain : String
  /-- The directory that holds them. -/
  directory : String
  deriving DecidableEq, Repr, Inhabited

namespace ReportLocation

/-- The address of the directory with the reports. -/
def base (l : ReportLocation) : String :=
  s!"https://{l.domain}/{l.directory}"

/-- The address of the overall report. -/
def index (l : ReportLocation) : String :=
  l.base ++ "/index.html"

/-- The address of the report on one proof. -/
def proof (l : ReportLocation) (name : String) : String :=
  s!"{l.base}/artifacts/{name}/report/html/index.html"

end ReportLocation

namespace BuildSummary

-- ================================================================ tables

/-- Count a status once more; a new one comes last. -/
def count (status : String) : List (String × Nat) → List (String × Nat)
  | [] => [(status, 1)]
  | (other, n) :: rest =>
    if other = status then (other, n + 1) :: rest
    else (other, n) :: count status rest

/-- How often each status occurs, in the order in which they occur first. -/
def tally (statuses : List String) : List (String × Nat) :=
  statuses.foldl (fun counts status => count status counts) []

/-- The status of a pipeline, for people. -/
def statusOf (p : Pipeline) : String :=
  Status.pretty p.status

/-- The table of statuses. -/
def statusTable (run : BuildRecord) : List Table.Row :=
  ["Status", "Count"]
    :: (tally (run.pipelines.map statusOf)).map fun (status, n) =>
      [status, toString n]

/-- The row of one pipeline. -/
def pipelineRow (location : Option ReportLocation) (p : Pipeline) :
    Table.Row :=
  [p.name, statusOf p] ++
    match location with
    | some l => [s!"[Details]({l.proof p.name})"]
    | none => []

/-- The table of pipelines. -/
def pipelineTable (location : Option ReportLocation) (run : BuildRecord) :
    List Table.Row :=
  (["Proof", "Status"]
      ++ if location.isSome then ["CBMC proof report"] else [])
    :: run.pipelines.map (pipelineRow location)

-- ================================================================ text

/-- The heading with a link to the overall report. -/
def heading (location : Option ReportLocation) : String :=
  match location with
  | some l => s!"## [Click here to see the CBMC proof report]({l.index})\n"
  | none => ""

/-- The text of the summary. -/
def render? (location : Option ReportLocation) (run : BuildRecord) :
    Option String := do
  let statuses ← Table.render? (statusTable run)
  let pipelines ← Table.render? (pipelineTable location run)
  return heading location ++ "## Summary of CBMC proof results\n"
    ++ statuses ++ "\n" ++ pipelines ++ "\n"

end BuildSummary

end ProofBatch
