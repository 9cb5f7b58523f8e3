/-
Whether expensive jobs are kept in a pool of their own: what was asked for, as
far as the build tool can do it.
-/
import ProofBatch.Journal

namespace ProofBatch.Pools

variable {σ : Type}

/-- The warning that a tool cannot do what was asked for. -/
def tooOld (tool : String) : String :=
  "`--restrict-expensive-jobs yes` was passed on the command line, "
    ++ s!"but {tool} is not new enough to support this feature"

/-- Decide by the capabilities of a tool. Only `yes` complains when the tool
knows no pools. -/
def judge (caps : CapabilitySet) (restriction : Restriction) (tool : String)
    (w : World σ) : Bool × World σ :=
  match restriction with
  | .no => (false, w)
  | .auto => (caps.contains poolsCapability, w)
  | .yes =>
    if caps.contains poolsCapability then (true, w)
    else (false, w.note .warn (tooOld tool))

/-- Write down which capabilities a tool has. -/
def noteCapabilities (tool : BuildTool σ) (restriction : Restriction)
    (caps : CapabilitySet) (w : World σ) : World σ :=
  let w :=
    if caps.isEmpty then
      w.note .debug s!"{tool.describe} reports no capabilities"
    else w
  w.note .debug <|
    s!"Capabilities of {tool.describe} "
      ++ s!"(restrict expensive jobs: {restriction.word}): "
      ++ caps.describe

/-- Ask a tool for its capabilities and decide by them. Without a restriction
it is not asked. -/
def detect (tool : BuildTool σ) (restriction : Restriction) (w : World σ) :
    Bool × World σ :=
  if restriction = .no then (false, w)
  else
    let (caps, w) := w.ask .capabilities tool.capabilities .capabilities
    judge caps restriction tool.describe
      (noteCapabilities tool restriction caps w)

end ProofBatch.Pools
