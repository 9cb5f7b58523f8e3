/-
The ways that a run over proofs can take.

# Stages

A run probes the tool, begins the build, makes a pass over the proofs, and runs
the build. Each stage has a relation that says what it asks, what it is
answered and what it makes of that (`Probed`, `Begun`, `Passed`, `Finished`).

# Courses

A run goes through the stages in this order and leaves after the second, the
third or the fourth. `Course` has a constructor for each way out, two for the
third stage, and `runUnits_course` says that there is no other: a statement
about runs is proved by cases on it, and need not open the run again.
-/
import ProofBatch.Run
import ProofBatch.Proofs.Workers.Pass

namespace ProofBatch.Run

variable {σ : Type} {plan : Plan} {project : String} {tool : BuildTool σ}
  {partners : Partners σ} {units : List ProofUnit} {pools : Bool}
  {events before after : Journal} {begun : Except RunError Unit}
  {built : Except RunError Bool} {result : Except RunError Summary}

-- ============================================================= the stages

/-- What a run decides about pools when it finds the outside world as `o`: they
are in use if jobs are restricted and the tool knows pools. -/
def withPools (tool : BuildTool σ) (restriction : Restriction) (o : σ) :
    Bool :=
  restriction ≠ .no && (tool.capabilities o).answer.contains poolsCapability

/-- What a probe of the tool asks. -/
def probeCalls (restriction : Restriction) : List Call :=
  if restriction = .no then [] else [.capabilities]

/-- What the beginning of the build asks. -/
def beginCalls (plan : Plan) (project : String) (pools : Bool) : List Call :=
  if plan.standalone then [.init project (declaredPools plan pools)] else []

/-- A probe of the tool, which decided for or against pools. -/
inductive Probed (tool : BuildTool σ) (restriction : Restriction)
    (events : Journal) (pools : Bool) : Prop where
  /-- Without a restriction nobody is asked. -/
  | skipped (no : restriction = .no) (calls : events.calls = [])
      (answers : events.answers = []) (decided : pools = false)
  /-- Otherwise the capabilities decide. -/
  | asked {o : σ} {caps : CapabilitySet} (yes : restriction ≠ .no)
      (calls : events.calls = [.capabilities])
      (answers : events.answers = [.capabilities caps])
      (genuine : (tool.capabilities o).answer = caps)
      (decided : pools = caps.contains poolsCapability)

/-- A beginning of the build, and how it went. -/
inductive Begun (plan : Plan) (project : String) (tool : BuildTool σ)
    (pools : Bool) (events : Journal) (begun : Except RunError Unit) :
    Prop where
  /-- It was left to the caller. -/
  | hosted (no : plan.standalone = false) (calls : events.calls = [])
      (answers : events.answers = []) (ok : begun = .ok ())
  | asked {o : σ} (yes : plan.standalone = true)
      (calls : events.calls = [.init project (declaredPools plan pools)])
      (answers : events.answers = [.init begun])
      (genuine :
        (tool.init project (declaredPools plan pools) o).answer = begun)

/-- A pass over the proofs: its tally, or the refusal that stopped it. -/
inductive Passed (setting : Workers.Setting σ) (workers : Nat)
    (units : List ProofUnit) (events : Journal) :
    Except RunError Progress → Prop where
  | tallied {r : Registry} {p : Progress}
      (granted : Registry.empty.claimAll units = .ok r)
      (settled : Workers.Settled setting workers units units events p) :
      Passed setting workers units events (.ok p)
  /-- The proofs before the one refused were configured. -/
  | refused {i : Nat} {r : Registry} {p : Progress} {e : RunError}
      (granted : Registry.empty.claimAll (units.take i) = .ok r)
      (refused : Registry.empty.claimAll units = .error e)
      (settled : Workers.Settled setting workers units (units.take i) events
        p) :
      Passed setting workers units events (.error e)

/-- The end of a run whose proofs are all configured: whether the build was
run, or why it did not end well. -/
inductive Finished (plan : Plan) (tool : BuildTool σ) (events : Journal)
    (built : Except RunError Bool) : Prop where
  /-- It was left to the caller. -/
  | hosted (no : plan.standalone = false) (calls : events.calls = [])
      (answers : events.answers = []) (ok : built = .ok false)
  | asked {o : σ} {answer : Except RunError Unit}
      (yes : plan.standalone = true)
      (calls : events.calls = [.runBuild plan.parallelJobs])
      (answers : events.answers = [.runBuild answer])
      (genuine : (tool.runBuild plan.parallelJobs o).answer = answer)
      (told : built = answer.map fun _ => true)

/-- Finding out about pools takes one call, or none where they are
forbidden. -/
theorem Probed.calls_eq {restriction : Restriction}
    (h : Probed tool restriction events pools) :
    events.calls = probeCalls restriction := by
  cases h with
  | skipped no calls => rw [calls, probeCalls, if_pos no]
  | asked yes calls => rw [calls, probeCalls, if_neg yes]

/-- Beginning the build takes one call, or none where the caller does it. -/
theorem Begun.calls_eq (h : Begun plan project tool pools events begun) :
    events.calls = beginCalls plan project pools := by
  cases h with
  | hosted no calls => rw [calls, beginCalls, no]; rfl
  | asked yes calls => rw [calls, beginCalls, yes]; rfl

/-- A stage is told by what is asked and answered, whatever else is said. -/
theorem Probed.of_eq {restriction : Restriction} {quieter : Journal}
    (h : Probed tool restriction quieter pools)
    (hcalls : events.calls = quieter.calls)
    (hans : events.answers = quieter.answers) :
    Probed tool restriction events pools := by
  cases h with
  | skipped no calls answers decided =>
      exact .skipped no (hcalls.trans calls) (hans.trans answers) decided
  | asked yes calls answers genuine decided =>
      exact .asked yes (hcalls.trans calls)
        (hans.trans answers) genuine decided

-- ========================================================= stages and runs

/-- Capabilities decide for pools where these are restricted; all that is added
is a warning. -/
theorem judge_spec (caps : CapabilitySet) {restriction : Restriction}
    (name : String) (w : World σ) (h : restriction ≠ .no) :
    (Pools.judge caps restriction name w).1 = caps.contains poolsCapability
      ∧ ∃ news, (Pools.judge caps restriction name w).2.journal
          = w.journal ++ news
        ∧ news.calls = [] ∧ news.answers = [] := by
  cases restriction with
  | no => exact absurd rfl h
  | auto => exact ⟨rfl, [], (List.append_nil _).symm, rfl, rfl⟩
  | yes =>
      unfold Pools.judge
      cases caps.contains poolsCapability with
      | true => exact ⟨rfl, [], (List.append_nil _).symm, rfl, rfl⟩
      | false => exact ⟨rfl, _, rfl, rfl, rfl⟩

/-- Whatever the capabilities, they are only noted. -/
theorem noteCapabilities_spec (tool : BuildTool σ) (restriction : Restriction)
    (caps : CapabilitySet) (w : World σ) :
    ∃ news, (Pools.noteCapabilities tool restriction caps w).journal
        = w.journal ++ news
      ∧ news.calls = [] ∧ news.answers = [] := by
  unfold Pools.noteCapabilities
  by_cases hnone : caps.isEmpty = true
  · rw [if_pos hnone]
    exact ⟨[_, _], List.append_assoc .., rfl, rfl⟩
  · rw [if_neg hnone]
    exact ⟨[_], rfl, rfl, rfl⟩

/-- The run finds out about pools as it is described. -/
theorem detect_spec (tool : BuildTool σ) (restriction : Restriction)
    (w : World σ) :
    ∃ events, (Pools.detect tool restriction w).2.journal = w.journal ++ events
      ∧ Probed tool restriction events
        (Pools.detect tool restriction w).1 := by
  unfold Pools.detect
  by_cases hno : restriction = .no
  · rw [if_pos hno]
    exact ⟨[], (List.append_nil _).symm, .skipped hno rfl rfl rfl⟩
  · rw [if_neg hno]
    obtain ⟨hcaps, asking, hj, hcalls, hans⟩ :=
      w.ask_spec .capabilities tool.capabilities .capabilities
    generalize w.ask .capabilities tool.capabilities .capabilities = asked
      at hcaps hj ⊢
    obtain ⟨notes, hn, hncalls, hnans⟩ :=
      noteCapabilities_spec tool restriction asked.1 asked.2
    obtain ⟨hpools, news, hjudge, hjcalls, hjans⟩ :=
      judge_spec asked.1 tool.describe
        (Pools.noteCapabilities tool restriction asked.1 asked.2) hno
    refine ⟨asking ++ notes ++ news, ?_, ?_⟩
    · rw [hjudge, hn, hj, List.append_assoc, List.append_assoc,
        List.append_assoc]
    · rw [hpools]
      refine .asked hno ?_ ?_ hcaps.symm rfl
      · rw [Journal.calls_append, Journal.calls_append, hcalls, hncalls,
          hjcalls]
        rfl
      · rw [Journal.answers_append, Journal.answers_append, hans, hnans, hjans,
          hcaps]
        rfl

/-- The capabilities decide that the tool has when the run sets out. -/
theorem detect_decision (tool : BuildTool σ) (restriction : Restriction)
    (w : World σ) :
    (Pools.detect tool restriction w).1
      = withPools tool restriction w.outside := by
  unfold Pools.detect withPools
  by_cases hno : restriction = .no
  · rw [if_pos hno, hno]
    rfl
  · rw [if_neg hno, decide_eq_true hno, Bool.true_and]
    exact (judge_spec _ _ _ hno).1

/-- The run begins the build as it is described. -/
theorem beginBuild_spec (plan : Plan) (project : String) (tool : BuildTool σ)
    (pools : Bool) (w : World σ) :
    ∃ events, (beginBuild plan project tool pools w).2.journal
        = w.journal ++ events
      ∧ Begun plan project tool pools events
        (beginBuild plan project tool pools w).1 := by
  unfold beginBuild
  cases hst : plan.standalone with
  | false => exact ⟨[], (List.append_nil _).symm, .hosted hst rfl rfl rfl⟩
  | true =>
      obtain ⟨hbegun, events, hj, hcalls, hans⟩ := w.ask_spec
        (.init project (declaredPools plan pools))
        (tool.init project (declaredPools plan pools)) .init
      exact ⟨events, hj, .asked hst hcalls hans rfl⟩

/-- The run passes over its proofs as it is described, whatever the order in
which the workers step. -/
theorem configureAll_spec (setting : Workers.Setting σ)
    (schedule : Workers.Schedule) (workers : Nat) (units : List ProofUnit)
    (w : World σ) :
    ∃ events, (Workers.configureAll setting schedule workers units w).2.journal
        = w.journal ++ events
      ∧ Passed setting workers units events
        (Workers.configureAll setting schedule workers units w).1 := by
  cases h : Registry.empty.claimAll units with
  | ok r =>
      obtain ⟨p, events, hok, hj, hs⟩ :=
        Workers.configureAll_granted setting schedule workers w h
      rw [hok]
      exact ⟨events, hj, .tallied h hs⟩
  | error e =>
      obtain ⟨i, r, unit, events, -, hr, -, herror, hj, hs⟩ :=
        Workers.configureAll_refused setting schedule workers w h
      rw [herror]
      exact ⟨_, hj, .refused hr h (hs.append rfl rfl rfl)⟩

/-- The run finishes the build as it is described. -/
theorem finishBuild_spec (plan : Plan) (tool : BuildTool σ) (w : World σ) :
    ∃ events, (finishBuild plan tool w).2.journal = w.journal ++ events
      ∧ Finished plan tool events (finishBuild plan tool w).1 := by
  unfold finishBuild
  cases hst : plan.standalone with
  | false => exact ⟨[], (List.append_nil _).symm, .hosted hst rfl rfl rfl⟩
  | true =>
      obtain ⟨hbuilt, events, hj, hcalls, hans⟩ := w.ask_spec
        (.runBuild plan.parallelJobs) (tool.runBuild plan.parallelJobs)
        .runBuild
      exact ⟨events, hj, .asked hst hcalls hans rfl rfl⟩

-- ================================================================ courses

/-- The way that a run over `units` took once it had decided about pools: all
that it wrote, and its result. -/
inductive Course (plan : Plan) (project : String) (partners : Partners σ)
    (units : List ProofUnit) (pools : Bool) :
    Journal → Except RunError Summary → Prop where
  /-- The build could not be begun. -/
  | unbegun {probe beginning : Journal} {e : RunError}
      (probed : Probed partners.tool plan.restriction probe pools)
      (begun : Begun plan project partners.tool pools beginning (.error e)) :
      Course plan project partners units pools (probe ++ beginning) (.error e)
  /-- The pass was stopped by a refused claim. -/
  | stopped {probe beginning middle : Journal} {e : RunError}
      (probed : Probed partners.tool plan.restriction probe pools)
      (begun : Begun plan project partners.tool pools beginning (.ok ()))
      (passed : Passed ⟨partners.configurer, pools⟩ plan.configureJobs units
        middle (.error e)) :
      Course plan project partners units pools (probe ++ beginning ++ middle)
        (.error e)
  /-- All proofs had their turn, but some could not be configured. -/
  | failed {probe beginning middle : Journal} {p : Progress}
      (probed : Probed partners.tool plan.restriction probe pools)
      (begun : Begun plan project partners.tool pools beginning (.ok ()))
      (passed : Passed ⟨partners.configurer, pools⟩ plan.configureJobs units
        middle (.ok p))
      (some_failed : p.failed ≠ []) :
      Course plan project partners units pools (probe ++ beginning ++ middle)
        (.error (.configurationFailed p.failed))
  /-- All proofs were configured. -/
  | ended {probe beginning middle closing : Journal} {p : Progress}
      {built : Except RunError Bool}
      (probed : Probed partners.tool plan.restriction probe pools)
      (begun : Begun plan project partners.tool pools beginning (.ok ()))
      (passed : Passed ⟨partners.configurer, pools⟩ plan.configureJobs units
        middle (.ok p))
      (none_failed : p.failed = [])
      (finished : Finished plan partners.tool closing built) :
      Course plan project partners units pools
        (probe ++ beginning ++ middle ++ closing)
        (built.map fun built => { progress := p, pools, built })

/-- What comes after the pass completes the course. -/
theorem afterPass_course {probe beginning middle : Journal} {w : World σ}
    {answer : Except RunError Progress}
    (probed : Probed partners.tool plan.restriction probe pools)
    (begun : Begun plan project partners.tool pools beginning (.ok ()))
    (passed : Passed ⟨partners.configurer, pools⟩ plan.configureJobs units
      middle answer)
    (hj : w.journal = before ++ (probe ++ beginning ++ middle)) :
    ∃ events, (afterPass plan partners.tool pools answer w).2.journal
        = before ++ events
      ∧ Course plan project partners units pools events
        (afterPass plan partners.tool pools answer w).1 := by
  unfold afterPass
  cases answer with
  | error e => exact ⟨_, hj, .stopped probed begun passed⟩
  | ok p =>
      dsimp only
      by_cases hall : p.failed.isEmpty = true
      · rw [if_pos hall]
        obtain ⟨closing, hclose, finished⟩ :=
          finishBuild_spec plan partners.tool w
        refine ⟨_, ?_, .ended probed begun passed (List.isEmpty_iff.mp hall)
          finished⟩
        rw [← List.append_assoc, ← hj]
        exact hclose
      · rw [if_neg hall]
        exact ⟨_, hj, .failed probed begun passed
          (mt List.isEmpty_iff.mpr hall)⟩

/-- A run over proofs takes one of these courses. Notes that were written
before it set out count as part of its probe. -/
theorem runUnits_course (plan : Plan) (project : String)
    (partners : Partners σ) (units : List ProofUnit) (w : World σ)
    {notes : Journal} (hcalls : notes.calls = []) (hans : notes.answers = [])
    (hw : w.journal = before ++ notes) :
    ∃ events, (runUnits plan project partners units w).2.journal
        = before ++ events
      ∧ Course plan project partners units
        (withPools partners.tool plan.restriction w.outside) events
        (runUnits plan project partners units w).1 := by
  unfold runUnits
  obtain ⟨probe, hprobe, probed⟩ :=
    detect_spec partners.tool plan.restriction w
  rw [← detect_decision]
  generalize Pools.detect partners.tool plan.restriction w = detected
    at hprobe probed ⊢
  obtain ⟨pools, w₁⟩ := detected
  dsimp only at hprobe probed ⊢
  obtain ⟨beginning, hbegin, begun⟩ := beginBuild_spec plan project
    partners.tool pools
    (w₁.note .debug s!"Expensive job pool enabled: {pools}")
  have probed' : Probed partners.tool plan.restriction
      (notes ++ probe
        ++ [.said (.note .debug s!"Expensive job pool enabled: {pools}")])
      pools := by
    refine probed.of_eq ?_ ?_
    · simp [hcalls, Journal.calls_cons]
    · simp [hans, Journal.answers_cons]
  rw [World.journal_note, hprobe, hw, List.append_assoc before,
    List.append_assoc before] at hbegin
  generalize beginBuild plan project partners.tool pools _ = began
    at hbegin begun ⊢
  obtain ⟨answer, w₂⟩ := began
  dsimp only at hbegin begun ⊢
  cases answer with
  | error e =>
      exact ⟨_, hbegin.trans (List.append_assoc ..), .unbegun probed' begun⟩
  | ok =>
      obtain ⟨middle, hpass, passed⟩ := configureAll_spec
        ⟨partners.configurer, pools⟩ partners.schedule plan.configureJobs units
        w₂
      refine afterPass_course probed' begun passed ?_
      rw [hpass, hbegin]
      simp only [List.append_assoc]

-- ======================================================= from the search on

theorem noteFound_spec (found : List Path) (w : World σ) :
    (noteFound found w).outside = w.outside
      ∧ ∃ notes, (noteFound found w).journal = w.journal ++ notes
        ∧ notes.calls = [] ∧ notes.answers = [] := by
  induction found generalizing w with
  | nil => exact ⟨rfl, [], (List.append_nil _).symm, rfl, rfl⟩
  | cons dir rest ih =>
      obtain ⟨hout, notes, hj, hcalls, hans⟩ :=
        ih (w.note .debug s!"Found proof directory {dir.text}")
      let news : Event :=
        .said (.note .debug s!"Found proof directory {dir.text}")
      refine ⟨hout, news :: notes, ?_, hcalls, hans⟩
      rw [List.append_cons]
      exact hj

/-- A search that fails or finds nothing ends the run before anything is asked;
any other is followed by a course over what it found. -/
theorem runProofs_course (files : FileTree) (plan : Plan) (project : String)
    (partners : Partners σ) (w : World σ) :
    ∃ events, (runProofs files plan project partners w).2.journal
        = w.journal ++ events
      ∧ match Discovery.discover files plan.root plan.marker plan.proofs with
        | .error e => events.calls = []
            ∧ (runProofs files plan project partners w).1 = .error e
        | .ok [] => events.calls = []
            ∧ (runProofs files plan project partners w).1
              = .error (.noProofs plan.root)
        | .ok units => Course plan project partners units
            (withPools partners.tool plan.restriction w.outside) events
            (runProofs files plan project partners w).1 := by
  unfold runProofs Discovery.discover
  generalize Discovery.search files plan.root plan.marker plan.proofs = search
  obtain ⟨found, result⟩ := search
  obtain ⟨hout, notes, hj, hcalls, hans⟩ := noteFound_spec found w
  rw [← hout]
  match result with
  | .error e => exact ⟨notes, hj, hcalls, rfl⟩
  | .ok [] => exact ⟨notes, hj, hcalls, rfl⟩
  | .ok (unit :: rest) =>
      let news : Event :=
        .said (.note .info s!"Found {(unit :: rest).length} proof directories")
      have hcalls' : (notes ++ [news] : Journal).calls = [] := by
        rw [Journal.calls_append, hcalls]
        rfl
      have hans' : (notes ++ [news] : Journal).answers = [] := by
        rw [Journal.answers_append, hans]
        rfl
      refine runUnits_course plan project partners (unit :: rest) _ hcalls'
        hans' ?_
      rw [World.journal_note, hj, List.append_assoc]

end ProofBatch.Run
