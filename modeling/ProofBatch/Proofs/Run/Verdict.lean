/-
What a run gives in the end.

# Precedence

Many things can go wrong in one run, in different stages and in different
workers. `Verdict` has them in one list: the run gives the first that applies,
and its summary if none does. A refused claim comes before all failures, though
these may have been recorded earlier.

# Schedules

The journal tells what the partners answered (`reportsOf`), and the verdict on
that is what the run gives. If the partners answer each question in the same
way whenever it is asked (`Replies.Of`), their answers can be told from the
input (`Replies.foretell`), and with them the verdict: no schedule has a say in
it, but for the order in which failures and successes are listed.
-/
import ProofBatch.Proofs.Run.Protocol

namespace ProofBatch.Run

variable {σ : Type} {plan : Plan} {project : String} {tool : BuildTool σ}
  {partners : Partners σ} {units : List ProofUnit} {pools : Bool}
  {events : Journal} {result : Except RunError Summary}

-- ============================================================= the verdict

/-- What went wrong in the stages of a run, apart from refused claims. -/
structure Reports where
  /-- Why the build could not be begun. -/
  beginning : Option RunError
  /-- The directories that could not be configured. -/
  failing : List Path
  /-- Why the build did not end well. -/
  build : Option RunError

/-- A summary without a blemish. -/
structure Complete (plan : Plan) (units : List ProofUnit)
    (summary : Summary) : Prop where
  failed : summary.progress.failed = []
  succeeded : summary.progress.succeeded.Perm (units.map (·.path))
  complete : summary.progress.complete = units.length
  total : summary.progress.total = units.length
  built : summary.built = plan.standalone

/-- What a run over `units` gives: the first of these that applies. -/
def Verdict (plan : Plan) (units : List ProofUnit) (reports : Reports)
    (result : Except RunError Summary) : Prop :=
  match reports.beginning, Registry.empty.claimAll units, reports.failing,
    reports.build with
  | some e, _, _, _ => result = .error e
  | none, .error e, _, _ => result = .error e
  | none, .ok _, dir :: rest, _ =>
    ∃ l, l.Perm (dir :: rest) ∧ result = .error (.configurationFailed l)
  | none, .ok _, [], some e => result = .error e
  | none, .ok _, [], none =>
    ∃ summary, result = .ok summary ∧ Complete plan units summary

/-- What a journal reports. Only a standalone run begins and runs the build. -/
def reportsOf (plan : Plan) (events : Journal) : Reports where
  beginning := if plan.standalone then events.initError? else none
  failing := events.failedDirs
  build := if plan.standalone then events.buildError? else none

-- ======================================================== steady partners

/-- Answers to all that a run may ask. -/
structure Replies where
  capabilities : CapabilitySet
  init : String → List Pool → Except RunError Unit
  configure : Path → Bool → Except RunError Outcome
  runBuild : Option Nat → Except RunError Unit

namespace Replies

/-- Partners who answer so, whatever has gone before. -/
structure Of (replies : Replies) (partners : Partners σ) : Prop where
  capabilities : ∀ o, (partners.tool.capabilities o).answer
    = replies.capabilities
  init : ∀ project pools o, (partners.tool.init project pools o).answer
    = replies.init project pools
  configure : ∀ dir pools o, (partners.configurer dir pools o).answer
    = replies.configure dir pools
  runBuild : ∀ jobs o, (partners.tool.runBuild jobs o).answer
    = replies.runBuild jobs

/-- Partners who give these answers and say nothing else. -/
def asPartners (replies : Replies) (schedule : Workers.Schedule) :
    Partners Unit where
  tool :=
    { describe := "a steady tool"
      capabilities := fun _ =>
        { answer := replies.capabilities, outside := () }
      init := fun project pools _ =>
        { answer := replies.init project pools, outside := () }
      runBuild := fun jobs _ =>
        { answer := replies.runBuild jobs, outside := () } }
  configurer := fun dir pools _ =>
    { answer := replies.configure dir pools, outside := () }
  schedule := schedule

/-- Any answers can be had, with any schedule. -/
theorem of_asPartners (replies : Replies) (schedule : Workers.Schedule) :
    replies.Of (replies.asPartners schedule) :=
  ⟨fun _ => rfl, fun _ _ _ => rfl, fun _ _ _ => rfl, fun _ _ => rfl⟩

/-- Whether there will be pools. -/
def withPools (replies : Replies) (plan : Plan) : Bool :=
  if plan.restriction = .no then false
  else replies.capabilities.contains poolsCapability

/-- Whether a directory will fail. -/
def fails (replies : Replies) (plan : Plan) (dir : Path) : Bool :=
  Workers.outcomeOf (replies.configure dir (replies.withPools plan)) = .failed

end Replies

/-- The error of an answer. -/
def errorOf? {α : Type} : Except RunError α → Option RunError
  | .ok _ => none
  | .error e => some e

/-- What a run will report, told beforehand. -/
def Replies.foretell (replies : Replies) (plan : Plan) (project : String)
    (units : List ProofUnit) : Reports where
  beginning :=
    if plan.standalone then
      errorOf? (replies.init project
        (declaredPools plan (replies.withPools plan)))
    else none
  failing := (units.map (·.path)).filter (replies.fails plan)
  build :=
    if plan.standalone then errorOf? (replies.runBuild plan.parallelJobs)
    else none

-- =================================================== errors of the stages

/-- Finding out about pools fails nobody. -/
theorem Probed.no_errors {restriction : Restriction}
    (h : Probed tool restriction events pools) :
    events.initError? = none ∧ events.buildError? = none := by
  cases h with
  | skipped no calls answers =>
      rw [Journal.initError?, Journal.buildError?, answers]
      exact ⟨rfl, rfl⟩
  | asked yes calls answers =>
      rw [Journal.initError?, Journal.buildError?, answers]
      exact ⟨rfl, rfl⟩

/-- If beginning the build fails, that is its error. -/
theorem Begun.errors {begun : Except RunError Unit}
    (h : Begun plan project tool pools events begun) :
    events.initError? = errorOf? begun ∧ events.buildError? = none := by
  cases h with
  | hosted no calls answers ok =>
      rw [Journal.initError?, Journal.buildError?, answers, ok]
      exact ⟨rfl, rfl⟩
  | asked yes calls answers =>
      rw [Journal.initError?, Journal.buildError?, answers]
      cases begun <;> exact ⟨rfl, rfl⟩

/-- What fails in the pass is the configuration of a proof, not the build. -/
theorem Passed.no_errors {setting : Workers.Setting σ} {workers : Nat}
    {answer : Except RunError Progress}
    (h : Passed setting workers units events answer) :
    events.initError? = none ∧ events.buildError? = none := by
  obtain ⟨claimed, p, settled⟩ := h.settled
  rw [Journal.initError?, Journal.buildError?, settled.answers,
    List.findSome?_eq_none_iff, List.findSome?_eq_none_iff]
  constructor
  · intro a ha
    obtain ⟨_, -, rfl⟩ := List.mem_map.mp ha
    rfl
  · intro a ha
    obtain ⟨_, -, rfl⟩ := List.mem_map.mp ha
    rfl

theorem Finished.errors {built : Except RunError Bool}
    (h : Finished plan tool events built) :
    events.initError? = none ∧ events.buildError? = errorOf? built := by
  cases h with
  | hosted no calls answers ok =>
      rw [Journal.initError?, Journal.buildError?, answers, ok]
      exact ⟨rfl, rfl⟩
  | @asked o answer yes calls answers genuine told =>
      rw [Journal.initError?, Journal.buildError?, answers, told]
      cases answer <;> exact ⟨rfl, rfl⟩

/-- If the build was run or left alone without an error, the summary says
which. -/
theorem Finished.built_eq {built : Bool}
    (h : Finished plan tool events (.ok built)) : built = plan.standalone := by
  cases h with
  | hosted no _ _ ok =>
      cases ok
      exact no.symm
  | @asked _ answer yes _ _ _ told =>
      rw [yes]
      cases answer with
      | ok => cases told; rfl
      | error => cases told

-- ============================================================ the proof

/-- Reports that agree with a journal, as far as the run got. -/
structure Faithful (units : List ProofUnit) (events : Journal)
    (reports : Reports) : Prop where
  beginning : reports.beginning = events.initError?
  failing : reports.beginning = none →
    (∃ r, Registry.empty.claimAll units = .ok r) →
      reports.failing.Perm events.failedDirs
  build : reports.beginning = none →
    (∃ r, Registry.empty.claimAll units = .ok r) → reports.failing = [] →
      reports.build = events.buildError?

section Stages

variable {probe beginning middle closing : Journal} {reports : Reports}
  {begun : Except RunError Unit} {answer : Except RunError Progress}
  {p : Progress}

/-- The errors of a run up to the end of its pass. -/
theorem errors_through_pass
    (probed : Probed partners.tool plan.restriction probe pools)
    (hbegun : Begun plan project partners.tool pools beginning begun)
    (passed : Passed ⟨partners.configurer, pools⟩ plan.configureJobs units
      middle answer) :
    (probe ++ beginning ++ middle).initError? = errorOf? begun
      ∧ (probe ++ beginning ++ middle).buildError? = none := by
  constructor
  · rw [Journal.initError?_append, Journal.initError?_append,
      probed.no_errors.1, hbegun.errors.1, passed.no_errors.1]
    exact Option.or_none
  · rw [Journal.buildError?_append, Journal.buildError?_append,
      probed.no_errors.2, hbegun.errors.2, passed.no_errors.2]
    rfl

/-- The failures of a run are those of its pass. -/
theorem failedDirs_through_pass
    (probed : Probed partners.tool plan.restriction probe pools)
    (hbegun : Begun plan project partners.tool pools beginning begun) :
    (probe ++ beginning ++ middle).failedDirs = middle.failedDirs := by
  rw [Journal.failedDirs, configureAnswers_through_pass probed hbegun]
  rfl

theorem Aside.failedDirs (h : Aside events) : events.failedDirs = [] := by
  rw [Journal.failedDirs, h.2]
  rfl

/-- A pass that gives its tally went over all proofs. -/
theorem Passed.tally {setting : Workers.Setting σ} {workers : Nat}
    (h : Passed setting workers units events (.ok p)) :
    (∃ r, Registry.empty.claimAll units = .ok r)
      ∧ Workers.Settled setting workers units units events p := by
  cases h with
  | tallied granted settled => exact ⟨⟨_, granted⟩, settled⟩

/-- A pass without failures makes a complete tally. -/
theorem Passed.complete {setting : Workers.Setting σ} {workers : Nat}
    {built : Bool} (h : Passed setting workers units events (.ok p))
    (none_failed : p.failed = []) (hbuilt : built = plan.standalone) :
    Complete plan units { progress := p, pools, built } := by
  obtain ⟨-, settled⟩ := h.tally
  have hfailed := settled.failed.perm
  rw [none_failed, List.perm_nil] at hfailed
  have hdirs := Workers.dirs_perm events
  rw [hfailed, List.append_nil] at hdirs
  constructor
  · exact none_failed
  · exact (settled.succeeded.perm.symm.trans hdirs).trans
      settled.returned.perm.symm
  · exact settled.complete
  · exact settled.total
  · exact hbuilt

end Stages

/-- A run that leaves the build to its caller has no error from it. -/
theorem Course.hosted
    (h : Course plan project partners units pools events result)
    (hno : plan.standalone = false) :
    events.initError? = none ∧ events.buildError? = none := by
  cases h with
  | unbegun probed begun =>
      cases begun with
      | hosted _ _ _ ok => cases ok
      | asked yes =>
          rw [hno] at yes
          cases yes
  | stopped probed begun passed =>
      exact errors_through_pass probed begun passed
  | failed probed begun passed => exact errors_through_pass probed begun passed
  | ended probed begun passed none_failed finished =>
      have herrors := errors_through_pass probed begun passed
      rw [Journal.initError?_append, Journal.buildError?_append, herrors.1,
        herrors.2, finished.errors.1, finished.errors.2]
      cases finished with
      | hosted _ _ _ ok =>
          rw [ok]
          exact ⟨rfl, rfl⟩
      | asked yes =>
          rw [hno] at yes
          cases yes

/-- What a journal reports is faithful. -/
theorem Course.faithful_reportsOf
    (h : Course plan project partners units pools events result) :
    Faithful units events (reportsOf plan events) := by
  unfold reportsOf
  cases hst : plan.standalone with
  | true => exact ⟨rfl, fun _ _ => .refl _, fun _ _ _ => rfl⟩
  | false =>
      obtain ⟨hinit, hbuild⟩ := h.hosted hst
      exact ⟨hinit.symm, fun _ _ => .refl _, fun _ _ _ => hbuild.symm⟩

/-- A course ends with the verdict on what it reports. -/
theorem Course.verdict
    (h : Course plan project partners units pools events result)
    {reports : Reports} (faithful : Faithful units events reports) :
    Verdict plan units reports result := by
  have hbeginning := faithful.beginning
  cases h with
  | @unbegun probe beginning e probed begun =>
      have herror : reports.beginning = some e := by
        rw [hbeginning, Journal.initError?_append, probed.no_errors.1,
          begun.errors.1]
        rfl
      unfold Verdict
      rw [herror]
  | @stopped probe beginning middle e probed begun passed =>
      rw [(errors_through_pass probed begun passed).1] at hbeginning
      cases passed with
      | refused _ refused =>
          unfold Verdict
          rw [hbeginning, refused]
          rfl
  | @failed probe beginning middle p probed begun passed some_failed =>
      rw [(errors_through_pass probed begun passed).1] at hbeginning
      obtain ⟨⟨r, granted⟩, settled⟩ := passed.tally
      have hperm := faithful.failing hbeginning ⟨r, granted⟩
      rw [failedDirs_through_pass probed begun] at hperm
      have hfailed := settled.failed.perm.symm.trans hperm.symm
      unfold Verdict
      rw [hbeginning, granted]
      cases hfailing : reports.failing with
      | nil =>
          rw [hfailing, List.perm_nil] at hfailed
          exact absurd hfailed some_failed
      | cons dir rest =>
          rw [hfailing] at hfailed
          exact ⟨p.failed, hfailed, rfl⟩
  | @ended probe beginning middle closing p built probed begun passed
      none_failed finished =>
      have herrors := errors_through_pass probed begun passed
      rw [Journal.initError?_append, herrors.1, finished.errors.1]
        at hbeginning
      obtain ⟨⟨r, granted⟩, settled⟩ := passed.tally
      have hfailing : reports.failing = [] := by
        have hperm := faithful.failing hbeginning ⟨r, granted⟩
        rw [Journal.failedDirs_append, failedDirs_through_pass probed begun,
          finished.aside.failedDirs, List.append_nil] at hperm
        have hfailed := hperm.trans settled.failed.perm
        rw [none_failed, List.perm_nil] at hfailed
        exact hfailed
      have hbuild := faithful.build hbeginning ⟨r, granted⟩ hfailing
      rw [Journal.buildError?_append, herrors.2, finished.errors.2] at hbuild
      unfold Verdict
      rw [hbeginning, granted, hfailing, hbuild]
      cases built with
      | error e => exact rfl
      | ok built =>
          exact ⟨_, rfl, passed.complete none_failed finished.built_eq⟩

-- ==================================================== what can be foretold

section Foretold

variable {replies : Replies} (of : replies.Of partners)

include of

/-- What is found out about pools is foretold. -/
theorem Replies.Of.probed
    (h : Probed partners.tool plan.restriction events pools) :
    pools = replies.withPools plan := by
  unfold Replies.withPools
  cases h with
  | skipped no _ _ decided => rw [if_pos no, decided]
  | asked yes _ _ genuine decided =>
      rw [if_neg yes, decided, ← genuine, of.capabilities]

/-- How the build begins is foretold. -/
theorem Replies.Of.begun {begun : Except RunError Unit}
    (h : Begun plan project partners.tool (replies.withPools plan) events
      begun) :
    (replies.foretell plan project units).beginning = errorOf? begun := by
  unfold Replies.foretell
  cases h with
  | hosted no _ _ ok =>
      rw [no, ok]
      rfl
  | asked yes _ _ genuine =>
      rw [yes, ← genuine, of.init]
      rfl

theorem Replies.Of.finished {built : Except RunError Bool}
    (h : Finished plan partners.tool events built) :
    (replies.foretell plan project units).build = errorOf? built := by
  unfold Replies.foretell
  cases h with
  | hosted no _ _ ok =>
      rw [no, ok]
      rfl
  | @asked _ answer yes _ _ genuine told =>
      rw [of.runBuild] at genuine
      rw [yes, genuine, told]
      cases answer <;> rfl

/-- What was answered otherwise than by success is what will fail. -/
theorem Replies.Of.failedDirs_eq
    (h : Workers.Genuine ⟨partners.configurer, replies.withPools plan⟩
      events) :
    events.failedDirs = events.endedDirs.filter (replies.fails plan) := by
  unfold Workers.Genuine at h
  unfold Journal.failedDirs Journal.endedDirs
  generalize events.configureAnswers = answers at h ⊢
  induction answers with
  | nil => rfl
  | cons a rest ih =>
      obtain ⟨o, ho⟩ := h a (List.mem_cons_self ..)
      have hrest := ih fun b hb => h b (List.mem_cons_of_mem _ hb)
      obtain ⟨dir, answer⟩ := a
      rw [of.configure] at ho
      have hfails : replies.fails plan dir
          = decide (Workers.outcomeOf answer = .failed) := by
        unfold Replies.fails
        rw [ho]
      rw [List.map_cons, List.filter_cons, hfails, ← hrest]
      match answer with
      | .ok .succeeded => rfl
      | .ok .failed => rfl
      | .error _ => rfl

/-- The failures of a pass over all proofs are those foretold. -/
theorem Replies.Of.failing {workers : Nat} {p : Progress}
    (settled : Workers.Settled ⟨partners.configurer, replies.withPools plan⟩
      workers units units events p) :
    (replies.foretell plan project units).failing.Perm events.failedDirs := by
  rw [of.failedDirs_eq settled.genuine]
  exact settled.returned.perm.filter _

/-- What is foretold agrees with what happens. -/
theorem Replies.Of.faithful
    (h : Course plan project partners units pools events result) :
    Faithful units events (replies.foretell plan project units) := by
  cases h with
  | @unbegun probe beginning e probed begun =>
      obtain rfl := of.probed probed
      have hbegun : (replies.foretell plan project units).beginning = some e :=
        of.begun begun
      refine ⟨?_, ?_, ?_⟩
      · rw [hbegun, Journal.initError?_append, probed.no_errors.1,
          begun.errors.1]
        rfl
      · intro hnone
        rw [hbegun] at hnone
        cases hnone
      · intro hnone
        rw [hbegun] at hnone
        cases hnone
  | @stopped probe beginning middle e probed begun passed =>
      obtain rfl := of.probed probed
      have hrefused : ¬ ∃ r, Registry.empty.claimAll units = .ok r := by
        rintro ⟨r, hr⟩
        cases passed with
        | refused _ refused =>
            rw [hr] at refused
            cases refused
      refine ⟨?_, fun _ h => absurd h hrefused, fun _ h => absurd h hrefused⟩
      rw [of.begun begun, (errors_through_pass probed begun passed).1]
  | @failed probe beginning middle p probed begun passed some_failed =>
      obtain rfl := of.probed probed
      have hfailing : (replies.foretell plan project units).failing.Perm
          middle.failedDirs := of.failing passed.tally.2
      refine ⟨?_, fun _ _ => ?_, fun _ _ hnone => ?_⟩
      · rw [of.begun begun, (errors_through_pass probed begun passed).1]
      · rw [failedDirs_through_pass probed begun]
        exact hfailing
      · -- some did fail
        rw [hnone] at hfailing
        have hfailed := hfailing.trans passed.tally.2.failed.perm
        exact absurd (List.nil_perm.mp hfailed) some_failed
  | @ended probe beginning middle closing p built probed begun passed
      none_failed finished =>
      obtain rfl := of.probed probed
      have herrors := errors_through_pass probed begun passed
      refine ⟨?_, fun _ _ => ?_, fun _ _ _ => ?_⟩
      · rw [of.begun begun, Journal.initError?_append, herrors.1,
          finished.errors.1]
        rfl
      · rw [Journal.failedDirs_append, failedDirs_through_pass probed begun,
          finished.aside.failedDirs, List.append_nil]
        exact of.failing passed.tally.2
      · rw [of.finished finished, Journal.buildError?_append, herrors.2,
          finished.errors.2]
        rfl

end Foretold

/-- A run gives the verdict on what its partners answered; if these answer
steadily, that is the verdict on what can be foretold of them, whatever the
interleaving of the workers. -/
theorem runProofs_verdict (files : FileTree) (plan : Plan) (project : String)
    (partners : Partners σ) (w : World σ) :
    match Discovery.discover files plan.root plan.marker plan.proofs with
    | .error e => (runProofs files plan project partners w).1 = .error e
    | .ok [] =>
      (runProofs files plan project partners w).1
        = .error (.noProofs plan.root)
    | .ok units =>
      (∃ events, (runProofs files plan project partners w).2.journal
            = w.journal ++ events
          ∧ Verdict plan units (reportsOf plan events)
            (runProofs files plan project partners w).1)
        ∧ ∀ replies : Replies, replies.Of partners →
          Verdict plan units (replies.foretell plan project units)
            (runProofs files plan project partners w).1 := by
  obtain ⟨events, hj, hcourse⟩ :=
    runProofs_course files plan project partners w
  match hfound :
      Discovery.discover files plan.root plan.marker plan.proofs with
  | .error e =>
      rw [hfound] at hcourse
      exact hcourse.2
  | .ok [] =>
      rw [hfound] at hcourse
      exact hcourse.2
  | .ok (unit :: rest) =>
      rw [hfound] at hcourse
      exact ⟨⟨events, hj, hcourse.verdict hcourse.faithful_reportsOf⟩,
        fun _ of => hcourse.verdict (of.faithful hcourse)⟩

end ProofBatch.Run
