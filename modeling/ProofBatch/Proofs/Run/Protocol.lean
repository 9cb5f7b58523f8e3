/-
In which order a run asks its partners, and when it asks for what.

# The order

First the capabilities, then the beginning of the build, then configurations,
then the build: `Protocol.shape`. Which of these are left out is settled by the
plan, but for the build, which is run exactly if nothing went wrong before
(`Cleared`).

# What has to be over before

A configuration is asked for only once the build was begun, and the build only
once all configurations have come to an end. The calls alone do not say so, the
journal does: it holds the answers, too (`Protocol.begun`,
`Protocol.returned`).
-/
import ProofBatch.Proofs.Run.Course

namespace ProofBatch

-- =============================================== what comes before a call

theorem Journal.mem_calls {journal : Journal} {call : Call} :
    call ∈ journal.calls ↔ .asked call ∈ journal := by
  unfold Journal.calls
  rw [List.mem_filterMap]
  constructor
  · rintro ⟨e, he, hcall⟩
    cases e with
    | asked other =>
        cases hcall
        exact he
    | _ => cases hcall
  · intro he
    exact ⟨_, he, rfl⟩

/-- A call that is not in the first part of a journal comes after all of it. -/
theorem Journal.split_of_notMem {first second before after : Journal}
    {call : Call} (hnot : call ∉ first.calls)
    (h : first ++ second = before ++ .asked call :: after) :
    ∃ between, before = first ++ between
      ∧ second = between ++ .asked call :: after := by
  rcases List.append_eq_append_iff.mp h with
    ⟨between, hbefore, hsecond⟩ | ⟨rest, hfirst, hrest⟩
  · exact ⟨between, hbefore, hsecond⟩
  · cases rest with
    | nil =>
        refine ⟨[], ?_, hrest.symm⟩
        rw [List.append_nil, hfirst, List.append_nil]
    | cons e rest =>
        -- the call itself would be in the first part
        rw [List.cons_append, List.cons.injEq] at hrest
        refine absurd (mem_calls.mpr ?_) hnot
        rw [hfirst, ← hrest.1]
        exact List.mem_append_right _ (List.mem_cons_self ..)

namespace Run

variable {σ : Type} {plan : Plan} {project : String} {tool : BuildTool σ}
  {partners : Partners σ} {units : List ProofUnit} {pools : Bool}
  {events before after : Journal} {begun : Except RunError Unit}
  {built : Except RunError Bool} {result : Except RunError Summary}

-- ========================================================= the statement

/-- All that has to be so before the build may be run: it is for the run to do
so, the build was begun, no claim was refused, and each proof is one
configuration that succeeded. -/
structure Cleared (plan : Plan) (units : List ProofUnit) (events : Journal) :
    Prop where
  standalone : plan.standalone = true
  begun : .init (.ok ()) ∈ events.answers
  granted : ∃ r, Registry.empty.claimAll units = .ok r
  configured : events.configureAnswers.Perm
    (units.map fun u => (u.path, .ok .succeeded))

/-- The order of the calls of a run over `units`; `events` is all that it
wrote. -/
structure Protocol (plan : Plan) (project : String) (units : List ProofUnit)
    (events : Journal) : Prop where
  shape : ∃ (pools : Bool) (dirs : List Path) (closing : List Call),
    events.calls
      = probeCalls plan.restriction ++ beginCalls plan project pools
        ++ dirs.map (.configure · pools) ++ closing
    ∧ (Cleared plan units events ∧ closing = [.runBuild plan.parallelJobs]
      ∨ ¬ Cleared plan units events ∧ closing = [])
  /-- What is configured is configured for a build that was begun. -/
  begun : ∀ (before after : Journal) dir pools,
    events = before ++ .asked (.configure dir pools) :: after →
      plan.standalone = false ∨ .init (.ok ()) ∈ before.answers
  /-- When the build is run, nothing is being configured, nor will be. -/
  returned : ∀ (before after : Journal) jobs,
    events = before ++ .asked (.runBuild jobs) :: after →
      before.askedDirs.Perm before.endedDirs ∧ after.askedDirs = []

-- ================================================ one stage at a time

theorem mem_probeCalls {restriction : Restriction} {call : Call}
    (h : call ∈ probeCalls restriction) : call = .capabilities := by
  unfold probeCalls at h
  by_cases hno : restriction = .no
  · rw [if_pos hno] at h
    cases h
  · rw [if_neg hno] at h
    exact List.mem_singleton.mp h

theorem mem_beginCalls {call : Call}
    (h : call ∈ beginCalls plan project pools) :
    call = .init project (declaredPools plan pools) := by
  unfold beginCalls at h
  by_cases hst : plan.standalone = true
  · rw [if_pos hst] at h
    exact List.mem_singleton.mp h
  · rw [if_neg hst] at h
    cases h

/-- Entries that are about no configuration. -/
def Aside (events : Journal) : Prop :=
  events.askedDirs = [] ∧ events.configureAnswers = []

theorem Aside.of_calls (hcalls : events.configureCalls = [])
    (hans : events.configureAnswers = []) : Aside events :=
  ⟨by rw [Journal.askedDirs, hcalls]; rfl, hans⟩

/-- Aside from the pass, no configuration ends. -/
theorem Aside.endedDirs (h : Aside events) : events.endedDirs = [] := by
  rw [Journal.endedDirs, h.2]
  rfl

theorem Aside.append {first second : Journal} (h : Aside first)
    (h' : Aside second) : Aside (first ++ second) := by
  constructor
  · rw [Journal.askedDirs_append, h.1, h'.1]
    rfl
  · rw [Journal.configureAnswers_append, h.2, h'.2]
    rfl

/-- The parts of what is aside are aside. -/
theorem Aside.of_append {first second : Journal}
    (h : Aside (first ++ second)) :
    Aside first ∧ Aside second := by
  obtain ⟨hasked, hanswers⟩ := h
  rw [Journal.askedDirs_append, List.append_eq_nil_iff] at hasked
  rw [Journal.configureAnswers_append, List.append_eq_nil_iff] at hanswers
  exact ⟨⟨hasked.1, hanswers.1⟩, ⟨hasked.2, hanswers.2⟩⟩

/-- Finding out about pools configures nothing. -/
theorem Probed.aside {restriction : Restriction}
    (h : Probed tool restriction events pools) : Aside events := by
  cases h with
  | skipped no calls answers =>
      exact .of_calls (by rw [Journal.configureCalls, calls]; rfl)
        (by rw [Journal.configureAnswers, answers]; rfl)
  | asked yes calls answers =>
      exact .of_calls (by rw [Journal.configureCalls, calls]; rfl)
        (by rw [Journal.configureAnswers, answers]; rfl)

theorem Begun.aside (h : Begun plan project tool pools events begun) :
    Aside events := by
  cases h with
  | hosted no calls answers =>
      exact .of_calls (by rw [Journal.configureCalls, calls]; rfl)
        (by rw [Journal.configureAnswers, answers]; rfl)
  | asked yes calls answers =>
      exact .of_calls (by rw [Journal.configureCalls, calls]; rfl)
        (by rw [Journal.configureAnswers, answers]; rfl)

theorem Finished.aside (h : Finished plan tool events built) :
    Aside events := by
  cases h with
  | hosted no calls answers =>
      exact .of_calls (by rw [Journal.configureCalls, calls]; rfl)
        (by rw [Journal.configureAnswers, answers]; rfl)
  | asked yes calls answers =>
      exact .of_calls (by rw [Journal.configureCalls, calls]; rfl)
        (by rw [Journal.configureAnswers, answers]; rfl)

/-- How the build was begun is answered only by its beginning. -/
theorem Begun.of_init_mem {probe : Journal} {restriction : Restriction}
    {begun' : Except RunError Unit}
    (probed : Probed tool restriction probe pools)
    (h : Begun plan project tool pools events begun)
    (hmem : .init begun' ∈ (probe ++ events).answers) : begun' = begun := by
  rw [Journal.answers_append] at hmem
  rcases List.mem_append.mp hmem with hmem | hmem
  · cases probed with
    | skipped no calls answers =>
        rw [answers] at hmem
        cases hmem
    | asked yes calls answers =>
        rw [answers] at hmem
        cases List.mem_singleton.mp hmem
  · cases h with
    | hosted no calls answers =>
        rw [answers] at hmem
        cases hmem
    | asked yes calls answers =>
        rw [answers] at hmem
        cases List.mem_singleton.mp hmem
        rfl

/-- Either it was left to the caller, or it was answered. -/
theorem Begun.hosted_or_init_mem
    (h : Begun plan project tool pools events begun) :
    plan.standalone = false ∨ .init begun ∈ events.answers := by
  cases h with
  | hosted no => exact .inl no
  | asked yes calls answers =>
      rw [answers]
      exact .inr (List.mem_singleton.mpr rfl)

/-- A pass that is over is settled: what was begun has ended. -/
theorem Passed.settled {setting : Workers.Setting σ} {workers : Nat}
    {answer : Except RunError Progress}
    (h : Passed setting workers units events answer) :
    ∃ claimed p, Workers.Settled setting workers units claimed events p := by
  cases h with
  | tallied _ settled => exact ⟨_, _, settled⟩
  | refused _ _ settled => exact ⟨_, _, settled⟩

-- ============================================================ the opening

section Opening

variable {probe beginning middle rest : Journal}
  {answer : Except RunError Progress}

/-- Nothing is configured in an opening. -/
theorem configure_notMem_opening {pools' : Bool} {dir : Path}
    (probed : Probed partners.tool plan.restriction probe pools)
    (hb : Begun plan project partners.tool pools beginning begun) :
    .configure dir pools' ∉ (probe ++ beginning).calls := by
  rw [Journal.calls_append, probed.calls_eq, hb.calls_eq]
  intro hmem
  rcases List.mem_append.mp hmem with hmem | hmem
  · cases mem_probeCalls hmem
  · cases mem_beginCalls hmem

/-- What comes after the opening comes after a build that was begun. -/
theorem begun_before_configure {pools' : Bool} {dir : Path}
    (probed : Probed partners.tool plan.restriction probe pools)
    (hb : Begun plan project partners.tool pools beginning (.ok ()))
    (h : probe ++ beginning ++ rest
      = before ++ .asked (.configure dir pools') :: after) :
    plan.standalone = false ∨ .init (.ok ()) ∈ before.answers := by
  obtain ⟨between, hbefore, -⟩ :=
    Journal.split_of_notMem (configure_notMem_opening probed hb) h
  rcases hb.hosted_or_init_mem with hno | hmem
  · exact .inl hno
  · right
    rw [hbefore, Journal.answers_append, Journal.answers_append]
    exact List.mem_append_left _ (List.mem_append_right _ hmem)

variable (probed : Probed partners.tool plan.restriction probe pools)
  (hbegun : Begun plan project partners.tool pools beginning begun)
  (passed : Passed ⟨partners.configurer, pools⟩ plan.configureJobs units
    middle answer)

include probed hbegun

/-- All that is configured is configured in the pass. -/
theorem configureAnswers_through_pass :
    (probe ++ beginning ++ middle).configureAnswers
      = middle.configureAnswers := by
  rw [Journal.configureAnswers_append,
    (probed.aside.append hbegun.aside).2, List.nil_append]

/-- Up to the end of the pass, the pass alone asks for configurations. -/
theorem askedDirs_through_pass :
    (probe ++ beginning ++ middle).askedDirs = middle.askedDirs := by
  rw [Journal.askedDirs_append, (probed.aside.append hbegun.aside).1,
    List.nil_append]

include passed

/-- The calls of a run up to the end of its pass. -/
theorem calls_through_pass :
    (probe ++ beginning ++ middle).calls
      = probeCalls plan.restriction ++ beginCalls plan project pools
        ++ middle.askedDirs.map (.configure · pools) := by
  obtain ⟨claimed, p, settled⟩ := passed.settled
  rw [Journal.calls_append, Journal.calls_append, probed.calls_eq,
    hbegun.calls_eq, settled.calls]

/-- Up to the end of the pass, nobody runs the build. -/
theorem runBuild_notMem_pass {jobs : Option Nat} :
    .runBuild jobs ∉ (probe ++ beginning ++ middle).calls := by
  rw [calls_through_pass probed hbegun passed]
  intro hmem
  rcases List.mem_append.mp hmem with hmem | hmem
  · rcases List.mem_append.mp hmem with hmem | hmem
    · cases mem_probeCalls hmem
    · cases mem_beginCalls hmem
  · obtain ⟨dir, -, hdir⟩ := List.mem_map.mp hmem
    cases hdir

/-- What a pass asks for comes to an end in it. -/
theorem asked_perm_ended_through_pass :
    (probe ++ beginning ++ middle).askedDirs.Perm
      (probe ++ beginning ++ middle).endedDirs := by
  obtain ⟨claimed, p, settled⟩ := passed.settled
  rw [askedDirs_through_pass probed hbegun, Journal.endedDirs,
    configureAnswers_through_pass probed hbegun]
  exact settled.ended.perm

end Opening

-- ======================================================= when it is cleared

/-- Answers without a failure are successes. -/
theorem configureAnswers_of_failedDirs_nil {events : Journal}
    (h : events.failedDirs = []) :
    events.configureAnswers = events.endedDirs.map (·, .ok .succeeded) := by
  unfold Journal.failedDirs at h
  unfold Journal.endedDirs
  generalize events.configureAnswers = answers at h ⊢
  induction answers with
  | nil => rfl
  | cons a rest ih =>
      obtain ⟨dir, answer⟩ := a
      match answer with
      | .ok .succeeded =>
          rw [List.map_cons, List.map_cons, ← ih h]
      | .ok .failed => cases h
      | .error _ => cases h

/-- Successes leave no failure. -/
theorem failedDirs_of_succeeded {events : Journal}
    (h : events.configureAnswers.Perm
      (units.map fun u => (u.path, .ok .succeeded))) :
    events.failedDirs = [] := by
  unfold Journal.failedDirs
  refine List.perm_nil.mp ((h.filterMap _).trans (.of_eq ?_))
  rw [List.filterMap_map]
  exact List.filterMap_eq_nil_iff.mpr fun _ _ => rfl

section Clearance

variable {probe beginning middle closing : Journal} {p : Progress}
  (probed : Probed partners.tool plan.restriction probe pools)

include probed

/-- A build that could not be begun is not cleared. -/
theorem not_cleared_unbegun {e : RunError}
    (hbegun : Begun plan project partners.tool pools beginning (.error e)) :
    ¬ Cleared plan units (probe ++ beginning) := by
  intro h
  cases hbegun.of_init_mem probed h.begun

variable (hbegun : Begun plan project partners.tool pools beginning (.ok ()))

include hbegun

/-- Nor is one with a proof that failed. -/
theorem not_cleared_failed
    (passed : Passed ⟨partners.configurer, pools⟩ plan.configureJobs units
      middle (.ok p))
    (some_failed : p.failed ≠ []) :
    ¬ Cleared plan units (probe ++ beginning ++ middle) := by
  intro h
  have hconf := h.configured
  rw [configureAnswers_through_pass probed hbegun] at hconf
  have hnone := failedDirs_of_succeeded hconf
  cases passed with
  | tallied _ settled =>
      have hfailed := settled.failed.perm
      rw [hnone] at hfailed
      exact some_failed (List.nil_perm.mp hfailed)

/-- After a pass without failures, a run is cleared exactly if the build is its
own affair. -/
theorem cleared_iff
    (passed : Passed ⟨partners.configurer, pools⟩ plan.configureJobs units
      middle (.ok p))
    (none_failed : p.failed = []) (haside : Aside closing) :
    Cleared plan units (probe ++ beginning ++ middle ++ closing)
      ↔ plan.standalone = true := by
  refine ⟨fun h => h.standalone, fun hst => ?_⟩
  cases passed with
  | tallied granted settled =>
      have hfailed := settled.failed.perm
      rw [none_failed, List.perm_nil] at hfailed
      refine ⟨hst, ?_, ⟨_, granted⟩, ?_⟩
      · rcases hbegun.hosted_or_init_mem with hno | hmem
        · rw [hno] at hst
          cases hst
        · simp [hmem]
      · rw [Journal.configureAnswers_append, haside.2, List.append_nil,
          configureAnswers_through_pass probed hbegun,
          configureAnswers_of_failedDirs_nil hfailed]
        have hmap := settled.returned.perm.symm.map
          fun dir => (dir, (.ok .succeeded : Except RunError Outcome))
        rw [List.map_map] at hmap
        exact hmap

end Clearance

-- ============================================================ the protocol

/-- All that a course asks, with the same decision about pools throughout. -/
theorem Course.calls
    (h : Course plan project partners units pools events result) :
    ∃ (dirs : List Path) (closing : List Call), events.calls
      = probeCalls plan.restriction ++ beginCalls plan project pools
        ++ dirs.map (.configure · pools) ++ closing
    ∧ (Cleared plan units events ∧ closing = [.runBuild plan.parallelJobs]
      ∨ ¬ Cleared plan units events ∧ closing = []) := by
  cases h with
  | @unbegun probe beginning e probed begun =>
      refine ⟨[], [], ?_, .inr ⟨not_cleared_unbegun probed begun, rfl⟩⟩
      rw [Journal.calls_append, probed.calls_eq, begun.calls_eq, List.map_nil,
        List.append_nil, List.append_nil]
  | @stopped probe beginning middle e probed begun passed =>
      refine ⟨middle.askedDirs, [], ?_, .inr ⟨fun h => ?_, rfl⟩⟩
      · rw [List.append_nil]
        exact calls_through_pass probed begun passed
      · obtain ⟨r, hgranted⟩ := h.granted
        cases passed with
        | refused _ refused =>
            rw [hgranted] at refused
            cases refused
  | @failed probe beginning middle p probed begun passed some_failed =>
      refine ⟨middle.askedDirs, [], ?_,
        .inr ⟨not_cleared_failed probed begun passed some_failed, rfl⟩⟩
      rw [List.append_nil]
      exact calls_through_pass probed begun passed
  | @ended probe beginning middle closing p built probed begun passed
      none_failed finished =>
      refine ⟨middle.askedDirs, closing.calls, ?_, ?_⟩
      · rw [Journal.calls_append, calls_through_pass probed begun passed]
      · rw [cleared_iff probed begun passed none_failed finished.aside]
        cases finished with
        | hosted no calls => exact .inr ⟨by rw [no]; decide, calls⟩
        | asked yes calls => exact .inl ⟨yes, calls⟩

/-- The calls of a run come in this order. -/
theorem Course.shape
    (h : Course plan project partners units pools events result) :
    ∃ (pools : Bool) (dirs : List Path) (closing : List Call), events.calls
      = probeCalls plan.restriction ++ beginCalls plan project pools
        ++ dirs.map (.configure · pools) ++ closing
    ∧ (Cleared plan units events ∧ closing = [.runBuild plan.parallelJobs]
      ∨ ¬ Cleared plan units events ∧ closing = []) :=
  ⟨pools, h.calls⟩

/-- No proof is configured before the build has begun. -/
theorem Course.begun_first
    (h : Course plan project partners units pools events result)
    {dir : Path} {flag : Bool}
    (heq : events = before ++ .asked (.configure dir flag) :: after) :
    plan.standalone = false ∨ .init (.ok ()) ∈ before.answers := by
  have hmem : .configure dir flag ∈ events.calls := by
    rw [Journal.mem_calls, heq]
    exact List.mem_append_right _ (List.mem_cons_self ..)
  cases h with
  | unbegun probed begun =>
      exact absurd hmem (configure_notMem_opening probed begun)
  | stopped probed begun => exact begun_before_configure probed begun heq
  | failed probed begun => exact begun_before_configure probed begun heq
  | ended probed begun =>
      rw [List.append_assoc] at heq
      exact begun_before_configure probed begun heq

/-- The build is run when all configurations have ended, and none begins after
that. -/
theorem Course.returned
    (h : Course plan project partners units pools events result)
    {jobs : Option Nat}
    (heq : events = before ++ .asked (.runBuild jobs) :: after) :
    before.askedDirs.Perm before.endedDirs ∧ after.askedDirs = [] := by
  have hmem : .runBuild jobs ∈ events.calls := by
    rw [Journal.mem_calls, heq]
    exact List.mem_append_right _ (List.mem_cons_self ..)
  cases h with
  | unbegun probed begun =>
      rw [Journal.calls_append, probed.calls_eq, begun.calls_eq] at hmem
      rcases List.mem_append.mp hmem with hmem | hmem
      · cases mem_probeCalls hmem
      · cases mem_beginCalls hmem
  | stopped probed begun passed =>
      exact absurd hmem (runBuild_notMem_pass probed begun passed)
  | failed probed begun passed =>
      exact absurd hmem (runBuild_notMem_pass probed begun passed)
  | ended probed begun passed none_failed finished =>
      obtain ⟨between, hbefore, hclosing⟩ := Journal.split_of_notMem
        (runBuild_notMem_pass probed begun passed) heq
      have haside := finished.aside
      rw [hclosing] at haside
      obtain ⟨hbetween, hafter⟩ := haside.of_append
      have hperm := asked_perm_ended_through_pass probed begun passed
      refine ⟨?_, ?_⟩
      · rw [hbefore, Journal.askedDirs_append, Journal.endedDirs_append,
          hbetween.1, hbetween.endedDirs, List.append_nil, List.append_nil]
        exact hperm
      · exact hafter.1

/-- The order in which a run asks its partners: for every tree, every plan,
every behaviour of the partners, and every interleaving of the workers. -/
theorem runProofs_protocol (files : FileTree) (plan : Plan) (project : String)
    (partners : Partners σ) (w : World σ) :
    ∃ events, (runProofs files plan project partners w).2.journal
        = w.journal ++ events
      ∧ match Discovery.discover files plan.root plan.marker plan.proofs with
        | .error _ => events.calls = []
        | .ok [] => events.calls = []
        | .ok units => Protocol plan project units events := by
  obtain ⟨events, hj, hcourse⟩ :=
    runProofs_course files plan project partners w
  refine ⟨events, hj, ?_⟩
  match hfound :
      Discovery.discover files plan.root plan.marker plan.proofs with
  | .error e =>
      rw [hfound] at hcourse
      exact hcourse.1
  | .ok [] =>
      rw [hfound] at hcourse
      exact hcourse.1
  | .ok (unit :: rest) =>
      rw [hfound] at hcourse
      exact ⟨hcourse.shape, fun _ _ _ _ h => hcourse.begun_first h,
        fun _ _ _ h => hcourse.returned h⟩

end Run

end ProofBatch
