/-
What a run decides about pools, and all that keeps to it.

# Two sides

The pool of expensive jobs is declared to the tool when the build is begun;
that a job goes into it is asked for with each configuration. A job in a pool
that nobody declared breaks the build, and so the two sides have to agree,
whoever works at what, and in whatever order.

# One decision

They do, since both are given what was decided when the run set out: it is a
parameter of the course that the run takes (`Course`), and all calls of a
course are known (`Course.calls`).
-/
import ProofBatch.Commands
import ProofBatch.Proofs.Run.Protocol

namespace ProofBatch

-- ======================================================= in argument lists

namespace Commands

/-- A proof is configured with the pool exactly if that is asked for. -/
theorem enablePools_mem_configure (pools : Bool) :
    "ENABLE_POOLS=true" ∈ configure pools ↔ pools = true := by
  cases pools <;> decide

/-- The option stands before the name of the project, which is the last
argument and may be any text. -/
theorem pools_mem_init (project : String) (pools : List Pool) :
    "--pools" ∈ (init project pools).dropLast ↔ pools ≠ [] := by
  unfold init
  rw [List.dropLast_append_of_ne_nil (List.cons_ne_nil _ _)]
  cases pools <;> simp

end Commands

namespace Run

variable {σ : Type} {plan : Plan} {project : String} {tool : BuildTool σ}
  {partners : Partners σ} {units : List ProofUnit} {pools : Bool}
  {events : Journal} {result : Except RunError Summary}

/-- Pools are declared if and only if they are used. -/
theorem declaredPools_ne_nil :
    declaredPools plan pools ≠ [] ↔ pools = true := by
  cases pools <;> simp [declaredPools]

/-- Pools are used if they are not forbidden and the build tool has them. -/
theorem withPools_iff (restriction : Restriction) (o : σ) :
    withPools tool restriction o = true ↔ restriction ≠ .no
      ∧ (tool.capabilities o).answer.contains "pools" = true := by
  unfold withPools
  rw [Bool.and_eq_true, decide_eq_true_iff]
  rfl

-- ============================================================ the agreement

/-- All that a run does keeps to one decision about pools. -/
structure Agreed (plan : Plan) (project : String) (pools : Bool)
    (events : Journal) (result : Except RunError Summary) : Prop where
  configured : ∀ dir asked, .configure dir asked ∈ events.calls →
    asked = pools
  enabled : "ENABLE_POOLS=true" ∈ Commands.configure pools ↔ pools = true
  begun : ∀ name declared, .init name declared ∈ events.calls ↔
    plan.standalone = true ∧ name = project
      ∧ declared = declaredPools plan pools
  declared : (declaredPools plan pools).map Pool.text
    = if pools then [s!"expensive:{plan.expensiveJobs}"] else []
  arguments : Commands.init project (declaredPools plan pools)
    = if pools then
        ["init", "--pools", s!"expensive:{plan.expensiveJobs}", "--project",
          project]
      else ["init", "--project", project]
  /-- The last word is the name of the project, which may read `--pools` too and
  is no option. -/
  optioned : "--pools" ∈ (Commands.init project
    (declaredPools plan pools)).dropLast ↔ pools = true
  summarized : ∀ summary, result = .ok summary → summary.pools = pools

/-- A call of a course is asked in one of its stages. -/
theorem Course.mem_calls {call : Call}
    (h : Course plan project partners units pools events result)
    (hmem : call ∈ events.calls) :
    call ∈ probeCalls plan.restriction ∨ call ∈ beginCalls plan project pools
      ∨ (∃ dir, call = .configure dir pools)
      ∨ call = .runBuild plan.parallelJobs := by
  obtain ⟨dirs, closing, hcalls, hclosing⟩ := h.calls
  rw [hcalls, List.mem_append, List.mem_append, List.mem_append] at hmem
  rcases hmem with ((hprobe | hbegin) | hpass) | hend
  · exact .inl hprobe
  · exact .inr (.inl hbegin)
  · obtain ⟨dir, -, rfl⟩ := List.mem_map.mp hpass
    exact .inr (.inr (.inl ⟨dir, rfl⟩))
  · rcases hclosing with ⟨-, rfl⟩ | ⟨-, rfl⟩
    · exact .inr (.inr (.inr (List.mem_singleton.mp hend)))
    · cases hend

/-- All proofs are configured with pools or all without. -/
theorem Course.configured {dir : Path} {asked : Bool}
    (h : Course plan project partners units pools events result)
    (hmem : .configure dir asked ∈ events.calls) : asked = pools := by
  rcases h.mem_calls hmem with hprobe | hbegin | ⟨_, hpass⟩ | hend
  · cases mem_probeCalls hprobe
  · cases mem_beginCalls hbegin
  · cases hpass
    rfl
  · cases hend

/-- The build is begun once the decision is made, by the run or by nobody. -/
theorem Course.begun_iff {name : String} {declared : List Pool}
    (h : Course plan project partners units pools events result) :
    .init name declared ∈ events.calls ↔ plan.standalone = true
      ∧ name = project ∧ declared = declaredPools plan pools := by
  constructor
  · intro hmem
    rcases h.mem_calls hmem with hprobe | hbegin | ⟨_, hpass⟩ | hend
    · cases mem_probeCalls hprobe
    · unfold beginCalls at hbegin
      by_cases hst : plan.standalone = true
      · rw [if_pos hst] at hbegin
        cases List.mem_singleton.mp hbegin
        exact ⟨hst, rfl, rfl⟩
      · rw [if_neg hst] at hbegin
        cases hbegin
    · cases hpass
    · cases hend
  · rintro ⟨hst, rfl, rfl⟩
    obtain ⟨dirs, closing, hcalls, -⟩ := h.calls
    have hbegin : .init name (declaredPools plan pools)
        ∈ beginCalls plan name pools := by
      rw [beginCalls, if_pos hst]
      exact List.mem_singleton.mpr rfl
    rw [hcalls, List.append_assoc, List.append_assoc]
    exact List.mem_append_right _ (List.mem_append_left _ hbegin)

/-- The summary tells which. -/
theorem Course.summarized {summary : Summary}
    (h : Course plan project partners units pools events (.ok summary)) :
    summary.pools = pools := by
  generalize hresult : Except.ok summary = result at h
  cases h with
  | unbegun => cases hresult
  | stopped => cases hresult
  | failed => cases hresult
  | @ended _ _ _ _ _ built =>
      cases built with
      | error e => cases hresult
      | ok built =>
          cases hresult
          rfl

/-- A course keeps to the decision that it was given. -/
theorem Course.agreed
    (h : Course plan project partners units pools events result) :
    Agreed plan project pools events result := by
  constructor
  case configured => exact fun _ _ => h.configured
  case enabled => exact Commands.enablePools_mem_configure pools
  case begun => exact fun _ _ => h.begun_iff
  case declared => cases pools <;> rfl
  case arguments => cases pools <;> rfl
  case optioned =>
    exact (Commands.pools_mem_init ..).trans declaredPools_ne_nil
  case summarized =>
    rintro summary rfl
    exact h.summarized

/-- A run that has found proofs decides once about pools, and all that it does
keeps to that: for every tree, every plan, every behaviour of the partners, and
every interleaving of the workers. -/
theorem runProofs_agreed (files : FileTree) (plan : Plan) (project : String)
    (partners : Partners σ) (w : World σ) :
    ∃ events, (runProofs files plan project partners w).2.journal
        = w.journal ++ events
      ∧ match Discovery.discover files plan.root plan.marker plan.proofs with
        | .error _ => events.calls = []
        | .ok [] => events.calls = []
        | .ok _ => ∃ pools : Bool,
            (pools = true ↔ plan.restriction ≠ .no
              ∧ (partners.tool.capabilities w.outside).answer.contains "pools"
                = true)
            ∧ Agreed plan project pools events
              (runProofs files plan project partners w).1 := by
  obtain ⟨events, hj, hcourse⟩ :=
    runProofs_course files plan project partners w
  refine ⟨events, hj, ?_⟩
  match hfound :
      Discovery.discover files plan.root plan.marker plan.proofs with
  | .error e =>
      rw [hfound] at hcourse
      exact hcourse.1
  | .ok [] =>
      rw [hfound] at hcourse
      exact hcourse.1
  | .ok (unit :: rest) =>
      rw [hfound] at hcourse
      exact ⟨_, withPools_iff .., hcourse.agreed⟩

end Run

end ProofBatch
