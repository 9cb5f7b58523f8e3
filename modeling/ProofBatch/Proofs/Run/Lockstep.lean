/-
Two runs in lockstep.

A run knows the outside world only by the answers that it gets. So two runs
over different worlds, of which one may keep more than the other, go the same
way as long as their partners answer alike.

# Relations

What is kept alike is a relation between two worlds. It has to outlast every
entry that is written into both journals (`Lockstep`), and every action that
both partners carry out (`ActAlike`). Each stage of a run then gives the same
answer on both sides and leaves worlds that are related again (`Paired`).

# The pass

In a pass, the states of both sides differ in nothing but their worlds
(`Workers.Abreast`), so every worker has the same steps on both sides, and both
passes end together.
-/
import Mathlib.Data.Option.Defs
import ProofBatch.Run

namespace ProofBatch

variable {τ σ α : Type} {rel : World τ → World σ → Prop} {w : World τ}
  {w' : World σ}

-- ================================================================== relations

/-- A relation between worlds that outlasts every entry in both journals. -/
structure Lockstep (rel : World τ → World σ → Prop) : Prop where
  log : ∀ {w w'} (e : Event), rel w w' → rel (w.log e) (w'.log e)

/-- The same answer on both sides, and related worlds. -/
inductive Paired (rel : World τ → World σ → Prop) :
    α × World τ → α × World σ → Prop
  | intro {w : World τ} {w' : World σ} (answer : α) (world : rel w w') :
      Paired rel (answer, w) (answer, w')

/-- Two actions that keep worlds related, with the same answer. -/
def ActAlike (rel : World τ → World σ → Prop) (a : Action τ α)
    (b : Action σ α) :
    Prop :=
  ∀ w w', rel w w' → Paired rel (w.act a) (w'.act b)

namespace Lockstep

variable (step : Lockstep rel)

include step

theorem note (h : rel w w') (level : Level) (text : String) :
    rel (w.note level text) (w'.note level text) :=
  step.log _ h

/-- Calls that are answered alike keep worlds in step. -/
theorem ask {a : Action τ α} {b : Action σ α} (hab : ActAlike rel a b)
    (h : rel w w') (call : Call) (toAnswer : α → Answer) :
    Paired rel (w.ask call a toAnswer) (w'.ask call b toAnswer) := by
  have hact := hab _ _ (step.log (.asked call) h)
  unfold World.ask
  generalize (w.log (.asked call)).act a = x at hact ⊢
  generalize (w'.log (.asked call)).act b = y at hact ⊢
  cases hact with
  | intro answer world => exact .intro answer (step.log _ world)

end Lockstep

-- =================================================================== partners

namespace Run

/-- The partners of two runs that answer alike. -/
structure Partners.Alike (rel : World τ → World σ → Prop)
    (partners : Partners τ) (partners' : Partners σ) : Prop where
  describe : partners.tool.describe = partners'.tool.describe
  capabilities :
    ActAlike rel partners.tool.capabilities partners'.tool.capabilities
  init : ∀ project pools, ActAlike rel (partners.tool.init project pools)
    (partners'.tool.init project pools)
  runBuild : ∀ jobs,
    ActAlike rel (partners.tool.runBuild jobs) (partners'.tool.runBuild jobs)
  configurer : ∀ dir pools, ActAlike rel (partners.configurer dir pools)
    (partners'.configurer dir pools)
  schedule : partners.schedule = partners'.schedule

end Run

-- =================================================================== the pass

namespace Workers

/-- Two states of a pass that differ in nothing but their worlds, and these are
related. -/
inductive Abreast (rel : World τ → World σ → Prop) : State τ → State σ → Prop
  | intro {w : World τ} {w' : World σ} (queue : List ProofUnit)
      (registry : Registry) (progress : Progress) (cancelled : Bool)
      (positions : List Position) (results : List (Except RunError Unit))
      (world : rel w w') :
      Abreast rel
        ⟨queue, registry, progress, cancelled, positions, results, w⟩
        ⟨queue, registry, progress, cancelled, positions, results, w'⟩

/-- Two settings in which proofs are configured alike. -/
structure Setting.Alike (rel : World τ → World σ → Prop) (setting : Setting τ)
    (setting' : Setting σ) : Prop where
  pools : setting.pools = setting'.pools
  configurer : ∀ dir pools, ActAlike rel (setting.configurer dir pools)
    (setting'.configurer dir pools)

variable {s t : State τ} {s' t' : State σ} {setting : Setting τ}
  {setting' : Setting σ} {i : Nat}

namespace Abreast

theorem positions_eq (h : Abreast rel s s') : s.positions = s'.positions := by
  cases h
  rfl

/-- They take the same proof, and meet the same refusal. -/
theorem take (step : Lockstep rel) (h : Abreast rel s s') (i : Nat) :
    Abreast rel (s.take i) (s'.take i) := by
  cases h with
  | intro queue registry progress cancelled positions results world =>
      cases cancelled with
      | true => exact .intro _ _ _ _ _ _ (step.note world ..)
      | false =>
          cases queue with
          | nil => exact .intro _ _ _ _ _ _ world
          | cons unit rest =>
              unfold State.take
              simp only [Bool.false_eq_true, if_false]
              rcases registry.claim unit with ⟨_ | _, registry⟩
              · exact .intro _ _ _ _ _ _ world
              · exact .intro _ _ _ _ _ _ world

/-- They bring a configuration to the same end. -/
theorem finish (step : Lockstep rel) (hsetting : setting.Alike rel setting')
    (h : Abreast rel s s') (i : Nat) (unit : ProofUnit) :
    Abreast rel (s.finish setting i unit) (s'.finish setting' i unit) := by
  cases h with
  | intro queue registry progress cancelled positions results world =>
      have hact := hsetting.configurer unit.path setting.pools _ _ world
      unfold State.finish
      rw [← hsetting.pools]
      simp only
      generalize World.act _ (setting.configurer unit.path setting.pools) = x
        at hact ⊢
      generalize World.act _ (setting'.configurer unit.path setting.pools) = y
        at hact ⊢
      cases hact with
      | intro answer world =>
          have hlogged :=
            step.log (.answered (.configure unit.path answer)) world
          cases answer with
          | ok outcome => exact .intro _ _ _ _ _ _ (step.note hlogged ..)
          | error e =>
              exact .intro _ _ _ _ _ _ (step.note (step.note hlogged ..) ..)

/-- A worker has the same step on both sides, or none. -/
theorem step? (step : Lockstep rel) (hsetting : setting.Alike rel setting')
    (h : Abreast rel s s') (i : Nat) :
    Option.Rel (Abreast rel) (Workers.step? setting s i)
      (Workers.step? setting' s' i) := by
  unfold Workers.step?
  rw [h.positions_eq]
  cases s'.positions[i]? with
  | none => exact .none
  | some position =>
      cases position with
      | returned => exact .none
      | drawing => 
          cases h with
          | intro _ _ _ _ _ _ world =>
              exact .some (.intro _ _ _ _ _ _ (step.log _ world))
      | taking => exact .some (h.take step i)
      | asking unit =>
          unfold State.begin
          rw [hsetting.pools]
          cases h with
          | intro _ _ _ _ _ _ world =>
              exact .some
                (.intro _ _ _ _ _ _ (step.log _ (step.note world ..)))
      | configuring unit => exact .some (h.finish step hsetting i unit)
      | recording unit outcome =>
          cases h with
          | intro _ _ _ _ _ _ world => exact .some (.intro _ _ _ _ _ _ world)

theorem live_eq (h : Abreast rel s s') : s.live = s'.live := by
  unfold State.live
  rw [h.positions_eq]

/-- Both passes come to an end together. -/
theorem drive (step : Lockstep rel) (hsetting : setting.Alike rel setting')
    (schedule : Schedule) (turn : Nat) (h : Abreast rel s s') :
    Abreast rel (Workers.drive setting schedule turn s)
      (Workers.drive setting' schedule turn s') := by
  fun_induction Workers.drive setting schedule turn s generalizing s' with
  | case1 turn s hnone =>
      rw [Workers.drive, ← h.live_eq, hnone]
      exact h
  | case2 turn s i hi hnone =>
      have hsteps := h.step? step hsetting i
      rw [Workers.drive.eq_def setting', ← h.live_eq, hi]
      simp only
      split
      next => exact h
      next t' hstep' =>
        rw [hnone, hstep'] at hsteps
        cases hsteps
  | case3 turn s i hi t hstep ih =>
      have hsteps := h.step? step hsetting i
      rw [Workers.drive.eq_def setting', ← h.live_eq, hi]
      simp only
      split
      next hnone' =>
        rw [hstep, hnone'] at hsteps
        cases hsteps
      next t' hstep' =>
        rw [hstep, hstep'] at hsteps
        cases hsteps with
        | some hnext => exact ih hnext

/-- Both passes are concluded alike. -/
theorem conclude (step : Lockstep rel) (h : Abreast rel s s') :
    Paired rel (Workers.conclude s) (Workers.conclude s') := by
  cases h with
  | intro queue registry progress cancelled positions results world =>
      have hdrawn := step.log (.drew "\n") (step.log (drawing progress) world)
      unfold Workers.conclude
      simp only
      cases firstError? results with
      | some e => exact .intro _ hdrawn
      | none => exact .intro _ (step.note hdrawn ..)

end Abreast

/-- Under one schedule, both passes go alike. -/
theorem configureAll_paired (step : Lockstep rel)
    (hsetting : setting.Alike rel setting') (schedule : Schedule)
    (workers : Nat) (units : List ProofUnit) (h : rel w w') :
    Paired rel (configureAll setting schedule workers units w)
      (configureAll setting' schedule workers units w') := by
  have hstart : Abreast rel (start workers units w) (start workers units w') :=
    .intro _ _ _ _ _ _ h
  exact (hstart.drive step hsetting schedule 0).conclude step

end Workers

-- ==================================================================== the run

namespace Pools

variable {tool : BuildTool τ} {tool' : BuildTool σ}

theorem judge_paired (step : Lockstep rel) (caps : CapabilitySet)
    (restriction : Restriction) (name : String) (h : rel w w') :
    Paired rel (judge caps restriction name w)
      (judge caps restriction name w') := by
  unfold judge
  cases restriction with
  | no => exact .intro _ h
  | auto => exact .intro _ h
  | yes =>
      cases caps.contains poolsCapability with
      | true => exact .intro _ h
      | false => exact .intro _ (step.note h ..)

theorem noteCapabilities_alike (step : Lockstep rel)
    (hname : tool.describe = tool'.describe) (restriction : Restriction)
    (caps : CapabilitySet) (h : rel w w') :
    rel (noteCapabilities tool restriction caps w)
      (noteCapabilities tool' restriction caps w') := by
  unfold noteCapabilities
  rw [hname]
  cases caps.isEmpty with
  | true => exact step.note (step.note h ..) ..
  | false => exact step.note h ..

/-- Both find out the same about pools. -/
theorem detect_paired (step : Lockstep rel)
    (hname : tool.describe = tool'.describe)
    (hcaps : ActAlike rel tool.capabilities tool'.capabilities)
    (restriction : Restriction) (h : rel w w') :
    Paired rel (detect tool restriction w) (detect tool' restriction w') := by
  unfold detect
  by_cases hno : restriction = .no
  · rw [if_pos hno, if_pos hno]
    exact .intro _ h
  · rw [if_neg hno, if_neg hno]
    have hasked := step.ask hcaps h .capabilities .capabilities
    generalize w.ask .capabilities tool.capabilities .capabilities = x
      at hasked ⊢
    generalize w'.ask .capabilities tool'.capabilities .capabilities = y
      at hasked ⊢
    cases hasked with
    | intro caps world =>
        simp only
        rw [hname]
        exact judge_paired step caps restriction _
          (noteCapabilities_alike step hname restriction caps world)

end Pools

namespace Run

variable {partners : Partners τ} {partners' : Partners σ} {plan : Plan}
  {project : String}

/-- Both begin the build alike. -/
theorem beginBuild_paired (plan : Plan) (project : String)
    (step : Lockstep rel) (halike : partners.Alike rel partners')
    (pools : Bool) (h : rel w w') :
    Paired rel (beginBuild plan project partners.tool pools w)
      (beginBuild plan project partners'.tool pools w') := by
  unfold beginBuild
  cases plan.standalone with
  | false => exact .intro _ h
  | true => exact step.ask (halike.init project _) h ..

/-- Both go on alike after the pass. -/
theorem afterPass_paired (step : Lockstep rel)
    (halike : partners.Alike rel partners') (pools : Bool)
    (passed : Except RunError Progress) (h : rel w w') :
    Paired rel (afterPass plan partners.tool pools passed w)
      (afterPass plan partners'.tool pools passed w') := by
  unfold afterPass
  cases passed with
  | error e => exact .intro _ h
  | ok progress =>
      simp only
      cases progress.failed.isEmpty with
      | false => exact .intro _ h
      | true =>
          unfold finishBuild
          cases plan.standalone with
          | false => exact .intro _ h
          | true =>
              have hasked := step.ask (halike.runBuild plan.parallelJobs) h
                (.runBuild plan.parallelJobs) .runBuild
              simp only [if_true]
              generalize w.ask _ (partners.tool.runBuild _) _ = x at hasked ⊢
              generalize w'.ask _ (partners'.tool.runBuild _) _ = y at hasked ⊢
              cases hasked with
              | intro answer world => exact .intro _ world

/-- With the same proofs, both runs go alike. -/
theorem runUnits_paired (step : Lockstep rel)
    (halike : partners.Alike rel partners') (units : List ProofUnit)
    (h : rel w w') :
    Paired rel (runUnits plan project partners units w)
      (runUnits plan project partners' units w') := by
  have hdetected := Pools.detect_paired step halike.describe
    halike.capabilities plan.restriction h
  unfold runUnits
  generalize Pools.detect partners.tool plan.restriction w = x at hdetected ⊢
  generalize Pools.detect partners'.tool plan.restriction w' = y at hdetected ⊢
  cases hdetected with
  | intro pools world =>
      have hbegun := beginBuild_paired plan project step
        halike pools (step.note world .debug
          s!"Expensive job pool enabled: {pools}")
      simp only
      generalize beginBuild plan project partners.tool pools _ = x at hbegun ⊢
      generalize beginBuild plan project partners'.tool pools _ = y at hbegun ⊢
      cases hbegun with
      | intro begun world =>
          cases begun with
          | error e => exact .intro _ world
          | ok _ =>
              have hsetting : Workers.Setting.Alike rel
                  ⟨partners.configurer, pools⟩ ⟨partners'.configurer, pools⟩ :=
                ⟨rfl, halike.configurer⟩
              have hpassed := Workers.configureAll_paired step hsetting
                partners'.schedule plan.configureJobs units world
              simp only [halike.schedule]
              generalize Workers.configureAll ⟨partners.configurer, _⟩ .. = x
                at hpassed ⊢
              generalize Workers.configureAll ⟨partners'.configurer, _⟩ .. = y
                at hpassed ⊢
              cases hpassed with
              | intro passed world =>
                  exact afterPass_paired step halike pools passed world

theorem noteFound_alike (step : Lockstep rel) (found : List Path)
    (h : rel w w') :
    rel (noteFound found w) (noteFound found w') := by
  unfold noteFound
  induction found generalizing w w' with
  | nil => exact h
  | cons dir rest ih => exact ih (step.note h ..)

/-- Runs whose partners answer alike go the same way. -/
theorem runProofs_paired (plan : Plan) (project : String)
    (step : Lockstep rel) (halike : partners.Alike rel partners')
    (files : FileTree) (h : rel w w') :
    Paired rel (runProofs files plan project partners w)
      (runProofs files plan project partners' w') := by
  have hfound := noteFound_alike step
    (Discovery.search files plan.root plan.marker plan.proofs).found h
  unfold runProofs
  simp only
  cases (Discovery.search files plan.root plan.marker plan.proofs).result with
  | error e => exact .intro _ hfound
  | ok units =>
      cases units with
      | nil => exact .intro _ hfound
      | cons unit rest =>
          exact runUnits_paired step halike _ (step.note hfound ..)

end Run

end ProofBatch
