/-
The parts of a session, as what they answer and what they leave.

An activity starts in a world, and goes on in one or fails there
(`Activity.outcome`). One that is put together of others comes to what they
come to, one after the other; so activities that keep two worlds in lockstep do
so together as well (`Activity.Alike`), and in the end whole sessions do.
-/
import ProofBatch.Proofs.Run.Lockstep
import ProofBatch.Session

namespace ProofBatch.Session

variable {τ σ α β : Type}

namespace Activity

-- =================================================================== outcomes

/-- What an activity comes to that starts in a world. -/
def outcome (x : Activity σ α) (w : World σ) : Except RunError α × World σ :=
  x.run.run w

variable (w : World σ) (x : Activity σ α) (f : α → Activity σ β)

/-- What follows a part starts in the world that the part leaves; nothing
follows a failure. -/
theorem outcome_bind :
    (x >>= f).outcome w
      = match x.outcome w with
        | (.ok a, w) => (f a).outcome w
        | (.error e, w) => (.error e, w) := by
  unfold outcome
  rw [ExceptT.run_bind, StateT.run_bind]
  rcases StateT.run (ExceptT.run x) w with ⟨_ | a, w⟩ <;> rfl

/-- After a part that went well, the next starts with what that gave. -/
theorem outcome_bind_ok {x : Activity σ α} {w w₁ : World σ} {a : α}
    (h : x.outcome w = (.ok a, w₁)) (f : α → Activity σ β) :
    (x >>= f).outcome w = (f a).outcome w₁ := by
  rw [outcome_bind, h]

/-- A failure of the first part is the failure of the whole. -/
theorem outcome_bind_error {x : Activity σ α} {w w₁ : World σ} {e : RunError}
    (h : x.outcome w = (.error e, w₁)) (f : α → Activity σ β) :
    (x >>= f).outcome w = (.error e, w₁) := by
  rw [outcome_bind, h]

@[simp] theorem outcome_note (level : Level) (text : String) :
    (note level text : Activity σ Unit).outcome w
      = (.ok (), w.note level text) := rfl

@[simp] theorem outcome_tell (stream : Stream) (text : String) :
    (tell stream text : Activity σ Unit).outcome w
      = (.ok (), w.log (.said (.wrote stream (Text.encode text)))) := rfl

@[simp] theorem outcome_filesNow (host : Host σ) :
    (filesNow host).outcome w = (.ok (host.files w.outside), w) := rfl

-- =================================================================== lockstep

/-- Two activities that keep worlds related, with the same answer. -/
def Alike (rel : World τ → World σ → Prop) (x : Activity τ α)
    (y : Activity σ α) : Prop :=
  ∀ w w', rel w w' → Paired rel (x.outcome w) (y.outcome w')

variable {rel : World τ → World σ → Prop}

namespace Alike

theorem pure (a : α) :
    Alike rel (Pure.pure a : Activity τ α) (Pure.pure a : Activity σ α) :=
  fun _ _ h => .intro _ h

/-- Both fail with the same error, and touch neither world. -/
theorem throw (e : RunError) :
    Alike rel (throw e : Activity τ α) (MonadExcept.throw e : Activity σ α) :=
  fun _ _ h => .intro _ h

/-- Parts that agree can be put together: what they give is the same, so one
way goes on in both. -/
theorem bind {x : Activity τ α} {y : Activity σ α} {f : α → Activity τ β}
    {g : α → Activity σ β} (h : Alike rel x y)
    (hnext : ∀ a, Alike rel (f a) (g a)) :
    Alike rel (x >>= f) (y >>= g) := by
  intro w w' hw
  have hfirst := h w w' hw
  rw [outcome_bind, outcome_bind]
  generalize x.outcome w = left at hfirst ⊢
  generalize y.outcome w' = right at hfirst ⊢
  cases hfirst with
  | intro answer world =>
      cases answer with
      | error e => exact .intro _ world
      | ok a => exact hnext a _ _ world

theorem perform {a : Action τ (Except RunError α)}
    {b : Action σ (Except RunError α)} (h : ActAlike rel a b) :
    Alike rel (perform a) (Activity.perform b) :=
  h

variable (step : Lockstep rel)

include step

theorem note {level : Level} {text : String} :
    Alike rel (note level text) (Activity.note level text) :=
  fun _ _ h => .intro _ (step.note h level text)

theorem tell {stream : Stream} {text : String} :
    Alike rel (tell stream text) (Activity.tell stream text) :=
  fun _ _ h => .intro _ (step.log _ h)

end Alike

end Activity

end ProofBatch.Session
