/-
The workers that configure proofs from one queue.

All workers share a queue, a registry of identifiers, a tally and the flag that
cancels the pass. Each repeats the same round: draw the progress line; take a
proof from the queue and claim its identifier, in one step; ask for it to be
configured; wait for that to end; record the outcome. A claim that is refused
cancels the pass: the worker returns with the error, and no worker takes
another proof.

`step?` is one step of one worker, `drive` lets the workers step in any order
until all have returned, and `weight`, which every step lowers, is why they do.

# The weight

A proof in the queue counts five, a worker as many as it has steps left until
it has drawn the next line and taken nothing:

    drawing 2, taking 1, asking 5, configuring 4, recording 3, returned 0

so taking a proof turns 5 + 1 into 5, and every other step takes one off.
-/
import ProofBatch.Journal
import ProofBatch.Registry

namespace ProofBatch.Workers

variable {σ : Type}

-- ================================================================ state

/-- Where a worker stands in its round. -/
inductive Position where
  /-- About to draw the progress line. -/
  | drawing
  /-- About to take a proof from the queue. -/
  | taking
  /-- The proof is claimed, and its configuration is not yet asked for. -/
  | asking (unit : ProofUnit)
  /-- The proof is being configured. -/
  | configuring (unit : ProofUnit)
  /-- The proof is configured, and its outcome is not yet recorded. -/
  | recording (unit : ProofUnit) (outcome : Outcome)
  /-- No more rounds. -/
  | returned
  deriving DecidableEq, Repr

/-- The state of a pass. -/
structure State (σ : Type) where
  /-- The proofs that no worker has taken. -/
  queue : List ProofUnit
  /-- The identifiers claimed in this pass. -/
  registry : Registry
  /-- The tally of this pass. -/
  progress : Progress
  /-- Whether the pass is cancelled: no worker takes another proof. -/
  cancelled : Bool
  /-- Where each worker stands. -/
  positions : List Position
  /-- What the workers gave that have returned, in the order in which they
  did. -/
  results : List (Except RunError Unit)
  /-- What lies outside of the pass. -/
  world : World σ

/-- What does not change in a pass. -/
structure Setting (σ : Type) where
  configurer : Configurer σ
  /-- Whether expensive jobs go into their pool. -/
  pools : Bool

-- ================================================================ steps

/-- The progress line as it is drawn over the one before. -/
def drawing (p : Progress) : Event :=
  .drew ("\r" ++ p.line)

/-- Move worker `i` to a position. -/
def State.move (s : State σ) (i : Nat) (position : Position) : State σ :=
  { s with positions := s.positions.set i position }

/-- Worker `i` draws the progress line. -/
def State.draw (s : State σ) (i : Nat) : State σ :=
  ({ s with world := s.world.log (drawing s.progress) }).move i .taking

/-- Worker `i` returns. -/
def State.leave (s : State σ) (i : Nat) (result : Except RunError Unit) :
    State σ :=
  ({ s with results := s.results ++ [result] }).move i .returned

/-- Worker `i` takes the next proof and claims its identifier, unless the pass
is cancelled. -/
def State.take (s : State σ) (i : Nat) : State σ :=
  if s.cancelled then
    let world := s.world.note .debug s!"Worker {i} stopping: run cancelled"
    ({ s with world }).leave i (.ok ())
  else
    match s.queue with
    | [] => s.leave i (.ok ())
    | unit :: rest =>
      match s.registry.claim unit with
      | (.error e, registry) =>
        ({ s with queue := rest, registry, cancelled := true }).leave i
          (.error e)
      | (.ok (), registry) =>
        ({ s with queue := rest, registry }).move i (.asking unit)

/-- Worker `i` asks for its proof to be configured. -/
def State.begin (setting : Setting σ) (s : State σ) (i : Nat)
    (unit : ProofUnit) : State σ :=
  let w := s.world.note .debug s!"Worker {i} configuring {unit.path.text}"
  let world := w.log (.asked (.configure unit.path setting.pools))
  ({ s with world }).move i (.configuring unit)

/-- The outcome that an answer of the configurer stands for: a configuration
that could not even start has failed. -/
def outcomeOf : Except RunError Outcome → Outcome
  | .ok outcome => outcome
  | .error _ => .failed

/-- The warning that a configuration could not start. -/
def complaint (dir : Path) (e : RunError) : String :=
  s!"Could not configure {dir.text}: {e.message}"

/-- Warn of a configuration that could not start. -/
def complain (dir : Path) (w : World σ) : Except RunError Outcome → World σ
  | .ok _ => w
  | .error e => w.note .warn (complaint dir e)

/-- The configuration that worker `i` waits for comes to an end. -/
def State.finish (setting : Setting σ) (s : State σ) (i : Nat)
    (unit : ProofUnit) : State σ :=
  let (answer, w) := s.world.act (setting.configurer unit.path setting.pools)
  let w :=
    complain unit.path (w.log (.answered (.configure unit.path answer))) answer
  let outcome := outcomeOf answer
  let world := w.note .debug s!"Proof {unit.path.text} {outcome.word}"
  ({ s with world }).move i (.recording unit outcome)

/-- Worker `i` records the outcome of its proof. -/
def State.record (s : State σ) (i : Nat) (unit : ProofUnit)
    (outcome : Outcome) : State σ :=
  ({ s with progress := s.progress.record unit.path outcome }).move i .drawing

/-- The next step of worker `i`; there is none when it has returned, or when
there is no such worker. -/
def step? (setting : Setting σ) (s : State σ) (i : Nat) : Option (State σ) :=
  match s.positions[i]? with
  | none => none
  | some .returned => none
  | some .drawing => some (s.draw i)
  | some .taking => some (s.take i)
  | some (.asking unit) => some (s.begin setting i unit)
  | some (.configuring unit) => some (s.finish setting i unit)
  | some (.recording unit outcome) => some (s.record i unit outcome)

-- ================================================================ the weight

/-- The steps that a position stands for. -/
def Position.weight : Position → Nat
  | drawing => 2
  | taking => 1
  | asking _ => 5
  | configuring _ => 4
  | recording .. => 3
  | returned => 0

/-- The steps that some positions stand for. -/
def totalWeight : List Position → Nat
  | [] => 0
  | p :: rest => p.weight + totalWeight rest

/-- The steps that are left in a pass, at most. -/
def State.weight (s : State σ) : Nat :=
  5 * s.queue.length + totalWeight s.positions

/-- Moving one worker exchanges the weight of its position. -/
theorem totalWeight_set {positions : List Position} {i : Nat} {old : Position}
    (h : positions[i]? = some old) (new : Position) :
    totalWeight (positions.set i new) + old.weight
      = totalWeight positions + new.weight := by
  induction positions generalizing i with
  | nil => simp at h
  | cons p rest ih =>
    cases i with
    | zero =>
      simp only [List.getElem?_cons_zero, Option.some.injEq] at h
      subst h
      simp only [List.set_cons_zero, totalWeight]
      omega
    | succ i =>
      simp only [List.getElem?_cons_succ] at h
      have := ih h
      simp only [List.set_cons_succ, totalWeight]
      omega

/-- Taking lowers the weight, whatever is taken. -/
theorem weight_take_lt {s : State σ} {i : Nat}
    (hp : s.positions[i]? = some .taking) : (s.take i).weight < s.weight := by
  have hr := totalWeight_set hp .returned
  simp only [Position.weight] at hr
  unfold State.take
  split
  · simp only [State.weight, State.leave, State.move]
    omega
  · split
    · simp only [State.weight, State.leave, State.move]
      omega
    · rename_i unit rest hq
      split
      · simp only [State.weight, State.leave, State.move, hq, List.length_cons]
        omega
      · have hc := totalWeight_set hp (.asking unit)
        simp only [Position.weight] at hc
        simp only [State.weight, State.move, hq, List.length_cons]
        omega

/-- Every step lowers the weight. -/
theorem weight_lt_of_step? {setting : Setting σ} {s t : State σ} {i : Nat}
    (h : step? setting s i = some t) : t.weight < s.weight := by
  unfold step? at h
  split at h
  · cases h
  · cases h
  · rename_i hp
    cases h
    have := totalWeight_set hp .taking
    simp only [State.weight, State.draw, State.move, Position.weight] at *
    omega
  · rename_i hp
    cases h
    exact weight_take_lt hp
  · rename_i unit hp
    cases h
    have := totalWeight_set hp (.configuring unit)
    simp only [State.weight, State.begin, State.move, Position.weight] at *
    omega
  · rename_i unit hp
    cases h
    have := totalWeight_set hp (.recording unit
      (outcomeOf (s.world.act (setting.configurer unit.path setting.pools)).1))
    simp only [State.weight, State.finish, State.move, Position.weight] at *
    omega
  · rename_i unit outcome hp
    cases h
    have := totalWeight_set hp .drawing
    simp only [State.weight, State.record, State.move, Position.weight] at *
    omega

-- ================================================================ a pass

/-- The workers that have not returned, by their numbers. -/
def State.live (s : State σ) : List Nat :=
  (List.range s.positions.length).filter fun i =>
    s.positions[i]? ≠ some .returned

/-- Who steps next: the `n`-th choice names a worker among those that have not
returned, counted round and round. -/
abbrev Schedule := Nat → Nat

/-- Let workers step, as the schedule says, until all have returned. -/
def drive (setting : Setting σ) (schedule : Schedule) (turn : Nat)
    (s : State σ) : State σ :=
  match s.live[schedule turn % s.live.length]? with
  | none => s
  | some i =>
    match _h : step? setting s i with
    | none => s
    | some t => drive setting schedule (turn + 1) t
  termination_by s.weight
  decreasing_by exact weight_lt_of_step? _h

/-- How many workers a pass has: as many as asked for, but at least one and at
most one for each proof. -/
def crew (workers : Nat) (units : List ProofUnit) : Nat :=
  min (max workers 1) units.length

/-- A pass before its first step. -/
def start (workers : Nat) (units : List ProofUnit) (w : World σ) :
    State σ where
  queue := units
  registry := .empty
  progress := .start units.length
  cancelled := false
  positions := List.replicate (crew workers units) .drawing
  results := []
  world := w

/-- The first error among what the workers gave. -/
def firstError? (results : List (Except RunError Unit)) : Option RunError :=
  results.findSome? fun
    | .error e => some e
    | .ok () => none

/-- What a pass gives once all workers have returned: the line is drawn a last
time and left in place, and the first error that a worker gave is the error of
the pass. -/
def conclude (s : State σ) : Except RunError Progress × World σ :=
  let w := (s.world.log (drawing s.progress)).log (.drew "\n")
  match firstError? s.results with
  | some e => (.error e, w)
  | none =>
    (.ok s.progress,
      w.note .debug s!"{s.registry.size} proof identifiers registered")

/-- A pass, up to the point where all workers have returned. -/
def pass (setting : Setting σ) (schedule : Schedule) (workers : Nat)
    (units : List ProofUnit) (w : World σ) : State σ :=
  drive setting schedule 0 (start workers units w)

/-- Configure proofs, `workers` at a time. -/
def configureAll (setting : Setting σ) (schedule : Schedule) (workers : Nat)
    (units : List ProofUnit) (w : World σ) :
    Except RunError Progress × World σ :=
  conclude (pass setting schedule workers units w)

end ProofBatch.Workers
