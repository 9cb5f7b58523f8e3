/-
The processes that a session starts.

# One process at a time

Whatever a run asks of `make` or of the build tool is one process: something is
said before it starts, and the answer is made of how it ended (`oneProcess`).
So what is asked is known by its launch. Questions about the project are the
launches `litaniQuery` and `projectQuery`; those of the build tool and of the
configuration of proofs are `IsBuildLaunch`, and no question is one of them.

# The record

To tell which processes a session starts, let it run on a host that writes down
every launch (`Host.recording`). That changes nothing else (`run_recording`).
-/
import ProofBatch.Proofs.Session.Activity

namespace ProofBatch

variable {τ σ α : Type}

-- ================================================================ one process

/-- Start a process, say something before, and make an answer of how it ended,
with something to say about it. -/
def oneProcess (start : Launcher σ) (launch : Launch) (before : List Remark)
    (make : Except IoError Finished → α × List Remark) : Action σ α :=
  fun outside =>
    let reply := start launch outside
    { answer := (make reply.answer).1
      outside := reply.outside
      remarks := before ++ reply.remarks ++ (make reply.answer).2 }

/-- Write down what a partner said. -/
def World.hear (w : World σ) (remarks : List Remark) : World σ :=
  { w with journal := w.journal ++ remarks.map .heard }

/-- Worlds in step stay so when the same remarks are heard in both. -/
theorem Lockstep.heard {rel : World τ → World σ → Prop} (step : Lockstep rel)
    (remarks : List Remark) {w : World τ} {w' : World σ} (h : rel w w') :
    rel (w.hear remarks) (w'.hear remarks) := by
  induction remarks generalizing w w' with
  | nil => simpa [World.hear] using h
  | cons remark rest ih =>
      have hrest := ih (step.log (.heard remark) h)
      simpa [World.hear, World.log, List.append_assoc] using hrest

/-- All that an action around one process makes of its answer, it makes in both
worlds alike. -/
theorem actAlike_oneProcess {rel : World τ → World σ → Prop}
    (step : Lockstep rel) {start : Launcher τ} {start' : Launcher σ}
    {launch : Launch} {before : List Remark}
    {make : Except IoError Finished → α × List Remark}
    (h : ActAlike rel (start launch) (start' launch)) :
    ActAlike rel (oneProcess start launch before make)
      (oneProcess start' launch before make) := by
  intro w w' hw
  have hact := h _ _ (step.heard before hw)
  -- the process starts after what is said before it
  have hleft : w.act (oneProcess start launch before make)
      = ((make ((w.hear before).act (start launch)).1).1,
        ((w.hear before).act (start launch)).2.hear
          (make ((w.hear before).act (start launch)).1).2) := by
    simp [World.act, World.hear, oneProcess]
  have hright : w'.act (oneProcess start' launch before make)
      = ((make ((w'.hear before).act (start' launch)).1).1,
        ((w'.hear before).act (start' launch)).2.hear
          (make ((w'.hear before).act (start' launch)).1).2) := by
    simp [World.act, World.hear, oneProcess]
  rw [hleft, hright]
  generalize (w.hear before).act (start launch) = x at hact ⊢
  generalize (w'.hear before).act (start' launch) = y at hact ⊢
  cases hact with
  | intro answer world => exact .intro _ (step.heard _ world)

namespace Commands

/-- The question for the path of the build tool. -/
def litaniQuery (root : Path) : Launch :=
  { program := "make", arguments := litaniPath root, dir := some root
    captures := true }

/-- The question for the name of the project. -/
def projectQuery (root : Path) : Launch :=
  { program := "make", arguments := projectName, dir := some root
    captures := true }

/-- What a run starts besides questions: the build tool at a path, and the
configuration of proofs. -/
inductive IsBuildLaunch (path : Path) : Launch → Prop
  | capabilities :
      IsBuildLaunch path
        { program := path.text, arguments := Commands.capabilities
          captures := true, hushed := true }
  | init (project : String) (pools : List Pool) :
      IsBuildLaunch path
        { program := path.text, arguments := Commands.init project pools }
  | runBuild (jobs : Option Nat) :
      IsBuildLaunch path
        { program := path.text, arguments := Commands.runBuild jobs }
  | configure (dir : Path) (pools : Bool) :
      IsBuildLaunch path
        { program := (Commands.configure pools).headD ""
          arguments := (Commands.configure pools).tail, dir := some dir }

/-- A question about the project. -/
def IsQuery (launch : Launch) : Prop :=
  ∃ root, launch = litaniQuery root ∨ launch = projectQuery root

/-- Only a question keeps its output and shows its errors. -/
theorem IsQuery.not_isBuildLaunch {launch : Launch} (h : IsQuery launch)
    (path : Path) : ¬IsBuildLaunch path launch := by
  have hquery : launch.captures = true ∧ launch.hushed = false := by
    obtain ⟨root, rfl | rfl⟩ := h
    · exact ⟨rfl, rfl⟩
    · exact ⟨rfl, rfl⟩
  intro hbuild
  cases hbuild with
  | capabilities => cases hquery.2
  | init => cases hquery.1
  | runBuild => cases hquery.1
  | configure => cases hquery.1

/-- Where the question about the path is asked can be read off its process. -/
theorem litaniQuery_injective {root root' : Path}
    (h : litaniQuery root = litaniQuery root') : root = root' :=
  Option.some.inj (congrArg Launch.dir h)

/-- The same goes for the question about the name. -/
theorem projectQuery_injective {root root' : Path}
    (h : projectQuery root = projectQuery root') : root = root' :=
  Option.some.inj (congrArg Launch.dir h)

theorem litaniQuery_ne_projectQuery (root root' : Path) :
    litaniQuery root ≠ projectQuery root' := by
  intro h
  have hlength : (3 : Nat) = 4 := congrArg (·.arguments.length) h.symm
  cases hlength

end Commands

-- =============================================================== the partners

section OneProcess

variable (path root dir : Path)

/-- What a request comes to, by how its process ended. -/
def Litani.requestAnswer (command : String)
    (answer : Except IoError Finished) :
    Except RunError Unit :=
  match answer with
  | .error e => .error (.buildTool ("litani " ++ command) e.message)
  | .ok finished =>
    if finished.ending.isSuccess then .ok ()
    else .error (.buildTool ("litani " ++ command)
      ("exited with " ++ finished.ending.message))

/-- A request is one process, whatever the answer is taken for. -/
theorem Litani.request_eq (start : Launcher σ) (command : String)
    (arguments : List String) :
    Litani.request start path command arguments
      = oneProcess start { program := path.text, arguments }
        [Litani.logLine path arguments]
        fun answer => (Litani.requestAnswer command answer, []) := by
  funext outside
  unfold Litani.request oneProcess Litani.requestAnswer
  generalize start _ outside = reply
  obtain ⟨_ | finished, outside, remarks⟩ := reply <;> simp

/-- The capabilities of a tool, by how it answered, with something to say if it
did not. -/
def Litani.capabilitiesAnswer (answer : Except IoError Finished) :
    CapabilitySet × List Remark :=
  match answer with
  | .error e =>
    (.empty, [.note .debug
      s!"Could not run litani print-capabilities: {e.message}"])
  | .ok finished =>
    if finished.ending.isSuccess then
      Litani.capabilitiesIn (Text.decodeLossy finished.output)
    else
      (.empty, [.note .debug
        s!"litani print-capabilities exited with {finished.ending.message}"])

theorem Litani.capabilities_eq (start : Launcher σ) :
    Litani.capabilities start path
      = oneProcess start
        { program := path.text, arguments := Commands.capabilities
          captures := true, hushed := true }
        [Litani.logLine path Commands.capabilities]
        Litani.capabilitiesAnswer := by
  funext outside
  unfold Litani.capabilities oneProcess Litani.capabilitiesAnswer
  generalize start _ outside = reply
  obtain ⟨_ | finished, outside, remarks⟩ := reply <;> rfl

/-- How a configuration came out, by how its process ended. -/
def Make.configureAnswer (answer : Except IoError Finished) :
    Except RunError Outcome :=
  match answer with
  | .error e => .error (.io e.message)
  | .ok finished =>
    .ok (if finished.ending.isSuccess then .succeeded else .failed)

/-- Configuring a proof is one process, in the directory of the proof. -/
theorem Make.configurer_eq (start : Launcher σ) (pools : Bool) :
    Make.configurer start dir pools
      = oneProcess start
        { program := (Commands.configure pools).headD ""
          arguments := (Commands.configure pools).tail, dir := some dir }
        [.note .debug
          (dir.text ++ ": " ++ " ".intercalate (Commands.configure pools))]
        fun answer => (Make.configureAnswer answer, []) := by
  funext outside
  unfold Make.configurer Make.configureBy oneProcess Make.configureAnswer
  generalize start _ outside = reply
  obtain ⟨_ | finished, outside, remarks⟩ := reply <;> simp

/-- What the path of the build tool is, by the answer to the question for
it. -/
def Make.litaniAnswer (answer : Except IoError Finished) :
    Except RunError Path :=
  match answer with
  | .error e => .error (.toolPath "litani" e.message)
  | .ok finished =>
    let text := Text.trim (Text.decodeLossy finished.output)
    if finished.ending.isSuccess && !text.isEmpty then .ok ⟨text⟩
    else .error (.toolPath "litani" "make litani-path failed")

/-- The first question is one process, and nothing is heard of its answer. -/
theorem Make.litaniPath_eq (start : Launcher σ) :
    Make.litaniPath start root
      = oneProcess start (Commands.litaniQuery root)
        [.note .debug ("make " ++ " ".intercalate (Commands.litaniPath root))]
        fun answer => (Make.litaniAnswer answer, []) := by
  funext outside
  unfold Make.litaniPath Make.query oneProcess Make.litaniAnswer
    Commands.litaniQuery
  generalize start _ outside = reply
  obtain ⟨_ | finished, outside, remarks⟩ := reply
  · simp [Except.map]
  · cases hwell : finished.ending.isSuccess with
    | false => simp [Except.map, hwell]
    | true =>
        by_cases htext : Text.trim (Text.decodeLossy finished.output) = ""
        · simp [Except.map, hwell, htext]
        · simp [Except.map, hwell, htext]

/-- What the name of the project is, by the answer to the question for it, with
a warning if there is none. -/
def Make.projectAnswer (answer : Except IoError Finished) :
    Except RunError String × List Remark :=
  match answer with
  | .error e => (.error (.projectName e.message), [])
  | .ok finished =>
    let text := Text.trim (Text.decodeLossy finished.output)
    if !finished.ending.isSuccess then
      (.error (.projectName "make echo-project-name failed"), [])
    else if text.isEmpty then
      (.ok Make.placeholderName, [.note .warn Make.namelessWarning])
    else (.ok text, [])

/-- The second question is one process, and the answer may come with a
warning. -/
theorem Make.projectName_eq (start : Launcher σ) :
    Make.projectName start root
      = oneProcess start (Commands.projectQuery root)
        [.note .debug ("make " ++ " ".intercalate Commands.projectName)]
        Make.projectAnswer := by
  funext outside
  unfold Make.projectName Make.query oneProcess Make.projectAnswer
    Commands.projectQuery
  generalize start _ outside = reply
  obtain ⟨_ | finished, outside, remarks⟩ := reply
  · simp [Except.map]
  · cases hwell : finished.ending.isSuccess with
    | false => simp [Except.map, hwell]
    | true =>
        by_cases htext : Text.trim (Text.decodeLossy finished.output) = ""
        · simp [Except.map, hwell, htext]
        · simp [Except.map, hwell, htext]

end OneProcess

namespace Session

variable {rel : World τ → World σ → Prop} (step : Lockstep rel)

include step

/-- Partners answer alike if the processes do that a build starts, and their
workers take turns alike. -/
theorem partners_alike {host : Host τ} {host' : Host σ} {path : Path}
    (hschedule : host.schedule = host'.schedule)
    (h : ∀ launch, Commands.IsBuildLaunch path launch →
      ActAlike rel (host.start launch) (host'.start launch)) :
    Run.Partners.Alike rel (partners host path) (partners host' path) := by
  have hrequest : ∀ command arguments,
      Commands.IsBuildLaunch path { program := path.text, arguments } →
      ActAlike rel (Litani.request host.start path command arguments)
        (Litani.request host'.start path command arguments) := by
    intro command arguments hbuild
    rw [Litani.request_eq, Litani.request_eq]
    exact actAlike_oneProcess step (h _ hbuild)
  refine
    { describe := rfl, schedule := hschedule
      init := fun project pools => hrequest "init" _ (.init project pools)
      runBuild := fun jobs => hrequest "run-build" _ (.runBuild jobs)
      capabilities := ?_, configurer := ?_ }
  · change ActAlike rel (Litani.capabilities host.start path)
      (Litani.capabilities host'.start path)
    rw [Litani.capabilities_eq, Litani.capabilities_eq]
    exact actAlike_oneProcess step (h _ .capabilities)
  · intro dir pools
    change ActAlike rel (Make.configurer host.start dir pools)
      (Make.configurer host'.start dir pools)
    rw [Make.configurer_eq, Make.configurer_eq]
    exact actAlike_oneProcess step (h _ (.configure dir pools))

omit step

/-- Two hosts that answer alike. -/
structure Host.Alike (rel : World τ → World σ → Prop) (host : Host τ)
    (host' : Host σ) : Prop where
  files : ∀ w w', rel w w' → host.files w.outside = host'.files w'.outside
  start : ∀ launch, ActAlike rel (host.start launch) (host'.start launch)
  cpus : host.cpus = host'.cpus
  format : host.format = host'.format
  schedule : host.schedule = host'.schedule

open Activity

variable {host : Host τ} {host' : Host σ} (halike : host.Alike rel host')

theorem Host.Alike.filesNow (halike : host.Alike rel host') :
    Activity.Alike rel (filesNow host) (Activity.filesNow host') := by
  intro w w' h
  rw [outcome_filesNow, outcome_filesNow, halike.files w w' h]
  exact .intro _ h

include step halike

/-- The settings in a file are the same for both hosts, as the files and the
format are. -/
theorem fileSettings_alike (config : Option Path) :
    Activity.Alike rel (fileSettings host config)
      (fileSettings host' config) := by
  unfold fileSettings
  rw [halike.format]
  cases config with
  | none => exact .pure _
  | some path =>
      refine .bind (.note step) fun _ => .bind halike.filesNow fun files => ?_
      cases FileSettings.load host'.format files path with
      | ok file => exact .pure file
      | error e => exact .throw _

/-- Both hosts come to the same plan: they have the same settings, directory
and processors. -/
theorem plan_alike (given : Overrides) (config : Option Path) :
    Activity.Alike rel (plan host given config) (plan host' given config) := by
  unfold plan
  rw [halike.cpus]
  refine .bind (fileSettings_alike step halike config) fun file =>
    .bind halike.filesNow fun files => ?_
  dsimp only
  cases Plan.resolve
    { here := files.current, cpus := host'.cpus } given file with
  | ok plan => exact .bind (.note step) fun _ => .pure plan
  | error e => exact .throw _

theorem litaniPath_alike (plan : Plan) :
    Activity.Alike rel (litaniPath host plan) (litaniPath host' plan) := by
  unfold litaniPath
  cases plan.litani with
  | some path => exact .pure path
  | none =>
      rw [Make.litaniPath_eq, Make.litaniPath_eq]
      exact .perform (actAlike_oneProcess step (halike.start _))

theorem projectName_alike (plan : Plan) :
    Activity.Alike rel (projectName host plan) (projectName host' plan) := by
  unfold projectName
  cases plan.project with
  | some name => exact .pure name
  | none =>
      cases plan.standalone with
      | false => exact .pure ""
      | true =>
          simp only [if_true, Make.projectName_eq]
          exact .perform (actAlike_oneProcess step (halike.start _))

/-- The run of the proofs with all that comes before it goes alike on both
hosts. -/
theorem runProofs_alike (given : Overrides) (config : Option Path) :
    Activity.Alike rel (runProofs host given config)
      (runProofs host' given config) := by
  unfold runProofs
  refine .bind (plan_alike step halike given config) fun plan =>
    .bind (litaniPath_alike step halike plan) fun litani =>
    .bind (projectName_alike step halike plan) fun project =>
    .bind (.note step) fun _ => .bind halike.filesNow fun files =>
    .bind ?_ fun summary => .bind (.tell step) fun _ => ?_
  · intro w w' h
    exact Run.runProofs_paired plan project step
      (partners_alike step halike.schedule fun launch _ => halike.start launch)
      files h
  · split
    next => exact .tell step
    next => exact .tell step

/-- Whatever a command line asks for is done alike on both hosts. -/
theorem carryOut_alike (invocation : CommandLine.Invocation) :
    Activity.Alike rel (carryOut host invocation)
      (carryOut host' invocation) := by
  unfold carryOut
  cases invocation.request with
  | run named given => exact runProofs_alike step halike given _
  | summarize runFile domain directory =>
      unfold summarize
      refine .bind halike.filesNow fun files => ?_
      cases BuildRecord.load files runFile with
      | error e => exact .throw e
      | ok run => exact .tell step

omit step halike

-- ================================================================= the record

/-- A host that writes down each process that it starts. -/
def Host.recording (host : Host σ) : Host (σ × List Launch) where
  files := fun outside => host.files outside.1
  start := fun launch outside =>
    let reply := host.start launch outside.1
    { answer := reply.answer, outside := (reply.outside, outside.2 ++ [launch])
      remarks := reply.remarks }
  cpus := host.cpus
  format := host.format
  schedule := host.schedule

/-- The processes that a session starts, in order. -/
def launches (host : Host σ) (arguments : List String) (outside : σ) :
    List Launch :=
  (run host.recording arguments (outside, [])).outside.2

/-- The same has happened, whatever was recorded. -/
def Recorded (w : World (σ × List Launch)) (w' : World σ) : Prop :=
  w.outside.1 = w'.outside ∧ w.journal = w'.journal

theorem lockstep_recorded : Lockstep (Recorded (σ := σ)) :=
  ⟨fun e h => ⟨h.1, congrArg (· ++ [e]) h.2⟩⟩

/-- The record that a host keeps of its processes changes nothing else. -/
theorem recording_alike (host : Host σ) :
    Host.Alike Recorded host.recording host := by
  refine
    { files := fun w w' h => congrArg host.files h.1
      start := fun launch w w' h => ?_
      cpus := rfl, format := rfl, schedule := rfl }
  obtain ⟨⟨outside, log⟩, journal⟩ := w
  obtain ⟨outside', journal'⟩ := w'
  obtain ⟨rfl, rfl⟩ := h
  exact .intro _ ⟨rfl, rfl⟩

/-- The record changes nothing else in a session. -/
theorem run_recording (host : Host σ) (arguments : List String) (outside : σ)
    (log : List Launch) :
    let recorded := run host.recording arguments (outside, log)
    let plain := run host arguments outside
    recorded.code = plain.code ∧ recorded.shown = plain.shown
      ∧ recorded.outside.1 = plain.outside := by
  intro recorded plain
  unfold recorded plain run
  cases CommandLine.parse arguments with
  | error fault => exact ⟨rfl, rfl, rfl⟩
  | ok invocation =>
      have hstart : Recorded
          (({ outside := (outside, log) } : World (σ × List Launch)).note
            .debug
            s!"Logger initialized with level: {(logLevel invocation).name}")
          (({ outside } : World σ).note .debug
            s!"Logger initialized with level: {(logLevel invocation).name}") :=
        ⟨rfl, rfl⟩
      have hcarried := carryOut_alike lockstep_recorded (recording_alike host)
        invocation _ _ hstart
      unfold outcome at hcarried
      simp only
      generalize StateT.run
        (ExceptT.run (carryOut host.recording invocation)) _
        = x at hcarried ⊢
      generalize StateT.run (ExceptT.run (carryOut host invocation)) _
        = y at hcarried ⊢
      cases hcarried with
      | @intro w w' answer world =>
          obtain ⟨houtside, hjournal⟩ := world
          cases answer with
          | ok _ => simp only [hjournal, houtside, and_self]
          | error e => simp only [hjournal, houtside, and_self]

end Session

end ProofBatch
