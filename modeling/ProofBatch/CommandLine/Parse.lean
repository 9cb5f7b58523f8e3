/-
Reading a command line.

An option may have its value attached (`--litani=x`, `-j3`, `-j=3`) or in the
words after it, which must not begin with a dash. `--proofs` takes all words up
to the next one that begins with a dash, the others take one. An option whose
value stands apart is settled only when the next switch or option is, or at the
end: an unknown argument in between counts before a fault of it.

A command is the first word or none: after any switch or option no command may
follow. After `--` no argument may follow at all.
-/
import ProofBatch.CommandLine.Vocabulary
import ProofBatch.Settings

namespace ProofBatch.CommandLine

-- ============================================================== what is given

/-- An option whose values stand apart, with those read so far. -/
structure Pending where
  opt : Opt
  values : List String := []
  deriving DecidableEq, Repr

/-- Whether an option takes another value. -/
def Pending.isOpen (p : Pending) : Bool :=
  p.opt.isList || p.values.isEmpty

/-- What was read of a command line. -/
structure State where
  context : Context := .root
  /-- Whether a switch or an option was read in this context. -/
  seen : Bool := false
  /-- Whether `--` was read. -/
  closed : Bool := false
  pending : Option Pending := none
  /-- The switches that are settled. -/
  switches : List Switch := []
  /-- The options that are settled, with their values, in the order given. -/
  options : List (Opt × List String) := []
  deriving DecidableEq, Repr, Inhabited

namespace State

/-- Settle an option: it has a value, it is not given twice, and its values are
of its kind. -/
def settleOption (s : State) (o : Opt) (values : List String) :
    Except Fault State :=
  if values.isEmpty then .error .invalidValue
  else if !o.isList && s.options.any (·.1 == o) then .error .argumentConflict
  else
    match values.forM o.kind.check with
    | .error e => .error e
    | .ok () => .ok { s with options := s.options ++ [(o, values)] }

/-- Settle the option that is pending. -/
def settle (s : State) : Except Fault State :=
  match s.pending with
  | none => .ok s
  | some p => ({ s with pending := none }).settleOption p.opt p.values

/-- Settle a switch. -/
def settleSwitch (s : State) (switch : Switch) : Except Fault State :=
  match s.settle with
  | .error e => .error e
  | .ok s =>
    match switch with
    | .help => .error .displayHelp
    | .version => .error .displayVersion
    | _ =>
      if s.switches.contains switch then .error .argumentConflict
      else .ok { s with switches := s.switches ++ [switch], seen := true }

/-- Begin an option, with the value attached to it if there is one. -/
def beginOption (s : State) (o : Opt) (attached : Option String) :
    Except Fault State :=
  match s.settle with
  | .error e => .error e
  | .ok s =>
    let s := { s with seen := true }
    match attached with
    | some value => s.settleOption o [value]
    | none => .ok { s with pending := some { opt := o } }

-- ================================================================ words

/-- What comes before the first `=` and what after it. -/
def splitEquals : List Char → List Char × Option (List Char)
  | [] => ([], none)
  | c :: rest =>
    if c = '=' then ([], some rest)
    else
      let (name, value) := splitEquals rest
      (c :: name, value)

/-- Read what stands after two dashes. -/
def long (s : State) (text : List Char) : Except Fault State :=
  let (name, attached) := splitEquals text
  match s.context.long? (.ofList name) with
  | none => .error .unknownArgument
  | some (.switch switch) =>
    if attached.isSome then .error .tooManyValues else s.settleSwitch switch
  | some (.opt o) => s.beginOption o (attached.map String.ofList)

/-- What is attached to the letter of an option. -/
def attachment : List Char → Option String
  | [] => none
  | '=' :: rest => some (.ofList rest)
  | rest => some (.ofList rest)

/-- Read what stands after one dash: the letters of switches, and at most one
option with what is attached to it. -/
def short (s : State) : List Char → Except Fault State
  | [] => .ok s
  | letter :: rest =>
    match s.context.short? letter with
    | none => .error .unknownArgument
    | some (.switch switch) =>
      match s.settleSwitch switch with
      | .ok s => s.short rest
      | .error e => .error e
    | some (.opt o) => s.beginOption o (attachment rest)

/-- Whether the next word is a value of the option that is pending. -/
def awaitsValue (s : State) : Bool :=
  s.pending.any (·.isOpen)

/-- The fault of a word that has no place. -/
def stray (s : State) (word : String) : Fault :=
  match s.context with
  | .root =>
    if s.seen then .argumentConflict
    else if s.closed && ((command? word).isSome || word = helpCommand) then
      .unknownArgument
    else .invalidSubcommand
  | _ => .unknownArgument

/-- Read a word that does not begin with a dash, or that is one. -/
def plain (s : State) (word : String) : Except Fault State :=
  match s.pending with
  | some p =>
    if p.isOpen then
      .ok { s with pending := some { p with values := p.values ++ [word] } }
    else .error (s.stray word)
  | none => .error (s.stray word)

/-- Whether a word may be a command. -/
def mayBeCommand (s : State) : Bool :=
  s.context == .root && !s.seen && !s.closed && !s.awaitsValue

/-- Read a word that is no command. -/
def word (s : State) (text : String) : Except Fault State :=
  if s.closed then .error (s.stray text)
  else
    match text.toList with
    | ['-', '-'] => .ok { s with closed := true }
    | '-' :: '-' :: rest => s.long rest
    | '-' :: c :: rest => s.short (c :: rest)
    | _ => s.plain text

end State

-- ======================================================== whole command lines

/-- The answer to a request for help on the given commands. Only the first may
name one; help on the help command is there as well. -/
def helpOn : List String → Fault
  | [] => .displayHelp
  | [name] =>
    if (command? name).isSome || name = helpCommand then .displayHelp
    else .invalidSubcommand
  | _ => .invalidSubcommand

/-- Read all words. -/
def readAll (s : State) : List String → Except Fault State
  | [] => s.settle
  | text :: rest =>
    if s.mayBeCommand && text = helpCommand then .error (helpOn rest)
    else
      match if s.mayBeCommand then command? text else none with
      | some context => readAll { context } rest
      | none =>
        match s.word text with
        | .ok s => readAll s rest
        | .error e => .error e

/-- What the program is asked to do. -/
inductive Request where
  /-- Run the proofs; `named` says whether the command was given by its
  name. -/
  | run (named : Bool) (overrides : Overrides)
  /-- Summarize a finished build. -/
  | summarize (runFile : Path) (domain directory : Option String)
  deriving DecidableEq, Repr

/-- A command line. -/
structure Invocation where
  logLevel : String
  verbose : Bool
  config : Option Path
  request : Request
  deriving DecidableEq, Repr

namespace State

/-- The value of an option. -/
def value? (s : State) (o : Opt) : Option String :=
  (s.options.lookup o).bind List.head?

/-- The values of an option that was given several times. -/
def values (s : State) (o : Opt) : List String :=
  (s.options.filter (·.1 == o)).flatMap (·.2)

/-- The number given for an option. -/
def number? (s : State) (o : Opt) : Option Nat :=
  (s.value? o).bind (natural? ·.toList)

/-- The path given for an option. -/
def path? (s : State) (o : Opt) : Option Path :=
  (s.value? o).map Path.mk

/-- The settings that were given for a run. -/
def overrides (s : State) : Overrides where
  root := s.path? .proofRoot
  marker := s.value? .proofMarker
  proofs :=
    if (s.values .proofs).isEmpty then none else some (s.values .proofs)
  noStandalone := s.switches.contains .noStandalone
  project := s.value? .projectName
  restriction := (s.value? .restriction).bind Restriction.ofWord?
  expensiveJobs := s.number? .expensiveJobs
  configureJobs := s.number? .configureJobs
  parallelJobs := s.number? .parallelJobs
  litani := s.path? .litani

/-- What is asked for. A summary needs its file, and both parts of a location
or none. -/
def request (s : State) : Except Fault Request :=
  match s.context with
  | .root => .ok (.run false s.overrides)
  | .run => .ok (.run true s.overrides)
  | .summarize =>
    match s.path? .runFile, s.value? .domain, s.value? .directory with
    | some file, some domain, some directory =>
      .ok (.summarize file domain directory)
    | some file, none, none => .ok (.summarize file none none)
    | _, _, _ => .error .missingRequiredArgument

end State

/-- Read a command line, without the name of the program. -/
def parse (args : List String) : Except Fault Invocation :=
  match readAll {} args with
  | .error e => .error e
  | .ok s =>
    match s.request with
    | .error e => .error e
    | .ok request =>
      .ok
        { logLevel := (s.value? .logLevel).getD "warn"
          verbose := s.switches.contains .verbose
          config := s.path? .config
          request }

end ProofBatch.CommandLine
