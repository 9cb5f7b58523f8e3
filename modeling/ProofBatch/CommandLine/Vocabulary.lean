/-
The words of the command line: the commands, the switches and the options, how
each is spelled, and where it may be given.
-/
import ProofBatch.Capability
import ProofBatch.Path

namespace ProofBatch.CommandLine

-- ================================================================ commands

/-- Where on the command line an argument stands: before any command, or after
one. -/
inductive Context where
  | root
  | run
  | summarize
  deriving DecidableEq, Repr, Inhabited

/-- The command with a name. -/
def command? (word : String) : Option Context :=
  if word = "run" then some .run
  else if word = "summarize" then some .summarize
  else none

/-- The name of the command that asks for help on another one. -/
def helpCommand : String :=
  "help"

-- ========================================================== switches, options

/-- An argument without a value. -/
inductive Switch where
  | verbose
  | noStandalone
  | help
  | version
  deriving DecidableEq, Repr

/-- An argument with a value. -/
inductive Opt where
  | logLevel
  | config
  | parallelJobs
  | configureJobs
  | proofs
  | projectName
  | proofMarker
  | restriction
  | expensiveJobs
  | proofRoot
  | litani
  | runFile
  | domain
  | directory
  deriving DecidableEq, Repr

/-- An argument that begins with a dash. -/
inductive Word where
  | switch (s : Switch)
  | opt (o : Opt)
  deriving DecidableEq, Repr

/-- What the value of an option has to be. -/
inductive Kind where
  | text
  /-- A path, which is not empty. -/
  | path
  | number
  | restriction
  deriving DecidableEq, Repr

namespace Switch

/-- The name after two dashes. -/
def long : Switch → String
  | verbose => "verbose"
  | noStandalone => "no-standalone"
  | help => "help"
  | version => "version"

/-- The letter after one dash. -/
def short? : Switch → Option Char
  | verbose => some 'v'
  | noStandalone => none
  | help => some 'h'
  | version => some 'V'

/-- Whether the switch may be given in a context. -/
def allowedIn : Switch → Context → Bool
  | verbose, _ => true
  | help, _ => true
  | noStandalone, c => c != .summarize
  | version, c => c == .root

/-- All switches. -/
def all : List Switch :=
  [verbose, noStandalone, help, version]

end Switch

namespace Opt

/-- The name after two dashes. -/
def long : Opt → String
  | logLevel => "log-level"
  | config => "config"
  | parallelJobs => "parallel-jobs"
  | configureJobs => "configure-jobs"
  | proofs => "proofs"
  | projectName => "project-name"
  | proofMarker => "proof-marker"
  | restriction => "restrict-expensive-jobs"
  | expensiveJobs => "expensive-jobs-parallelism"
  | proofRoot => "proof-root"
  | litani => "litani"
  | runFile => "run-file"
  | domain => "cloudfront-domain"
  | directory => "s3-uri"

/-- The letter after one dash. -/
def short? : Opt → Option Char
  | logLevel => some 'l'
  | config => some 'c'
  | parallelJobs => some 'j'
  | proofs => some 'p'
  | _ => none

/-- Whether the option may be given in a context. The level of the log and the
settings file may be given anywhere. -/
def allowedIn : Opt → Context → Bool
  | logLevel, _ => true
  | config, _ => true
  | runFile, c => c == .summarize
  | domain, c => c == .summarize
  | directory, c => c == .summarize
  | _, c => c != .summarize

/-- What the value has to be. -/
def kind : Opt → Kind
  | config => .path
  | proofRoot => .path
  | litani => .path
  | runFile => .path
  | parallelJobs => .number
  | configureJobs => .number
  | expensiveJobs => .number
  | restriction => .restriction
  | _ => .text

/-- Whether the option takes several values, and may be given several times. -/
def isList (o : Opt) : Bool :=
  o == proofs

/-- All options. -/
def all : List Opt :=
  [logLevel, config, parallelJobs, configureJobs, proofs, projectName,
    proofMarker, restriction,
   expensiveJobs, proofRoot, litani, runFile, domain, directory]

end Opt

/-- All switches and options that may be given in a context. -/
def Context.words (c : Context) : List Word :=
  (Switch.all.filter (·.allowedIn c)).map .switch
    ++ (Opt.all.filter (·.allowedIn c)).map .opt

/-- The switch or option with a name. -/
def Context.long? (c : Context) (name : String) : Option Word :=
  c.words.find? fun
    | .switch s => s.long = name
    | .opt o => o.long = name

/-- The switch or option with a letter. -/
def Context.short? (c : Context) (letter : Char) : Option Word :=
  c.words.find? fun
    | .switch s => s.short? = some letter
    | .opt o => o.short? = some letter

-- ================================================================ faults

/-- What ends the reading of a command line. -/
inductive Fault where
  | unknownArgument
  /-- A value is missing, empty, or none of those listed. -/
  | invalidValue
  /-- A value is no number. -/
  | valueValidation
  /-- Two arguments exclude each other, or one is given twice. -/
  | argumentConflict
  | missingRequiredArgument
  | invalidSubcommand
  /-- A switch has a value. -/
  | tooManyValues
  /-- Help was asked for. -/
  | displayHelp
  /-- The version was asked for. -/
  | displayVersion
  deriving DecidableEq, Repr

-- ================================================================ values

/-- The greatest number on a command line. -/
def maxNumber : Nat :=
  Nat.pow 2 64 - 1

/-- The number that a text is; a plus sign may come first. -/
def natural? (text : List Char) : Option Nat :=
  let digits := match text with
    | '+' :: rest => rest
    | _ => text
  if digits.isEmpty || !digits.all Char.isDigit then none
  else
    some (digits.foldl (fun n c => n * 10 + (c.toNat - '0'.toNat)) 0)
      |>.filter (· ≤ maxNumber)

/-- Check the value of an option. -/
def Kind.check (kind : Kind) (value : String) : Except Fault Unit :=
  match kind with
  | .text => .ok ()
  | .path => if value.isEmpty then .error .invalidValue else .ok ()
  | .number =>
    if (natural? value.toList).isSome then .ok () else .error .valueValidation
  | .restriction =>
    if (Restriction.ofWord? value).isSome then .ok () else .error .invalidValue

end ProofBatch.CommandLine
