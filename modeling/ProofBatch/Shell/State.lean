/-
The state of a script that runs: the file tree, its parameters, where its
channels lead, and what it has written.
-/
import ProofBatch.FileTree
import ProofBatch.Journal
import ProofBatch.Shell.Syntax
import ProofBatch.Signal

namespace ProofBatch.Shell

-- =========================================================== outlets and flow

/-- Where what is written to a channel goes. -/
inductive Outlet where
  /-- To an output of the whole program. -/
  | stream (stream : Stream)
  /-- To the file at a place in the tree. -/
  | file (place : List String)
  /-- Into a pocket, from which an expansion or a pipe takes it. -/
  | pocket (number : Nat)
  | nowhere
  deriving DecidableEq, Repr

/-- What comes after the command that has just run. -/
inductive Flow where
  | next
  /-- The script ends with its status. -/
  | leave
  /-- So many loops are left. -/
  | breaking (loops : Nat)
  /-- All but one of so many loops are left, and that one begins its next
  round. -/
  | continuing (loops : Nat)
  /-- The function is left. -/
  | returning
  /-- A signal has ended the process. -/
  | killed (signal : Signal)
  deriving DecidableEq, Repr

-- ================================================================ state

/-- The variables that the programs of a process start with. -/
abbrev Environment := List (String × Bytes)

/-- The state of a script. -/
structure State where
  files : FileTree
  /-- The name that the script was started by. -/
  name : Bytes
  arguments : List Bytes
  /-- The values of its variables. -/
  values : List (String × Bytes)
  /-- The variables that the programs it starts get to see. -/
  exported : List String
  functions : List (String × Command) := []
  /-- The status of the last command. -/
  status : Nat := 0
  /-- The status of the last command whose output was taken. -/
  taken : Nat := 0
  /-- The line of the command that runs. -/
  line : Nat := 1
  /-- Whether a command that does not do well ends the script. -/
  cautious : Bool := false
  /-- Where the channels lead. -/
  channels : List (Nat × Outlet)
  /-- What there is to read. -/
  input : Bytes := []
  /-- The number of pockets given away. -/
  pockets : Nat := 0
  /-- What was written, in order, but for what went into files. -/
  written : List (Outlet × Bytes) := []
  flow : Flow := .next

namespace State

/-- The number that a script knows its process by. -/
def processNumber : Nat :=
  1000

/-- Whether the next command does not run. -/
def isHalted (s : State) : Bool :=
  s.flow != .next

/-- End a command with a status. -/
def ends (s : State) (status : Nat) : State :=
  { s with status }

/-- End the script with a status. -/
def leave (s : State) (status : Nat) : State :=
  { s with status, flow := .leave }

-- ================================================================ writing

/-- Write to an outlet. -/
def writeTo (s : State) (outlet : Outlet) (bytes : Bytes) : State :=
  match outlet with
  | .nowhere => s
  | .file place =>
    match s.files.append ⟨"/" ++ "/".intercalate place⟩ (toBytes bytes) with
    | .ok files => { s with files }
    | .error _ => s
  | _ =>
    if bytes.isEmpty then s
    else { s with written := s.written ++ [(outlet, bytes)] }

/-- Write to a channel. -/
def write (s : State) (channel : Nat) (bytes : Bytes) : State :=
  match s.channels.lookup channel with
  | some outlet => s.writeTo outlet bytes
  | none => s

/-- Complain, with the name of the script and the line that runs. -/
def complain (s : State) (text : String) : State :=
  s.write 2 (s.name ++ ofText s!": {s.line}: {text}\n")

/-- Let a channel lead to an outlet. -/
def setChannel (s : State) (channel : Nat) (outlet : Outlet) : State :=
  { s with channels := (channel, outlet) :: s.channels.filter (·.1 ≠ channel) }

/-- Close a channel. -/
def closeChannel (s : State) (channel : Nat) : State :=
  { s with channels := s.channels.filter (·.1 ≠ channel) }

/-- What is in a pocket, and the state without it. -/
def emptyPocket (s : State) (number : Nat) : Bytes × State :=
  let mine := s.written.filter (·.1 = .pocket number)
  (mine.flatMap (·.2),
    { s with written := s.written.filter (·.1 ≠ .pocket number) })

-- ================================================================ parameters

/-- Give a variable a value. -/
def setVariable (s : State) (name : String) (value : Bytes) : State :=
  { s with values := (name, value) :: s.values.filter (·.1 ≠ name) }

/-- Take a variable away. -/
def unset (s : State) (name : String) : State :=
  { s with
    values := s.values.filter (·.1 ≠ name)
    exported := s.exported.filter (· ≠ name) }

/-- Let the programs that the script starts see a variable. -/
def exports (s : State) (name : String) : State :=
  if s.exported.contains name then s
  else { s with exported := s.exported ++ [name] }

/-- The environment of the programs that the script starts. -/
def environment (s : State) : Environment :=
  s.exported.filterMap fun name =>
    (s.values.lookup name).map fun value => (name, value)

/-- All arguments as one text. -/
def allArguments (s : State) : Bytes :=
  [' '].intercalate s.arguments

/-- The value of a parameter. -/
def parameter? (s : State) (name : String) : Option Bytes :=
  match name with
  | "@" | "*" => if s.arguments.isEmpty then none else some s.allArguments
  | "#" => some (ofText (toString s.arguments.length))
  | "?" => some (ofText (toString s.status))
  | "$" => some (ofText (toString processNumber))
  | "-" => some (if s.cautious then ['e'] else [])
  | "!" => none
  | "0" => some s.name
  | "PWD" => some (ofText s.files.herePath.text)
  | _ =>
    match name.toNat? with
    | some n => s.arguments[n - 1]?
    | none => s.values.lookup name

-- =============================================================== shells below

/-- A shell below this one, which shares what lies outside of both. -/
def below (s : State) : State :=
  { s with flow := .next }

/-- Go on after a shell below: what it did outside stays, what it did to itself
does not. A signal that it sent to the process has ended this shell too. -/
def resume (s inner : State) : State :=
  { s with
    files := { inner.files with here := s.files.here }
    written := inner.written
    pockets := inner.pockets
    input := inner.input
    status := inner.status
    flow := match inner.flow with
      | .killed signal => .killed signal
      | _ => s.flow }

-- ================================================================ loops

/-- End a round of a loop. -/
def endRound (s : State) : State :=
  if s.flow = .continuing 1 then { s with flow := .next } else s

/-- End a loop. -/
def endLoop (s : State) : State :=
  match s.flow with
  | .breaking (n + 1) =>
    { s with flow := if n = 0 then .next else .breaking n }
  | .continuing (n + 2) => { s with flow := .continuing (n + 1) }
  | _ => s

/-- End a function. -/
def endCall (s : State) : State :=
  if s.flow = .returning then { s with flow := .next } else s

end State

end ProofBatch.Shell
