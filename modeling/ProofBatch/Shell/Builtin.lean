/-
The commands that the shell carries out itself and that run no other command.

A special one leaves the shell when it is used wrongly; any other one just does
not do well.
-/
import ProofBatch.Shell.Condition
import ProofBatch.Shell.State

namespace ProofBatch.Shell

/-- A command of the shell. -/
structure Builtin where
  /-- Whether a wrong use leaves the shell. -/
  leaves : Bool := false
  run : State → List Bytes → State

namespace State

/-- The status of a command that was used wrongly. -/
def misuse : Nat :=
  2

/-- Complain about the use of a special command, which leaves the shell. -/
def refuse (s : State) (command problem : String) : State :=
  (s.complain s!"{command}: {problem}").leave misuse

/-- Complain about the use of a command. -/
def decline (s : State) (command problem : String) (status : Nat := misuse) :
    State :=
  (s.complain s!"{command}: {problem}").ends status

/-- The number that an argument is. -/
def number? (bytes : Bytes) : Option Nat :=
  if bytes.isEmpty || !bytes.all Char.isDigit then none
  else some (valueOf 10 bytes)

/-- Carry out a command whose only argument is a number. -/
def withNumber (s : State) (command : String) (arguments : List Bytes)
    (default : Nat) (run : Nat → State) : State :=
  match arguments with
  | [] => run default
  | argument :: _ =>
    match number? argument with
    | some n => run n
    | none => s.refuse command s!"Illegal number: {toText argument}"

/-- `set`: options, then the arguments of the script. -/
def setArguments (s : State) : List Bytes → State
  | [] => s
  | ['-', '-'] :: rest => { s with arguments := rest }
  | word :: rest =>
    match word with
    | '-' :: c :: options =>
      { s with
        cautious :=
          s.cautious || (c :: options).contains 'e' }.setArguments rest
    | '+' :: options =>
      { s with
        cautious := s.cautious && !options.contains 'e' }.setArguments rest
    | _ => { s with arguments := word :: rest }

/-- The name and the value in `name=value`, or the name alone. -/
def splitAssignment (word : Bytes) : String × Option Bytes :=
  let name := word.takeWhile (· ≠ '=')
  (.ofList name,
    if name.length = word.length then none
    else some (word.drop (name.length + 1)))

/-- `export`: give variables to the programs that the script starts. -/
def exportAll (s : State) (words : List Bytes) : State :=
  words.foldl (fun s word =>
    match splitAssignment word with
    | (name, some value) => (s.setVariable name value).exports name
    | (name, none) => s.exports name) s

/-- `cd`: enter a directory. -/
def changeDirectory (s : State) (target : Bytes) : State :=
  match s.files.enter ⟨toText target⟩ with
  | .ok files => { s with files, status := 0 }
  | .error _ => s.decline "cd" s!"can't cd to {toText target}"

/-- `test` under either of its names. -/
def askCondition (s : State) (command : String) (words : List Bytes) : State :=
  match Condition.judge s.files words with
  | .ok answer => s.ends (if answer then 0 else 1)
  | .error problem => s.decline command problem

/-- The signal that an option of `kill` names, by number or by name. -/
def signal? (option : Bytes) : Option Signal :=
  match number? option with
  | some n => some n
  | none => Signal.ofName? (.ofList option)

/-- `kill`: send a signal to processes, of which the script knows its own. -/
def kill (s : State) (signal : Signal) : List Bytes → State
  | [] => s.ends 0
  | target :: rest =>
    match number? target with
    | none => s.decline "kill" s!"Illegal number: {toText target}"
    | some n =>
      if n ≠ processNumber then s.decline "kill" "No such process\n" 1
      else if signal.survived then s.kill signal rest
      else { s with flow := .killed signal }

/-- What a `kill` without a target is told. -/
def killUsage : String :=
  "Usage: kill [-s sigspec | -signum | -sigspec] [pid | job]... or\n"
    ++ "kill -l [exitstatus]"

/-- `kill` with its options. -/
def killWith (s : State) (words : List Bytes) : State :=
  match words with
  | ['-', 's'] :: name :: targets =>
    match signal? name with
    | some signal => s.kill signal targets
    | none => s.decline "kill" s!"invalid signal number or name: {toText name}"
  | ('-' :: c :: option) :: targets =>
    match signal? (c :: option) with
    | some signal => s.kill signal targets
    | none => s.decline "kill" s!"Illegal option -{c}"
  | [] => s.decline "kill" killUsage
  | targets => s.kill 15 targets

/-- The fields of a line for `count` variables; the last one takes what is left
of the line. -/
def fieldsFor (isGap : Char → Bool) (line : Bytes) : Nat → List Bytes
  | 0 => []
  | 1 => [((line.dropWhile isGap).reverse.dropWhile isGap).reverse]
  | count + 1 =>
    let line := line.dropWhile isGap
    let field := line.takeWhile (!isGap ·)
    field :: fieldsFor isGap (line.drop field.length) count

/-- `read`: take a line of the input into variables. -/
def readLine (s : State) (names : List Bytes) : State :=
  let line := s.input.takeWhile (· ≠ '\n')
  let after := s.input.drop line.length
  let fields := fieldsFor (fun c => c == ' ' || c == '\t') line names.length
  let s :=
    (names.zip fields).foldl
      (fun s field => s.setVariable (.ofList field.1) field.2) s
  { s with
    input := after.tail
    status := if after.isEmpty then 1 else 0 }

/-- `printf`. -/
def printFormat (s : State) (words : List Bytes) : State :=
  match words with
  | [] => s.decline "printf" "usage: printf format [arg ...]"
  | format :: arguments =>
    let printed := formatted format arguments
    let s := s.write 1 printed.out
    let s :=
      printed.problems.foldl
        (fun s problem => s.complain s!"printf: {problem}") s
    s.ends
      (if printed.refused then misuse
      else if printed.problems.isEmpty then 0 else 1)

end State

namespace Builtin

/-- A command whose wrong use just does not do well. -/
def ordinary (run : State → List Bytes → State) : Option Builtin :=
  some { run }

/-- A command whose wrong use leaves the shell. -/
def special (run : State → List Bytes → State) : Option Builtin :=
  some { leaves := true, run }

end Builtin

open Builtin in
/-- The commands that the shell carries out itself, but for those that run
others. -/
def builtin? (command : String) : Option Builtin :=
  match command with
  | ":" => special fun s _ => s.ends 0
  | "true" => ordinary fun s _ => s.ends 0
  | "false" => ordinary fun s _ => s.ends 1
  | "echo" => ordinary fun s words => (s.write 1 (echoText words)).ends 0
  | "printf" => ordinary .printFormat
  | "test" => ordinary fun s words => s.askCondition "test" words
  | "[" => ordinary fun s words =>
    if words.getLast? = some [']'] then s.askCondition "[" words.dropLast
    else s.decline "[" "missing ]"
  | "exit" => special fun s words =>
    s.withNumber "exit" words s.status fun n => s.leave (n % 256)
  | "return" => special fun s words =>
    s.withNumber "return" words s.status fun n =>
      { s with status := n % 256, flow := .returning }
  | "break" => special fun s words =>
    s.withNumber "break" words 1 fun n =>
      { s with status := 0, flow := .breaking (max n 1) }
  | "continue" => special fun s words =>
    s.withNumber "continue" words 1 fun n =>
      { s with status := 0, flow := .continuing (max n 1) }
  | "shift" => special fun s words =>
    s.withNumber "shift" words 1 fun n =>
      if s.arguments.length < n then s.refuse "shift" "can't shift that many"
      else { s with arguments := s.arguments.drop n, status := 0 }
  | "set" => special fun s words => (s.setArguments words).ends 0
  | "unset" => special fun s words =>
    (words.foldl (fun s word => s.unset (.ofList word)) s).ends 0
  | "export" => special fun s words => (s.exportAll words).ends 0
  | "cd" => ordinary fun s words =>
    match words.head? <|> s.values.lookup "HOME" with
    | some target => s.changeDirectory target
    | none => s.ends 0
  | "pwd" =>
    ordinary fun s _ =>
      (s.write 1 (ofText s.files.herePath.text ++ ['\n'])).ends 0
  | "kill" => ordinary .killWith
  | "read" =>
    ordinary fun s words => s.readLine (words.filter (· ≠ ['-', 'r']))
  | "wait" => ordinary fun s _ => s.ends 0
  | _ => none

/-- Whether a wrong use of a command, or of its redirections, leaves the
shell. -/
def isSpecial (command : String) : Bool :=
  command == "exec" || command == "eval" || (builtin? command).any (·.leaves)

end ProofBatch.Shell
