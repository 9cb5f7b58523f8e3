/-
Running scripts.

Every evaluating function has a budget that bounds how deep it goes; a script
that uses it up is killed, as one that does not end has to be.

- `expand` turns a word into marks, of which `fieldsOf` makes fields;
- `execute` runs a command; a `tested` one may fail in a cautious script;
- `runScript` runs a script line by line, and `start` a program in a process of
  its own.
-/
import ProofBatch.Process
import ProofBatch.Shell.Builtin
import ProofBatch.Shell.Pattern
import ProofBatch.Shell.Program
import ProofBatch.Shell.Reader

namespace ProofBatch.Shell

-- ================================================================ fields

/-- The fields that marks make up: blanks from expansions separate them. `now`
holds what the current field has so far, the last byte first, if it has
begun. -/
def fieldsFrom (now : Option Bytes) : List Mark → List Bytes
  | [] => (now.map List.reverse).toList
  | .cut :: rest => (now.map List.reverse).toList ++ fieldsFrom none rest
  | .blank :: rest => fieldsFrom (some (now.getD [])) rest
  | .kept c :: rest => fieldsFrom (some (c :: now.getD [])) rest
  | .bare c :: rest => fieldsFrom (some (c :: now.getD [])) rest
  | .loose c :: rest =>
    if c == ' ' || c == '\t' || c == '\n' then
      (now.map List.reverse).toList ++ fieldsFrom none rest
    else fieldsFrom (some (c :: now.getD [])) rest

/-- The fields that marks make up. -/
def fieldsOf (marks : List Mark) : List Bytes :=
  fieldsFrom none marks

/-- The marks of an expanded value. -/
def marksOf (quoted : Bool) (value : Bytes) : List Mark :=
  value.map fun c => if quoted then .kept c else .loose c

/-- The marks of a word that stands for a value. -/
def loosen (quoted : Bool) (marks : List Mark) : List Mark :=
  marks.map fun
    | .bare c => if quoted then .bare c else .loose c
    | mark => mark

/-- The marks of all arguments: fields of their own for `@`, and also for `*`
outside of quotes. -/
def argumentMarks (quoted together : Bool) (s : State) : List Mark :=
  if quoted && together then marksOf true s.allArguments
  else
    let one (argument : Bytes) : List Mark :=
      if quoted then .blank :: marksOf true argument
      else marksOf false argument
    [Mark.cut].intercalate (s.arguments.map one)

/-- The text without the ends of lines at its end. -/
def withoutLastLines (text : Bytes) : Bytes :=
  (text.reverse.dropWhile (· == '\n')).reverse

-- ================================================================ channels

/-- What a file could not be opened for, as the shell says it. -/
def openingProblem (missing : String) (e : IoError) : String :=
  match e with
  | .notFound | .notDirectory => missing
  | .badProgram => "Exec format error"
  | .accessDenied => "Permission denied"
  | .isDirectory => "Is a directory"
  | .tooManyLinks => "Too many levels of symbolic links"
  | .nameTooLong => "File name too long"
  | e => e.message

/-- Why a program was not started, as the shell says it. -/
def notStarted (program : String) (e : IoError) : String :=
  program ++ ": " ++ openingProblem "not found" e

/-- The device that keeps nothing and has nothing. -/
def nullDevice : String :=
  "/dev/null"

namespace State

/-- Let a channel lead to a file, which is begun anew unless `keeps` says
otherwise. -/
def openForWriting (s : State) (channel : Nat) (target : Bytes)
    (keeps : Bool) : Except String State :=
  let path : Path := ⟨toText target⟩
  if path.text = nullDevice then .ok (s.setChannel channel .nowhere)
  else
    let opened := do
      let files ←
        if keeps then s.files.append path [] else s.files.write path []
      return (files, ← files.place path)
    match opened with
    | .ok (files, place) =>
      .ok ({ s with files }.setChannel channel (.file place))
    | .error e =>
      .error ("cannot create " ++ path.text ++ ": "
        ++ openingProblem "Directory nonexistent" e)

/-- Let the input come from a file. -/
def openForReading (s : State) (target : Bytes) : Except String State :=
  let path : Path := ⟨toText target⟩
  if path.text = nullDevice then .ok { s with input := [] }
  else
    match s.files.readBytes path with
    | .ok bytes => .ok { s with input := ofBytes bytes }
    | .error e =>
      .error ("cannot open " ++ path.text ++ ": "
        ++ openingProblem "No such file" e)

/-- Let a channel lead where another one leads. -/
def duplicate (s : State) (channel : Nat) (target : Bytes) :
    Except String State :=
  if target = ['-'] then .ok (s.closeChannel channel)
  else
    match number? target with
    | none => .error "Bad fd number"
    | some 0 => .ok s
    | some other =>
      match s.channels.lookup other with
      | some outlet => .ok (s.setChannel channel outlet)
      | none => .error s!"{other}: Bad file descriptor"

/-- Carry out one redirection. -/
def redirect (s : State) (channel : Nat) (way : Way) (target : Bytes) :
    Except String State :=
  match way with
  | .read => s.openForReading target
  | .write => s.openForWriting channel target false
  | .append => s.openForWriting channel target true
  | .duplicate => s.duplicate channel target

/-- The list of directories in which programs are searched for. -/
def searchList (s : State) : Bytes :=
  (s.values.lookup "PATH").getD []

/-- Start with options from the command line of the shell. -/
def setOptions (s : State) (options : List Bytes) : State :=
  { s with cautious := options.any fun
      | '-' :: letters => letters.contains 'e'
      | _ => false }

/-- Go on with the channels that there were before a command with redirections,
and with the input if one of them replaced it. -/
def restoreChannels (s before : State) (redirections : List Redirection) :
    State :=
  { s with
    channels := before.channels
    input :=
      if redirections.any Redirection.isInput then before.input else s.input }

/-- The status that a signal gives a command. -/
def statusOf : Ending → Nat
  | .exited code => code
  | .killed signal => 128 + signal

/-- How the process of a finished script ended. -/
def ending (s : State) : Ending :=
  match s.flow with
  | .killed signal => .killed signal
  | _ => .exited s.status

/-- The status for a program that there is not. -/
def notFoundStatus : Nat :=
  127

/-- The status for a program that could not be started. -/
def refusalStatus (e : IoError) : Nat :=
  if e = .notFound ∨ e = .notDirectory ∨ e = .nameTooLong
    ∨ e = .tooManyLinks then notFoundStatus
  else 126

/-- The words for a command that a signal ended, but for those that no one
needs to be told. -/
def tellSignal (s : State) (signal : Signal) : State :=
  if signal = 2 ∨ signal = 13 then s
  else s.write 2 (ofText (signal.words ++ "\n"))

end State

-- ================================================================ evaluation

/-- The signal that ends what uses up its budget. -/
def overspent (s : State) : State :=
  { s with flow := .killed 9 }

mutual

/-- The marks of a word. -/
def expand (budget : Nat) (word : Word) (s : State) : List Mark × State :=
  match budget with
  | 0 => ([], overspent s)
  | budget + 1 =>
    word.foldl (fun (marks, s) piece =>
      let (more, s) := expandPiece budget piece s
      (marks ++ more, s)) ([], s)

/-- The marks of a part of a word. -/
def expandPiece (budget : Nat) (piece : Piece) (s : State) :
    List Mark × State :=
  match budget with
  | 0 => ([], overspent s)
  | budget + 1 =>
    match piece with
    | .char quoted c => ([if quoted then .kept c else .bare c], s)
    | .blank => ([.blank], s)
    | .parameter quoted "@" .value => (argumentMarks quoted false s, s)
    | .parameter quoted "*" .value => (argumentMarks quoted true s, s)
    | .parameter quoted name form => expandForm budget quoted name form s
    | .output quoted command =>
      let number := s.pockets
      let inner :=
        { s.below with pockets := number + 1 }.setChannel 1 (.pocket number)
      let (text, s) :=
        (s.resume (execute budget false command inner)).emptyPocket number
      (marksOf quoted (withoutLastLines text), { s with taken := s.status })

/-- The marks of what is made of a parameter. -/
def expandForm (budget : Nat) (quoted : Bool) (name : String) (form : Form)
    (s : State) : List Mark × State :=
  match budget with
  | 0 => ([], overspent s)
  | budget + 1 =>
    let given := s.parameter? name
    let value := given.getD []
    let has (orBlank : Bool) := given.isSome && !(orBlank && value.isEmpty)
    let trimmed (cut : Pattern → Bytes → Bytes) (pattern : Word) :=
      let (marks, s) := expand budget pattern s
      (marksOf quoted (cut (.ofMarks marks) value), s)
    match form with
    | .value => (marksOf quoted value, s)
    | .size => (marksOf quoted (ofText (toString value.length)), s)
    | .otherwise orBlank word =>
      if has orBlank then (marksOf quoted value, s)
      else
        let (marks, s) := expand budget word s
        (loosen quoted marks, s)
    | .assigning orBlank word =>
      if has orBlank then (marksOf quoted value, s)
      else
        let (marks, s) := expand budget word s
        (marksOf quoted (textOf marks), s.setVariable name (textOf marks))
    | .instead orBlank word =>
      if has orBlank then
        let (marks, s) := expand budget word s
        (loosen quoted marks, s)
      else ([], s)
    | .demanded orBlank word =>
      if has orBlank then (marksOf quoted value, s)
      else
        let (marks, s) := expand budget word s
        let told :=
          if word.isEmpty then "parameter not set" else toText (textOf marks)
        ([], (s.complain s!"{name}: {told}").leave State.misuse)
    | .withoutFront longest pattern =>
      trimmed (Pattern.dropFront longest) pattern
    | .withoutBack longest pattern =>
      trimmed (Pattern.dropBack longest) pattern

/-- The fields of some words. -/
def expandAll (budget : Nat) (words : List Word) (s : State) :
    List Bytes × State :=
  match budget with
  | 0 => ([], overspent s)
  | budget + 1 =>
    words.foldl (fun (fields, s) word =>
      let (marks, s) := expand budget word s
      (fields ++ fieldsOf marks, s)) ([], s)

/-- Carry out assignments. -/
def assign (budget : Nat) (assigned : List (String × Word)) (s : State) :
    State :=
  match budget with
  | 0 => overspent s
  | budget + 1 =>
    assigned.foldl (fun s (name, word) =>
      let (marks, s) := expand budget word s
      s.setVariable name (textOf marks)) s

/-- Carry out redirections up to the first that fails. -/
def redirectAll (budget : Nat) (redirections : List Redirection) (s : State) :
    Except String Unit × State :=
  match budget with
  | 0 => (.ok (), overspent s)
  | budget + 1 =>
    redirections.foldl (fun (answer, s) (.mk channel way target) =>
      match answer with
      | .error problem => (.error problem, s)
      | .ok () =>
        let (marks, s) := expand budget target s
        match s.redirect channel way (textOf marks) with
        | .ok s => (.ok (), s)
        | .error problem => (.error problem, s)) (.ok (), s)

/-- Run a command. -/
def execute (budget : Nat) (tested : Bool) (command : Command) (s : State) :
    State :=
  match budget with
  | 0 => overspent s
  | budget + 1 =>
    if s.isHalted then s
    else
      match command with
      | .nothing => s
      | .simple line assigned words redirections =>
        let s :=
          executeSimple budget assigned words redirections { s with line }
        if s.cautious && !tested && !s.isHalted && s.status != 0 then
          s.leave s.status
        else s
      | .redirected command redirections =>
        match redirectAll budget redirections s with
        | (.error problem, after) =>
          ((after.complain problem).ends State.misuse).restoreChannels s
            redirections
        | (.ok (), after) =>
          (execute budget tested command after).restoreChannels s redirections
      | .sequence first second =>
        execute budget tested second (execute budget tested first s)
      | .both first second =>
        let s := execute budget true first s
        if s.isHalted || s.status != 0 then s
        else execute budget tested second s
      | .either first second =>
        let s := execute budget true first s
        if s.isHalted || s.status == 0 then s
        else execute budget tested second s
      | .negated command =>
        let s := execute budget true command s
        if s.isHalted then s else s.ends (if s.status = 0 then 1 else 0)
      | .pipe first second =>
        let number := s.pockets
        let inner :=
          { s.below with pockets := number + 1 }.setChannel 1 (.pocket number)
        let (text, s) :=
          (s.resume (execute budget tested first inner)).emptyPocket number
        if s.isHalted then s
        else
          let inner := { s.below with input := text }
          { s.resume (execute budget tested second inner) with
            input := s.input }
      | .branch condition yes no =>
        let s := execute budget true condition s
        if s.isHalted then s
        else if s.status = 0 then execute budget tested yes s
        else execute budget tested no (s.ends 0)
      | .loop untilWell condition body =>
        (repeatLoop budget tested untilWell condition body 0 s).endLoop
      | .each name words body =>
        let (values, s) := match words with
          | some words => expandAll budget words s
          | none => (s.arguments, s)
        (values.foldl (fun s value =>
          if s.isHalted then s
          else
            (execute budget tested body (s.setVariable name value)).endRound)
          (s.ends 0)).endLoop
      | .select word arms =>
        let (marks, s) := expand budget word s
        let text := textOf marks
        let pass (found : Option Command × State)
            (arm : List Word × Command) :=
          match found with
          | (some body, s) => (some body, s)
          | (none, s) =>
            let (hit, s) := arm.1.foldl (fun (hit, s) pattern =>
              if hit then (hit, s)
              else
                let (marks, s) := expand budget pattern s
                (Pattern.accepts (.ofMarks marks) text, s)) (false, s)
            (if hit then some arm.2 else none, s)
        match arms.foldl pass (none, s) with
        | (some body, s) => execute budget tested body (s.ends 0)
        | (none, s) => s.ends 0
      | .subshell command => s.resume (execute budget tested command s.below)
      | .define name body =>
        { s with
          functions := (name, body) :: s.functions.filter (·.1 ≠ name)
          status := 0 }

/-- Run a loop. `last` is the status of its last round. -/
def repeatLoop (budget : Nat) (tested untilWell : Bool)
    (condition body : Command) (last : Nat) (s : State) : State :=
  match budget with
  | 0 => overspent s
  | budget + 1 =>
    let s := execute budget true condition s
    if s.isHalted then s.endRound
    else if (s.status == 0) == untilWell then s.ends last
    else
      let s := (execute budget tested body s).endRound
      if s.isHalted then s
      else repeatLoop budget tested untilWell condition body s.status s

/-- Run a simple command: expand its words, carry out its redirections and
assignments, and then what its first word asks for. -/
def executeSimple (budget : Nat) (assigned : List (String × Word))
    (words : List Word) (redirections : List Redirection) (s : State) :
    State :=
  match budget with
  | 0 => overspent s
  | budget + 1 =>
    let (fields, s) := expandAll budget words { s with taken := 0 }
    if s.isHalted then s
    else
      match fields with
      | [] =>
        match redirectAll budget redirections s with
        | (.error problem, after) =>
          ((after.complain problem).ends State.misuse).restoreChannels s
            redirections
        | (.ok (), after) =>
          let after :=
            (assign budget assigned after).restoreChannels s redirections
          after.ends after.taken
      | command :: arguments =>
        let name := toText command
        match redirectAll budget redirections s with
        | (.error problem, after) =>
          let after := (after.complain problem).restoreChannels s redirections
          if isSpecial name then after.leave State.misuse
          else after.ends State.misuse
        | (.ok (), after) =>
          let ready := assign budget assigned after
          let ready := if isSpecial name then ready
            else assigned.foldl (fun s given => s.exports given.1) ready
          let done := call budget command arguments ready
          let done := if isSpecial name then done
            else { done with
              values := if assigned.isEmpty then done.values else after.values
              exported :=
                if assigned.isEmpty then done.exported else after.exported }
          if name = "exec" && arguments.isEmpty then done
          else done.restoreChannels s redirections

/-- Carry out what a word asks for: a command that runs others, a function, a
command of the shell, or a program. -/
def call (budget : Nat) (command : Bytes) (arguments : List Bytes)
    (s : State) : State :=
  match budget with
  | 0 => overspent s
  | budget + 1 =>
    let name := toText command
    match name, arguments, s.functions.lookup name, builtin? name with
    | "exec", [], _, _ => s.ends 0
    | "exec", program :: arguments, _, _ =>
      match Program.find (Program.load s.files) s.searchList
        (toText program) with
      | .error e =>
        (s.complain ("exec: " ++ notStarted (toText program) e)).leave
          (State.refusalStatus e)
      | .ok found =>
        let done := start budget found.1 found.2 arguments s
        match done.2 with
        | .exited code => done.1.leave code
        | .killed signal => { done.1 with flow := .killed signal }
    | "eval", words, _, _ =>
      runScript budget { rest := [' '].intercalate words, line := s.line } s
    | _, _, some body, _ =>
      let done := execute budget false body { s with arguments }
      { done.endCall with arguments := s.arguments }
    | _, _, none, some builtin => builtin.run s arguments
    | _, _, none, none =>
      match Program.find (Program.load s.files) s.searchList name with
      | .error e =>
        (s.complain (notStarted name e)).ends
          (if name.contains '/' then State.refusalStatus e
          else State.notFoundStatus)
      | .ok found =>
        let done := start budget found.1 found.2 arguments s
        let s := match done.2 with
          | .exited _ => done.1
          | .killed signal => done.1.tellSignal signal
        s.ends (State.statusOf done.2)

/-- Run a program in a process of its own, which has the channels and the
environment of the script. -/
def start (budget : Nat) (path : Path) (program : Program)
    (arguments : List Bytes) (s : State) : State × Ending :=
  match budget with
  | 0 => (overspent s, .killed 9)
  | budget + 1 =>
    let environment := s.environment
    let child : State :=
      { files := s.files, name := ofText path.text, arguments
        values := environment
        exported := environment.map (·.1), channels := s.channels
        input := s.input
        pockets := s.pockets, written := s.written }
    let child := child.setOptions program.options
    let done := runScript budget { rest := program.text } child
    ({ s.resume done with flow := s.flow }, done.ending)

/-- Run a script from a place in it on, line by line. -/
def runScript (budget : Nat) (place : Cursor) (s : State) : State :=
  match budget with
  | 0 => overspent s
  | budget + 1 =>
    if s.isHalted then s
    else
      match Reader.nextLine? place with
      | .error fault =>
        ({ s with line := fault.line }.complain fault.text).leave State.misuse
      | .ok none => s
      | .ok (some (command, rest)) =>
        runScript budget rest (execute budget false command s)

end

end ProofBatch.Shell
