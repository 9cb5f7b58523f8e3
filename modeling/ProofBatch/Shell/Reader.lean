/-
Reading scripts. A script is read line by line, as it runs: `Reader.nextLine`
gives the commands up to the end of a line, or of the last of the lines that
they extend over.

Every reading function has a budget that bounds how deep it goes; `budgetFor`
is enough for any script of its length, since whatever is read takes a
character at least at every few levels.
-/
import ProofBatch.Shell.Syntax

namespace ProofBatch.Shell

-- ================================================================ cursor

/-- A place in a script. -/
structure Cursor where
  rest : Bytes
  line : Nat := 1
  deriving Repr, Inhabited

/-- Why a script cannot be read. -/
structure Fault where
  line : Nat
  text : String
  deriving Repr

/-- What reads a script. -/
abbrev Reader := StateT Cursor (Except Fault)

namespace Cursor

/-- Go past one character. -/
def next (c : Cursor) : Cursor :=
  match c.rest with
  | [] => c
  | '\n' :: rest => { rest, line := c.line + 1 }
  | _ :: rest => { c with rest }

/-- Go past some characters. -/
def skip (c : Cursor) : Nat → Cursor
  | 0 => c
  | n + 1 => c.next.skip n

/-- Go past blanks, comments and broken lines, and, if `lines` says so, past
the ends of lines. -/
def skipBlanks (lines comment : Bool) (line : Nat) : Bytes → Cursor
  | '\n' :: rest =>
    if lines then skipBlanks lines false (line + 1) rest
    else { rest := '\n' :: rest, line }
  | '\\' :: '\n' :: rest =>
    if comment then skipBlanks lines comment line ('\n' :: rest)
    else skipBlanks lines comment (line + 1) rest
  | c :: rest =>
    if comment || c == ' ' || c == '\t' then skipBlanks lines comment line rest
    else if c == '#' then skipBlanks lines true line rest
    else { rest := c :: rest, line }
  | [] => { rest := [], line }

/-- The unquoted characters of the word that begins here, if all of it is
unquoted. -/
def plainWord? (c : Cursor) : Option String :=
  let quotes := ['\x27', '\x22', '\\', '$', '\x60']
  let chars := c.rest.takeWhile fun d => !endsWord d && !quotes.contains d
  match c.rest.drop chars.length with
  | [] => some (.ofList chars)
  | d :: _ => if endsWord d then some (.ofList chars) else none

/-- The reserved word that begins here. -/
def reserved? (c : Cursor) : Option String :=
  c.plainWord?.filter reserved.contains

/-- The separator or operator that begins here. -/
def operator? (c : Cursor) : Option String :=
  match c.rest with
  | '&' :: '&' :: _ => some "&&"
  | '|' :: '|' :: _ => some "||"
  | ';' :: ';' :: _ => some ";;"
  | c :: _ =>
    if [';', '&', '|', '(', ')', '<', '>'].contains c then some (toString c)
    else none
  | [] => none

/-- What stands here, as a complaint names it. -/
def here (c : Cursor) : String :=
  match c.rest, c.reserved?, c.operator? with
  | [], _, _ => "end of file"
  | '\n' :: _, _, _ => "newline"
  | _, some word, _ => s!"\"{word}\""
  | _, _, some op => s!"\"{op}\""
  | _, _, _ => "word"

/-- A budget that is enough for what is left. -/
def budgetFor (c : Cursor) : Nat :=
  16 * (c.rest.length + 1)

end Cursor

namespace Reader

-- ================================================================ small steps

/-- Refuse the script. -/
def refuse {α : Type} (text : String) : Reader α := do
  throw { line := (← get).line, text := "Syntax error: " ++ text }

/-- Refuse what stands here. -/
def unexpected {α : Type} (expected : String := "") : Reader α := do
  let here := (← get).here
  refuse (here ++ " unexpected"
    ++ if expected = "" then "" else s!" (expecting \"{expected}\")")

/-- The next character. -/
def peek : Reader (Option Char) := do
  return (← get).rest.head?

/-- Go past some characters. -/
def skip (n : Nat) : Reader Unit :=
  modify (·.skip n)

/-- Go past blanks. -/
def skipBlanks : Reader Unit :=
  modify fun c => Cursor.skipBlanks false false c.line c.rest

/-- Go past blanks and the ends of lines. -/
def skipLines : Reader Unit :=
  modify fun c => Cursor.skipBlanks true false c.line c.rest

/-- Take characters as long as a test holds. -/
def takeWhile (test : Char → Bool) : Reader Bytes := do
  let chars := (← get).rest.takeWhile test
  skip chars.length
  return chars

/-- Go past a reserved word that must stand here. -/
def close (word : String) : Reader Unit := do
  if (← get).reserved? = some word then skip word.length else unexpected word

/-- Go past an operator that must stand here. -/
def closeOperator (op : String) : Reader Unit := do
  skipBlanks
  if (← get).operator? = some op then skip op.length else unexpected op

/-- Whether a list of commands ends here. -/
def atListEnd : Reader Bool := do
  let c ← get
  return c.rest.isEmpty || c.operator? == some ")" || c.operator? == some ";;"
    || c.reserved?.any closers.contains

/-- The characters up to a single quote, which is passed. -/
def singleQuoted : Reader Bytes := do
  let chars ← takeWhile (· ≠ '\x27')
  if (← peek).isNone then refuse "Unterminated quoted string"
  skip 1
  return chars

/-- The text up to a backquote, which is passed. A backslash protects the next
character. -/
def backquotedText (quoted : Bool) : Bytes → Option (Bytes × Nat)
  | [] => none
  | '\x60' :: _ => some ([], 1)
  | '\\' :: c :: rest =>
    (backquotedText quoted rest).map fun r =>
      let freed := ['$', '\x60', '\\'].contains c || (quoted && c == '\x22')
      (if freed then c :: r.1 else '\\' :: c :: r.1, r.2 + 2)
  | c :: rest => (backquotedText quoted rest).map fun r => (c :: r.1, r.2 + 1)

/-- The name of a parameter that stands here. -/
def parameterName? : Reader (Option String) := do
  match ← peek with
  | none => return none
  | some c =>
    if startsName c then return some (.ofList (← takeWhile continuesName))
    else if c.isDigit || specialNames.contains c then
      skip 1
      return some (toString c)
    else return none

/-- The name in an assignment that a word begins with, and the pieces after its
`=`. -/
def assignment? (pieces : Word) : Option (String × Word) :=
  let rec go (name : List Char) : Word → Option (String × Word)
    | .char false '=' :: rest =>
      if name.isEmpty then none else some (.ofList name.reverse, rest)
    | .char false c :: rest =>
      if (if name.isEmpty then startsName c else continuesName c) then
        go (c :: name) rest
      else none
    | _ => none
  go [] pieces

/-- The redirection operator that stands here, with its default channel. -/
def way? : Reader (Option (Way × Nat)) := do
  let take (n : Nat) (way : Way) (channel : Nat) :
      Reader (Option (Way × Nat)) := do
    skip n
    return some (way, channel)
  match (← get).rest with
  | '>' :: '>' :: _ => take 2 .append 1
  | '>' :: '&' :: _ => take 2 .duplicate 1
  | '>' :: '|' :: _ => take 2 .write 1
  | '>' :: _ => take 1 .write 1
  | '<' :: '&' :: _ => take 2 .duplicate 0
  | '<' :: '<' :: _ => refuse "here documents are not supported"
  | '<' :: _ => take 1 .read 0
  | _ => return none

-- ========================================================= words and commands

/-- Where pieces stand, which decides what ends them and what quotes mean. -/
inductive Place where
  | word
  | quotes
  | braces (quoted : Bool)
  deriving DecidableEq

namespace Place

def quoted : Place → Bool
  | word => false
  | quotes => true
  | braces q => q

/-- Whether a character ends the pieces. -/
def ends (place : Place) (c : Char) : Bool :=
  match place with
  | word => endsWord c
  | quotes => c == '\x22'
  | braces _ => c == '\x7d'

/-- The characters that a backslash protects within double quotes. -/
def protects (place : Place) (c : Char) : Bool :=
  ['$', '\x60', '\x22', '\\'].contains c || (place != .quotes && c == '\x7d')

end Place

/-- Whether pieces hold all arguments as fields of their own. -/
def holdsArguments (pieces : Word) : Bool :=
  pieces.any fun
    | .parameter _ "@" _ => true
    | _ => false

mutual

/-- The pieces up to what ends them, which is not passed. -/
def pieces (budget : Nat) (place : Place) : Reader Word := do
  match budget with
  | 0 => refuse "nested too deeply"
  | budget + 1 =>
    match (← get).rest with
    | [] =>
      if place = .word then return [] else refuse "Unterminated quoted string"
    | c :: rest =>
      if place.ends c then return []
      else
        let first ← match c, rest with
          | '\\', '\n' :: _ => do skip 2; pure []
          | '\\', d :: _ =>
            if place.quoted && !place.protects d then
              do skip 1; pure [.char true '\\']
            else do skip 2; pure [.char true d]
          | '$', _ => do skip 1; expansion budget place.quoted
          | '\x60', _ => do
            skip 1
            match backquotedText place.quoted (← get).rest with
            | none => refuse "EOF in backquote substitution"
            | some (text, n) =>
              let after := (← get).skip n
              set { (← get) with rest := text }
              let command ← list budget
              if (← peek).isSome then unexpected
              set after
              pure [.output place.quoted command]
          | '\x27', _ =>
            if place.quoted then do skip 1; pure [.char true '\x27']
            else do skip 1; pure (.blank :: (← singleQuoted).map (.char true))
          | '\x22', _ => do
            skip 1
            let inside ← pieces budget .quotes
            skip 1
            pure (if holdsArguments inside then inside else .blank :: inside)
          | c, _ => do skip 1; pure [.char place.quoted c]
        return first ++ (← pieces budget place)

/-- What stands after a `$`. -/
def expansion (budget : Nat) (quoted : Bool) : Reader Word := do
  match budget with
  | 0 => refuse "nested too deeply"
  | budget + 1 =>
    match (← get).rest with
    | '(' :: '(' :: _ => refuse "arithmetic is not supported"
    | '(' :: _ =>
      skip 1
      let command ← list budget
      skipLines
      closeOperator ")"
      return [.output quoted command]
    | '\x7b' :: '#' :: c :: _ =>
      if c = '\x7d' then
        skip 3
        return [.parameter quoted "#" .value]
      else
        skip 2
        match ← parameterName?, ← peek with
        | some name, some '\x7d' =>
          skip 1
          return [.parameter quoted name .size]
        | _, _ => refuse "Bad substitution"
    | '\x7b' :: _ =>
      skip 1
      match ← parameterName? with
      | none => refuse "Bad substitution"
      | some name =>
        let form ← braced budget quoted
        if (← peek) = some '\x7d' then
          skip 1
          return [.parameter quoted name form]
        else refuse "Bad substitution"
    | _ =>
      match ← parameterName? with
      | some name => return [.parameter quoted name .value]
      | none => return [.char quoted '$']

/-- What stands between the name of a parameter and the brace that closes
it. -/
def braced (budget : Nat) (quoted : Bool) : Reader Form := do
  match budget with
  | 0 => refuse "nested too deeply"
  | budget + 1 =>
    let orBlank := (← peek) = some ':'
    let worded (n : Nat) (form : Word → Form) : Reader Form := do
      skip n
      return form (← pieces budget (.braces quoted))
    let patterned (n : Nat) (form : Word → Form) : Reader Form := do
      skip n
      return form (← pieces budget (.braces false))
    if orBlank then skip 1
    match (← get).rest with
    | '-' :: _ => worded 1 (.otherwise orBlank)
    | '=' :: _ => worded 1 (.assigning orBlank)
    | '+' :: _ => worded 1 (.instead orBlank)
    | '?' :: _ => worded 1 (.demanded orBlank)
    | '#' :: '#' :: _ => patterned 2 (.withoutFront true)
    | '#' :: _ => patterned 1 (.withoutFront false)
    | '%' :: '%' :: _ => patterned 2 (.withoutBack true)
    | '%' :: _ => patterned 1 (.withoutBack false)
    | _ => return .value

/-- Commands up to the end of a list, which is not passed. -/
def list (budget : Nat) : Reader Command := do
  match budget with
  | 0 => refuse "nested too deeply"
  | budget + 1 =>
    skipLines
    if ← atListEnd then return .nothing
    let first ← chain budget
    skipBlanks
    match (← get).operator?, ← peek with
    | some ";", _ => do skip 1; return .sequence first (← list budget)
    | _, some '\n' => return .sequence first (← list budget)
    | _, _ => return first

/-- Pipelines joined by `&&` and `||`. -/
def chain (budget : Nat) : Reader Command := do
  match budget with
  | 0 => refuse "nested too deeply"
  | budget + 1 => chainFrom budget (← pipeline budget)

/-- What follows `left` in a chain. -/
def chainFrom (budget : Nat) (left : Command) : Reader Command := do
  match budget with
  | 0 => refuse "nested too deeply"
  | budget + 1 =>
    skipBlanks
    match (← get).operator? with
    | some "&&" => do
      skip 2
      skipLines
      chainFrom budget (.both left (← pipeline budget))
    | some "||" => do
      skip 2
      skipLines
      chainFrom budget (.either left (← pipeline budget))
    | _ => return left

/-- Commands joined by `|`, perhaps after a `!`. -/
def pipeline (budget : Nat) : Reader Command := do
  match budget with
  | 0 => refuse "nested too deeply"
  | budget + 1 =>
    skipBlanks
    if (← get).reserved? = some "!" then
      skip 1
      return .negated (← pipeline budget)
    else
      let first ← command budget
      skipBlanks
      if (← get).operator? = some "|" then
        skip 1
        skipLines
        return .pipe first (← pipeline budget)
      else return first

/-- One command. -/
def command (budget : Nat) : Reader Command := do
  match budget with
  | 0 => refuse "nested too deeply"
  | budget + 1 =>
    skipBlanks
    let c ← get
    let compound (read : Reader Command) : Reader Command := do
      let command ← read
      let redirections ← redirectionsHere budget
      return if redirections.isEmpty then command
        else .redirected command redirections
    match c.reserved?, c.rest with
    | some "if", _ => compound do skip 2; branches budget
    | some "while", _ => compound do skip 5; looping budget false
    | some "until", _ => compound do skip 5; looping budget true
    | some "for", _ => compound do skip 3; forEach budget
    | some "case", _ => compound do skip 4; selection budget
    | some "\x7b", _ => compound do
      skip 1
      let inside ← list budget
      close "\x7d"
      return inside
    | some _, _ => unexpected
    | none, '(' :: _ => compound do
      skip 1
      let inside ← list budget
      closeOperator ")"
      return .subshell inside
    | none, d :: _ =>
      if endsWord d && d != '<' && d != '>' then unexpected
      else simpleFrom budget c.line [] [] []
    | none, [] => unexpected

/-- The rest of an `if`, from its condition on. -/
def branches (budget : Nat) : Reader Command := do
  match budget with
  | 0 => refuse "nested too deeply"
  | budget + 1 =>
    let condition ← list budget
    close "then"
    let yes ← list budget
    match (← get).reserved? with
    | some "elif" => do
      skip 4
      return .branch condition yes (← branches budget)
    | some "else" => do
      skip 4
      let no ← list budget
      close "fi"
      return .branch condition yes no
    | _ => do
      close "fi"
      return .branch condition yes .nothing

/-- The rest of a loop, from its condition on. -/
def looping (budget : Nat) (untilWell : Bool) : Reader Command := do
  match budget with
  | 0 => refuse "nested too deeply"
  | budget + 1 =>
    let condition ← list budget
    close "do"
    let body ← list budget
    close "done"
    return .loop untilWell condition body

/-- The rest of a `for`, from its name on. -/
def forEach (budget : Nat) : Reader Command := do
  match budget with
  | 0 => refuse "nested too deeply"
  | budget + 1 =>
    skipBlanks
    let name ← takeWhile continuesName
    if !(name.head?.any startsName) then refuse "Bad for loop variable"
    skipLines
    let words ←
      if (← get).plainWord? = some "in" then do
        skip 2
        pure (some (← wordsHere budget))
      else pure none
    skipBlanks
    if (← get).operator? = some ";" then skip 1
    skipLines
    close "do"
    let body ← list budget
    close "done"
    return .each (.ofList name) words body

/-- The words that stand here. -/
def wordsHere (budget : Nat) : Reader (List Word) := do
  match budget with
  | 0 => refuse "nested too deeply"
  | budget + 1 =>
    skipBlanks
    match ← peek with
    | none => return []
    | some c =>
      if endsWord c then return []
      else
        let word ← pieces budget .word
        return word :: (← wordsHere budget)

/-- The rest of a `case`, from its word on. -/
def selection (budget : Nat) : Reader Command := do
  match budget with
  | 0 => refuse "nested too deeply"
  | budget + 1 =>
    skipBlanks
    let word ← pieces budget .word
    skipLines
    if (← get).plainWord? = some "in" then skip 2 else unexpected "in"
    let arms ← armsHere budget
    close "esac"
    return .select word arms

/-- The arms of a `case`. -/
def armsHere (budget : Nat) : Reader (List (List Word × Command)) := do
  match budget with
  | 0 => refuse "nested too deeply"
  | budget + 1 =>
    skipLines
    if (← get).reserved? = some "esac" then return []
    else
      if (← peek) = some '(' then skip 1
      let patterns ← patternsHere budget
      let body ← list budget
      skipBlanks
      if (← get).operator? = some ";;" then
        skip 2
        return (patterns, body) :: (← armsHere budget)
      else if (← get).reserved? = some "esac" then return [(patterns, body)]
      else unexpected ";;"

/-- The patterns of an arm and the `)` after them. -/
def patternsHere (budget : Nat) : Reader (List Word) := do
  match budget with
  | 0 => refuse "nested too deeply"
  | budget + 1 =>
    skipBlanks
    let pattern ← pieces budget .word
    if pattern.isEmpty then unexpected ")"
    skipBlanks
    match (← get).operator? with
    | some "|" => do
      skip 1
      return pattern :: (← patternsHere budget)
    | _ => do
      closeOperator ")"
      return [pattern]

/-- The redirections that stand here. -/
def redirectionsHere (budget : Nat) : Reader (List Redirection) := do
  match budget with
  | 0 => refuse "nested too deeply"
  | budget + 1 =>
    skipBlanks
    match ← redirection? budget with
    | some first => return first :: (← redirectionsHere budget)
    | none => return []

/-- The redirection that stands here. -/
def redirection? (budget : Nat) : Reader (Option Redirection) := do
  match budget with
  | 0 => refuse "nested too deeply"
  | budget + 1 =>
    let start ← get
    let digits ← takeWhile Char.isDigit
    match ← way? with
    | none => do
      set start
      return none
    | some (way, channel) => do
      skipBlanks
      let target ← pieces budget .word
      if target.isEmpty then unexpected
      let channel := match digits with
        | [] => channel
        | _ => (String.ofList digits).toNat?.getD channel
      return some (.mk channel way target)

/-- The rest of a simple command, given what was read of it, the last parts
first. -/
def simpleFrom (budget line : Nat) (assigned : List (String × Word))
    (words : List Word) (redirections : List Redirection) :
    Reader Command := do
  match budget with
  | 0 => refuse "nested too deeply"
  | budget + 1 =>
    skipBlanks
    match ← redirection? budget with
    | some r => simpleFrom budget line assigned words (r :: redirections)
    | none =>
      match (← get).rest, words with
      | '(' :: _, [word] =>
        skip 1
        closeOperator ")"
        skipLines
        let name := word.filterMap fun
          | .char _ c => some c
          | _ => none
        return .define (.ofList name) (← command budget)
      | '(' :: _, _ => unexpected
      | [], _ => finish
      | c :: _, _ =>
        if endsWord c then finish
        else
          let word ← pieces budget .word
          match words, assignment? word with
          | [], some (name, value) =>
            simpleFrom budget line ((name, value) :: assigned) words
              redirections
          | _, _ =>
            simpleFrom budget line assigned (word :: words) redirections
where
  finish : Reader Command :=
    return .simple line assigned.reverse words.reverse redirections.reverse

end

-- ================================================================ lines

/-- The commands of the next line that has any; none at the end of the
script. -/
def nextLine : Reader (Option Command) := do
  skipLines
  if (← peek).isNone then return none
  else some <$> lineFrom (← get).budgetFor
where
  lineFrom (budget : Nat) : Reader Command := do
    match budget with
    | 0 => refuse "nested too deeply"
    | budget + 1 =>
      let first ← chain budget
      skipBlanks
      match (← get).operator?, ← peek with
      | some ";", _ => do
        skip 1
        skipBlanks
        match ← peek with
        | none | some '\n' => return first
        | some _ => return .sequence first (← lineFrom budget)
      | _, none | _, some '\n' => return first
      | _, _ => unexpected

/-- The next line of a script and the place after it. -/
def nextLine? (c : Cursor) : Except Fault (Option (Command × Cursor)) := do
  let (command, rest) ← nextLine.run c
  return command.map fun command => (command, rest)

end Reader

end ProofBatch.Shell
