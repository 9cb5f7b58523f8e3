/-
Scripts of the shell: words with their expansions, redirections, and commands.
-/
import ProofBatch.Shell.Bytes

namespace ProofBatch.Shell

/-- Where a redirection leads. -/
inductive Way where
  /-- Read a file. -/
  | read
  /-- Begin a file anew and write to it. -/
  | write
  /-- Write to the end of a file. -/
  | append
  /-- Use what another channel uses, or nothing for `-`. -/
  | duplicate
  deriving DecidableEq, Repr

mutual

/-- A part of a word. Quotes keep what an expansion gives in one field. -/
inductive Piece where
  | char (quoted : Bool) (c : Char)
  /-- A pair of quotes, which makes a field even when nothing is within. -/
  | blank
  /-- The value of a parameter. -/
  | parameter (quoted : Bool) (name : String) (form : Form)
  /-- The output of a command. -/
  | output (quoted : Bool) (command : Command)

/-- What is made of the value of a parameter. In the first four, `orBlank`
treats an empty value as none. -/
inductive Form where
  | value
  /-- Its length. -/
  | size
  /-- A word in place of no value. -/
  | otherwise (orBlank : Bool) (word : List Piece)
  /-- A word in place of no value, which becomes the value. -/
  | assigning (orBlank : Bool) (word : List Piece)
  /-- A word in place of a value. -/
  | instead (orBlank : Bool) (word : List Piece)
  /-- A complaint when there is no value. -/
  | demanded (orBlank : Bool) (word : List Piece)
  /-- The value without a first part that a pattern stands for. -/
  | withoutFront (longest : Bool) (pattern : List Piece)
  /-- The value without a last part that a pattern stands for. -/
  | withoutBack (longest : Bool) (pattern : List Piece)

/-- A redirection of one channel while a command runs. -/
inductive Redirection where
  | mk (channel : Nat) (way : Way) (target : List Piece)

/-- A command. -/
inductive Command where
  | nothing
  /-- Assignments, words and redirections, from the given line on. -/
  | simple (line : Nat) (assigned : List (String × List Piece))
    (words : List (List Piece))
      (redirections : List Redirection)
  /-- A compound command with redirections. -/
  | redirected (command : Command) (redirections : List Redirection)
  | sequence (first second : Command)
  /-- The second one if the first one does well. -/
  | both (first second : Command)
  /-- The second one if the first one does not do well. -/
  | either (first second : Command)
  | negated (command : Command)
  /-- The output of the first one is the input of the second one. -/
  | pipe (first second : Command)
  | branch (condition yes no : Command)
  /-- Repeat while the condition does well, or, for `untilWell`, until it
  does. -/
  | loop (untilWell : Bool) (condition body : Command)
  /-- Once for each word; without words, for each argument. -/
  | each (name : String) (words : Option (List (List Piece))) (body : Command)
  /-- The first arm with a pattern for the word. -/
  | select (word : List Piece) (arms : List (List (List Piece) × Command))
  /-- A command that leaves no trace in the shell that runs it. -/
  | subshell (command : Command)
  | define (name : String) (body : Command)

end

/-- Whether a redirection replaces the input. -/
def Redirection.isInput : Redirection → Bool
  | mk _ way _ => way == .read

instance : Inhabited Command := ⟨.nothing⟩

/-- A word. -/
abbrev Word := List Piece

/-- The characters that end a word. -/
def endsWord (c : Char) : Bool :=
  [' ', '\t', '\n', ';', '&', '|', '<', '>', '(', ')'].contains c

/-- Whether a name can begin with a character. -/
def startsName (c : Char) : Bool :=
  c.isAlpha || c == '_'

/-- Whether a name can go on with a character. -/
def continuesName (c : Char) : Bool :=
  c.isAlphanum || c == '_'

/-- The names of parameters that are one character. -/
def specialNames : List Char :=
  ['@', '*', '#', '?', '-', '$', '!']

/-- The words that end a list of commands. -/
def closers : List String :=
  ["then", "else", "elif", "fi", "do", "done", "esac", "\x7d"]

/-- The words with a meaning where a command begins. -/
def reserved : List String :=
  closers ++ ["if", "while", "until", "for", "case", "\x7b", "!"]

end ProofBatch.Shell
