/-
Why the system refuses a request about a file or a program, with the wording
that ends up in the messages of a run.
-/

namespace ProofBatch

/-- A refusal by the system. -/
inductive IoError where
  /-- A name on the way, or the thing itself, does not exist. -/
  | notFound
  /-- The program is in no format that can be started. -/
  | badProgram
  /-- The permission is missing. -/
  | accessDenied
  /-- A file stands where a directory is needed. -/
  | notDirectory
  /-- A directory stands where a file is needed. -/
  | isDirectory
  /-- A name on the way is longer than a name may be. -/
  | nameTooLong
  /-- More links than may be followed for one path. -/
  | tooManyLinks
  /-- The path holds the character that ends a path. -/
  | nulInPath
  /-- The bytes of a text file are no text. -/
  | notText
  /-- Any other refusal, by its text. -/
  | other (text : String)
  deriving DecidableEq, Repr, Inhabited

namespace IoError

/-- A system error with its number. -/
def numbered (text : String) (number : Nat) : String :=
  s!"{text} (os error {number})"

/-- The text of a refusal. -/
def message : IoError → String
  | notFound => numbered "No such file or directory" 2
  | badProgram => numbered "Exec format error" 8
  | accessDenied => numbered "Permission denied" 13
  | notDirectory => numbered "Not a directory" 20
  | isDirectory => numbered "Is a directory" 21
  | nameTooLong => numbered "File name too long" 36
  | tooManyLinks => numbered "Too many levels of symbolic links" 40
  | nulInPath => "file name contained an unexpected NUL byte"
  | notText => "stream did not contain valid UTF-8"
  | other text => text

end IoError

end ProofBatch
