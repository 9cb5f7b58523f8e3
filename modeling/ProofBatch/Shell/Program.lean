/-
Programs as files: what makes a file a program, and how a program is found by
its name.

The shell is the one interpreter that there is. A file that names it in its
first line is a program anywhere; one that names no interpreter is one for the
shell alone.
-/
import ProofBatch.FileTree
import ProofBatch.Shell.Bytes

namespace ProofBatch.Shell

/-- A script that can be started. -/
structure Program where
  /-- Whether the first line names the interpreter. -/
  headed : Bool
  /-- What the first line gives to the interpreter before all other
  arguments. -/
  options : List Bytes := []
  text : Bytes
  deriving Repr

namespace Program

/-- The paths of the shell. -/
def interpreters : List String :=
  ["/bin/sh", "/usr/bin/sh", "/bin/dash", "/usr/bin/dash"]

def isSpace (c : Char) : Bool :=
  c == ' ' || c == '\t'

/-- The interpreter that a first line names, with its option. -/
def heading (line : Bytes) : Bytes × Bytes :=
  let line := line.dropWhile isSpace
  let interpreter := line.takeWhile (!isSpace ·)
  let option := (line.drop interpreter.length).dropWhile isSpace
  (interpreter, (option.reverse.dropWhile isSpace).reverse)

/-- The program that a file holds. An interpreter that is not the shell is at
best a file that is no program. -/
def ofFile (files : FileTree) (bytes : List UInt8) : Except IoError Program :=
  let text := ofBytes bytes
  match text with
  | '#' :: '!' :: rest =>
    let (interpreter, option) := heading (rest.takeWhile (· ≠ '\n'))
    if interpreters.contains (toText interpreter) then
      .ok
        { headed := true
          options := if option.isEmpty then [] else [option]
          text }
    else if interpreter.isEmpty then .ok { headed := false, text }
    else
      match files.node ⟨toText interpreter⟩ with
      | .error e => .error e
      | .ok (.file access _) =>
        .error (if access.execute then .badProgram else .accessDenied)
      | .ok _ => .error .accessDenied
  | _ => .ok { headed := false, text }

/-- The program at a path. -/
def load (files : FileTree) (path : Path) : Except IoError Program :=
  match files.node path with
  | .error e => .error e
  | .ok (.file access bytes) =>
    if access.execute then Program.ofFile files bytes else .error .accessDenied
  | .ok _ => .error .accessDenied

/-- The program at a path, as the system starts it: without the shell, a file
needs a heading. -/
def loadHeaded (files : FileTree) (path : Path) : Except IoError Program :=
  match load files path with
  | .ok program => if program.headed then .ok program else .error .badProgram
  | .error e => .error e

/-- The directories of a search list. -/
def directories (search : Bytes) : List Path :=
  let rec go : Bytes → List Bytes
    | [] => [[]]
    | ':' :: rest => [] :: go rest
    | c :: rest =>
      match go rest with
      | [] => [[c]]
      | first :: others => (c :: first) :: others
  (go search).map fun dir => ⟨if dir.isEmpty then "." else toText dir⟩

/-- Try paths in order. One that leads nowhere is passed over, and so is one
without permission, which is the reason in the end if there was one. -/
def firstOf (load : Path → Except IoError Program) (reason : IoError) :
    List Path → Except IoError (Path × Program)
  | [] => .error reason
  | path :: rest =>
    match load path with
    | .ok program => .ok (path, program)
    | .error .accessDenied => firstOf load .accessDenied rest
    | .error e =>
      if e = .notFound ∨ e = .notDirectory then
        firstOf load (if reason = .accessDenied then reason else e) rest
      else .error e

/-- Find a program: by its path if it is one, else by its name in the
directories of a search list. -/
def find (load : Path → Except IoError Program) (search : Bytes)
    (program : String) : Except IoError (Path × Program) :=
  if program = "" then .error .notFound
  else if program.contains '/' then
    (load ⟨program⟩).map fun found => (⟨program⟩, found)
  else firstOf load .notFound ((directories search).map (·.join program))

end Program

end ProofBatch.Shell
