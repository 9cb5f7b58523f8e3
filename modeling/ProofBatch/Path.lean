/-
Paths as they are written. The text of a path is kept as it was given (`a//b`,
`a/./b` and `a/` keep their form); two paths are the same when their parts are,
where parts leave out what has no effect on them: repeated and trailing
separators and every `.` that does not stand first.

A path is a text. The system also has paths whose bytes are no text; they are
left out here.
-/

namespace ProofBatch

/-- A path, by its text. -/
structure Path where
  /-- The text, exactly as given. -/
  text : String
  deriving DecidableEq, Repr, Inhabited

namespace Path

-- ================================================================ parts

/-- Cut a text at each `/`. The pieces are one more than the separators. -/
def splitSlash : List Char → List (List Char)
  | [] => [[]]
  | c :: rest =>
    if c = '/' then [] :: splitSlash rest
    else
      match splitSlash rest with
      | [] => [[c]]
      | piece :: pieces => (c :: piece) :: pieces

/-- All names between the separators of a path, empty ones included. -/
def pieces (p : Path) : List String :=
  (splitSlash p.text.toList).map String.ofList

/-- Whether a path starts at the root of the file tree. -/
def isAbsolute (p : Path) : Bool :=
  p.text.toList.head? == some '/'

/-- The parts of a path: the root `/` if it starts there, a `.` that stands
first, and then every name but `.`. -/
def parts (p : Path) : List String :=
  let names := p.pieces.filter (· ≠ "")
  let lead :=
    if p.isAbsolute then ["/"]
    else if names.head? = some "." then ["."]
    else []
  lead ++ names.filter (· ≠ ".")

/-- Whether two paths have the same parts. -/
def same (p q : Path) : Bool :=
  p.parts == q.parts

theorem same_iff {p q : Path} : p.same q = true ↔ p.parts = q.parts := by
  simp [same]

-- ============================================================= joining, names

/-- Put `q` under `p`. An absolute `q` stands for itself; a separator comes
between the two unless `p` is empty or ends in one. -/
def join (p : Path) (q : String) : Path :=
  if q.toList.head? = some '/' then ⟨q⟩
  else if p.text.toList.getLast? = none
    ∨ p.text.toList.getLast? = some '/' then
    ⟨p.text ++ q⟩
  else ⟨p.text ++ "/" ++ q⟩

/-- The last part of a path, if it is a name. -/
def name? (p : Path) : Option String :=
  match p.parts.getLast? with
  | some last =>
    if last = "/" ∨ last = "." ∨ last = ".." then none else some last
  | none => none

/-- The name under which a directory is asked for: its last part, or its text
if that is no name. -/
def baseName (p : Path) : String :=
  p.name?.getD p.text

end Path

end ProofBatch
