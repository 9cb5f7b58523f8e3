/-
A proof: a directory with a marker file, and the identifier that its `Makefile`
declares.
-/
import ProofBatch.Error
import ProofBatch.FileTree
import ProofBatch.Identifier

namespace ProofBatch

/-- One proof. -/
structure ProofUnit where
  /-- Its directory. -/
  path : Path
  /-- Whether the marker file is there. -/
  marked : Bool
  /-- The identifier that it declares. -/
  uid : Option String
  deriving DecidableEq, Repr, Inhabited

namespace ProofUnit

/-- The file of a proof that declares its identifier. -/
def makefile : String :=
  "Makefile"

/-- The identifier that a directory declares. Without a `Makefile` there is
none; a `Makefile` that is there has to be readable. -/
def loadUid (t : FileTree) (dir : Path) : Except RunError (Option String) :=
  match t.readText (dir.join makefile) with
  | .ok text => .ok (Identifier.declared? text)
  | .error .notFound => .ok none
  | .error e => .error (.proofFile (dir.join makefile) e)

/-- The proof in a directory. -/
def load (t : FileTree) (dir : Path) (marker : String) :
    Except RunError ProofUnit :=
  match loadUid t dir with
  | .ok uid => .ok { path := dir, marked := t.isFile (dir.join marker), uid }
  | .error e => .error e

end ProofUnit

end ProofBatch
