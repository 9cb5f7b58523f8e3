/-
Discovery: the proofs below a directory, in the order of a walk.

A directory is a proof when the marker file is directly in it. When proofs are
asked for by name, only directories with such a base name are taken, and a name
that no proof has is an error; all such names are reported together.
-/
import ProofBatch.ProofUnit

namespace ProofBatch.Discovery

/-- What a search found. -/
structure Search where
  /-- The directories taken, in order; if one could not be loaded, it is the
  last. -/
  found : List Path := []
  /-- The proofs in them. -/
  result : Except RunError (List ProofUnit)

/-- Whether a directory is one of those asked for. -/
def wanted (requested : Option (List String)) (dir : Path) : Bool :=
  match requested with
  | none => true
  | some names => names.contains dir.baseName

/-- Whether a directory is a proof that is asked for. -/
def isProof (t : FileTree) (marker : String) (requested : Option (List String))
    (dir : Path) : Bool :=
  t.isFile (dir.join marker) && wanted requested dir

/-- Load the proofs among the stops of a walk, up to the first error. -/
def collect (t : FileTree) (marker : String)
    (requested : Option (List String)) : List Visit → Search
  | [] => { result := .ok [] }
  | .unlistable path e :: _ =>
    { result := .error (.unlistable path e) }
  | .other _ :: rest => collect t marker requested rest
  | .directory dir :: rest =>
    if isProof t marker requested dir then
      match ProofUnit.load t dir marker with
      | .error e => { found := [dir], result := .error e }
      | .ok unit =>
        let later := collect t marker requested rest
        { found := dir :: later.found, result := later.result.map (unit :: ·) }
    else collect t marker requested rest

/-- The names asked for that none of the given proofs has, in the order in
which they were asked for. -/
def missing (requested : Option (List String)) (units : List ProofUnit) :
    List String :=
  (requested.getD []).filter fun name =>
    !(units.map (·.path.baseName)).contains name

/-- Search a directory and all below it for proofs. -/
def search (t : FileTree) (root : Path) (marker : String)
    (requested : Option (List String)) : Search :=
  if marker = "" then { result := .error .emptyMarker }
  else if !t.isDirectory root then { result := .error (.proofRoot root) }
  else
    let all := collect t marker requested (t.visits root)
    match all.result with
    | .error e => { all with result := .error e }
    | .ok units =>
      match missing requested units with
      | [] => all
      | names => { all with result := .error (.proofsNotFound names) }

/-- The proofs below a directory. -/
def discover (t : FileTree) (root : Path) (marker : String)
    (requested : Option (List String)) : Except RunError (List ProofUnit) :=
  (search t root marker requested).result

end ProofBatch.Discovery
