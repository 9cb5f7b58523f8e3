/-
The file in which the build tool records a build: a JSON object with a member
`pipelines`, an array of objects with members `name` and `status`.

Members with other names are passed over, whatever they hold. An array of the
values of the members, in order, may stand for the object. A member that is
missing or given twice, or a value of another kind, makes the file unreadable.
-/
import ProofBatch.BuildSummary
import ProofBatch.Error
import ProofBatch.FileTree
import ProofBatch.Json.Value

namespace ProofBatch

open ProofBatch.Json

/-- The member with the given name, which must be there exactly once. -/
def member? (name : String) (members : List (String × Value)) : Option Value :=
  match members.filter (·.1 = name) with
  | [(_, value)] => some value
  | _ => none

/-- The members of an object by their names, all of which must be texts. -/
def namedMembers? (members : List (List Piece × Value)) :
    Option (List (String × Value)) :=
  members.mapM fun m => (text? m.1).map fun name => (String.ofList name, m.2)

/-- The values of the members with the given names. -/
def record? (names : List String) : Value → Option (List Value)
  | .object members =>
    (namedMembers? members).bind fun named => names.mapM (member? · named)
  | .array items => if items.length = names.length then some items else none
  | _ => none

/-- The pipeline that a value describes. -/
def Pipeline.ofValue? (value : Value) : Option Pipeline :=
  match record? ["name", "status"] value with
  | some [name, status] =>
    return { name := ← name.string?, status := ← status.string? }
  | _ => none

/-- The record of a build that a value describes. -/
def BuildRecord.ofValue? (value : Value) : Option BuildRecord :=
  match record? ["pipelines"] value with
  | some [.array items] => (items.mapM Pipeline.ofValue?).map BuildRecord.mk
  | _ => none

/-- What is wrong with a file that holds no record of a build. -/
def notARecord : String :=
  "malformed JSON record of a build"

/-- The record of a build in a file. -/
def BuildRecord.load (t : FileTree) (file : Path) :
    Except RunError BuildRecord :=
  match t.readText file with
  | .error e => .error (.runFile file e.message)
  | .ok text =>
    match (Value.parse? text).bind BuildRecord.ofValue? with
    | some run => .ok run
    | none => .error (.runFile file notARecord)

end ProofBatch
