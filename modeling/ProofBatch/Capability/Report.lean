/-
The report of a build tool on its capabilities: a JSON array with their names,
or a JSON object with a member for each.
-/
import ProofBatch.Capability
import ProofBatch.Json.Limits

namespace ProofBatch.CapabilitySet

open ProofBatch.Json

/-- The capabilities that a value reports. Items of an array that are no
strings report none. -/
def ofValue? : Value → Option CapabilitySet
  | .array items => some (ofList (items.filterMap Value.string?))
  | .object members =>
    some (ofList (members.filterMap fun member =>
      (text? member.1).map String.ofList))
  | _ => none

/-- The capabilities that a text reports. -/
def ofReport? (text : String) : Option CapabilitySet :=
  (Value.parseHeld? text).bind ofValue?

end ProofBatch.CapabilitySet
