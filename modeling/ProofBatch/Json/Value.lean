/-
JSON values, and reading them from tokens.

The reader holds the arrays and objects that are still open as frames and goes
through the tokens once, so nothing limits how deep a value may be nested.
-/
import ProofBatch.Json.Token

namespace ProofBatch.Json

-- ================================================================ values

/-- A value. Strings and numbers are kept as they are written; the members of
an object keep their order, and a name may occur more than once. -/
inductive Value where
  | null
  | bool (b : Bool)
  | number (n : Number)
  | string (pieces : List Piece)
  | array (items : List Value)
  | object (members : List (List Piece × Value))
  deriving Repr, Inhabited

-- ================================================================ the reader

/-- A container that is still open: what stands in it so far, the last first,
and for an object the name whose value comes next. -/
inductive Frame where
  | array (items : List Value)
  | object (members : List (List Piece × Value)) (name : List Piece)

/-- What may come next. -/
inductive Awaiting where
  /-- A value. -/
  | value
  /-- The first item of an array, or its end. -/
  | item
  /-- The name of a member, given the members before it; the end of the object
  too, if `orEnd`. -/
  | name (members : List (List Piece × Value)) (orEnd : Bool)
  /-- The colon after a name. -/
  | colon (members : List (List Piece × Value)) (name : List Piece)
  /-- What follows a value. -/
  | after (value : Value)

/-- Read the tokens that are left. -/
def read (frames : List Frame) : Awaiting → List Token → Option Value
  | .after v, [] => if frames.isEmpty then some v else none
  | _, [] => none
  | .after v, token :: rest =>
    match token, frames with
    | .comma, .array items :: frames =>
      read (.array (v :: items) :: frames) .value rest
    | .comma, .object members name :: frames =>
      read frames (.name ((name, v) :: members) false) rest
    | .closeArray, .array items :: frames =>
      read frames (.after (.array (v :: items).reverse)) rest
    | .closeObject, .object members name :: frames =>
      read frames (.after (.object ((name, v) :: members).reverse)) rest
    | _, _ => none
  | .name members orEnd, token :: rest =>
    match token with
    | .string pieces => read frames (.colon members pieces) rest
    | .closeObject =>
      if orEnd then read frames (.after (.object members.reverse)) rest
      else none
    | _ => none
  | .colon members name, token :: rest =>
    match token with
    | .colon => read (.object members name :: frames) .value rest
    | _ => none
  | awaiting, token :: rest =>
    match token with
    | .openArray => read (.array [] :: frames) .item rest
    | .openObject => read frames (.name [] true) rest
    | .null => read frames (.after .null) rest
    | .bool b => read frames (.after (.bool b)) rest
    | .number n => read frames (.after (.number n)) rest
    | .string pieces => read frames (.after (.string pieces)) rest
    | .closeArray =>
      match awaiting, frames with
      | .item, .array items :: frames =>
        read frames (.after (.array items.reverse)) rest
      | _, _ => none
    | _ => none

/-- The value that a text is. -/
def Value.parse? (text : String) : Option Value :=
  (tokens? text.toList).bind (read [] .value)

-- ================================================================ strings

/-- Whether a code unit is the first of a pair. -/
def isHighUnit (n : Nat) : Bool :=
  decide (0xD800 ≤ n) && decide (n ≤ 0xDBFF)

/-- Whether a code unit is the second of a pair. -/
def isLowUnit (n : Nat) : Bool :=
  decide (0xDC00 ≤ n) && decide (n ≤ 0xDFFF)

/-- The character that a pair of code units stands for. -/
def pairChar (high low : Nat) : Char :=
  Char.ofNat (0x10000 + (high - 0xD800) * 0x400 + (low - 0xDC00))

/-- The text of a string; there is none if one half of a pair of code units
stands alone. -/
def text? : List Piece → Option (List Char)
  | [] => some []
  | .char c :: rest => (text? rest).map (c :: ·)
  | .unit high :: .unit low :: rest =>
    if isHighUnit high && isLowUnit low then
      (text? rest).map (pairChar high low :: ·)
    else if isHighUnit high || isLowUnit high then none
    else (text? (.unit low :: rest)).map (Char.ofNat high :: ·)
  | .unit n :: rest =>
    if isHighUnit n || isLowUnit n then none
    else (text? rest).map (Char.ofNat n :: ·)

/-- The text of a string value. -/
def Value.string? : Value → Option String
  | .string pieces => (text? pieces).map String.ofList
  | _ => none

end ProofBatch.Json
