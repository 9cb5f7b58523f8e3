/-
The limits within which a whole JSON value can be held: nesting to a depth of
at most 127, numbers that a double can hold, and strings that are texts.

# Numbers

The digits of a number are collected into a 64-bit significand as long as they
fit; the others count only by their places. The significand and the power of
ten are rounded to doubles and multiplied, and the product must round to a
finite double. Only powers that are not negative can pass the limit, so all of
this is about natural numbers.
-/
import ProofBatch.Json.Value

namespace ProofBatch.Json

-- ================================================================ doubles

/-- A number rounded to the 53 leading binary digits that a double holds, a tie
going to the even neighbour. -/
def roundToDouble (n : Nat) : Nat :=
  if n < Nat.pow 2 53 then n
  else
    let unit := Nat.pow 2 (n.log2 - 52)
    let low := n / unit
    let rest := n % unit
    if 2 * rest < unit ∨ (2 * rest = unit ∧ low % 2 = 0) then low * unit
    else (low + 1) * unit

/-- The value of a decimal digit. -/
def digitValue (c : Char) : Nat :=
  c.toNat - '0'.toNat

/-- Collect digits into a significand as long as it stays below 2^64; the
number of digits used comes with it. -/
def collectDigits (significand used : Nat) : List Char → Nat × Nat
  | [] => (significand, used)
  | c :: rest =>
    let next := significand * 10 + digitValue c
    if next < Nat.pow 2 64 then collectDigits next (used + 1) rest
    else (significand, used)

/-- The significand of a number, and the power of ten that goes with it before
the exponent is added. -/
def Number.significand (n : Number) : Nat × Int :=
  let (significand, used) := collectDigits 0 0 n.whole
  let dropped := n.whole.length - used
  let (significand, taken) := collectDigits significand 0 n.fraction
  (significand, (dropped : Int) - (taken : Int))

/-- The value of the digits of an exponent. -/
def exponentValue (digits : List Char) : Nat :=
  digits.foldl (fun n c => n * 10 + digitValue c) 0

/-- The exponents from which on only zero is a number. -/
def maxExponent : Nat :=
  Nat.pow 2 31 - 1

/-- The greatest power of ten that a double can hold. -/
def maxPower : Nat :=
  308

/-- Whether a significand times a power of ten is a finite double. -/
def scaledFits (significand : Nat) (power : Int) : Bool :=
  if power < 0 ∨ significand = 0 then true
  else if power ≤ maxPower then
    let scale := roundToDouble (Nat.pow 10 power.toNat)
    decide (roundToDouble (roundToDouble significand * scale) < Nat.pow 2 1024)
  else false

/-- Whether a number is a finite double. -/
def Number.isFinite (n : Number) : Bool :=
  let (significand, power) := n.significand
  match n.exponent with
  | none => scaledFits significand power
  | some (negative, digits) =>
    let e := exponentValue digits
    if maxExponent < e then negative || significand == 0
    else scaledFits significand (if negative then power - e else power + e)

-- =============================================================== whole values

/-- How deep values may be nested. -/
def maxDepth : Nat :=
  127

mutual

/-- Whether a value, with room for so many levels of containers, is within the
limits. -/
def Value.isHeld (room : Nat) : Value → Bool
  | .null => true
  | .bool _ => true
  | .number n => n.isFinite
  | .string pieces => (text? pieces).isSome
  | .array items =>
    match room with
    | 0 => false
    | room + 1 => itemsHeld room items
  | .object members =>
    match room with
    | 0 => false
    | room + 1 => membersHeld room members

/-- Whether all items of an array are within the limits. -/
def itemsHeld (room : Nat) : List Value → Bool
  | [] => true
  | item :: rest => item.isHeld room && itemsHeld room rest

/-- Whether all members of an object are within the limits. -/
def membersHeld (room : Nat) : List (List Piece × Value) → Bool
  | [] => true
  | (name, item) :: rest =>
    (text? name).isSome && item.isHeld room && membersHeld room rest

end

/-- The value that a text is, if it is within the limits. -/
def Value.parseHeld? (text : String) : Option Value :=
  match Value.parse? text with
  | some value => if value.isHeld maxDepth then some value else none
  | none => none

end ProofBatch.Json
