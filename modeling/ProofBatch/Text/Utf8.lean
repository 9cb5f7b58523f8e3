/-
Characters of a byte sequence in UTF-8.

`pieces` cuts the bytes into characters and malformed fragments; a fragment is
the longest start of a character that the next byte does not continue, or one
byte that starts none. The strict reading `decode?` exists when no fragment is
malformed, the lenient reading `decodeLossy` puts U+FFFD for each of them.
-/

namespace ProofBatch.Text

/-- What a first byte asks of the bytes after it. -/
structure Utf8Lead where
  /-- How many bytes follow. -/
  more : Nat
  /-- The bits of the character that the first byte holds. -/
  bits : Nat
  /-- The least second byte. -/
  low : UInt8 := 0x80
  /-- The greatest second byte. -/
  high : UInt8 := 0xBF

/-- Read a first byte past ASCII. The bounds of the second byte keep out
overlong forms, surrogates and values past U+10FFFF. -/
def Utf8Lead.ofByte? (b : UInt8) : Option Utf8Lead :=
  if 0xC2 ≤ b ∧ b ≤ 0xDF then some { more := 1, bits := b.toNat - 0xC0 }
  else if b = 0xE0 then some { more := 2, bits := 0, low := 0xA0 }
  else if b = 0xED then some { more := 2, bits := 0xD, high := 0x9F }
  else if 0xE1 ≤ b ∧ b ≤ 0xEF then some { more := 2, bits := b.toNat - 0xE0 }
  else if b = 0xF0 then some { more := 3, bits := 0, low := 0x90 }
  else if b = 0xF4 then some { more := 3, bits := 4, high := 0x8F }
  else if 0xF1 ≤ b ∧ b ≤ 0xF3 then some { more := 3, bits := b.toNat - 0xF0 }
  else none

/-- Read `more` further bytes of a character whose earlier bytes gave `bits`.
The answer holds the character, if all bytes are there, and the bytes that were
not used. -/
def continueChar (more bits : Nat) (low high : UInt8) (bytes : List UInt8) :
    Option Char × List UInt8 :=
  match more, bytes with
  | 0, bytes => (some (Char.ofNat bits), bytes)
  | _ + 1, [] => (none, [])
  | more + 1, b :: rest =>
    if low ≤ b ∧ b ≤ high then
      continueChar more (bits * 64 + (b.toNat - 0x80)) 0x80 0xBF rest
    else (none, b :: rest)

theorem length_continueChar_le (more bits : Nat) (low high : UInt8)
    (bytes : List UInt8) :
    (continueChar more bits low high bytes).2.length ≤ bytes.length := by
  induction bytes generalizing more bits low high with
  | nil => cases more <;> simp [continueChar]
  | cons b rest ih =>
    cases more with
    | zero => simp [continueChar]
    | succ more =>
      simp only [continueChar]
      split
      · exact Nat.le_succ_of_le (ih ..)
      · simp

/-- The characters of a byte sequence in order, `none` for each malformed
fragment. -/
def utf8Pieces : List UInt8 → List (Option Char)
  | [] => []
  | b :: rest =>
    if b < 0x80 then some (Char.ofNat b.toNat) :: utf8Pieces rest
    else
      match Utf8Lead.ofByte? b with
      | none => none :: utf8Pieces rest
      | some lead =>
        let read := continueChar lead.more lead.bits lead.low lead.high rest
        read.1 :: utf8Pieces read.2
  termination_by bytes => bytes.length
  decreasing_by
    · simp
    · simp
    · exact Nat.lt_succ_of_le (length_continueChar_le ..)

/-- The text that a byte sequence encodes, if it is well formed throughout. -/
def decode? (bytes : List UInt8) : Option String :=
  ((utf8Pieces bytes).mapM id).map String.ofList

/-- The text of a byte sequence with U+FFFD in place of each malformed
fragment. -/
def decodeLossy (bytes : List UInt8) : String :=
  .ofList ((utf8Pieces bytes).map (·.getD (Char.ofNat 0xFFFD)))

/-- The bytes of a text. -/
def encode (s : String) : List UInt8 :=
  s.toUTF8.toList

end ProofBatch.Text
