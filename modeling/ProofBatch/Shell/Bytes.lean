/-
Bytes as characters. A script and all that it handles is a sequence of bytes,
written here as one character per byte, so that the characters of the language
can be named and bytes that are no text pass through unchanged.
-/
import ProofBatch.Text.Utf8

namespace ProofBatch.Shell

/-- A sequence of bytes, each as the character with its number. -/
abbrev Bytes := List Char

/-- One character per byte. -/
def ofBytes (bytes : List UInt8) : Bytes :=
  bytes.map fun b => Char.ofNat b.toNat

/-- The bytes again. -/
def toBytes (chars : Bytes) : List UInt8 :=
  chars.map fun c => UInt8.ofNat c.toNat

/-- The bytes of a text. -/
def ofText (s : String) : Bytes :=
  ofBytes (Text.encode s)

/-- The text of bytes; what is no text becomes U+FFFD. -/
def toText (chars : Bytes) : String :=
  Text.decodeLossy (toBytes chars)

end ProofBatch.Shell
