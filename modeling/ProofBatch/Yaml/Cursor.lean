/-
A place in a YAML text: what follows it, and its line and column.

Lines end at a line feed, a carriage return, both together, U+0085, U+2028 or
U+2029; all but the last two read as a line feed.
-/

namespace ProofBatch.Yaml

-- ================================================================ characters

/-- What is wrong with a text, for the reader. -/
abbrev Problem := String

/-- Whether a character may stand in a YAML text at all. -/
def isAllowed (c : Char) : Bool :=
  let n := c.toNat
  n == 0x09 || n == 0x0A || n == 0x0D || n == 0x85 || (0x20 ≤ n && n ≤ 0x7E)
    || (0xA0 ≤ n && n ≤ 0xFFFD && n != 0xFEFF) || 0x10000 ≤ n

/-- Whether a character is a space or a tab. -/
def isBlank (c : Char) : Bool :=
  c == ' ' || c == '\t'

/-- Whether a character ends a line. -/
def isBreak (c : Char) : Bool :=
  c == '\r' || c == '\n' || c.toNat == 0x85 || c.toNat == 0x2028
    || c.toNat == 0x2029

/-- Whether a character may stand in the name of an anchor, a tag handle or a
directive. -/
def isNameChar (c : Char) : Bool :=
  c.isAlphanum || c == '_' || c == '-'

-- ================================================================ places

/-- A place in a text. -/
structure Cursor where
  /-- What follows the place. -/
  rest : List Char
  /-- How many characters come before it. -/
  index : Nat := 0
  line : Nat := 0
  column : Nat := 0

namespace Cursor

/-- The character `k` places on. -/
def peek? (c : Cursor) (k : Nat) : Option Char :=
  c.rest[k]?

/-- Whether the character `k` places on is the given one. -/
def sees (c : Cursor) (k : Nat) (char : Char) : Bool :=
  c.peek? k == some char

/-- Whether the character `k` places on is one of the given ones. -/
def atAny (c : Cursor) (k : Nat) (chars : String) : Bool :=
  (c.peek? k).any chars.toList.contains

/-- Whether the text ends here. -/
def atEnd (c : Cursor) : Bool :=
  c.rest.isEmpty

/-- Whether a space or a tab is `k` places on. -/
def blankAt (c : Cursor) (k : Nat) : Bool :=
  (c.peek? k).any isBlank

/-- Whether a line ends `k` places on. -/
def breakAt (c : Cursor) (k : Nat) : Bool :=
  (c.peek? k).any isBreak

/-- Whether a line or the text ends `k` places on. -/
def lineEndAt (c : Cursor) (k : Nat) : Bool :=
  (c.peek? k).all isBreak

/-- Whether a word ends `k` places on: there is a space, a tab, or the end of
the line or text. -/
def wordEndAt (c : Cursor) (k : Nat) : Bool :=
  (c.peek? k).all fun x => isBlank x || isBreak x

/-- The place `n` characters on in the same line. -/
def skip (c : Cursor) (n : Nat) : Cursor :=
  { c with
    rest := c.rest.drop n, index := c.index + n, column := c.column + n }

/-- The characters from here on that satisfy a test, and the place after them.
The test holds for no character that ends a line. -/
def span (c : Cursor) (test : Char → Bool) : List Char × Cursor :=
  let taken := c.rest.takeWhile test
  (taken, c.skip taken.length)

/-- The place after all characters from here on that satisfy a test. -/
def skipWhile (c : Cursor) (test : Char → Bool) : Cursor :=
  (c.span test).2

/-- The end of a line here: how it reads, and the place after it. Elsewhere
nothing is read. -/
def readBreak (c : Cursor) : List Char × Cursor :=
  let next (n : Nat) : Cursor :=
    { rest := c.rest.drop n, index := c.index + n
      line := c.line + 1, column := 0 }
  match c.rest with
  | '\r' :: '\n' :: _ => (['\n'], next 2)
  | x :: _ =>
    if x.toNat = 0x2028 ∨ x.toNat = 0x2029 then ([x], next 1)
    else if isBreak x then (['\n'], next 1)
    else ([], c)
  | [] => ([], c)

/-- The place after the end of a line here, if there is one. -/
def skipBreak (c : Cursor) : Cursor :=
  c.readBreak.2

/-- Whether a line begins here with `---` or `...` as a word. -/
def atDocumentMark (c : Cursor) (mark : Char) : Bool :=
  c.column == 0 && c.sees 0 mark && c.sees 1 mark && c.sees 2 mark
    && c.wordEndAt 3

/-- Whether a document begins or ends here. -/
def atDocumentEdge (c : Cursor) : Bool :=
  c.atDocumentMark '-' || c.atDocumentMark '.'

/-- A bound for how many steps can read a character each from here on. -/
def bound (c : Cursor) : Nat :=
  c.rest.length + 1

end Cursor

-- ================================================================ loops

/-- Repeat a step until it is done, at most `bound` times. A step gives the
next state or the result. -/
def repeatStep {σ α : Type} (bound : Nat) (step : σ → Except Problem (σ ⊕ α))
    (s : σ) : Except Problem α :=
  match bound with
  | 0 => .error "the text does not end"
  | bound + 1 =>
    match step s with
    | .error e => .error e
    | .ok (.inr result) => .ok result
    | .ok (.inl s) => repeatStep bound step s

end ProofBatch.Yaml
