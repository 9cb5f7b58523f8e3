/-
The tokens of JSON.

Between tokens there may be spaces, tabs and line breaks. A string is kept as
its pieces, characters and `\u` escapes, and a number as its digits: what they
stand for is decided by whoever needs it, so that a text whose strings or
numbers are never looked at is not refused for them.
-/

namespace ProofBatch.Json

-- ================================================================ types

/-- A piece of a string: a character, however it is written, or the code unit
of a `\u` escape. -/
inductive Piece where
  | char (c : Char)
  | unit (n : Nat)
  deriving DecidableEq, Repr

/-- A number as it is written. -/
structure Number where
  negative : Bool
  /-- The digits before the point. -/
  whole : List Char
  /-- The digits after the point. -/
  fraction : List Char
  /-- The sign and the digits of the exponent. -/
  exponent : Option (Bool × List Char)
  deriving DecidableEq, Repr

/-- A token. -/
inductive Token where
  | openArray
  | closeArray
  | openObject
  | closeObject
  | comma
  | colon
  | null
  | bool (b : Bool)
  | number (n : Number)
  | string (pieces : List Piece)
  deriving DecidableEq, Repr

-- ================================================================ strings

/-- The value of a hexadecimal digit. -/
def hexDigit? (c : Char) : Option Nat :=
  if c.isDigit then some (c.toNat - '0'.toNat)
  else if 'a' ≤ c ∧ c ≤ 'f' then some (c.toNat - 'a'.toNat + 10)
  else if 'A' ≤ c ∧ c ≤ 'F' then some (c.toNat - 'A'.toNat + 10)
  else none

/-- The value of four hexadecimal digits. -/
def hexQuad? (a b c d : Char) : Option Nat := do
  return (((← hexDigit? a) * 16 + (← hexDigit? b)) * 16
    + (← hexDigit? c)) * 16 + (← hexDigit? d)

/-- The character that a backslash and one more character stand for. -/
def escaped? (c : Char) : Option Char :=
  match c with
  | '"' => some '"'
  | '\\' => some '\\'
  | '/' => some '/'
  | 'b' => some (Char.ofNat 8)
  | 'f' => some (Char.ofNat 12)
  | 'n' => some '\n'
  | 'r' => some '\r'
  | 't' => some '\t'
  | _ => none

/-- Put a piece in front of the string that was read. -/
def consPiece (piece : Piece) (read : Option (List Piece × List Char)) :
    Option (List Piece × List Char) :=
  read.map fun r => (piece :: r.1, r.2)

/-- Read a string whose opening quote is behind: its pieces, and what follows
its closing quote. A control character must be escaped. -/
def string? : List Char → Option (List Piece × List Char)
  | [] => none
  | '"' :: rest => some ([], rest)
  | '\\' :: 'u' :: a :: b :: c :: d :: rest =>
    match hexQuad? a b c d with
    | some n => consPiece (.unit n) (string? rest)
    | none => none
  | '\\' :: c :: rest =>
    match escaped? c with
    | some e => consPiece (.char e) (string? rest)
    | none => none
  | c :: rest =>
    if c.toNat < 32 then none else consPiece (.char c) (string? rest)

theorem length_le_of_consPiece {piece : Piece}
    {read : Option (List Piece × List Char)} {n : Nat}
    (h : ∀ pieces rest, read = some (pieces, rest) → rest.length < n) :
    ∀ pieces rest, consPiece piece read = some (pieces, rest) →
      rest.length < n := by
  intro pieces rest hr
  simp only [consPiece, Option.map_eq_some_iff] at hr
  obtain ⟨⟨ps, r⟩, hread, he⟩ := hr
  simp only [Prod.mk.injEq] at he
  exact he.2 ▸ h ps r hread

theorem length_lt_of_string? (text : List Char) :
    ∀ pieces rest, string? text = some (pieces, rest) →
      rest.length < text.length := by
  fun_induction string? text with
  | case1 => simp
  | case2 => simp
  | case3 a b c d rest n _ ih =>
    refine length_le_of_consPiece fun pieces r hr => ?_
    have := ih pieces r hr
    simp only [List.length_cons]
    omega
  | case4 => simp
  | case5 c rest _ e _ ih =>
    refine length_le_of_consPiece fun pieces r hr => ?_
    have := ih pieces r hr
    simp only [List.length_cons]
    omega
  | case6 => simp
  | case7 => simp
  | case8 c rest _ _ _ _ ih =>
    refine length_le_of_consPiece fun pieces r hr => ?_
    have := ih pieces r hr
    simp only [List.length_cons]
    omega

-- ================================================================ numbers

/-- The digits at the front of a text, and the rest. -/
def digits (text : List Char) : List Char × List Char :=
  (text.takeWhile Char.isDigit, text.dropWhile Char.isDigit)

/-- The exponent at the front of a text, which has to end with it. -/
def exponent? (text : List Char) : Option (Option (Bool × List Char)) :=
  match text with
  | [] => some none
  | c :: rest =>
    if c = 'e' ∨ c = 'E' then
      let (negative, rest) := match rest with
        | '-' :: rest => (true, rest)
        | '+' :: rest => (false, rest)
        | rest => (false, rest)
      match digits rest with
      | ([], _) => none
      | (ds, []) => some (some (negative, ds))
      | _ => none
    else none

/-- The number that a text is. It has no superfluous zero in front, and a digit
on each side of its point. -/
def number? (text : List Char) : Option Number :=
  let (negative, text) := match text with
    | '-' :: rest => (true, rest)
    | text => (false, text)
  match digits text with
  | ([], _) => none
  | (whole, rest) =>
    if whole.head? = some '0' ∧ whole.length ≠ 1 then none
    else
      match rest with
      | '.' :: rest =>
        match digits rest with
        | ([], _) => none
        | (fraction, rest) =>
          (exponent? rest).map fun exponent =>
            { negative, whole, fraction, exponent }
      | rest =>
        (exponent? rest).map fun exponent =>
          { negative, whole, fraction := [], exponent }

-- ================================================================ tokens

/-- Whether a character may stand between tokens. -/
def isSpace (c : Char) : Bool :=
  c == ' ' || c == '\t' || c == '\n' || c == '\r'

/-- Whether a character may be part of a number. -/
def isNumberChar (c : Char) : Bool :=
  c.isDigit || c == '-' || c == '+' || c == '.' || c == 'e' || c == 'E'

/-- The token that one character is. -/
def sign? (c : Char) : Option Token :=
  match c with
  | '[' => some .openArray
  | ']' => some .closeArray
  | '\x7b' => some .openObject
  | '\x7d' => some .closeObject
  | ',' => some .comma
  | ':' => some .colon
  | _ => none

/-- The token that a word is. -/
def word? (word : List Char) : Option Token :=
  if word = "null".toList then some .null
  else if word = "true".toList then some (.bool true)
  else if word = "false".toList then some (.bool false)
  else none

/-- The tokens of a text, if it consists of tokens and spaces. -/
def tokens? (text : List Char) : Option (List Token) :=
  match text with
  | [] => some []
  | c :: rest =>
    if isSpace c then tokens? rest
    else if c = '"' then
      match _h : string? rest with
      | some (pieces, rest) => (tokens? rest).map (.string pieces :: ·)
      | none => none
    else if c = '-' ∨ c.isDigit then
      match number? (c :: rest.takeWhile isNumberChar) with
      | some n => (tokens? (rest.dropWhile isNumberChar)).map (.number n :: ·)
      | none => none
    else if c.isAlpha then
      match word? (c :: rest.takeWhile Char.isAlpha) with
      | some token => (tokens? (rest.dropWhile Char.isAlpha)).map (token :: ·)
      | none => none
    else
      match sign? c with
      | some token => (tokens? rest).map (token :: ·)
      | none => none
  termination_by text.length
  decreasing_by
    · simp
    · have := length_lt_of_string? _ _ _ _h
      simp only [List.length_cons]
      omega
    · have := (List.dropWhile_suffix (l := rest) isNumberChar).length_le
      simp only [List.length_cons]
      omega
    · have := (List.dropWhile_suffix (l := rest) Char.isAlpha).length_le
      simp only [List.length_cons]
      omega
    · simp

end ProofBatch.Json
