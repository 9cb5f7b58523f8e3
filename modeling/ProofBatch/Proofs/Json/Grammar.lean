/-
What JSON texts are, without regard to how they are read.

# Values, tokens, texts

A value has its tokens (`Value.tokens`), one list for each value. A list of
tokens is written as a text with spaces wherever one likes (`Laid`). A string
or a number can be written in more than one way, so that of tokens is a
relation (`Token.Written`).

# Tokens side by side

Numbers and words go on as long as their characters do, so some lists of tokens
cannot be told from their texts without a space between two tokens. That never
comes up with the tokens of a value: of two that stand side by side, one is a
sign (`apart_tokens`).
-/
import Mathlib.Data.List.Chain
import ProofBatch.Json.Value

namespace ProofBatch.Json

-- =================================================================== strings

/-- A piece of a string, as it may be written. -/
inductive Piece.Written : Piece → List Char → Prop
  | plain {c : Char} (visible : 32 ≤ c.toNat) (quote : c ≠ '"')
      (backslash : c ≠ '\\') : Written (.char c) [c]
  | escaped {c e : Char} (short : escaped? e = some c) :
      Written (.char c) ['\\', e]
  | unit {a b c d : Char} {n : Nat} (digits : hexQuad? a b c d = some n) :
      Written (.unit n) ['\\', 'u', a, b, c, d]

/-- What may stand between the quotes of a string. -/
inductive Body : List Piece → List Char → Prop
  | nil : Body [] []
  | cons {piece : Piece} {pieces : List Piece} {front text : List Char}
      (first : piece.Written front) (rest : Body pieces text) :
      Body (piece :: pieces) (front ++ text)

-- =================================================================== numbers

/-- A run of digits. -/
structure Digits (ds : List Char) : Prop where
  some : ds ≠ []
  all : ∀ c ∈ ds, c.isDigit = true

/-- The sign of an exponent. A plus may be left out. -/
inductive ExponentSign : Bool → List Char → Prop
  | minus : ExponentSign true ['-']
  | plus : ExponentSign false ['+']
  | none : ExponentSign false []

inductive ExponentWritten : Option (Bool × List Char) → List Char → Prop
  | none : ExponentWritten none []
  | some {e : Char} {negative : Bool} {sign ds : List Char}
      (letter : e = 'e' ∨ e = 'E') (signed : ExponentSign negative sign)
      (digits : Digits ds) :
      ExponentWritten (some (negative, ds)) (e :: (sign ++ ds))

inductive FractionWritten : List Char → List Char → Prop
  | none : FractionWritten [] []
  | some {ds : List Char} (digits : Digits ds) : FractionWritten ds ('.' :: ds)

/-- A number, as it may be written. -/
inductive Number.Written : Number → List Char → Prop
  | intro {negative : Bool} {whole fraction point power : List Char}
      {exponent : Option (Bool × List Char)} (digits : Digits whole)
      (leading : whole.head? = some '0' → whole.length = 1)
      (pointed : FractionWritten fraction point)
      (powered : ExponentWritten exponent power) :
      Written { negative, whole, fraction, exponent }
        ((if negative then ['-'] else []) ++ (whole ++ (point ++ power)))

-- ==================================================================== tokens

/-- The characters of a token that is always written alike. -/
def Token.fixed? : Token → Option (List Char)
  | .openArray => some ['[']
  | .closeArray => some [']']
  | .openObject => some ['\x7b']
  | .closeObject => some ['\x7d']
  | .comma => some [',']
  | .colon => some [':']
  | .null => some "null".toList
  | .bool true => some "true".toList
  | .bool false => some "false".toList
  | .number _ => none
  | .string _ => none

/-- A token, as it may be written. -/
inductive Token.Written : Token → List Char → Prop
  | fixed {token : Token} {text : List Char}
      (alike : token.fixed? = some text) : Written token text
  | number {n : Number} {text : List Char} (written : n.Written text) :
      Written (.number n) text
  | string {pieces : List Piece} {body : List Char}
      (written : Body pieces body) :
      Written (.string pieces) ('"' :: (body ++ ['"']))

/-- A text that consists of the given tokens and of spaces. -/
inductive Laid : List Token → List Char → Prop
  | nil : Laid [] []
  | space {c : Char} {tokens : List Token} {text : List Char}
      (space : isSpace c = true) (rest : Laid tokens text) :
      Laid tokens (c :: text)
  | token {token : Token} {tokens : List Token} {front text : List Char}
      (written : token.Written front) (rest : Laid tokens text) :
      Laid (token :: tokens) (front ++ text)

-- ==================================================================== values

mutual

/-- The tokens of a value. -/
def Value.tokens : Value → List Token
  | .null => [.null]
  | .bool b => [.bool b]
  | .number n => [.number n]
  | .string pieces => [.string pieces]
  | .array items => .openArray :: itemTokens items
  | .object members => .openObject :: memberTokens members

/-- The items of an array, and its end. -/
def itemTokens : List Value → List Token
  | [] => [.closeArray]
  | item :: rest => item.tokens ++ laterItems rest

/-- The items of an array after the first, and its end. -/
def laterItems : List Value → List Token
  | [] => [.closeArray]
  | item :: rest => .comma :: (item.tokens ++ laterItems rest)

/-- The members of an object, and its end. -/
def memberTokens : List (List Piece × Value) → List Token
  | [] => [.closeObject]
  | (name, item) :: rest =>
    .string name :: .colon :: (item.tokens ++ laterMembers rest)

/-- The members of an object after the first, and its end. -/
def laterMembers : List (List Piece × Value) → List Token
  | [] => [.closeObject]
  | (name, item) :: rest =>
    .comma :: .string name :: .colon :: (item.tokens ++ laterMembers rest)

end

/-- A text that is the given value. -/
def Value.Written (v : Value) (text : List Char) : Prop :=
  Laid v.tokens text

/-- To prove something of all values, prove it of an array if it holds of its
items, and of an object if it holds of its members. -/
@[elab_as_elim]
theorem valueInduction {P : Value → Prop} (null : P .null)
    (bool : ∀ b, P (.bool b)) (number : ∀ n, P (.number n))
    (string : ∀ pieces, P (.string pieces))
    (array : ∀ items, (∀ v ∈ items, P v) → P (.array items))
    (object : ∀ members, (∀ m ∈ members, P m.2) → P (.object members))
    (v : Value) : P v := by
  refine @Value.rec P (fun items => ∀ v ∈ items, P v)
    (fun members => ∀ m ∈ members, P m.2) (fun m => P m.2)
    null bool number string array object ?_ ?_ ?_ ?_ ?_ v
  · exact fun v hv => absurd hv List.not_mem_nil
  · exact fun v rest hv hrest => List.forall_mem_cons.mpr ⟨hv, hrest⟩
  · exact fun m hm => absurd hm List.not_mem_nil
  · exact fun m rest hm hrest => List.forall_mem_cons.mpr ⟨hm, hrest⟩
  · exact fun _ _ h => h

-- ============================================================== side by side

/-- Whether a token is a single sign. -/
def Token.isSign : Token → Bool
  | .openArray | .closeArray | .openObject | .closeObject | .comma | .colon =>
    true
  | _ => false

/-- Of two tokens side by side, one is a sign. -/
def Apart (tokens : List Token) : Prop :=
  tokens.IsChain fun a b => a.isSign = true ∨ b.isSign = true

section Apart

variable {token : Token} {tokens tokens' : List Token} {items : List Value}
  {members : List (List Piece × Value)}

/-- One token stands apart from no other. -/
theorem apart_single (token : Token) : Apart [token] :=
  .singleton token

/-- A sign may stand next to anything. -/
theorem Apart.cons (h : Apart tokens) (hsign : token.isSign = true) :
    Apart (token :: tokens) :=
  List.isChain_cons.mpr ⟨fun _ _ => .inl hsign, h⟩

/-- What starts with a sign may follow anything. -/
theorem Apart.append (h : Apart tokens) (h' : Apart tokens')
    (hsign : ∀ t ∈ tokens'.head?, t.isSign = true) :
    Apart (tokens ++ tokens') :=
  List.isChain_append.mpr ⟨h, h', fun _ _ t ht => .inr (hsign t ht)⟩

theorem Apart.tail (h : Apart (token :: tokens)) : Apart tokens :=
  (List.isChain_cons.mp h).2

/-- What follows a token that is no sign starts with one. -/
theorem Apart.next (h : Apart (token :: tokens))
    (hsign : token.isSign = false) : ∀ t ∈ tokens.head?, t.isSign = true := by
  intro t ht
  have hor := (List.isChain_cons.mp h).1 t ht
  rw [hsign] at hor
  exact hor.resolve_left nofun

/-- After an item comes a comma or the end of the array. -/
theorem isSign_laterItems (items : List Value) :
    ∀ t ∈ (laterItems items).head?, t.isSign = true := by
  cases items with
  | nil =>
      rintro _ ⟨⟩
      rfl
  | cons =>
      rintro _ ⟨⟩
      rfl

/-- After a member comes a comma or the end of the object. -/
theorem isSign_laterMembers (members : List (List Piece × Value)) :
    ∀ t ∈ (laterMembers members).head?, t.isSign = true := by
  cases members with
  | nil =>
      rintro _ ⟨⟩
      rfl
  | cons =>
      rintro _ ⟨⟩
      rfl

/-- Commas keep the items apart. -/
theorem apart_laterItems (h : ∀ v ∈ items, Apart v.tokens) :
    Apart (laterItems items) := by
  induction items with
  | nil => exact apart_single _
  | cons item rest ih =>
      obtain ⟨hitem, hrest⟩ := List.forall_mem_cons.mp h
      exact (hitem.append (ih hrest) (isSign_laterItems rest)).cons rfl

/-- The name of a member, and the colon after it. -/
theorem apart_named (name : List Piece) (h : Apart tokens) :
    Apart (.string name :: .colon :: tokens) :=
  Apart.append (apart_single _) (h.cons rfl) (by rintro _ ⟨⟩; rfl)

/-- Commas and colons keep the members apart. -/
theorem apart_laterMembers (h : ∀ m ∈ members, Apart m.2.tokens) :
    Apart (laterMembers members) := by
  induction members with
  | nil => exact apart_single _
  | cons m rest ih =>
      obtain ⟨hitem, hrest⟩ := List.forall_mem_cons.mp h
      exact (apart_named m.1 (hitem.append (ih hrest)
        (isSign_laterMembers rest))).cons rfl

/-- Of two tokens of a value that stand side by side, one is a sign. -/
theorem apart_tokens (v : Value) : Apart v.tokens := by
  induction v using valueInduction with
  | null => exact apart_single _
  | bool => exact apart_single _
  | number => exact apart_single _
  | string => exact apart_single _
  | array items ih =>
      cases items with
      | nil => exact (apart_single _).cons rfl
      | cons item rest =>
          obtain ⟨hitem, hrest⟩ := List.forall_mem_cons.mp ih
          exact (hitem.append (apart_laterItems hrest)
            (isSign_laterItems rest)).cons rfl
  | object members ih =>
      cases members with
      | nil => exact (apart_single _).cons rfl
      | cons m rest =>
          obtain ⟨hitem, hrest⟩ := List.forall_mem_cons.mp ih
          exact (apart_named m.1 (hitem.append (apart_laterMembers hrest)
            (isSign_laterMembers rest))).cons rfl

end Apart

end ProofBatch.Json
