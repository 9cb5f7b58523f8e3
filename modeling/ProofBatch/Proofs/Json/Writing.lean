/-
Writing a value as a text.

# Strings

Every text can stand in a string, its control characters as `\u` escapes
(`spelled`), and is what the string is read as (`text?_spelled`).

# Values

An array can be written if its items can be (`areWritable_array`), an object if
its names and values can be (`areWritable_object`). Signs and words always are
(`areWritable_fixed`).
-/
import ProofBatch.Proofs.Json.Grammar

namespace ProofBatch.Json

-- ==================================================================== tokens

/-- Tokens that can be written. -/
def AreWritable (tokens : List Token) : Prop :=
  ∀ token ∈ tokens, ∃ text, token.Written text

/-- Tokens may follow each other without spaces. -/
theorem exists_laid {tokens : List Token} (h : AreWritable tokens) :
    ∃ text, Laid tokens text := by
  induction tokens with
  | nil => exact ⟨[], .nil⟩
  | cons token rest ih =>
      obtain ⟨hfirst, hrest⟩ := List.forall_mem_cons.mp h
      obtain ⟨front, hfront⟩ := hfirst
      obtain ⟨text, htext⟩ := ih hrest
      exact ⟨front ++ text, .token hfront htext⟩

/-- Tokens of fixed spelling can be written. -/
theorem areWritable_fixed {token : Token} {text : List Char}
    (h : token.fixed? = some text) : AreWritable [token] :=
  List.forall_mem_singleton.mpr ⟨text, .fixed h⟩

theorem AreWritable.append {tokens later : List Token} (h : AreWritable tokens)
    (h' : AreWritable later) : AreWritable (tokens ++ later) :=
  List.forall_mem_append.mpr ⟨h, h'⟩

-- =================================================================== strings

/-- A character in a string. A control character has an escape. -/
def pieceOf (c : Char) : Piece :=
  if c.toNat < 32 then .unit c.toNat else .char c

/-- A text in a string. -/
def spelled (text : String) : List Piece :=
  text.toList.map pieceOf

/-- A unit outside the pairs is a character, whatever follows it. -/
theorem text?_unit {n : Nat} (hhigh : isHighUnit n = false)
    (hlow : isLowUnit n = false) (pieces : List Piece) :
    text? (.unit n :: pieces) = (text? pieces).map (Char.ofNat n :: ·) := by
  cases pieces with
  | nil => simp [text?, hhigh, hlow]
  | cons piece rest => cases piece <;> simp [text?, hhigh, hlow]

/-- What was put in a string is its text. -/
theorem text?_spelled (text : String) :
    text? (spelled text) = some text.toList := by
  unfold spelled
  induction text.toList with
  | nil => rfl
  | cons c rest ih =>
      rw [List.map_cons, pieceOf]
      split
      next hcontrol =>
        -- no half of a pair
        have hhigh : isHighUnit c.toNat = false := by
          simp only [isHighUnit, Bool.and_eq_false_iff,
            decide_eq_false_iff_not]
          omega
        have hlow : isLowUnit c.toNat = false := by
          simp only [isLowUnit, Bool.and_eq_false_iff, decide_eq_false_iff_not]
          omega
        rw [text?_unit hhigh hlow, ih, Option.map_some, Char.ofNat_toNat]
      next => rw [text?, ih, Option.map_some]

/-- Every character can be written, as itself or escaped. -/
theorem exists_written_pieceOf (c : Char) :
    ∃ text, (pieceOf c).Written text := by
  unfold pieceOf
  split
  next hcontrol =>
    have hquad : ∀ n < 32, hexQuad? '0' '0' (n / 16).digitChar
        (n % 16).digitChar = some n := by
      decide
    exact ⟨_, .unit (hquad _ hcontrol)⟩
  next hvisible =>
    by_cases hquote : c = '"'
    · rw [hquote]
      exact ⟨['\\', '"'], .escaped rfl⟩
    · by_cases hbackslash : c = '\\'
      · rw [hbackslash]
        exact ⟨['\\', '\\'], .escaped rfl⟩
      · exact ⟨[c], .plain (Nat.not_lt.mp hvisible) hquote hbackslash⟩

/-- Every text can be written as a string. -/
theorem areWritable_spelled (text : String) :
    AreWritable [.string (spelled text)] := by
  have hbody : ∀ chars : List Char, ∃ body, Body (chars.map pieceOf) body := by
    intro chars
    induction chars with
    | nil => exact ⟨[], .nil⟩
    | cons c rest ih =>
        obtain ⟨front, hfront⟩ := exists_written_pieceOf c
        obtain ⟨body, hrest⟩ := ih
        exact ⟨front ++ body, .cons hfront hrest⟩
  obtain ⟨body, hbody⟩ := hbody text.toList
  exact List.forall_mem_singleton.mpr ⟨_, .string hbody⟩

-- ==================================================================== values

section Writable

variable {items : List Value} {members : List (List Piece × Value)}
  (hitems : ∀ v ∈ items, AreWritable v.tokens)
  (hmembers : ∀ m ∈ members,
    AreWritable [.string m.1] ∧ AreWritable m.2.tokens)

include hitems in
theorem areWritable_laterItems : AreWritable (laterItems items) := by
  induction items with
  | nil => exact areWritable_fixed rfl
  | cons item rest ih =>
      obtain ⟨hitem, hrest⟩ := List.forall_mem_cons.mp hitems
      exact (areWritable_fixed rfl).append (hitem.append (ih hrest))

include hitems in
/-- An array can be written if its items can. -/
theorem areWritable_array : AreWritable (Value.array items).tokens := by
  apply (areWritable_fixed rfl).append
  cases items with
  | nil => exact areWritable_fixed rfl
  | cons item rest =>
      obtain ⟨hitem, hrest⟩ := List.forall_mem_cons.mp hitems
      exact hitem.append (areWritable_laterItems hrest)

include hmembers in
theorem areWritable_laterMembers : AreWritable (laterMembers members) := by
  induction members with
  | nil => exact areWritable_fixed rfl
  | cons m rest ih =>
      obtain ⟨⟨hname, hvalue⟩, hrest⟩ := List.forall_mem_cons.mp hmembers
      exact (areWritable_fixed rfl).append (hname.append
        ((areWritable_fixed rfl).append (hvalue.append (ih hrest))))

include hmembers in
/-- An object can be written if its names and values can. -/
theorem areWritable_object : AreWritable (Value.object members).tokens := by
  apply (areWritable_fixed rfl).append
  cases members with
  | nil => exact areWritable_fixed rfl
  | cons m rest =>
      obtain ⟨⟨hname, hvalue⟩, hrest⟩ := List.forall_mem_cons.mp hmembers
      exact hname.append ((areWritable_fixed rfl).append
        (hvalue.append (areWritable_laterMembers hrest)))

end Writable

end ProofBatch.Json
