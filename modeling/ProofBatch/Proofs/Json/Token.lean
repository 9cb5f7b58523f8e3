/-
Reading the tokens of a text undoes writing them.

# Strings and numbers

What is read off the front of a text as a string was written there
(`body_of_string?`), and what was written is read (`string?_body`). For numbers
both are one statement (`number?_eq_some_iff`), since a number is read from a
text of its own.

# Texts

A text that is read as some tokens is those tokens with spaces between them
(`laid_of_tokens?`). The other way round the tokens must not run into each
other (`tokens?_of_laid`), nor into what stands behind them (`tokens?_append`).
-/
import ProofBatch.Proofs.Json.Grammar
import ProofBatch.Proofs.Text

namespace ProofBatch.Json

open ProofBatch.Text

-- =================================================================== strings

section Strings

variable {piece : Piece} {pieces : List Piece} {text body rest : List Char}

/-- A piece is put in front of what is read behind it. -/
theorem consPiece_eq_some_iff {read : Option (List Piece × List Char)} :
    consPiece piece read = some (pieces, rest)
      ↔ ∃ later, read = some (later, rest) ∧ pieces = piece :: later := by
  unfold consPiece
  rw [Option.map_eq_some_iff]
  constructor
  · rintro ⟨⟨later, rest⟩, hread, ⟨⟩⟩
    exact ⟨later, hread, rfl⟩
  · rintro ⟨later, hread, rfl⟩
    exact ⟨_, hread, rfl⟩

/-- A character that needs no escape stands for itself. -/
theorem string?_plain {c : Char} (hvisible : 32 ≤ c.toNat) (hquote : c ≠ '"')
    (hbackslash : c ≠ '\\') (rest : List Char) :
    string? (c :: rest) = consPiece (.char c) (string? rest) := by
  rw [string?.eq_def]
  split
  next heq => cases heq
  next heq =>
    cases heq
    exact absurd rfl hquote
  next heq =>
    cases heq
    exact absurd rfl hbackslash
  next heq =>
    cases heq
    exact absurd rfl hbackslash
  next heq =>
    cases heq
    rw [if_neg (Nat.not_lt.mpr hvisible)]

/-- A short escape stands for its character. -/
theorem string?_escaped {c e : Char} (h : escaped? e = some c)
    (rest : List Char) :
    string? ('\\' :: e :: rest) = consPiece (.char c) (string? rest) := by
  rw [string?.eq_def]
  split
  next heq => cases heq
  next heq => cases heq
  next heq =>
    cases heq
    cases h
  next heq =>
    cases heq
    rw [h]
  next hne heq =>
    cases heq
    exact absurd rfl (hne e rest rfl)

/-- Four hexadecimal digits stand for a unit. -/
theorem string?_unit {a b c d : Char} {n : Nat} (h : hexQuad? a b c d = some n)
    (rest : List Char) :
    string? ('\\' :: 'u' :: a :: b :: c :: d :: rest)
      = consPiece (.unit n) (string? rest) := by
  rw [string?, h]

/-- What was written is read. -/
theorem string?_body (h : Body pieces body) (rest : List Char) :
    string? (body ++ '"' :: rest) = some (pieces, rest) := by
  induction h with
  | nil => rfl
  | @cons piece pieces front text first later ih =>
      have hread : consPiece piece (string? (text ++ '"' :: rest))
          = some (piece :: pieces, rest) := by
        rw [ih]
        rfl
      rw [List.append_assoc]
      cases first with
      | plain visible quote backslash =>
          exact (string?_plain visible quote backslash _).trans hread
      | escaped short => exact (string?_escaped short _).trans hread
      | unit digits => exact (string?_unit digits _).trans hread

/-- A piece more at the front. -/
theorem Body.consPiece {front : List Char}
    {read : Option (List Piece × List Char)} (first : piece.Written front)
    (hread : ∀ pieces rest, read = some (pieces, rest) →
      ∃ body, Body pieces body ∧ text = body ++ '"' :: rest)
    (h : Json.consPiece piece read = some (pieces, rest)) :
    ∃ body, Body pieces body ∧ front ++ text = body ++ '"' :: rest := by
  obtain ⟨later, hlater, rfl⟩ := consPiece_eq_some_iff.mp h
  obtain ⟨body, hbody, rfl⟩ := hread later rest hlater
  exact ⟨front ++ body, .cons first hbody, (List.append_assoc ..).symm⟩

/-- What is read was written. -/
theorem body_of_string? (text : List Char) :
    ∀ pieces rest, string? text = some (pieces, rest) →
      ∃ body, Body pieces body ∧ text = body ++ '"' :: rest := by
  fun_induction string? text with
  | case1 =>
      intro _ _ h
      cases h
  | case2 text =>
      rintro _ _ ⟨⟩
      exact ⟨[], .nil, rfl⟩
  | case3 a b c d text n hquad ih =>
      exact fun _ _ h => Body.consPiece (.unit hquad) ih h
  | case4 =>
      intro _ _ h
      cases h
  | case5 e text _ c hshort ih =>
      exact fun _ _ h => Body.consPiece (.escaped hshort) ih h
  | case6 =>
      intro _ _ h
      cases h
  | case7 =>
      intro _ _ h
      cases h
  | case8 c text hquote _ hshort hvisible ih =>
      intro pieces rest h
      by_cases hbackslash : c = '\\'
      · -- a backslash at the end of the text
        cases text with
        | nil => cases h
        | cons e text => exact absurd rfl (hshort e text hbackslash)
      · exact Body.consPiece
          (.plain (Nat.not_lt.mp hvisible) hquote hbackslash)
          ih h

end Strings

-- =================================================================== numbers

section Numbers

variable {ds rest text : List Char} {n : Number}
  {exponent : Option (Bool × List Char)}

/-- Digits are read as far as they go. -/
theorem digits_append (hall : ∀ c ∈ ds, c.isDigit = true)
    (hends : ∀ c ∈ rest.head?, c.isDigit = false) :
    digits (ds ++ rest) = (ds, rest) := by
  rw [digits, takeWhile_append hall hends, dropWhile_append hall hends]

/-- Digits are cut off whole. -/
theorem digits_eq_iff {text : List Char} :
    digits text = (ds, rest) ↔ text = ds ++ rest ∧ (∀ c ∈ ds, c.isDigit = true)
      ∧ ∀ c ∈ rest.head?, c.isDigit = false := by
  constructor
  · rintro ⟨⟩
    exact ⟨List.takeWhile_append_dropWhile.symm,
      fun c hc => List.mem_takeWhile_imp hc, head?_dropWhile text⟩
  · rintro ⟨rfl, hall, hends⟩
    exact digits_append hall hends

theorem digits_whole (hall : ∀ c ∈ ds, c.isDigit = true) :
    digits ds = (ds, []) := by
  conv_lhs => rw [← List.append_nil ds]
  exact digits_append hall nofun

/-- The sign in front of the digits of an exponent, and what follows it. -/
def exponentSign : List Char → Bool × List Char
  | '-' :: rest => (true, rest)
  | '+' :: rest => (false, rest)
  | rest => (false, rest)

/-- A sign before the digits of an exponent is read off, if there is one. -/
theorem exponentSign_append {negative : Bool} {sign : List Char}
    (h : ExponentSign negative sign) (hdigits : Digits ds) :
    exponentSign (sign ++ ds) = (negative, ds) := by
  cases h with
  | minus => rfl
  | plus => rfl
  | none =>
      obtain ⟨c, rest, rfl⟩ := List.exists_cons_of_ne_nil hdigits.some
      have hdigit := hdigits.all c (List.mem_cons_self ..)
      show exponentSign (c :: rest) = _
      unfold exponentSign
      split
      next heq =>
        cases heq
        cases hdigit
      next heq =>
        cases heq
        cases hdigit
      next => rfl

theorem exponentSign_spec (text : List Char) :
    ∃ sign, ExponentSign (exponentSign text).1 sign
      ∧ text = sign ++ (exponentSign text).2 := by
  unfold exponentSign
  split
  next => exact ⟨['-'], .minus, rfl⟩
  next => exact ⟨['+'], .plus, rfl⟩
  next => exact ⟨[], .none, rfl⟩

/-- An exponent begins with its letter, and has a digit. -/
theorem exponent?_cons {c : Char} (h : c = 'e' ∨ c = 'E') (rest : List Char) :
    exponent? (c :: rest) = match digits (exponentSign rest).2 with
      | ([], _) => none
      | (ds, []) => some (some ((exponentSign rest).1, ds))
      | _ => none := by
  unfold exponent?
  exact if_pos h

/-- An exponent is read as it is written. -/
theorem exponent?_eq_some_iff :
    exponent? text = some exponent ↔ ExponentWritten exponent text := by
  constructor
  · intro h
    match text with
    | [] =>
        cases h
        exact .none
    | c :: rest =>
        by_cases hletter : c = 'e' ∨ c = 'E'
        · rw [exponent?_cons hletter] at h
          obtain ⟨sign, hsign, hrest⟩ := exponentSign_spec rest
          rw [hrest]
          split at h
          next => cases h
          next ds hne hdigits =>
            cases h
            obtain ⟨hwhole, hall, -⟩ := digits_eq_iff.mp hdigits
            rw [hwhole, List.append_nil]
            exact .some hletter hsign ⟨hne, hall⟩
          next => cases h
        · have hnone : exponent? (c :: rest) = none := if_neg hletter
          rw [hnone] at h
          cases h
  · rintro (_ | ⟨hletter, hsign, hdigits⟩)
    · rfl
    · rw [exponent?_cons hletter, exponentSign_append hsign hdigits,
        digits_whole hdigits.all]
      obtain ⟨d, ds, rfl⟩ := List.exists_cons_of_ne_nil hdigits.some
      rfl

/-- The sign in front of a number, and what follows it. -/
def numberSign : List Char → Bool × List Char
  | '-' :: rest => (true, rest)
  | text => (false, text)

/-- The digits after the point of a number, and what follows them. -/
def fraction? : List Char → Option (List Char × List Char)
  | '.' :: rest =>
    match digits rest with
    | ([], _) => none
    | (fraction, rest) => some (fraction, rest)
  | rest => some ([], rest)

theorem fraction?_bind {α : Type} (make : List Char × List Char → Option α)
    (text : List Char) :
    (fraction? text).bind make = match text with
      | '.' :: rest =>
        match digits rest with
        | ([], _) => none
        | (fraction, rest) => make (fraction, rest)
      | rest => make ([], rest) := by
  unfold fraction?
  split
  next rest =>
    show Option.bind (match digits rest with
      | ([], _) => none
      | (fraction, rest) => some (fraction, rest)) make = _
    split
    next => rfl
    next => rfl
  next => rfl

/-- A number is read part by part. -/
theorem number?_eq (text : List Char) :
    number? text = match digits (numberSign text).2 with
      | ([], _) => none
      | (whole, rest) =>
        if whole.head? = some '0' ∧ whole.length ≠ 1 then none
        else (fraction? rest).bind fun r => (exponent? r.2).map fun exponent =>
          { negative := (numberSign text).1, whole, fraction := r.1
            exponent } := by
  unfold number?
  show (match digits (numberSign text).2 with
    | ([], _) => none
    | (whole, rest) => _) = _
  split
  next => rfl
  next whole rest _ _ =>
    simp only [fraction?_bind]
    rfl

/-- What is written of an exponent begins with its letter, if anything is. -/
theorem ExponentWritten.head (h : ExponentWritten exponent text) :
    ∀ c ∈ text.head?, c = 'e' ∨ c = 'E' := by
  cases h with
  | none => nofun
  | some letter =>
      rintro _ ⟨⟩
      exact letter

theorem isDigit_head_power (h : ∀ c ∈ rest.head?, c = 'e' ∨ c = 'E') :
    ∀ c ∈ rest.head?, c.isDigit = false := by
  intro c hc
  rcases h c hc with rfl | rfl
  · rfl
  · rfl

/-- A fraction is read up to the exponent. -/
theorem fraction?_append {fraction point : List Char}
    (h : FractionWritten fraction point)
    (hends : ∀ c ∈ rest.head?, c = 'e' ∨ c = 'E') :
    fraction? (point ++ rest) = some (fraction, rest) := by
  cases h with
  | none =>
      show fraction? rest = _
      unfold fraction?
      split
      next tail =>
        have hpoint := hends '.' rfl
        exact absurd hpoint (by decide)
      next => rfl
  | some hdigits =>
      have hcut := digits_append hdigits.all (isDigit_head_power hends)
      show fraction? ('.' :: (fraction ++ rest)) = _
      simp only [fraction?, hcut]
      obtain ⟨d, ds, rfl⟩ := List.exists_cons_of_ne_nil hdigits.some
      rfl

/-- A fraction that is read was written, with its point. -/
theorem fractionWritten_of_fraction? {fraction : List Char}
    (h : fraction? text = some (fraction, rest)) :
    ∃ point, FractionWritten fraction point ∧ text = point ++ rest := by
  unfold fraction? at h
  split at h
  next tail =>
    split at h
    next => cases h
    next hne hdigits =>
      cases h
      obtain ⟨rfl, hall, -⟩ := digits_eq_iff.mp hdigits
      exact ⟨'.' :: fraction, .some ⟨hne, hall⟩, rfl⟩
  next =>
    cases h
    exact ⟨[], .none, rfl⟩

theorem numberSign_spec (text : List Char) :
    text = (if (numberSign text).1 then ['-'] else [])
      ++ (numberSign text).2 := by
  unfold numberSign
  split
  next => rfl
  next => rfl

/-- The sign of a number is read off, if there is one. -/
theorem numberSign_append (negative : Bool) (hdigits : Digits ds)
    (rest : List Char) :
    numberSign ((if negative then ['-'] else []) ++ (ds ++ rest))
      = (negative, ds ++ rest) := by
  cases negative with
  | true => rfl
  | false =>
      obtain ⟨c, tail, rfl⟩ := List.exists_cons_of_ne_nil hdigits.some
      have hdigit := hdigits.all c (List.mem_cons_self ..)
      show numberSign (c :: (tail ++ rest)) = _
      unfold numberSign
      split
      next heq =>
        cases heq
        cases hdigit
      next => rfl

/-- No digit stands right after the digits before the point. -/
theorem isDigit_head_point {fraction point power : List Char}
    (hpoint : FractionWritten fraction point)
    (hpower : ∀ c ∈ power.head?, c = 'e' ∨ c = 'E') :
    ∀ c ∈ (point ++ power).head?, c.isDigit = false := by
  cases hpoint with
  | none => exact isDigit_head_power hpower
  | some =>
      rintro _ ⟨⟩
      rfl

/-- A number is read as it is written. -/
theorem number?_eq_some_iff : number? text = some n ↔ n.Written text := by
  rw [number?_eq]
  constructor
  · intro h
    have htext := numberSign_spec text
    generalize numberSign text = signed at h htext
    split at h
    next => cases h
    next whole rest hne hdigits =>
      obtain ⟨hcut, hall, -⟩ := digits_eq_iff.mp hdigits
      split at h
      next => cases h
      next hleading =>
        obtain ⟨⟨fraction, rest⟩, hfraction, h⟩ := Option.bind_eq_some_iff.mp h
        obtain ⟨exponent, hexponent, rfl⟩ := Option.map_eq_some_iff.mp h
        obtain ⟨point, hpoint, rfl⟩ := fractionWritten_of_fraction? hfraction
        rw [htext, hcut]
        exact .intro ⟨hne, hall⟩
          (fun hzero => by_contra fun hlong => hleading ⟨hzero, hlong⟩) hpoint
          (exponent?_eq_some_iff.mp hexponent)
  · rintro @⟨negative, whole, fraction, point, power, exponent, hdigits,
      hleading, hpoint, hpower⟩
    have hwhole := digits_append hdigits.all
      (isDigit_head_point hpoint hpower.head)
    rw [numberSign_append negative hdigits, hwhole]
    split
    next heq =>
      cases heq
      exact absurd rfl hdigits.some
    next heq =>
      cases heq
      rw [if_neg fun h => h.2 (hleading h.1),
        fraction?_append hpoint hpower.head, Option.bind_some,
        exponent?_eq_some_iff.mpr hpower]
      rfl

theorem isNumberChar_of_isDigit {c : Char} (h : c.isDigit = true) :
    isNumberChar c = true := by
  simp [isNumberChar, h]

/-- Digits belong to numbers. -/
theorem Digits.isNumberChar (h : Digits ds) :
    ∀ c ∈ ds, isNumberChar c = true :=
  fun c hc => isNumberChar_of_isDigit (h.all c hc)

theorem ExponentWritten.isNumberChar (h : ExponentWritten exponent text) :
    ∀ c ∈ text, isNumberChar c = true := by
  cases h with
  | none => nofun
  | some letter signed hdigits =>
      refine List.forall_mem_cons.mpr
        ⟨?_, List.forall_mem_append.mpr ⟨?_, hdigits.isNumberChar⟩⟩
      · rcases letter with rfl | rfl
        · rfl
        · rfl
      · cases signed with
        | minus => exact List.forall_mem_singleton.mpr rfl
        | plus => exact List.forall_mem_singleton.mpr rfl
        | none => nofun

theorem FractionWritten.isNumberChar {fraction : List Char}
    (h : FractionWritten fraction text) :
    ∀ c ∈ text, isNumberChar c = true := by
  cases h with
  | none => nofun
  | some hdigits =>
      exact List.forall_mem_cons.mpr ⟨rfl, hdigits.isNumberChar⟩

/-- A number has no other characters than the reader looks for. -/
theorem Number.Written.isNumberChar (h : n.Written text) :
    ∀ c ∈ text, isNumberChar c = true := by
  obtain @⟨negative, whole, fraction, point, power, exponent, hdigits, -,
    hpoint, hpower⟩ := h
  refine List.forall_mem_append.mpr ⟨?_, List.forall_mem_append.mpr
    ⟨hdigits.isNumberChar, List.forall_mem_append.mpr
      ⟨hpoint.isNumberChar, hpower.isNumberChar⟩⟩⟩
  cases negative with
  | true => exact List.forall_mem_singleton.mpr rfl
  | false => nofun

/-- A number begins with a sign or a digit. -/
theorem Number.Written.head (h : n.Written text) :
    ∃ c rest, text = c :: rest ∧ (c = '-' ∨ c.isDigit = true) := by
  obtain @⟨negative, whole, fraction, point, power, exponent, hdigits, -, -, -⟩
    := h
  cases negative with
  | true => exact ⟨'-', _, rfl, .inl rfl⟩
  | false =>
      obtain ⟨d, ds, rfl⟩ := List.exists_cons_of_ne_nil hdigits.some
      exact ⟨d, _, rfl, .inr (hdigits.all d (List.mem_cons_self ..))⟩

end Numbers

-- ===================================================================== texts

section Texts

variable {c : Char} {token : Token} {tokens : List Token} {n : Number}
  {pieces : List Piece} {front body rest text word : List Char}

theorem isSpace_iff :
    isSpace c = true ↔ c = ' ' ∨ c = '\t' ∨ c = '\n' ∨ c = '\r' := by
  simp [isSpace, or_assoc]

/-- A class without spaces in it. -/
theorem not_isSpace {p : Char → Bool} (h : p c = true)
    (hspaces : [' ', '\t', '\n', '\r'].all (fun d => !p d) = true) :
    ¬isSpace c = true := by
  intro hspace
  have hfalse : (!p c) = true := by
    apply List.all_eq_true.mp hspaces
    rw [isSpace_iff] at hspace
    simpa using hspace
  rw [h] at hfalse
  cases hfalse

theorem tokens?_space (h : isSpace c = true) (rest : List Char) :
    tokens? (c :: rest) = tokens? rest := by
  rw [tokens?, if_pos h]

/-- A string is one token, up to its quotation mark. -/
theorem tokens?_string (h : Body pieces body) (rest : List Char) :
    tokens? ('"' :: (body ++ '"' :: rest))
      = (tokens? rest).map (.string pieces :: ·) := by
  rw [tokens?, if_neg (by decide), if_pos rfl]
  split
  next heq =>
    cases heq.symm.trans (string?_body h rest)
    rfl
  next heq => cases heq.symm.trans (string?_body h rest)

/-- A number is one token, if nothing behind it could belong to it. -/
theorem tokens?_number (h : n.Written front)
    (hends : ∀ c ∈ rest.head?, isNumberChar c = false) :
    tokens? (front ++ rest) = (tokens? rest).map (.number n :: ·) := by
  obtain ⟨c, tail, rfl, hstarts⟩ := h.head
  obtain ⟨hc, htail⟩ := List.forall_mem_cons.mp h.isNumberChar
  have hquote : c ≠ '"' := by
    rintro rfl
    cases hc
  rw [List.cons_append, tokens?, if_neg (not_isSpace hc rfl), if_neg hquote,
    if_pos hstarts, takeWhile_append htail hends, dropWhile_append htail hends,
    number?_eq_some_iff.mpr h]

/-- The words that are tokens. -/
theorem word?_cases (h : word? word = some token) :
    (word = "null".toList ∧ token = .null)
      ∨ (word = "true".toList ∧ token = .bool true)
      ∨ (word = "false".toList ∧ token = .bool false) := by
  unfold word? at h
  split at h
  next heq =>
    cases h
    exact .inl ⟨heq, rfl⟩
  next =>
    split at h
    next heq =>
      cases h
      exact .inr (.inl ⟨heq, rfl⟩)
    next =>
      split at h
      next heq =>
        cases h
        exact .inr (.inr ⟨heq, rfl⟩)
      next => cases h

theorem word?_isAlpha (h : word? word = some token) :
    word.all Char.isAlpha = true := by
  obtain ⟨rfl, -⟩ | ⟨rfl, -⟩ | ⟨rfl, -⟩ := word?_cases h
  · rfl
  · rfl
  · rfl

theorem isDigit_of_isAlpha (h : c.isAlpha = true) : ¬c.isDigit = true := by
  rw [isAlpha_iff] at h
  rw [isDigit_iff]
  omega

/-- A word is one token, if no letter is behind it. -/
theorem tokens?_word (h : word? (c :: word) = some token)
    (hends : ∀ c ∈ rest.head?, c.isAlpha = false) :
    tokens? (c :: (word ++ rest)) = (tokens? rest).map (token :: ·) := by
  obtain ⟨hc, hword⟩ := List.forall_mem_cons.mp
    (List.all_eq_true.mp (word?_isAlpha h))
  have hquote : c ≠ '"' := by
    rintro rfl
    cases hc
  have hnumber : ¬(c = '-' ∨ c.isDigit = true) := by
    rintro (rfl | hdigit)
    · cases hc
    · exact isDigit_of_isAlpha hc hdigit
  rw [tokens?, if_neg (not_isSpace hc rfl), if_neg hquote, if_neg hnumber,
    if_pos hc, takeWhile_append hword hends, dropWhile_append hword hends, h]

theorem tokens?_sign (h : sign? c = some token) (rest : List Char) :
    tokens? (c :: rest) = (tokens? rest).map (token :: ·) := by
  unfold sign? at h
  split at h
  all_goals cases h
  all_goals rw [tokens?]; rfl

/-- A token that is always written alike is a sign or a word. -/
theorem Token.sign_or_word (h : token.fixed? = some text) :
    (∃ c, text = [c] ∧ sign? c = some token)
      ∨ ∃ c word, text = c :: word ∧ word? (c :: word) = some token
        ∧ token.isSign = false := by
  cases token with
  | null =>
      cases h
      exact .inr ⟨_, _, rfl, rfl, rfl⟩
  | bool b =>
      cases b with
      | true =>
          cases h
          exact .inr ⟨_, _, rfl, rfl, rfl⟩
      | false =>
          cases h
          exact .inr ⟨_, _, rfl, rfl, rfl⟩
  | number => cases h
  | string => cases h
  | _ =>
      cases h
      exact .inl ⟨_, rfl, rfl⟩

/-- A sign is written as itself, and continues no number and no word. -/
theorem sign?_spec (h : sign? c = some token) :
    token.fixed? = some [c]
      ∧ isNumberChar c = false ∧ c.isAlpha = false := by
  unfold sign? at h
  split at h
  all_goals cases h
  all_goals exact ⟨rfl, rfl, rfl⟩

theorem fixed?_of_word? (h : word? word = some token) :
    token.fixed? = some word := by
  obtain ⟨rfl, rfl⟩ | ⟨rfl, rfl⟩ | ⟨rfl, rfl⟩ := word?_cases h
  · rfl
  · rfl
  · rfl

/-- A token is read, if what follows does not continue it. -/
theorem tokens?_token (h : token.Written front)
    (hends : token.isSign = false →
      ∀ c ∈ rest.head?, isNumberChar c = false ∧ c.isAlpha = false) :
    tokens? (front ++ rest) = (tokens? rest).map (token :: ·) := by
  cases h with
  | number hnumber =>
      exact tokens?_number hnumber fun c hc => (hends rfl c hc).1
  | string hbody =>
      rw [List.cons_append, List.append_assoc]
      exact tokens?_string hbody rest
  | fixed halike =>
      obtain ⟨c, rfl, hsign⟩ | ⟨c, word, rfl, hword, hlong⟩ :=
        Token.sign_or_word halike
      · exact tokens?_sign hsign rest
      · exact tokens?_word hword fun c hc => (hends hlong c hc).2

/-- A token that is written in front of others lays out one more. -/
theorem Laid.mapped {read : Option (List Token)} (h : token.Written front)
    (hrest : ∀ tokens, read = some tokens → Laid tokens rest)
    (hread : read.map (token :: ·) = some tokens) :
    Laid tokens (front ++ rest) := by
  obtain ⟨later, hlater, rfl⟩ := Option.map_eq_some_iff.mp hread
  exact .token h (hrest later hlater)

/-- What is read as tokens is these tokens. -/
theorem laid_of_tokens? (text : List Char) :
    ∀ tokens, tokens? text = some tokens → Laid tokens text := by
  fun_induction tokens? text with
  | case1 =>
      rintro _ ⟨⟩
      exact .nil
  | case2 c rest hspace ih => exact fun tokens h => .space hspace (ih tokens h)
  | case3 rest pieces later hread _ ih =>
      intro tokens h
      obtain ⟨body, hbody, rfl⟩ := body_of_string? rest pieces later hread
      have hlaid := Laid.mapped (.string hbody) ih h
      rw [List.cons_append, List.append_assoc] at hlaid
      exact hlaid
  | case4 => nofun
  | case5 c rest _ _ hstarts n hread ih =>
      intro tokens h
      have hlaid := Laid.mapped (.number (number?_eq_some_iff.mp hread)) ih h
      rw [List.cons_append, List.takeWhile_append_dropWhile] at hlaid
      exact hlaid
  | case6 => nofun
  | case7 c rest _ _ _ _ token hread ih =>
      intro tokens h
      have hlaid := Laid.mapped (.fixed (fixed?_of_word? hread)) ih h
      rw [List.cons_append, List.takeWhile_append_dropWhile] at hlaid
      exact hlaid
  | case8 => nofun
  | case9 c rest _ _ _ _ token hread ih =>
      intro tokens h
      show Laid tokens ([c] ++ rest)
      exact .mapped (.fixed (sign?_spec hread).1) ih h
  | case10 => nofun

/-- What starts with a sign continues no token, and neither does what is empty
but for what follows it. -/
theorem Laid.head (h : Laid tokens text)
    (hsign : ∀ t ∈ tokens.head?, t.isSign = true)
    (hrest : tokens = [] →
      ∀ c ∈ rest.head?, isNumberChar c = false ∧ c.isAlpha = false) :
    ∀ c ∈ (text ++ rest).head?, isNumberChar c = false
      ∧ c.isAlpha = false := by
  cases h with
  | nil => exact hrest rfl
  | space hspace =>
      rintro c ⟨⟩
      rcases isSpace_iff.mp hspace with rfl | rfl | rfl | rfl
      all_goals exact ⟨rfl, rfl⟩
  | @token token tokens front text written =>
      have hshort := hsign token rfl
      cases written with
      | number => cases hshort
      | string => cases hshort
      | fixed halike =>
          obtain ⟨c, rfl, hc⟩ | ⟨c, word, -, -, hlong⟩ :=
            Token.sign_or_word halike
          · rintro _ ⟨⟩
            exact (sign?_spec hc).2
          · cases hshort.symm.trans hlong

/-- Tokens that do not run into each other, nor into what follows them, are
read as they are written. -/
theorem tokens?_append (h : Laid tokens text) (hapart : Apart tokens)
    (hends : ∀ t ∈ tokens.getLast?, t.isSign = false →
      ∀ c ∈ rest.head?, isNumberChar c = false ∧ c.isAlpha = false) :
    tokens? (text ++ rest) = (tokens? rest).map (tokens ++ ·) := by
  -- a number or a word is cut off right, since what follows starts with a
  -- space or a sign
  induction h with
  | nil => exact Option.map_id'.symm
  | space hspace _ ih =>
      rw [List.cons_append, tokens?_space hspace]
      exact ih hapart hends
  | @token token later front text written laid ih =>
      have hnext : token.isSign = false → ∀ c ∈ (text ++ rest).head?,
          isNumberChar c = false ∧ c.isAlpha = false := by
        intro hlong
        refine laid.head (hapart.next hlong) fun hnil => ?_
        apply hends token _ hlong
        rw [hnil]
        rfl
      have hlater : ∀ t ∈ later.getLast?, t ∈ (token :: later).getLast? := by
        intro t ht
        rw [List.getLast?_cons, Option.mem_def.mp ht]
        rfl
      rw [List.append_assoc, tokens?_token written hnext,
        ih hapart.tail fun t ht => hends t (hlater t ht), Option.map_map]
      rfl

/-- Tokens that do not run into each other are read as they are written. -/
theorem tokens?_of_laid (h : Laid tokens text) (hapart : Apart tokens) :
    tokens? text = some tokens := by
  have hread : tokens? (text ++ []) = (tokens? []).map (tokens ++ ·) :=
    tokens?_append h hapart fun _ _ _ => nofun
  rw [List.append_nil, tokens?, Option.map_some, List.append_nil] at hread
  exact hread

end Texts

end ProofBatch.Json
