/-
Texts: their lines, runs of characters in them, and the classes of characters.

# Lines

A text is one line without a line feed, or such a line, a line feed and another
text (`linesInduction`). What its lines are is said by one equation for each of
the two, and nobody has to go from character to character.

# Classes

No character is both a blank and a word character. The tables say so: no range
of one meets a range of the other.
-/
import Mathlib.Data.List.TakeWhile
import ProofBatch.Text.Blank
import ProofBatch.Text.Lines
import ProofBatch.Text.Word

namespace ProofBatch.Text

variable {line rest : List Char} {c : Char}

-- ==================================================================== lines

/-- A line without the carriage return at its end, if it has one. -/
def chomp : List Char → List Char
  | [] => []
  | ['\r'] => []
  | c :: rest => c :: chomp rest

/-- Only the last character of a line can be cut. -/
theorem chomp_cons (h : c = '\r' → rest ≠ []) :
    chomp (c :: rest) = c :: chomp rest := by
  rw [chomp]
  intro hc hrest
  exact h hc hrest

/-- Nothing but a carriage return is ever cut. -/
theorem chomp_eq_or (line : List Char) :
    chomp line = line ∨ line = chomp line ++ ['\r'] := by
  fun_induction chomp line with
  | case1 => exact .inl rfl
  | case2 => exact .inr rfl
  | case3 c rest _ ih =>
      rcases ih with ih | ih
      · exact .inl (congrArg (c :: ·) ih)
      · exact .inr (congrArg (c :: ·) ih)

theorem lines_cons (hc : c ≠ '\n') (hr : c = '\r' → rest.head? ≠ some '\n') :
    lines (c :: rest) = consLine c (lines rest) := by
  rw [lines]
  · exact hc
  · rintro tail rfl rfl
    exact hr rfl rfl

/-- A text without a line feed is one line, if it is anything. -/
theorem lines_of_notMem (h : '\n' ∉ line) :
    lines line = if line = [] then [] else [line] := by
  induction line with
  | nil => rfl
  | cons c rest ih =>
      rw [List.mem_cons, not_or] at h
      have hrest := ih h.2
      rw [lines_cons (Ne.symm h.1) fun _ hhead =>
        h.2 (List.mem_of_mem_head? hhead), hrest]
      cases rest <;> rfl

/-- A line feed ends a line, and a carriage return before it counts with it. -/
theorem lines_append (h : '\n' ∉ line) (rest : List Char) :
    lines (line ++ '\n' :: rest) = chomp line :: lines rest := by
  induction line with
  | nil => rfl
  | cons c tail ih =>
      rw [List.mem_cons, not_or] at h
      by_cases hend : c = '\r' ∧ tail = []
      · obtain ⟨rfl, rfl⟩ := hend
        rfl
      · have hhead : c = '\r' → (tail ++ '\n' :: rest).head? ≠ some '\n' := by
          rintro rfl
          cases tail with
          | nil => exact absurd ⟨rfl, rfl⟩ hend
          | cons d tail =>
              rintro ⟨⟩
              exact h.2 (List.mem_cons_self ..)
        rw [List.cons_append, lines_cons (Ne.symm h.1) hhead, ih h.2, consLine,
          chomp_cons fun hc htail => hend ⟨hc, htail⟩]

/-- What is so of a single line, and of a line put before a text that it is so
of, is so of every text. -/
theorem linesInduction {motive : List Char → Prop}
    (last : ∀ line, '\n' ∉ line → motive line)
    (more : ∀ line rest, '\n' ∉ line → motive rest →
      motive (line ++ '\n' :: rest))
    (text : List Char) : motive text := by
  induction hlength : text.length using Nat.strongRecOn generalizing text with
  | ind n ih =>
      by_cases hmem : '\n' ∈ text
      · obtain ⟨line, rest, rfl, hline⟩ := List.eq_append_cons_of_mem hmem
        refine more line rest hline (ih rest.length ?_ rest rfl)
        rw [← hlength, List.length_append, List.length_cons]
        omega
      · exact last text hmem

-- ==================================================================== runs

section Runs

variable {p : Char → Bool} {front back : List Char}

/-- A run that what follows does not continue is cut off whole. -/
theorem takeWhile_append (hfront : ∀ c ∈ front, p c = true)
    (hback : ∀ c ∈ back.head?, p c = false) :
    (front ++ back).takeWhile p = front := by
  rw [List.takeWhile_append_of_pos hfront]
  cases back with
  | nil => exact List.append_nil front
  | cons c back => simp [hback c rfl]

/-- What is dropped ends where a character stays. -/
theorem dropWhile_append (hfront : ∀ c ∈ front, p c = true)
    (hback : ∀ c ∈ back.head?, p c = false) :
    (front ++ back).dropWhile p = back := by
  rw [List.dropWhile_append_of_pos hfront]
  cases back with
  | nil => rfl
  | cons c back => simp [hback c rfl]

/-- What is left when a run is cut off does not continue it. -/
theorem head?_dropWhile (text : List Char) :
    ∀ c ∈ (text.dropWhile p).head?, p c = false := by
  intro c hc
  have h := List.head?_dropWhile_not p text
  rw [Option.mem_def.mp hc] at h
  exact h

end Runs

-- ================================================================== classes

/-- Two tables have no code point in common. -/
def areApart (table table' : List (Nat × Nat)) : Bool :=
  table.all fun r => table'.all fun s =>
    decide (r.2 < s.1) || decide (s.2 < r.1)

/-- Nothing is in two tables that are apart. -/
theorem inRanges_of_areApart {table table' : List (Nat × Nat)} {n : Nat}
    (h : areApart table table' = true) (hn : inRanges table n = true) :
    inRanges table' n = false := by
  obtain ⟨r, hr, hlow, hhigh⟩ := inRanges_iff.mp hn
  rw [← Bool.not_eq_true, inRanges_iff]
  rintro ⟨s, hs, hlow', hhigh'⟩
  have hrs := List.all_eq_true.mp (List.all_eq_true.mp h r hr) s hs
  simp only [Bool.or_eq_true, decide_eq_true_eq] at hrs
  omega

theorem isDigit_iff : c.isDigit = true ↔ 0x30 ≤ c.toNat ∧ c.toNat ≤ 0x39 := by
  simp only [Char.isDigit, Bool.and_eq_true, decide_eq_true_eq, ge_iff_le,
    UInt32.le_iff_toNat_le]
  rfl

theorem isAlpha_iff :
    c.isAlpha = true ↔ (0x41 ≤ c.toNat ∧ c.toNat ≤ 0x5A)
      ∨ (0x61 ≤ c.toNat ∧ c.toNat ≤ 0x7A) := by
  show (decide (0x41 ≤ c.val ∧ c.val ≤ 0x5A)
    || (decide (0x61 ≤ c.val) && decide (c.val ≤ 0x7A))) = true ↔ _
  simp only [Bool.or_eq_true, Bool.and_eq_true, decide_eq_true_eq,
    UInt32.le_iff_toNat_le]
  rfl

/-- The code points of ASCII that are word characters. -/
def asciiWordRanges : List (Nat × Nat) :=
  [(0x30, 0x39), (0x41, 0x5A), (0x5F, 0x5F), (0x61, 0x7A)]

/-- A word character stands in one of three tables. -/
theorem isWord_iff :
    isWord c = true ↔ inRanges asciiWordRanges c.toNat = true
      ∨ inRanges letterRanges c.toNat = true
      ∨ inRanges wordMarkRanges c.toNat = true := by
  have hunderscore : c = '_' ↔ c.toNat = 0x5F := by
    rw [← Char.toNat_inj]
    rfl
  have hascii : inRanges asciiWordRanges c.toNat = true
      ↔ c.isDigit = true ∨ c = '_' ∨ c.isAlpha = true := by
    rw [isDigit_iff, isAlpha_iff, hunderscore]
    simp only [inRanges, asciiWordRanges, List.any_cons, List.any_nil,
      Bool.or_eq_true, Bool.and_eq_true, decide_eq_true_eq, Bool.or_false]
    omega
  simp only [isWord, isLetter, Bool.or_eq_true, beq_iff_eq, hascii, or_assoc]

/-- No blank is a word character. -/
theorem isWord_of_isBlank (h : isBlank c = true) : isWord c = false := by
  have hascii : areApart blankRanges asciiWordRanges = true := by decide
  have hletter : areApart blankRanges letterRanges = true := by decide +kernel
  have hmark : areApart blankRanges wordMarkRanges = true := by decide +kernel
  rw [← Bool.not_eq_true, isWord_iff, inRanges_of_areApart hascii h,
    inRanges_of_areApart hletter h, inRanges_of_areApart hmark h]
  simp

end ProofBatch.Text
