/-
The progress line as text: what characters it has, how many, and what can be
read from it.

# Length

A number is as long as its digits, and a greater one has no fewer
(`length_toString_le`). So a count of at most the total is padded to the width
of the total, and the length of the line depends on the total only
(`length_line`).

# Reading

Neither the heading nor the padding has a digit or a slash. Of a line, the
digits and slashes are thus the two numbers with a slash between them
(`figures_line`), whatever the width is, and no digit is a slash.
-/
import Mathlib.Data.List.Basic
import ProofBatch.Progress

namespace ProofBatch.Progress

-- ================================================================= characters

/-- A number is written in digits. -/
theorem isDigit_of_mem_toString {n : Nat} {c : Char}
    (h : c ∈ (toString n).toList) : c.isDigit = true := by
  rw [Nat.toString_eq_repr, Nat.toList_repr] at h
  exact Nat.isDigit_of_mem_toDigits (by decide) (by decide) h

/-- A padded number has spaces and digits. -/
theorem mem_padLeft {width n : Nat} {c : Char}
    (h : c ∈ (padLeft width n).toList) : c = ' ' ∨ c.isDigit = true := by
  unfold padLeft at h
  rw [String.toList_append, String.toList_ofList, List.mem_append] at h
  rcases h with h | h
  · exact .inl (List.eq_of_mem_replicate h)
  · exact .inr (isDigit_of_mem_toString h)

/-- What is neither in the words of a line nor in a padded number is not in the
line. -/
theorem notMem_line {c : Char} (hspace : c ≠ ' ') (hdigit : c.isDigit = false)
    (hheading : c ∉ "Configuring CBMC proofs: ".toList)
    (hbetween : c ∉ " / ".toList) (p : Progress) : c ∉ p.line.toList := by
  have hpad : ∀ width n, c ∉ (padLeft width n).toList := by
    intro width n h
    rcases mem_padLeft h with h | h
    · exact hspace h
    · rw [hdigit] at h
      cases h
  unfold line
  simp only [String.toList_append, List.mem_append, not_or]
  exact ⟨⟨⟨hheading, hpad _ _⟩, hbetween⟩, hpad _ _⟩

/-- A line is no more than one line. -/
theorem lineFeed_notMem_line (p : Progress) : '\n' ∉ p.line.toList :=
  notMem_line (by decide) (by decide) (by decide) (by decide) p

/-- A line does not go back to its own beginning. -/
theorem return_notMem_line (p : Progress) : '\r' ∉ p.line.toList :=
  notMem_line (by decide) (by decide) (by decide) (by decide) p

-- ===================================================================== length

/-- A greater number has no fewer digits. -/
theorem length_toString_le {m n : Nat} (h : m ≤ n) :
    (toString m).length ≤ (toString n).length := by
  have hn : n < 10 ^ (toString n).length :=
    (Nat.length_repr_le_iff Nat.length_repr_pos).mp (Nat.le_refl _)
  exact (Nat.length_repr_le_iff Nat.length_repr_pos).mpr
    (Nat.lt_of_le_of_lt h hn)

/-- Zero has a digit as well. -/
theorem decimalWidth_eq (n : Nat) : decimalWidth n = (toString n).length := by
  unfold decimalWidth
  cases n with
  | zero => simp [Nat.repr_of_lt]
  | succ n => rw [Nat.max_eq_left (Nat.le_add_left 1 n)]

/-- A number that is not too long is as wide as it is meant to be. -/
theorem length_padLeft {width n : Nat} (h : (toString n).length ≤ width) :
    (padLeft width n).length = width := by
  unfold padLeft
  rw [String.length_append, String.length_ofList, List.length_replicate]
  omega

/-- The length of the line of a pass over so many proofs. -/
def lineLength (total : Nat) : Nat :=
  28 + 2 * decimalWidth total

/-- As long as no more is done than there is, the total decides the length. -/
theorem length_line {p : Progress} (hwidth : p.width = decimalWidth p.total)
    (hle : p.complete ≤ p.total) : p.line.length = lineLength p.total := by
  have htotal : (toString p.total).length ≤ p.width :=
    Nat.le_of_eq (by rw [hwidth, decimalWidth_eq])
  have hcomplete : (toString p.complete).length ≤ p.width :=
    Nat.le_trans (length_toString_le hle) htotal
  have hheading : "Configuring CBMC proofs: ".length = 25 := by decide
  have hbetween : " / ".length = 3 := by decide
  unfold line lineLength
  simp only [String.length_append]
  rw [length_padLeft htotal, length_padLeft hcomplete, hheading, hbetween,
    hwidth]
  omega

-- ==================================================================== reading

/-- The digits and slashes of a text. -/
def figures (text : String) : List Char :=
  text.toList.filter fun c => c.isDigit || c == '/'

theorem figures_append (a b : String) :
    figures (a ++ b) = figures a ++ figures b := by
  unfold figures
  rw [String.toList_append, List.filter_append]

/-- Padding adds nothing to the digits of a number. -/
theorem figures_padLeft (width n : Nat) :
    figures (padLeft width n) = (toString n).toList := by
  have hspaces : figures (.ofList (List.replicate
      (width - (toString n).length) ' ')) = [] := by
    unfold figures
    rw [String.toList_ofList, List.filter_eq_nil_iff]
    intro c hc
    rw [List.eq_of_mem_replicate hc]
    decide
  have hdigits : figures (toString n) = (toString n).toList := by
    unfold figures
    rw [List.filter_eq_self]
    intro c hc
    rw [isDigit_of_mem_toString hc]
    rfl
  unfold padLeft
  rw [figures_append, hspaces, hdigits]
  rfl

/-- The figures of a line are its two numbers. -/
theorem figures_line (p : Progress) :
    figures p.line = (toString p.complete).toList
      ++ '/' :: (toString p.total).toList := by
  have hheading : figures "Configuring CBMC proofs: " = [] := by decide
  have hbetween : figures " / " = ['/'] := by decide
  unfold line
  simp only [figures_append, figures_padLeft, hheading, hbetween]
  rw [List.nil_append, List.append_assoc]
  rfl

/-- A number can be read off its digits. -/
theorem toString_injective {m n : Nat}
    (h : (toString m).toList = (toString n).toList) : m = n := by
  rw [Nat.toString_eq_repr, Nat.toList_repr, Nat.toString_eq_repr,
    Nat.toList_repr] at h
  calc m = Nat.ofDigitChars 10 (Nat.toDigits 10 m) 0 :=
        Nat.ofDigitChars_ten_toDigits.symm
    _ = Nat.ofDigitChars 10 (Nat.toDigits 10 n) 0 := by rw [h]
    _ = n := Nat.ofDigitChars_ten_toDigits

/-- A line tells both numbers, however wide they are. -/
theorem line_injective {p q : Progress} (h : p.line = q.line) :
    p.complete = q.complete ∧ p.total = q.total := by
  have hfigures := congrArg figures h
  have hslash : ∀ n : Nat, '/' ∉ (toString n).toList := by
    intro n hmem
    have hdigit := isDigit_of_mem_toString hmem
    cases hdigit
  rw [figures_line, figures_line,
    List.append_cons_inj_of_notMem (hslash _) (hslash _)] at hfigures
  exact ⟨toString_injective hfigures.1, toString_injective hfigures.2.2⟩

end ProofBatch.Progress
