/-
Statuses for people: which characters they can have.

Upper and lower case turn characters into others, but some characters come from
none but themselves (`IsApart`). A table of cases shows that a code point is
none of its images (`isMissed`), run by run and without going through the
characters of a run. A bar and a line feed are apart, so a status for people
has one only if the status has it (`notMem_pretty`).
-/
import Mathlib.Data.List.Basic
import ProofBatch.Status

namespace ProofBatch

namespace Text

variable {n m : Nat} {runs : List (Nat × Nat × Nat × Nat)}
  {expansions : List (Nat × List Nat)} {c d : Char}

/-- No entry of the tables has the code point as an image. -/
def isMissed (n : Nat) (runs : List (Nat × Nat × Nat × Nat))
    (expansions : List (Nat × List Nat)) : Bool :=
  runs.all (fun r => decide (n < r.2.2.2)
      || decide (r.2.2.2 + (r.2.1 - r.1) < n))
    && expansions.all fun e => !e.2.contains n

/-- If no run and no expansion leads to a code, only that code itself does. -/
theorem notMem_caseImage (h : isMissed n runs expansions = true) (hm : m ≠ n) :
    n ∉ caseImage runs expansions m := by
  obtain ⟨hruns, hexpansions⟩ := Bool.and_eq_true_iff.mp h
  unfold caseImage
  split
  next image hlookup =>
    obtain ⟨before, after, rfl, _⟩ := List.lookup_eq_some_iff.mp hlookup
    have hno := List.all_eq_true.mp hexpansions (m, image) (by simp)
    simpa using hno
  next =>
    split
    next r hfind =>
      have hr := List.all_eq_true.mp hruns r (List.mem_of_find?_eq_some hfind)
      have hrange := List.find?_some hfind
      simp only [Bool.and_eq_true, decide_eq_true_eq] at hrange
      simp only [Bool.or_eq_true, decide_eq_true_eq] at hr
      rw [List.mem_singleton]
      omega
    next => exact fun hmem => hm (List.mem_singleton.mp hmem).symm

/-- A character that comes from no other by upper or lower case. -/
def IsApart (c : Char) : Prop :=
  ∀ d, c ∈ upper d ∨ c ∈ lower d → d = c

theorem eq_of_mem_caseImage (hc : c ≠ '\x00')
    (h : isMissed c.toNat runs expansions = true)
    (hmem : c ∈ (caseImage runs expansions d.toNat).map Char.ofNat) :
    d = c := by
  obtain ⟨k, hk, rfl⟩ := List.mem_map.mp hmem
  have hvalid : (Char.ofNat k).toNat = k := by
    by_cases hk : k.isValidChar
    · rw [Char.ofNat, dif_pos hk]
      rfl
    · rw [Char.ofNat, dif_neg hk] at hc
      exact absurd rfl hc
  by_contra hne
  rw [hvalid] at h
  refine notMem_caseImage h (fun heq => hne ?_) hk
  rw [← heq, Char.ofNat_toNat]

/-- A character that both tables miss, and that is no case of a letter of
ASCII, is made of nothing but itself. -/
theorem isApart_of_isMissed (hc : c ≠ '\x00')
    (hupper : isMissed c.toNat upperRuns upperExpansions = true)
    (hlower : isMissed c.toNat lowerRuns lowerExpansions = true)
    (hascii : ∀ k < 128, c = (Char.ofNat k).toUpper
      ∨ c = (Char.ofNat k).toLower →
      Char.ofNat k = c) : IsApart c := by
  intro d hd
  unfold upper lower at hd
  by_cases hsmall : d.toNat < 128
  · rw [if_pos hsmall, if_pos hsmall, List.mem_singleton, List.mem_singleton]
      at hd
    have := hascii d.toNat hsmall
    rw [Char.ofNat_toNat] at this
    exact this hd
  · rw [if_neg hsmall, if_neg hsmall] at hd
    exact hd.elim (eq_of_mem_caseImage hc hupper)
      (eq_of_mem_caseImage hc hlower)

/-- No letter becomes a bar. -/
theorem isApart_bar : IsApart '|' :=
  isApart_of_isMissed (by decide) (by decide +kernel) (by decide +kernel)
    (by decide +kernel)

/-- No letter becomes a line feed. -/
theorem isApart_lineFeed : IsApart '\n' :=
  isApart_of_isMissed (by decide) (by decide +kernel) (by decide +kernel)
    (by decide +kernel)

end Text

namespace Status

open Text

variable {c : Char}

/-- A character of a status for people that comes from none but itself is one
of the status; only spaces are put in for another. -/
theorem mem_of_mem_prettyChars (hc : IsApart c) (hspace : c ≠ ' ')
    {first : Bool}
    {chars : List Char} (h : c ∈ prettyChars first chars) : c ∈ chars := by
  induction chars generalizing first with
  | nil => exact h
  | cons d rest ih =>
      rw [prettyChars] at h
      split at h
      · rcases List.mem_append.mp h with hcase | hrest
        · have hd : d = c := by
            apply hc d
            cases first with
            | true => exact .inl hcase
            | false => exact .inr hcase
          exact hd ▸ List.mem_cons_self ..
        · exact List.mem_cons_of_mem _ (ih hrest)
      · rcases List.mem_cons.mp h with heq | hrest
        · split at heq
          · exact absurd heq hspace
          · exact heq ▸ List.mem_cons_self ..
        · exact List.mem_cons_of_mem _ (ih hrest)

/-- So a status has no such character for people that it did not have
before. -/
theorem notMem_pretty {status : String} (hc : IsApart c) (hspace : c ≠ ' ')
    (h : c ∉ status.toList) : c ∉ (pretty status).toList := by
  rw [pretty, String.toList_ofList]
  exact fun hmem => h (mem_of_mem_prettyChars hc hspace hmem)

end Status

end ProofBatch
