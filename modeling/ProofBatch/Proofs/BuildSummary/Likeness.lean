/-
Which statuses are counted together.

# Folding

A status is folded by putting its ASCII letters into lower case and a space for
each underscore (`folded`). Nothing that is folded away shows: what becomes of
a character (`image`), and whether the next letter begins a run, can be told
from the folded character. Of the characters of ASCII that is checked one by
one (`forall_ascii`), and no other is folded. So a status looks like the folded
status (`pretty_folded`), and statuses that fold alike look alike.

# ASCII

Of a character of ASCII one character is made, and it folds like the one that
it is made of. So for a status of ASCII nothing else gets lost
(`folded_pretty`), and that its form for people is as long as it, and is its
own form for people, are consequences.

# Counting

A row of the table of statuses counts the pipelines whose statuses look like
its first cell (`counted`). Two pipelines with statuses of ASCII are counted in
one row if and only if their statuses fold alike (`alike_iff_folded`).
-/
import ProofBatch.Proofs.BuildSummary.Tally
import ProofBatch.Proofs.Text

namespace ProofBatch

-- ============================================================= single letters

namespace Text

variable {c : Char}

/-- A text of ASCII. -/
def IsAscii (text : String) : Prop :=
  ∀ c ∈ text.toList, c.toNat < 128

instance (text : String) : Decidable (IsAscii text) :=
  decidable_of_iff ((text.toList.all fun c => decide (c.toNat < 128)) = true)
    (by simp [IsAscii])

/-- What holds of all 128 characters of ASCII holds of each of them. -/
theorem forall_ascii {P : Char → Prop} (h : ∀ n < 128, P (Char.ofNat n))
    (hc : c.toNat < 128) : P c := by
  rw [← Char.ofNat_toNat c]
  exact h c.toNat hc

theorem toNat_lt_of_isAlpha (h : c.isAlpha = true) : c.toNat < 128 := by
  rw [isAlpha_iff] at h
  omega

/-- A character beyond ASCII is no letter of ASCII, and has no case there. -/
theorem toLower_of_not_ascii (hc : ¬c.toNat < 128) : c.toLower = c := by
  refine dif_neg fun h => hc ?_
  have hle : c.toNat ≤ 90 := h.2
  omega

/-- The letters of ASCII are the ones that ASCII has case for. -/
theorem isLetter_eq_isAlpha (h : c.toNat < 128) : isLetter c = c.isAlpha := by
  have hapart : areApart [(0, 127)] letterRanges = true := by decide +kernel
  have hascii : inRanges [(0, 127)] c.toNat = true := by
    rw [inRanges_iff]
    exact ⟨(0, 127), List.mem_singleton_self _, Nat.zero_le _, by omega⟩
  rw [isLetter, inRanges_of_areApart hapart hascii, Bool.or_false]

end Text

namespace Status

open Text

variable {c : Char} {chars : List Char} {first : Bool} {s t : String}

-- ==================================================================== folding

/-- A character with its case, if it is a letter of ASCII, and the difference
between an underscore and a space taken away. -/
def foldChar (c : Char) : Char :=
  if c = '_' then ' ' else c.toLower

/-- A status with its ASCII letters in lower case, and spaces for
underscores. -/
def folded (status : String) : String :=
  .ofList (status.toList.map foldChar)

/-- What becomes of a character. -/
def image (first : Bool) (c : Char) : List Char :=
  if isLetter c then (if first then upper c else lower c)
  else [if c = '_' then ' ' else c]

/-- The next letter begins a run unless a letter stands before it. -/
theorem prettyChars_cons (first : Bool) (c : Char) (rest : List Char) :
    prettyChars first (c :: rest)
      = image first c ++ prettyChars (!isLetter c) rest := by
  rw [prettyChars, image]
  cases isLetter c with
  | true => rfl
  | false => rfl

/-- The character that a character of ASCII becomes. -/
def imageChar (first : Bool) (c : Char) : Char :=
  if c.isAlpha then (if first then c.toUpper else c.toLower)
  else if c = '_' then ' ' else c

theorem image_ascii (h : c.toNat < 128) :
    image first c = [imageChar first c] := by
  rw [image, imageChar, isLetter_eq_isAlpha h, upper, lower, if_pos h,
    if_pos h]
  cases c.isAlpha with
  | true => cases first <;> rfl
  | false => rfl

theorem toNat_foldChar_lt (h : c.toNat < 128) : (foldChar c).toNat < 128 :=
  forall_ascii (P := fun c => (foldChar c).toNat < 128) (by decide +kernel) h

theorem isAlpha_foldChar (h : c.toNat < 128) :
    (foldChar c).isAlpha = c.isAlpha :=
  forall_ascii (P := fun c => (foldChar c).isAlpha = c.isAlpha)
    (by decide +kernel) h

/-- Folding takes away nothing that shows in what becomes of a character. -/
theorem imageChar_foldChar (first : Bool) (h : c.toNat < 128) :
    imageChar first (foldChar c) = imageChar first c :=
  forall_ascii (P := fun c => ∀ first,
      imageChar first (foldChar c) = imageChar first c)
    (by decide +kernel) h first

/-- Nothing beyond ASCII is folded. -/
theorem foldChar_of_not_ascii (hc : ¬c.toNat < 128) : foldChar c = c := by
  rw [foldChar, toLower_of_not_ascii hc, if_neg]
  rintro rfl
  exact hc (by decide)

/-- Folding makes and unmakes no letters, of ASCII or not. -/
theorem isLetter_foldChar (c : Char) : isLetter (foldChar c) = isLetter c := by
  by_cases hc : c.toNat < 128
  · rw [isLetter_eq_isAlpha hc, isLetter_eq_isAlpha (toNat_foldChar_lt hc),
      isAlpha_foldChar hc]
  · rw [foldChar_of_not_ascii hc]

/-- What becomes of a character can be told when it is folded. -/
theorem image_foldChar (first : Bool) (c : Char) :
    image first (foldChar c) = image first c := by
  by_cases hc : c.toNat < 128
  · rw [image_ascii hc, image_ascii (toNat_foldChar_lt hc),
      imageChar_foldChar first hc]
  · rw [foldChar_of_not_ascii hc]

/-- What becomes of some characters can be told when they are folded, as runs
of letters stay runs. -/
theorem prettyChars_map_foldChar (first : Bool) (chars : List Char) :
    prettyChars first (chars.map foldChar) = prettyChars first chars := by
  induction chars generalizing first with
  | nil => rfl
  | cons c rest ih =>
      rw [List.map_cons, prettyChars_cons, prettyChars_cons, image_foldChar,
        isLetter_foldChar, ih]

/-- A status looks like the folded status. -/
theorem pretty_folded (s : String) : pretty (folded s) = pretty s := by
  rw [pretty, folded, String.toList_ofList, prettyChars_map_foldChar]
  rfl

/-- Statuses that fold alike look alike. -/
theorem pretty_eq_of_folded_eq (h : folded s = folded t) :
    pretty s = pretty t := by
  rw [← pretty_folded s, h, pretty_folded]

-- ====================================================================== ASCII

/-- A character of ASCII folds like what it becomes. -/
theorem foldChar_imageChar (first : Bool) (h : c.toNat < 128) :
    foldChar (imageChar first c) = foldChar c :=
  forall_ascii (P := fun c => ∀ first,
    foldChar (imageChar first c) = foldChar c) (by decide +kernel) h first

/-- A letter becomes a letter, and nothing else does. -/
theorem isAlpha_imageChar (first : Bool) (h : c.toNat < 128) :
    (imageChar first c).isAlpha = c.isAlpha :=
  forall_ascii (P := fun c => ∀ first,
    (imageChar first c).isAlpha = c.isAlpha) (by decide +kernel) h first

theorem toNat_imageChar_lt (first : Bool) (h : c.toNat < 128) :
    (imageChar first c).toNat < 128 :=
  forall_ascii (P := fun c => ∀ first, (imageChar first c).toNat < 128)
    (by decide +kernel) h first

/-- The first of some characters of ASCII gives one character, and tells
whether the next begins a run. -/
theorem prettyChars_ascii_cons (h : c.toNat < 128) (rest : List Char) :
    prettyChars first (c :: rest)
      = imageChar first c :: prettyChars (!c.isAlpha) rest := by
  rw [prettyChars_cons, image_ascii h, isLetter_eq_isAlpha h]
  rfl

/-- Characters of ASCII fold like what they become. -/
theorem map_foldChar_prettyChars (h : ∀ c ∈ chars, c.toNat < 128) :
    (prettyChars first chars).map foldChar = chars.map foldChar := by
  induction chars generalizing first with
  | nil => rfl
  | cons c rest ih =>
      obtain ⟨hc, hrest⟩ := List.forall_mem_cons.mp h
      rw [prettyChars_ascii_cons hc, List.map_cons, List.map_cons,
        foldChar_imageChar first hc, ih hrest]

theorem forall_mem_prettyChars_lt (h : ∀ c ∈ chars, c.toNat < 128) :
    ∀ c ∈ prettyChars first chars, c.toNat < 128 := by
  induction chars generalizing first with
  | nil => exact fun c hc => absurd hc List.not_mem_nil
  | cons c rest ih =>
      obtain ⟨hc, hrest⟩ := List.forall_mem_cons.mp h
      rw [prettyChars_ascii_cons hc]
      exact List.forall_mem_cons.mpr ⟨toNat_imageChar_lt first hc, ih hrest⟩

/-- A status of ASCII folds like its form for people. -/
theorem folded_pretty (h : IsAscii s) : folded (pretty s) = folded s := by
  rw [folded, pretty, String.toList_ofList, map_foldChar_prettyChars h]
  rfl

/-- A status of ASCII that is put for people is its own form for people. -/
theorem pretty_pretty (h : IsAscii s) : pretty (pretty s) = pretty s :=
  pretty_eq_of_folded_eq (folded_pretty h)

theorem length_folded (s : String) : (folded s).length = s.length := by
  rw [folded, String.length_ofList, List.length_map, String.length_toList]

/-- The form for people of a status of ASCII is as long as the status. -/
theorem length_pretty (h : IsAscii s) : (pretty s).length = s.length := by
  rw [← length_folded, folded_pretty h, length_folded]

/-- A letter that follows a letter is in lower case, and every other letter is
in upper case. -/
structure IsTitled (chars : List Char) : Prop where
  follows : ∀ front b c rest, chars = front ++ b :: c :: rest →
    isLetter b = true → isLetter c = true → c.isLower = true
  begins : ∀ front c rest, chars = front ++ c :: rest →
    (∀ b ∈ front.getLast?, isLetter b = false) →
    isLetter c = true → c.isUpper = true

/-- Whether a letter that stands behind some others begins a run, if one
without any before it does so. -/
def beginsRun (first : Bool) (front : List Char) : Bool :=
  (front.getLast?.map fun b => !b.isAlpha).getD first

/-- What stands in front of all others counts only for what is next to it. -/
theorem beginsRun_cons (first : Bool) (b : Char) (front : List Char) :
    beginsRun first (b :: front) = beginsRun (!b.isAlpha) front := by
  unfold beginsRun
  rw [List.getLast?_cons]
  cases front.getLast? with
  | none => rfl
  | some d => rfl

/-- The case of a letter is the one it is to have. -/
theorem case_imageChar (first : Bool) (h : c.isAlpha = true) :
    if first then (imageChar first c).isUpper = true
    else (imageChar first c).isLower = true :=
  forall_ascii (P := fun c => c.isAlpha = true → ∀ first,
      if first then (imageChar first c).isUpper = true
      else (imageChar first c).isLower = true)
    (by decide +kernel) (toNat_lt_of_isAlpha h) h first

/-- A letter is in upper case if it begins a run, and else in lower case. -/
theorem case_prettyChars {front rest : List Char}
    (h : ∀ c ∈ chars, c.toNat < 128)
    (hsplit : prettyChars first chars = front ++ c :: rest)
    (hc : c.isAlpha = true) :
    if beginsRun first front then c.isUpper = true else c.isLower = true := by
  induction chars generalizing first front with
  | nil => simp [prettyChars] at hsplit
  | cons d tail ih =>
      obtain ⟨hd, htail⟩ := List.forall_mem_cons.mp h
      rw [prettyChars_ascii_cons hd] at hsplit
      cases front with
      | nil =>
          obtain ⟨hhead, -⟩ := List.cons.inj hsplit
          rw [← hhead] at hc ⊢
          rw [isAlpha_imageChar first hd] at hc
          exact case_imageChar first hc
      | cons b front =>
          obtain ⟨hhead, hmore⟩ := List.cons.inj hsplit
          rw [beginsRun_cons, ← hhead, isAlpha_imageChar first hd]
          exact ih htail hmore

/-- The form for people of a status of ASCII is titled. -/
theorem isTitled_pretty (h : IsAscii s) : IsTitled (pretty s).toList := by
  rw [pretty, String.toList_ofList]
  have hletter : ∀ b ∈ prettyChars true s.toList, isLetter b = b.isAlpha :=
    fun b hb => isLetter_eq_isAlpha (forall_mem_prettyChars_lt h b hb)
  constructor
  case follows =>
    intro front b c rest hsplit hb hc
    rw [hletter b (by simp [hsplit])] at hb
    rw [hletter c (by simp [hsplit])] at hc
    rw [List.append_cons] at hsplit
    have hcase := case_prettyChars h hsplit hc
    have hruns : beginsRun true (front ++ [b]) = false := by
      simp [beginsRun, hb]
    rw [hruns] at hcase
    exact hcase
  case begins =>
    intro front c rest hsplit hfront hc
    rw [hletter c (by simp [hsplit])] at hc
    have hcase := case_prettyChars h hsplit hc
    have hruns : beginsRun true front = true := by
      unfold beginsRun
      cases hlast : front.getLast? with
      | none => rfl
      | some b =>
          have hb := hfront b hlast
          rw [hletter b (by simp [hsplit, List.mem_of_getLast? hlast])] at hb
          simp [hb]
    rw [hruns] at hcase
    exact hcase

end Status

namespace BuildSummary

open Status Text

variable {run : BuildRecord} {row : Table.Row} {p q : Pipeline}

-- =================================================================== counting

/-- The pipelines that a row of the table of statuses counts. -/
def counted (run : BuildRecord) (row : Table.Row) : List Pipeline :=
  run.pipelines.filter fun p => row[0]? == some (pretty p.status)

theorem mem_counted :
    p ∈ counted run row
      ↔ p ∈ run.pipelines ∧ row[0]? = some (pretty p.status) := by
  rw [counted, List.mem_filter, beq_iff_eq]

/-- A row has the number of the pipelines that it counts. -/
theorem length_counted (h : row ∈ (statusTable run).tail) :
    row[1]? = some (toString (counted run row).length) := by
  obtain ⟨e, he, rfl⟩ := List.mem_map.mp h
  have hcount := (tallied_tally (run.pipelines.map statusOf)).counted e he
  have hlength : (counted run [e.1, toString e.2]).length
      = (run.pipelines.map statusOf).count e.1 := by
    rw [counted, ← List.countP_eq_length_filter, List.count, List.countP_map]
    refine List.countP_congr fun p _ => ?_
    show (some e.1 == some (statusOf p)) = true ↔ (statusOf p == e.1) = true
    rw [beq_iff_eq, beq_iff_eq, Option.some_inj, eq_comm]
  show some (toString e.2) = _
  rw [hlength, hcount]

/-- Every pipeline is counted in a row. -/
theorem exists_row (h : p ∈ run.pipelines) :
    ∃ row ∈ (statusTable run).tail, row[0]? = some (pretty p.status) := by
  have hlisted :
      statusOf p ∈ (tally (run.pipelines.map statusOf)).map Prod.fst :=
    ((tallied_tally _).listed _).mpr (List.mem_map_of_mem h)
  obtain ⟨e, he, hkey⟩ := List.mem_map.mp hlisted
  refine ⟨[e.1, toString e.2], List.mem_map.mpr ⟨e, he, rfl⟩, ?_⟩
  show some e.1 = some (statusOf p)
  rw [hkey]

/-- One row counts both pipelines. -/
def CountedTogether (run : BuildRecord) (p q : Pipeline) : Prop :=
  ∃ row ∈ (statusTable run).tail, p ∈ counted run row ∧ q ∈ counted run row

/-- Two pipelines are counted in one row if and only if their statuses look
alike. -/
theorem countedTogether_iff (hp : p ∈ run.pipelines) (hq : q ∈ run.pipelines) :
    CountedTogether run p q ↔ pretty p.status = pretty q.status := by
  constructor
  · intro h
    obtain ⟨row, -, hrow, hrow'⟩ := h
    rw [mem_counted] at hrow hrow'
    exact Option.some.inj (hrow.2.symm.trans hrow'.2)
  · intro h
    obtain ⟨row, hmem, hkey⟩ := exists_row hp
    have hkey' := hkey
    rw [h] at hkey'
    exact ⟨row, hmem, mem_counted.mpr ⟨hp, hkey⟩, mem_counted.mpr ⟨hq, hkey'⟩⟩

/-- Statuses that fold alike look alike. Those of ASCII look alike only then,
and are as long and titled when people see them, however often they are put for
people; a row of the table counts two of them if and only if they fold
alike. -/
theorem alike_iff_folded :
    (∀ s t, folded s = folded t → pretty s = pretty t)
      ∧ (∀ s t, IsAscii s → IsAscii t → pretty s = pretty t
        → folded s = folded t)
      ∧ (∀ s, IsAscii s → (pretty s).length = s.length
        ∧ pretty (pretty s) = pretty s ∧ IsTitled (pretty s).toList)
      ∧ ∀ run : BuildRecord,
        (∀ row ∈ (statusTable run).tail,
          row[1]? = some (toString (counted run row).length))
        ∧ ∀ p ∈ run.pipelines, ∀ q ∈ run.pipelines,
          IsAscii p.status → IsAscii q.status →
          (CountedTogether run p q ↔ folded p.status = folded q.status) := by
  have hconverse : ∀ s t, IsAscii s → IsAscii t → pretty s = pretty t →
      folded s = folded t := by
    intro s t hs ht h
    rw [← folded_pretty hs, h, folded_pretty ht]
  refine ⟨fun s t => pretty_eq_of_folded_eq, hconverse, ?_, ?_⟩
  · intro s hs
    exact ⟨length_pretty hs, pretty_pretty hs, isTitled_pretty hs⟩
  · intro run
    refine ⟨fun row hrow => length_counted hrow, ?_⟩
    intro p hp q hq hpascii hqascii
    rw [countedTogether_iff hp hq]
    constructor
    · exact hconverse _ _ hpascii hqascii
    · exact pretty_eq_of_folded_eq

/-- Three ways to write two statuses. -/
def respelled : BuildRecord :=
  ⟨[⟨"a", "fail_IGNORED"⟩, ⟨"b", "fail-ignored"⟩, ⟨"c", "Fail ignored"⟩]⟩

theorem alike_iff_folded_respelled :
    IsAscii "fail_IGNORED" ∧ IsAscii "fail-ignored" ∧ IsAscii "Fail ignored"
      ∧ folded "fail_IGNORED" = folded "Fail ignored"
      ∧ pretty "fail_IGNORED" = pretty "Fail ignored"
      ∧ IsTitled (pretty "fail_IGNORED").toList
      ∧ CountedTogether respelled ⟨"a", "fail_IGNORED"⟩ ⟨"c", "Fail ignored"⟩
      ∧ ¬CountedTogether respelled ⟨"a", "fail_IGNORED"⟩
        ⟨"b", "fail-ignored"⟩ := by
  obtain ⟨hpretty, -, hascii, hrun⟩ := alike_iff_folded
  have ha : IsAscii "fail_IGNORED" := by decide
  have hb : IsAscii "fail-ignored" := by decide
  have hc : IsAscii "Fail ignored" := by decide
  have hfold : folded "fail_IGNORED" = folded "Fail ignored" := by decide
  have hne : folded "fail_IGNORED" ≠ folded "fail-ignored" := by decide
  have htogether :=
    (hrun respelled).2 ⟨"a", "fail_IGNORED"⟩ (by simp [respelled])
  refine ⟨ha, hb, hc, hfold, hpretty _ _ hfold, (hascii _ ha).2.2, ?_, ?_⟩
  · rw [htogether ⟨"c", "Fail ignored"⟩ (by simp [respelled]) ha hc]
    exact hfold
  · rw [htogether ⟨"b", "fail-ignored"⟩ (by simp [respelled]) ha hb]
    exact hne

end BuildSummary

end ProofBatch
