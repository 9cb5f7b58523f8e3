/-
The identifier that a text declares.

# The grammar

Which lines declare an identifier is said without reading them from left to
right (`Declaration`): a line is cut into the name, an equals sign with blanks
around it, the identifier, and a rest that does not continue it. Only one cut
is possible, since no blank is a word character, and reading finds it
(`ofLine?_eq_some_iff`).

# Line endings

A character after the declaration that is no word character belongs to the
rest, whatever it is. So a carriage return at the end of a line has no say, and
it does not matter by which rule it is counted with the line or with its ending
(`declared?_joined`).
-/
import ProofBatch.Identifier
import ProofBatch.Proofs.Text

namespace ProofBatch.Identifier

open ProofBatch.Text

variable {uid line start rest text : List Char} {c : Char}

-- =============================================================== the grammar

/-- A line declares an identifier: the name stands at its first character, an
equals sign follows with blanks around it, and then comes the identifier, a run
of word characters that the rest of the line does not continue. -/
inductive Declaration (uid : List Char) : List Char → Prop
  | intro {before after rest : List Char}
      (before_blank : ∀ c ∈ before, isBlank c = true)
      (after_blank : ∀ c ∈ after, isBlank c = true) (nonempty : uid ≠ [])
      (word : ∀ c ∈ uid, isWord c = true)
      (ends : ∀ c ∈ rest.head?, isWord c = false) :
      Declaration uid
        (keyword ++ (before ++ '=' :: (after ++ (uid ++ rest))))

/-- A line declares some identifier. -/
def IsDeclaration (line : List Char) : Prop :=
  ∃ uid, Declaration uid line

-- ================================================================ one line

/-- What is left after a beginning is what stands behind it. -/
theorem after?_eq_some_iff :
    after? start line = some rest ↔ line = start ++ rest := by
  induction start generalizing line with
  | nil =>
      rw [after?, Option.some_inj]
      rfl
  | cons c start ih =>
      cases line with
      | nil => simp [after?]
      | cons d line =>
          rw [after?, List.cons_append, List.cons.injEq]
          by_cases hcd : c = d
          · rw [if_pos hcd, ih]
            exact ⟨fun h => ⟨hcd.symm, h⟩, fun h => h.2⟩
          · rw [if_neg hcd]
            exact ⟨nofun, fun h => absurd h.1.symm hcd⟩

/-- An identifier does not start with a blank. -/
theorem isBlank_head? (hne : uid ≠ []) (hword : ∀ c ∈ uid, isWord c = true)
    (rest : List Char) : ∀ c ∈ (uid ++ rest).head?, isBlank c = false := by
  obtain ⟨d, tail, rfl⟩ := List.exists_cons_of_ne_nil hne
  rintro _ ⟨⟩
  have hd := hword d (List.mem_cons_self ..)
  by_contra hblank
  rw [isWord_of_isBlank (by simpa using hblank)] at hd
  cases hd

/-- A line that declares an identifier is read so. -/
theorem ofLine?_of_declaration (h : Declaration uid line) :
    ofLine? line = some uid := by
  obtain @⟨before, after, rest, hbefore, hafter, hne, hword, hends⟩ := h
  have hequals : (before ++ '=' :: (after ++ (uid ++ rest))).dropWhile isBlank
      = '=' :: (after ++ (uid ++ rest)) := by
    apply dropWhile_append hbefore
    rintro _ ⟨⟩
    decide
  have hvalue : (after ++ (uid ++ rest)).dropWhile isBlank = uid ++ rest :=
    dropWhile_append hafter (isBlank_head? hne hword rest)
  have huid : (uid ++ rest).takeWhile isWord = uid :=
    takeWhile_append hword hends
  unfold ofLine?
  rw [after?_eq_some_iff.mpr rfl]
  simp only [hequals, hvalue, huid]
  rw [if_neg (by rwa [List.isEmpty_iff])]

/-- A line that is read so declares the identifier. -/
theorem declaration_of_ofLine? (h : ofLine? line = some uid) :
    Declaration uid line := by
  unfold ofLine? at h
  split at h
  next => cases h
  next rest hkeyword =>
    obtain rfl := after?_eq_some_iff.mp hkeyword
    split at h
    next value hequals =>
      dsimp only at h
      split at h
      next => cases h
      next hne =>
        cases h
        have hcut : rest = rest.takeWhile isBlank ++ '='
            :: (value.takeWhile isBlank
              ++ ((value.dropWhile isBlank).takeWhile isWord
                ++ (value.dropWhile isBlank).dropWhile isWord)) := by
          rw [List.takeWhile_append_dropWhile, List.takeWhile_append_dropWhile,
            ← hequals, List.takeWhile_append_dropWhile]
        rw [hcut]
        refine .intro (fun _ => List.mem_takeWhile_imp)
          (fun _ => List.mem_takeWhile_imp) ?_
          (fun _ => List.mem_takeWhile_imp) (head?_dropWhile _)
        rwa [List.isEmpty_iff] at hne
    next => cases h

/-- Reading a line finds what it declares, and nothing else. -/
theorem ofLine?_eq_some_iff : ofLine? line = some uid ↔ Declaration uid line :=
  ⟨declaration_of_ofLine?, ofLine?_of_declaration⟩

/-- A line from which nothing is read declares nothing. -/
theorem ofLine?_eq_none_iff : ofLine? line = none ↔ ¬IsDeclaration line := by
  rw [Option.eq_none_iff_forall_ne_some]
  simp only [ne_eq, ofLine?_eq_some_iff, IsDeclaration, not_exists]

-- ============================================================== lookalikes

/-- A line that looks like a declaration and is none. -/
inductive Lookalike : List Char → Prop
  | indented {c : Char} {rest : List Char} (blank : isBlank c = true) :
      Lookalike (c :: rest)
  | commented {rest : List Char} : Lookalike ('#' :: rest)
  /-- Nothing that could be an identifier follows the equals sign. -/
  | valueless {before after rest : List Char}
      (before_blank : ∀ c ∈ before, isBlank c = true)
      (after_blank : ∀ c ∈ after, isBlank c = true)
      (ends : ∀ c ∈ rest.head?, isBlank c = false ∧ isWord c = false) :
      Lookalike (keyword ++ (before ++ '=' :: (after ++ rest)))
  /-- Something longer than the name is declared. -/
  | longer {c : Char} {rest : List Char} (word : isWord c = true) :
      Lookalike (keyword ++ c :: rest)

theorem ofLine?_of_head {d : Char} (hd : d ≠ 'P') :
    ofLine? (d :: rest) = none := by
  unfold ofLine? keyword
  simp [after?, hd.symm]

/-- A line that only looks like a declaration is none. -/
theorem Lookalike.not_isDeclaration (h : Lookalike line) :
    ¬IsDeclaration line := by
  rw [← ofLine?_eq_none_iff]
  cases h with
  | indented blank =>
      apply ofLine?_of_head
      rintro rfl
      exact absurd blank (by decide)
  | commented => exact ofLine?_of_head (by decide)
  | @valueless before after rest hbefore hafter hends =>
      have hequals : (before ++ '=' :: (after ++ rest)).dropWhile isBlank
          = '=' :: (after ++ rest) := by
        apply dropWhile_append hbefore
        rintro _ ⟨⟩
        decide
      have hvalue : (after ++ rest).dropWhile isBlank = rest :=
        dropWhile_append hafter fun c hc => (hends c hc).1
      have huid : rest.takeWhile isWord = [] := by
        show ([] ++ rest).takeWhile isWord = []
        exact takeWhile_append nofun fun c hc => (hends c hc).2
      unfold ofLine?
      rw [after?_eq_some_iff.mpr rfl]
      simp only [hequals, hvalue, huid]
      rfl
  | @longer c rest word =>
      have hword : ∀ d ∈ [c], isWord d = true :=
        List.forall_mem_singleton.mpr word
      have hdrop : (c :: rest).dropWhile isBlank = c :: rest := by
        show ([] ++ c :: rest).dropWhile isBlank = c :: rest
        exact dropWhile_append nofun
          (isBlank_head? (List.cons_ne_nil c []) hword rest)
      unfold ofLine?
      rw [after?_eq_some_iff.mpr rfl]
      simp only [hdrop]
      split
      next heq =>
        cases heq
        exact absurd word (by decide +kernel)
      next => rfl

-- ============================================================== whole texts

/-- The first line that declares anything counts. -/
theorem declared?_eq_some_iff {text uid : String} :
    declared? text = some uid
      ↔ ∃ earlier line later, lines text.toList = earlier ++ line :: later
        ∧ Declaration uid.toList line ∧ ∀ l ∈ earlier, ¬IsDeclaration l := by
  unfold declared?
  rw [Option.map_eq_some_iff]
  simp only [List.findSome?_eq_some_iff, ofLine?_eq_some_iff,
    ofLine?_eq_none_iff]
  constructor
  · rintro ⟨chars, ⟨earlier, line, later, hlines, hline, hearlier⟩, rfl⟩
    exact ⟨earlier, line, later, hlines, String.toList_ofList.symm ▸ hline,
      hearlier⟩
  · rintro ⟨earlier, line, later, hlines, hline, hearlier⟩
    exact ⟨uid.toList, ⟨earlier, line, later, hlines, hline, hearlier⟩,
      String.ofList_toList⟩

/-- A text declares nothing if none of its lines does. -/
theorem declared?_eq_none_iff {text : String} :
    declared? text = none
      ↔ ∀ line ∈ lines text.toList, ¬IsDeclaration line := by
  unfold declared?
  rw [Option.map_eq_none_iff, List.findSome?_eq_none_iff]
  simp only [ofLine?_eq_none_iff]

/-- What a text declares, by the grammar of its lines. -/
structure Grammar (text : String) : Prop where
  /-- The first line that declares an identifier counts. -/
  declared : ∀ uid, declared? text = some uid
    ↔ ∃ earlier line later, lines text.toList = earlier ++ line :: later
      ∧ Declaration uid.toList line ∧ ∀ l ∈ earlier, ¬IsDeclaration l
  undeclared : declared? text = none
    ↔ ∀ line ∈ lines text.toList, ¬IsDeclaration line
  /-- Nothing is taken from a line that only looks like a declaration, -/
  untaken : (∀ line ∈ lines text.toList, Lookalike line) →
    declared? text = none
  /-- and it hides no declaration after it. -/
  unhidden : ∀ earlier line later uid,
    lines text.toList = earlier ++ line :: later →
    (∀ l ∈ earlier, Lookalike l) → Declaration uid line →
    declared? text = some (String.ofList uid)

/-- The grammar accounts for every text. -/
theorem declared?_grammar (text : String) : Grammar text := by
  constructor
  case declared => exact fun _ => declared?_eq_some_iff
  case undeclared => exact declared?_eq_none_iff
  case untaken =>
    intro h
    rw [declared?_eq_none_iff]
    exact fun line hline => (h line hline).not_isDeclaration
  case unhidden =>
    intro earlier line later uid hlines hearlier hline
    rw [declared?_eq_some_iff]
    refine ⟨earlier, line, later, hlines, ?_, ?_⟩
    · rwa [String.toList_ofList]
    · exact fun l hl => (hearlier l hl).not_isDeclaration

-- ============================================================= line endings

/-- A character at the end of a line that is no word character changes
nothing. -/
theorem Declaration.snoc_iff (hc : isWord c = false) :
    Declaration uid (line ++ [c]) ↔ Declaration uid line := by
  constructor
  · intro h
    generalize hwhole : line ++ [c] = whole at h
    obtain @⟨before, after, rest, hbefore, hafter, hne, hword, hends⟩ := h
    rcases List.eq_nil_or_concat rest with rfl | ⟨tail, d, rfl⟩
    · -- then the identifier would end with it
      obtain ⟨front, d, rfl⟩ := (List.eq_nil_or_concat uid).resolve_left hne
      have hsplit : line ++ [c]
          = keyword ++ (before ++ '=' :: (after ++ front)) ++ [d] := by
        simpa using hwhole
      cases (List.append_inj' hsplit rfl).2
      rw [hword c (by simp)] at hc
      cases hc
    · have hsplit : line ++ [c]
          = keyword ++ (before ++ '=' :: (after ++ (uid ++ tail))) ++ [d] := by
        simpa using hwhole
      rw [(List.append_inj' hsplit rfl).1]
      refine .intro hbefore hafter hne hword fun e he => hends e ?_
      rw [List.concat_eq_append, List.head?_append, Option.mem_def.mp he]
      rfl
  · rintro @⟨before, after, rest, hbefore, hafter, hne, hword, hends⟩
    have hwhole : keyword ++ (before ++ '=' :: (after ++ (uid ++ rest))) ++ [c]
        = keyword ++ (before ++ '='
          :: (after ++ (uid ++ (rest ++ [c])))) := by
      simp
    rw [hwhole]
    refine .intro hbefore hafter hne hword fun d hd => ?_
    cases rest with
    | nil =>
        cases hd
        exact hc
    | cons e rest => exact hends d hd

/-- What comes after an identifier does not matter, if it is no character of
one. -/
theorem ofLine?_snoc (hc : isWord c = false) :
    ofLine? (line ++ [c]) = ofLine? line := by
  apply Option.ext
  intro uid
  rw [ofLine?_eq_some_iff, ofLine?_eq_some_iff, Declaration.snoc_iff hc]

/-- A carriage return at the end of a line does not matter. -/
theorem ofLine?_return (line : List Char) :
    ofLine? (line ++ ['\r']) = ofLine? line :=
  ofLine?_snoc (by decide +kernel)

theorem ofLine?_chomp (line : List Char) :
    ofLine? (chomp line) = ofLine? line := by
  rcases chomp_eq_or line with h | h
  · rw [h]
  · rw [← ofLine?_return, ← h]

/-- The identifier that a text declares, as its characters. -/
def ofText? (text : List Char) : Option (List Char) :=
  (lines text).findSome? ofLine?

theorem declared?_eq (text : String) :
    declared? text = (ofText? text.toList).map String.ofList := rfl

/-- A text of one line is read like that line. -/
theorem ofText?_of_notMem (h : '\n' ∉ line) : ofText? line = ofLine? line := by
  unfold ofText?
  rw [lines_of_notMem h]
  by_cases hline : line = []
  · rw [if_pos hline, hline]
    rfl
  · rw [if_neg hline, List.findSome?_singleton]

/-- A first line that declares anything hides all later ones. -/
theorem ofText?_line_append (h : '\n' ∉ line) (rest : List Char) :
    ofText? (line ++ '\n' :: rest) = (ofLine? line).or (ofText? rest) := by
  unfold ofText?
  rw [lines_append h, List.findSome?_cons, ofLine?_chomp]
  cases ofLine? line <;> rfl

/-- Of two texts on lines of their own the first that declares an identifier
counts. -/
theorem ofText?_append (text later : List Char) :
    ofText? (text ++ '\n' :: later) = (ofText? text).or (ofText? later) := by
  induction text using linesInduction with
  | last line h => rw [ofText?_line_append h, ofText?_of_notMem h]
  | more line rest h ih =>
      rw [List.append_assoc, List.cons_append, ofText?_line_append h, ih,
        ofText?_line_append h, Option.or_assoc]

/-- A carriage return before every line feed. -/
def withReturns (text : List Char) : List Char :=
  text.flatMap fun c => if c = '\n' then ['\r', '\n'] else [c]

theorem withReturns_of_notMem (h : '\n' ∉ line) : withReturns line = line := by
  induction line with
  | nil => rfl
  | cons c rest ih =>
      rw [List.mem_cons, not_or] at h
      have hrest := ih h.2
      unfold withReturns at hrest ⊢
      rw [List.flatMap_cons, hrest, if_neg (Ne.symm h.1)]
      rfl

/-- One is put at the end of each line. -/
theorem withReturns_append (h : '\n' ∉ line) (rest : List Char) :
    withReturns (line ++ '\n' :: rest)
      = (line ++ ['\r']) ++ '\n' :: withReturns rest := by
  have hline := withReturns_of_notMem h
  unfold withReturns at hline ⊢
  rw [List.flatMap_append, hline, List.flatMap_cons, List.append_assoc]
  rfl

/-- With carriage returns or without, the same is read. -/
theorem ofText?_withReturns (text : List Char) :
    ofText? (withReturns text) = ofText? text := by
  induction text using linesInduction with
  | last line h => rw [withReturns_of_notMem h]
  | more line rest h ih =>
      have hreturn : '\n' ∉ line ++ ['\r'] := by
        simpa using h
      rw [withReturns_append h, ofText?_line_append hreturn, ofLine?_return,
        ih, ofText?_line_append h]

/-- Texts can be joined at a line feed, and how their lines end makes no
difference. -/
theorem declared?_joined :
    (∀ a b : String, declared? (a ++ "\n" ++ b)
        = (declared? a).or (declared? b))
      ∧ ∀ text : String,
        declared? (String.ofList (withReturns text.toList))
          = declared? text := by
  constructor
  · intro a b
    have hjoined : (a ++ "\n" ++ b).toList = a.toList ++ '\n' :: b.toList := by
      simp
    rw [declared?_eq, declared?_eq, declared?_eq, hjoined, ofText?_append]
    cases ofText? a.toList <;> rfl
  · intro text
    rw [declared?_eq, declared?_eq, String.toList_ofList, ofText?_withReturns]

end ProofBatch.Identifier
