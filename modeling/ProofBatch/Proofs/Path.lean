/-
Paths that grow name by name.

A walk reaches everything below a directory by joining one name after the other
(`Path.under`). Each join adds exactly one part (`parts_join`), so the places
below a directory and their paths correspond one to one, also when paths count
as equal that only have the same parts (`same_under_iff`).
-/
import ProofBatch.Path

namespace ProofBatch

-- ================================================================ plain names

/-- A name that stands for itself in a path. -/
structure PlainName (name : String) : Prop where
  nonempty : name ≠ ""
  unbroken : '/' ∉ name.toList
  not_here : name ≠ "."
  not_above : name ≠ ".."

instance (name : String) : Decidable (PlainName name) :=
  decidable_of_iff
    (name ≠ "" ∧ '/' ∉ name.toList ∧ name ≠ "." ∧ name ≠ "..")
    ⟨fun ⟨h₁, h₂, h₃, h₄⟩ => ⟨h₁, h₂, h₃, h₄⟩,
      fun h => ⟨h.nonempty, h.unbroken, h.not_here, h.not_above⟩⟩

/-- A plain name is no absolute path. -/
theorem PlainName.head?_ne {name : String} (h : PlainName name) :
    name.toList.head? ≠ some '/' := by
  intro hhead
  exact h.unbroken (List.mem_of_mem_head? hhead)

namespace Path

variable {p : Path} {name : String} {steps : List String}

-- ===================================================================== pieces

theorem splitSlash_ne_nil (l : List Char) : splitSlash l ≠ [] := by
  cases l with
  | nil => exact List.cons_ne_nil _ _
  | cons c rest =>
      rw [splitSlash]
      split
      · exact List.cons_ne_nil _ _
      · split <;> exact List.cons_ne_nil _ _

/-- A text without a separator is one piece. -/
theorem splitSlash_of_notMem {l : List Char} (h : '/' ∉ l) :
    splitSlash l = [l] := by
  induction l with
  | nil => rfl
  | cons c rest ih =>
      obtain ⟨hc, hrest⟩ := not_or.mp (mt List.mem_cons.mpr h)
      rw [splitSlash, if_neg (Ne.symm hc), ih hrest]

/-- A separator cuts a text in two. -/
theorem splitSlash_append_slash (l m : List Char) :
    splitSlash (l ++ '/' :: m) = splitSlash l ++ splitSlash m := by
  induction l with
  | nil => rfl
  | cons c rest ih =>
      rw [List.cons_append, splitSlash, splitSlash, ih]
      by_cases hc : c = '/'
      · rw [if_pos hc, if_pos hc, List.cons_append]
      · rw [if_neg hc, if_neg hc]
        cases hrest : splitSlash rest with
        | nil => exact absurd hrest (splitSlash_ne_nil rest)
        | cons piece pieces => rfl

/-- The pieces of a path that stay when a name is joined to it: an empty piece
at its end makes room for the name. -/
def stem (p : Path) : List String :=
  if p.text.toList.getLast? = none ∨ p.text.toList.getLast? = some '/' then
    p.pieces.dropLast
  else p.pieces

/-- All pieces but one that stands empty at the end. -/
theorem pieces_eq_stem (p : Path) :
    p.pieces = p.stem ∨ p.pieces = p.stem ++ [""] := by
  unfold stem
  split
  next h =>
    right
    rcases h with hnone | hslash
    · rw [pieces, List.getLast?_eq_none_iff.mp hnone]
      rfl
    · obtain ⟨l, hl⟩ := List.getLast?_eq_some_iff.mp hslash
      rw [pieces, hl, splitSlash_append_slash, List.map_append]
      exact congrArg (· ++ [""]) List.dropLast_concat.symm
  next => exact .inl rfl

/-- Joined with a name, a path has that name as its last piece, after those
that count. -/
theorem pieces_join (h : PlainName name) :
    (p.join name).pieces = p.stem ++ [name] := by
  have hone : splitSlash name.toList = [name.toList] :=
    splitSlash_of_notMem h.unbroken
  have hback : [name.toList].map String.ofList = [name] := by
    rw [List.map_singleton, String.ofList_toList]
  unfold join stem
  rw [if_neg h.head?_ne]
  split
  next hlast =>
    rcases hlast with hnone | hslash
    · have htext := List.getLast?_eq_none_iff.mp hnone
      simp only [pieces, String.toList_append, htext, List.nil_append, hone]
      rw [hback]
      rfl
    · obtain ⟨l, hl⟩ := List.getLast?_eq_some_iff.mp hslash
      simp only [pieces, String.toList_append, hl, List.append_assoc,
        List.singleton_append, splitSlash_append_slash, hone]
      rw [List.map_append, List.map_append, hback]
      exact congrArg (· ++ [name]) List.dropLast_concat.symm
  next =>
    simp only [pieces, String.toList_append]
    rw [show ("/" : String).toList = ['/'] from rfl, List.append_assoc,
      List.singleton_append, splitSlash_append_slash, hone, List.map_append,
      hback]

/-- A path that ends in a name has no piece too many. -/
theorem stem_join (h : PlainName name) :
    (p.join name).stem = (p.join name).pieces := by
  have hlast : (p.join name).text.toList.getLast? = name.toList.getLast? := by
    rcases List.eq_nil_or_concat name.toList with hnil | ⟨l, c, hl⟩
    · exact absurd (String.toList_eq_nil_iff.mp hnil) h.nonempty
    · unfold join
      rw [if_neg h.head?_ne]
      split <;> simp [hl, List.getLast?_cons]
  unfold stem
  rw [if_neg]
  rw [hlast]
  rintro (hnone | hslash)
  · exact h.nonempty
      (String.toList_eq_nil_iff.mp (List.getLast?_eq_none_iff.mp hnone))
  · exact h.unbroken (List.mem_of_getLast? hslash)

/-- No path with a name joined to it is empty. -/
theorem text_join_ne (h : PlainName name) : (p.join name).text ≠ "" := by
  unfold join
  rw [if_neg h.head?_ne]
  split <;> simp [h.nonempty]

/-- Joining a name neither brings nor hides the character that ends a path. -/
theorem contains_join (h : PlainName name) {c : Char} (hc : c ≠ '/') :
    (p.join name).text.toList.contains c
      = (p.text.toList.contains c || name.toList.contains c) := by
  unfold join
  rw [if_neg h.head?_ne]
  split <;> simp [hc]

/-- A name at the end leaves the beginning of a path as it is. -/
theorem isAbsolute_join (h : PlainName name) (hp : p.text ≠ "") :
    (p.join name).isAbsolute = p.isAbsolute := by
  have hne : p.text.toList ≠ [] := mt String.toList_eq_nil_iff.mp hp
  unfold isAbsolute join
  rw [if_neg h.head?_ne]
  cases htext : p.text.toList with
  | nil => exact absurd htext hne
  | cons c rest => split <;> simp [htext]

-- ====================================================================== parts

/-- A path that does not start at the root has a part that is no separator. -/
theorem exists_name_of_relative (hp : p.text ≠ "")
    (hrel : p.isAbsolute = false) :
    p.pieces.filter (· ≠ "") ≠ [] := by
  cases htext : p.text.toList with
  | nil => exact absurd (String.toList_eq_nil_iff.mp htext) hp
  | cons c rest =>
      have hc : c ≠ '/' := by simpa [isAbsolute, htext] using hrel
      unfold pieces
      rw [htext, splitSlash, if_neg hc]
      split <;> simp

/-- One part more. -/
theorem parts_join (h : PlainName name) (hp : p.text ≠ "") :
    (p.join name).parts = p.parts ++ [name] := by
  have hnames : (p.join name).pieces.filter (· ≠ "")
      = p.pieces.filter (· ≠ "") ++ [name] := by
    rw [pieces_join h, List.filter_append]
    have hstem : p.stem.filter (· ≠ "") = p.pieces.filter (· ≠ "") := by
      rcases p.pieces_eq_stem with heq | heq
      · rw [heq]
      · rw [heq, List.filter_append]
        exact (List.append_nil _).symm
    rw [hstem]
    simp [h.nonempty]
  unfold parts
  simp only [hnames, isAbsolute_join h hp, List.filter_append]
  have hlast : [name].filter (· ≠ ".") = [name] := by simp [h.not_here]
  rw [hlast, ← List.append_assoc]
  cases habs : p.isAbsolute with
  | true => rfl
  | false =>
      -- what stands first is settled before the name comes
      have hsome := exists_name_of_relative hp habs
      cases hfirst : p.pieces.filter (· ≠ "") with
      | nil => exact absurd hfirst hsome
      | cons first rest => rfl

-- ========================================================== below a directory

/-- What is reached from a path through the given names. -/
def under (p : Path) (steps : List String) : Path :=
  steps.foldl join p

@[simp] theorem under_nil (p : Path) : p.under [] = p := rfl

@[simp] theorem under_cons (p : Path) (name : String) (steps : List String) :
    p.under (name :: steps) = (p.join name).under steps := rfl

theorem under_snoc (p : Path) (steps : List String) (name : String) :
    p.under (steps ++ [name]) = (p.under steps).join name :=
  List.foldl_append ..

theorem text_under_ne (hp : p.text ≠ "") (h : ∀ s ∈ steps, PlainName s) :
    (p.under steps).text ≠ "" := by
  induction steps generalizing p with
  | nil => exact hp
  | cons name rest ih =>
      obtain ⟨hname, hrest⟩ := List.forall_mem_cons.mp h
      exact ih (text_join_ne hname) hrest

/-- The names stand behind what is left of the pieces before them. -/
theorem pieces_under (hne : steps ≠ []) (h : ∀ s ∈ steps, PlainName s) :
    (p.under steps).pieces = p.stem ++ steps := by
  induction steps generalizing p with
  | nil => exact absurd rfl hne
  | cons name rest ih =>
      obtain ⟨hname, hrest⟩ := List.forall_mem_cons.mp h
      rw [under_cons]
      by_cases hnil : rest = []
      · rw [hnil, under_nil, pieces_join hname]
      · rw [ih hnil hrest, stem_join hname, pieces_join hname,
          List.append_assoc]
        rfl

/-- A path stays absolute or relative on the way down. -/
theorem isAbsolute_under (hp : p.text ≠ "") (h : ∀ s ∈ steps, PlainName s) :
    (p.under steps).isAbsolute = p.isAbsolute := by
  induction steps generalizing p with
  | nil => rfl
  | cons name rest ih =>
      obtain ⟨hname, hrest⟩ := List.forall_mem_cons.mp h
      rw [under_cons, ih (text_join_ne hname) hrest, isAbsolute_join hname hp]

/-- A character other than the separator is in the path or in one of the
names. -/
theorem contains_under (h : ∀ s ∈ steps, PlainName s) {c : Char}
    (hc : c ≠ '/') :
    (p.under steps).text.toList.contains c
      = (p.text.toList.contains c || steps.any (·.toList.contains c)) := by
  induction steps generalizing p with
  | nil => exact (Bool.or_false _).symm
  | cons name rest ih =>
      obtain ⟨hname, hrest⟩ := List.forall_mem_cons.mp h
      rw [under_cons, ih hrest, contains_join hname hc, List.any_cons,
        Bool.or_assoc]

/-- The names under a path are its last parts. -/
theorem parts_under (hp : p.text ≠ "") (h : ∀ s ∈ steps, PlainName s) :
    (p.under steps).parts = p.parts ++ steps := by
  induction steps generalizing p with
  | nil => exact (List.append_nil _).symm
  | cons name rest ih =>
      obtain ⟨hname, hrest⟩ := List.forall_mem_cons.mp h
      rw [under_cons, ih (text_join_ne hname) hrest, parts_join hname hp,
        List.append_assoc]
      rfl

/-- Different places have different paths. -/
theorem same_under_iff {steps' : List String} (hp : p.text ≠ "")
    (h : ∀ s ∈ steps, PlainName s) (h' : ∀ s ∈ steps', PlainName s) :
    (p.under steps).same (p.under steps') ↔ steps = steps' := by
  rw [same_iff, parts_under hp h, parts_under hp h',
    List.append_cancel_left_eq]

end Path

end ProofBatch
