/-
A table line by line.

# Lines with bars

Each line of a table is a list of pieces, with a bar before each of them and
one after the last (`barred`). The pieces of a row are its cells with spaces
around them (`piece`), those of the rule under the header are dashes.

# Lines of the text

If no cell has a line feed, each line of the text is that of one row or of the
rule (`lines_text`). No line is cut short by a carriage return at the end of a
cell, since a line ends with its bar.
-/
import ProofBatch.Proofs.Table.Columns
import ProofBatch.Proofs.Text

namespace ProofBatch.Table

open ProofBatch.Text

variable {widths : List Nat} {header row : Row} {rows : List Row}
  {pieces : List (List Char)} {cell : String} {width : Nat} {c : Char}

-- ========================================================= lines with bars

/-- The line of some pieces: a bar before each of them, and one after the
last. -/
def barred (pieces : List (List Char)) : List Char :=
  pieces.flatMap ('|' :: ·) ++ ['|']

theorem barred_cons (first : List Char) (pieces : List (List Char)) :
    barred (first :: pieces) = '|' :: (first ++ barred pieces) := by
  rw [barred, List.flatMap_cons, barred, List.append_assoc, List.cons_append]

/-- Every line of pieces begins with a bar, if only with the last one. -/
theorem exists_barred (pieces : List (List Char)) :
    ∃ rest, barred pieces = '|' :: rest := by
  cases pieces with
  | nil => exact ⟨[], rfl⟩
  | cons first pieces => exact ⟨_, barred_cons first pieces⟩

/-- A line has no characters but bars and those of its pieces. -/
theorem notMem_barred (hc : c ≠ '|') (h : ∀ piece ∈ pieces, c ∉ piece) :
    c ∉ barred pieces := by
  induction pieces with
  | nil => exact fun hmem => hc (List.mem_singleton.mp hmem)
  | cons first pieces ih =>
      rw [List.forall_mem_cons] at h
      rw [barred_cons, List.mem_cons, List.mem_append]
      rintro (rfl | hfirst | hrest)
      · exact hc rfl
      · exact h.1 hfirst
      · exact ih h.2 hrest

/-- A line of its own, whatever comes after it. -/
theorem lines_barred (h : ∀ piece ∈ pieces, '\n' ∉ piece) (rest : List Char) :
    lines (barred pieces ++ '\n' :: rest) = barred pieces :: lines rest := by
  rw [lines_append (notMem_barred (by decide) h)]
  -- The line ends with a bar, so there is no carriage return to take off.
  rcases chomp_eq_or (barred pieces) with hchomp | hchomp
  · rw [hchomp]
  · have hlast := congrArg List.getLast? hchomp
    rw [barred, List.getLast?_concat, List.getLast?_concat] at hlast
    cases hlast

-- ================================================= rows, rules and tables

/-- A cell with the space before it and the spaces after it. -/
def piece (cell : String) (width : Nat) : List Char :=
  ' ' :: (cell.toList ++ List.replicate (width - cell.length) ' ')

/-- The dashes of one column. -/
def dashes (width : Nat) : List Char :=
  List.replicate (width + 1) '-'

def rowLine (widths : List Nat) (row : Row) : List Char :=
  barred (row.zipWith piece widths)

def ruleLine (widths : List Nat) : List Char :=
  barred (widths.map dashes)

/-- A row that has room keeps all its cells. -/
theorem length_zipWith_piece (h : HasRoom widths row) :
    (row.zipWith piece widths).length = row.length := by
  rw [List.length_zipWith, Nat.min_eq_left h.length_le]

theorem toList_fill (n : Nat) (c : Char) :
    (fill n c).toList = List.replicate n c :=
  String.toList_ofList

/-- The text of a cell is a bar and its piece. -/
theorem toList_cellText (cell : String) (width : Nat) :
    (cellText cell width).toList = '|' :: piece cell width := by
  rw [cellText, String.toList_append, String.toList_append, toList_fill]
  rfl

theorem toList_rowText (widths : List Nat) (row : Row) :
    (rowText widths row).toList = rowLine widths row ++ ['\n'] := by
  have hcells : (row.zipWith cellText widths).flatMap String.toList
      = (row.zipWith piece widths).flatMap ('|' :: ·) := by
    rw [List.flatMap_def, List.flatMap_def, List.map_zipWith, List.map_zipWith]
    simp only [toList_cellText]
  rw [rowText, String.toList_append, String.toList_join, hcells, rowLine,
    barred, List.append_assoc]
  rfl

theorem toList_ruleText (widths : List Nat) :
    (ruleText widths).toList = ruleLine widths ++ ['\n'] := by
  have hcolumn : ∀ width,
      ("|" ++ fill (width + 1) '-').toList = '|' :: dashes width := by
    intro width
    rw [String.toList_append, toList_fill]
    rfl
  rw [ruleText, String.toList_append, String.toList_join, List.flatMap_map,
    ruleLine, barred, List.flatMap_map, List.append_assoc]
  simp only [hcolumn]
  rfl

/-- The lines of a table: the header, the rule if any row comes after it, the
rows, and an empty line. -/
def tableLines (widths : List Nat) (header : Row) (rows : List Row) :
    List (List Char) :=
  rowLine widths header :: ((if rows.isEmpty then [] else [ruleLine widths])
    ++ rows.map (rowLine widths) ++ [[]])

theorem notMem_piece (h : c ∉ cell.toList) (hc : c ≠ ' ') :
    c ∉ piece cell width := by
  unfold piece
  rw [List.mem_cons, List.mem_append, List.mem_replicate]
  rintro (rfl | hcell | ⟨_, rfl⟩)
  · exact hc rfl
  · exact h hcell
  · exact hc rfl

theorem notMem_dashes (hc : c ≠ '-') : c ∉ dashes width := by
  unfold dashes
  rw [List.mem_replicate]
  exact fun h => hc h.2

/-- The pieces of a row are free of a character that its cells are free of. -/
theorem notMem_of_mem_pieces (h : ∀ cell ∈ row, c ∉ cell.toList)
    (hc : c ≠ ' ') :
    ∀ p ∈ row.zipWith piece widths, c ∉ p := by
  intro p hp
  rw [← List.map_uncurry_zip_eq_zipWith] at hp
  obtain ⟨⟨cell, width⟩, hmem, rfl⟩ := List.mem_map.mp hp
  exact notMem_piece (h cell (List.of_mem_zip hmem).1) hc

/-- A row is one line if no cell breaks it. -/
theorem lines_rowText (h : ∀ cell ∈ row, '\n' ∉ cell.toList)
    (rest : List Char) :
    lines ((rowText widths row).toList ++ rest)
      = rowLine widths row :: lines rest := by
  rw [toList_rowText, List.append_assoc]
  exact lines_barred (notMem_of_mem_pieces h (by decide)) rest

/-- A rule is always one line. -/
theorem lines_ruleText (widths : List Nat) (rest : List Char) :
    lines ((ruleText widths).toList ++ rest)
      = ruleLine widths :: lines rest := by
  rw [toList_ruleText, List.append_assoc]
  refine lines_barred (fun p hp => ?_) rest
  obtain ⟨width, _, rfl⟩ := List.mem_map.mp hp
  exact notMem_dashes (by decide)

/-- Rows are a line each, one after the other. -/
theorem lines_rows (h : ∀ row ∈ rows, ∀ cell ∈ row, '\n' ∉ cell.toList)
    (rest : List Char) :
    lines ((String.join (rows.map (rowText widths))).toList ++ rest)
      = rows.map (rowLine widths) ++ lines rest := by
  rw [String.toList_join]
  induction rows with
  | nil => rfl
  | cons row rows ih =>
      rw [List.forall_mem_cons] at h
      rw [List.map_cons, List.flatMap_cons, List.append_assoc,
        lines_rowText h.1, ih h.2, List.map_cons, List.cons_append]

/-- The lines of the text of a table, and of what comes after it. -/
theorem lines_text_append
    (h : ∀ row ∈ header :: rows, ∀ cell ∈ row, '\n' ∉ cell.toList)
    (rest : List Char) :
    lines ((text widths header rows).toList ++ rest)
      = tableLines widths header rows ++ lines rest := by
  rw [List.forall_mem_cons] at h
  have hblank : lines ("\n".toList ++ rest) = [] :: lines rest := rfl
  have hbody : lines ((String.join (rows.map (rowText widths))).toList
      ++ ("\n".toList ++ rest))
      = rows.map (rowLine widths) ++ [] :: lines rest := by
    rw [lines_rows h.2, hblank]
  unfold text tableLines
  simp only [String.toList_append, List.append_assoc]
  rw [lines_rowText h.1]
  cases hempty : rows.isEmpty with
  | true =>
      show _ :: lines ((String.join (rows.map (rowText widths))).toList ++ _)
        = _
      rw [hbody]
      simp
  | false =>
      show _ :: lines ((ruleText widths).toList ++ _) = _
      rw [lines_ruleText, hbody]
      simp

/-- A table is its lines, header first, if no cell breaks one. -/
theorem lines_text
    (h : ∀ row ∈ header :: rows, ∀ cell ∈ row, '\n' ∉ cell.toList) :
    lines (text widths header rows).toList
      = tableLines widths header rows := by
  have hend : lines ((text widths header rows).toList ++ [])
      = tableLines widths header rows ++ lines [] :=
    lines_text_append h []
  rwa [List.append_nil, lines, List.append_nil] at hend

end ProofBatch.Table
