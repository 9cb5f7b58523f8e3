/-
A table read back from its text.

# Reading

The lines of a text, without the rule and the empty line at the end, are the
rows; the pieces of a line between its bars are the cells, each with one space
before it and spaces after it (`read`). A cell of dashes is no rule, as the
rule is told by its place, and an empty cell is a piece of spaces only.

# The law

If no cell has a bar or a line feed or ends in a space, the pieces of a line
are those it was written from (`cut_barred`), and the spaces taken off a piece
are those that were put on (`cellOf_piece`). So reading gives back the rows,
and no two such tables have the same text (`read_render?`).
-/
import Mathlib.Data.List.DropRight
import Mathlib.Data.Set.Function
import ProofBatch.Proofs.Table.Lines

namespace ProofBatch.Table

open ProofBatch.Text

variable {widths : List Nat} {row : Row} {rows table : List Row}
  {pieces : List (List Char)} {cell : String} {width : Nat}

-- ================================================================= reading

/-- What stands between the bars of a line. -/
def cut (line : List Char) : List (List Char) :=
  (line.splitOn '|').tail.dropLast

/-- A piece without the space at its beginning, if it has one. -/
def dropSpace : List Char → List Char
  | ' ' :: rest => rest
  | piece => piece

/-- The cell in a piece: what is left without one space before it and all
spaces after it. -/
def cellOf (piece : List Char) : String :=
  .ofList ((dropSpace piece).rdropWhile (· = ' '))

/-- The rows of a table with a rule under its header and an empty line at its
end. -/
def read (text : String) : List Row :=
  ((lines text.toList).eraseIdx 1).dropLast.map fun line =>
    (cut line).map cellOf

-- ================================================================ one line

/-- The bars of a line are those between its pieces, if no piece has one. -/
theorem splitOn_barred {front : List Char} (hfront : '|' ∉ front)
    (h : ∀ p ∈ pieces, '|' ∉ p) :
    (front ++ barred pieces).splitOn '|' = front :: (pieces ++ [[]]) := by
  induction pieces generalizing front with
  | nil => exact List.splitOn_append_cons_self_of_not_mem hfront []
  | cons first pieces ih =>
      rw [List.forall_mem_cons] at h
      rw [barred_cons, List.splitOn_append_cons_self_of_not_mem hfront,
        ih h.1 h.2, List.cons_append]

/-- Cutting a line at its bars gives the pieces back. -/
theorem cut_barred (h : ∀ p ∈ pieces, '|' ∉ p) :
    cut (barred pieces) = pieces := by
  rw [cut, ← List.nil_append (barred pieces),
    splitOn_barred List.not_mem_nil h, List.tail_cons, List.dropLast_concat]

/-- The spaces that fill a cell up can be taken away again, if the cell ends in
none. -/
theorem rdropWhile_replicate (chars : List Char)
    (h : chars.getLast? ≠ some ' ') (n : Nat) :
    (chars ++ List.replicate n ' ').rdropWhile (· = ' ') = chars := by
  induction n with
  | zero =>
      rw [List.replicate_zero, List.append_nil, List.rdropWhile_eq_self_iff]
      intro hne hspace
      rw [decide_eq_true_eq] at hspace
      exact h (by rw [List.getLast?_eq_some_getLast hne, hspace])
  | succ n ih =>
      rw [List.replicate_succ', ← List.append_assoc,
        List.rdropWhile_concat_pos _ _ _ (by decide), ih]

/-- The spaces around a cell are told from the cell, if it does not end in
one. -/
theorem cellOf_piece (h : cell.toList.getLast? ≠ some ' ') :
    cellOf (piece cell width) = cell := by
  rw [cellOf, piece, dropSpace, rdropWhile_replicate _ h, String.ofList_toList]

/-- The cells of a row are read back from its line. -/
theorem cells_rowLine (hlength : row.length ≤ widths.length)
    (hbar : ∀ cell ∈ row, '|' ∉ cell.toList)
    (hspace : ∀ cell ∈ row, cell.toList.getLast? ≠ some ' ') :
    (cut (rowLine widths row)).map cellOf = row := by
  rw [rowLine, cut_barred (notMem_of_mem_pieces hbar (by decide)),
    ← List.map_uncurry_zip_eq_zipWith, List.map_map]
  calc (row.zip widths).map (cellOf ∘ Function.uncurry piece)
      = (row.zip widths).map Prod.fst := by
        refine List.map_congr_left fun entry hentry => ?_
        exact cellOf_piece (hspace entry.1 (List.of_mem_zip hentry).1)
    _ = row := List.map_fst_zip hlength

-- =============================================================== one table

/-- Without the rule and the empty line, the lines of a table are its rows. -/
theorem rows_tableLines {header : Row} (hrows : rows ≠ []) :
    ((tableLines widths header rows).eraseIdx 1).dropLast
      = (header :: rows).map (rowLine widths) := by
  have hrule : tableLines widths header rows
      = rowLine widths header
        :: ruleLine widths :: (rows.map (rowLine widths) ++ [[]]) := by
    rw [tableLines, if_neg (by rwa [List.isEmpty_iff])]
    rfl
  rw [hrule, List.eraseIdx_cons_succ, List.eraseIdx_cons_zero,
    ← List.cons_append, List.dropLast_concat, List.map_cons]

/-- A table whose text shows all there is to it: a header and rows below it,
all with as many cells, and no cell that its bars, its line or its spaces could
not be told from. -/
structure Legible (table : List Row) : Prop where
  rows : 2 ≤ table.length
  even : ∃ n, 0 < n ∧ ∀ row ∈ table, row.length = n
  plain : ∀ row ∈ table, ∀ cell ∈ row, '|' ∉ cell.toList
    ∧ '\n' ∉ cell.toList ∧ cell.toList.getLast? ≠ some ' '

/-- All rows of a legible table are of one length. -/
theorem Legible.length_eq {header : Row} (h : Legible (header :: rows)) :
    ∀ row ∈ header :: rows, row.length = header.length := by
  obtain ⟨n, _, heven⟩ := h.even
  intro row hrow
  rw [heven row hrow, heven header (List.mem_cons_self ..)]

/-- A legible table has a text, and that reads as the table. -/
theorem Legible.exists_render? (h : Legible table) :
    ∃ text, render? table = some text ∧ read text = table := by
  cases table with
  | nil => exact absurd h.rows (by decide)
  | cons header rows =>
      obtain ⟨widths, hwidths⟩ := exists_widths? fun row hrow =>
        Nat.le_of_eq (h.length_eq row (List.mem_cons_of_mem _ hrow))
      have hlength : ∀ row ∈ header :: rows, row.length ≤ widths.length := by
        intro row hrow
        rw [h.length_eq row hrow, length_widths? hwidths]
      have hrows : rows ≠ [] := by
        rintro rfl
        exact absurd h.rows (Nat.not_succ_le_self 1)
      have hlines : lines (text widths header rows).toList
          = tableLines widths header rows :=
        lines_text fun row hrow cell hcell => (h.plain row hrow cell hcell).2.1
      refine ⟨text widths header rows, ?_, ?_⟩
      · rw [render?, hwidths]
        rfl
      · rw [read, hlines, rows_tableLines hrows, List.map_map]
        -- Row by row, as each line has its own cells.
        refine (List.map_congr_left fun row hrow => ?_).trans (List.map_id _)
        exact cells_rowLine (hlength row hrow)
          (fun cell hcell => (h.plain row hrow cell hcell).1)
          (fun cell hcell => (h.plain row hrow cell hcell).2.2)

/-- A legible table has a text, which reads as the table; so no other has
it. -/
theorem read_render? :
    (∀ table, Legible table → (render? table).map read = some table)
      ∧ Set.InjOn render? {table | Legible table} := by
  have hread : ∀ table, Legible table →
      (render? table).map read = some table := by
    intro table h
    obtain ⟨text, htext, hread⟩ := h.exists_render?
    rw [htext, Option.map_some, hread]
  refine ⟨hread, fun table h table' h' heq => ?_⟩
  apply Option.some.inj
  rw [← hread table h, heq, hread table' h']

/-- Cells that are empty, or look like a rule, a space or a table of their
own. -/
def oddities : List Row :=
  [["", "---", "  x"], ["-", "", "\t"], ["a\\", "  :-", "日本"]]

theorem read_render?_oddities :
    Legible oddities ∧ (render? oddities).map read = some oddities := by
  have h : Legible oddities :=
    ⟨by decide, ⟨3, by decide, by decide⟩, by decide +kernel⟩
  exact ⟨h, read_render?.1 oddities h⟩

end ProofBatch.Table
