/-
Where the columns of a table stand, and which tables cannot be written.

# Offsets

The bar of a column stands after the columns before it, each of which takes its
width and two characters more (`offset`). What is written from there on is the
line of the pieces from that column on (`drop_barred`), so the bar, the piece
after it and the length of the line can all be read off one equation.

# The law

A table is refused if and only if some row is longer than the header. In any
other table each cell has a column, and the column is wider than the cell, so
there is no look-up and no subtraction that could fail; and if no cell has a
line feed, all lines keep to the same columns (`render?_laidOut`).
-/
import Mathlib.Algebra.GroupWithZero.Nat
import Mathlib.Data.List.Forall2
import ProofBatch.Proofs.Table.Lines

namespace ProofBatch.Table

open ProofBatch.Text

variable {widths : List Nat} {row : Row} {pieces : List (List Char)} {j : Nat}

-- ================================================================= offsets

/-- Where the bar of a column stands; for the number of columns, where the line
ends. -/
def offset (widths : List Nat) (j : Nat) : Nat :=
  ((widths.take j).map (· + 2)).sum

/-- Behind the last column, all widths are passed. -/
theorem offset_length (widths : List Nat) :
    offset widths widths.length = (widths.map (· + 2)).sum := by
  rw [offset, List.take_length]

/-- Each piece is as wide as its column, with a space before the cell. -/
def Spans (widths : List Nat) (pieces : List (List Char)) : Prop :=
  ∀ (j : Nat) (p : List Char), pieces[j]? = some p →
    ∃ w, widths[j]? = some w ∧ p.length = w + 1

/-- The first piece spans the first column, the others the rest. -/
theorem Spans.exists_cons {first : List Char}
    (h : Spans widths (first :: pieces)) :
    ∃ w rest, widths = w :: rest ∧ first.length = w + 1
      ∧ Spans rest pieces := by
  obtain ⟨w, hw, hlength⟩ := h 0 first rfl
  cases widths with
  | nil => cases hw
  | cons w' rest =>
      cases hw
      exact ⟨w, rest, rfl, hlength, fun j => h (j + 1)⟩

/-- From the bar of a column on there is the line of the pieces from that
column on. -/
theorem drop_barred (h : Spans widths pieces) (hj : j ≤ pieces.length) :
    (barred pieces).drop (offset widths j) = barred (pieces.drop j) := by
  induction j generalizing widths pieces with
  | zero => rfl
  | succ j ih =>
      cases pieces with
      | nil => exact absurd hj (Nat.not_succ_le_zero j)
      | cons first pieces =>
          obtain ⟨w, rest, rfl, hlength, hrest⟩ := h.exists_cons
          have hstep : offset (w :: rest) (j + 1)
              = ('|' :: first).length + offset rest j := by
            rw [List.length_cons, hlength, offset, List.take_succ_cons,
              List.map_cons, List.sum_cons]
            rfl
          rw [hstep, barred_cons, ← List.cons_append,
            List.drop_length_add_append, List.drop_succ_cons]
          exact ih hrest (Nat.le_of_succ_le_succ hj)

/-- A line is as long as its columns, and a bar more. -/
theorem length_barred (h : Spans widths pieces) :
    (barred pieces).length = offset widths pieces.length + 1 := by
  have hend := congrArg List.length (drop_barred h (Nat.le_refl _))
  rw [List.length_drop, List.drop_length] at hend
  change _ = 1 at hend
  omega

/-- A bar stands where a column begins, and one at the end. -/
theorem getElem?_barred (h : Spans widths pieces) (hj : j ≤ pieces.length) :
    (barred pieces)[offset widths j]? = some '|' := by
  obtain ⟨rest, hrest⟩ := exists_barred (pieces.drop j)
  rw [← Nat.add_zero (offset widths j), ← List.getElem?_drop, drop_barred h hj,
    hrest]
  rfl

/-- Between its bars stands the piece of a column, whole. -/
theorem take_drop_barred (h : Spans widths pieces) {p : List Char}
    (hp : pieces[j]? = some p) :
    ((barred pieces).drop (offset widths j)).take (p.length + 1)
      = '|' :: p := by
  obtain ⟨hj, rfl⟩ := List.getElem?_eq_some_iff.mp hp
  rw [drop_barred h (Nat.le_of_lt hj), List.drop_eq_getElem_cons hj,
    barred_cons, List.take_succ_cons, List.take_left]

-- =========================================================== rows and rules

/-- The line of a row over columns of the given widths. -/
structure IsRowLine (widths : List Nat) (row : Row) (chars : List Char) : Prop
    where
  bar : ∀ j ≤ row.length, chars[offset widths j]? = some '|'
  /-- After the bar come a space, the cell, and spaces up to the next bar. -/
  cell : ∀ (j : Nat) (cell : String) (w : Nat), row[j]? = some cell →
    widths[j]? = some w →
      (chars.drop (offset widths j)).take (w + 2) = '|' :: piece cell w
  /-- Nothing comes after the bar that closes the last column of the row. -/
  length : chars.length = offset widths row.length + 1
  full : row.length = widths.length →
    chars.length = (widths.map (· + 2)).sum + 1

/-- The line between the header and the rows. -/
structure IsRuleLine (widths : List Nat) (chars : List Char) : Prop where
  bar : ∀ j ≤ widths.length, chars[offset widths j]? = some '|'
  dashes : ∀ (j w : Nat), widths[j]? = some w →
    (chars.drop (offset widths j)).take (w + 2) = '|' :: dashes w
  length : chars.length = (widths.map (· + 2)).sum + 1

/-- The cells of a row that has room span their columns. -/
theorem HasRoom.spans (h : HasRoom widths row) :
    Spans widths (row.zipWith piece widths) := by
  intro j p hp
  obtain ⟨cell, w, hcell, hw, rfl⟩ := List.getElem?_zipWith_eq_some.mp hp
  obtain ⟨w', hw', hlt⟩ := h j cell hcell
  rw [hw] at hw'
  cases hw'
  refine ⟨w, hw, ?_⟩
  rw [piece, List.length_cons, List.length_append, List.length_replicate,
    String.length_toList]
  omega

/-- The dashes of a rule span the columns. -/
theorem spans_dashes (widths : List Nat) :
    Spans widths (widths.map dashes) := by
  intro j p hp
  rw [List.getElem?_map] at hp
  obtain ⟨w, hw, rfl⟩ := Option.map_eq_some_iff.mp hp
  exact ⟨w, hw, List.length_replicate⟩

/-- The line of a row that has room is laid out as one. -/
theorem isRowLine_rowLine (h : HasRoom widths row) :
    IsRowLine widths row (rowLine widths row) := by
  have hlength : (rowLine widths row).length
    = offset widths row.length + 1 := by
    rw [rowLine, length_barred h.spans, length_zipWith_piece h]
  constructor
  case bar =>
    intro j hj
    rw [← length_zipWith_piece h] at hj
    exact getElem?_barred h.spans hj
  case cell =>
    intro j cell w hcell hw
    have hpiece : (row.zipWith piece widths)[j]? = some (piece cell w) :=
      List.getElem?_zipWith_eq_some.mpr ⟨cell, w, hcell, hw, rfl⟩
    obtain ⟨w', hw', hspan⟩ := h.spans j _ hpiece
    rw [hw] at hw'
    cases hw'
    rw [← take_drop_barred h.spans hpiece, hspan]
    rfl
  case length => exact hlength
  case full =>
    intro hfull
    rw [hlength, hfull, offset_length]

/-- The line of a rule is laid out as one. -/
theorem isRuleLine_ruleLine (widths : List Nat) :
    IsRuleLine widths (ruleLine widths) := by
  have hspans := spans_dashes widths
  constructor
  case bar =>
    intro j hj
    rw [← List.length_map dashes] at hj
    exact getElem?_barred hspans hj
  case dashes =>
    intro j w hw
    have hpiece : (widths.map dashes)[j]? = some (dashes w) := by
      rw [List.getElem?_map, hw]
      rfl
    have hlength : (dashes w).length = w + 1 := List.length_replicate
    rw [← take_drop_barred hspans hpiece, hlength]
    rfl
  case length =>
    rw [ruleLine, length_barred hspans, List.length_map, offset_length]

-- ================================================================== tables

/-- The lines of a table over columns of the given widths: a line for each row,
the rule after the header if that is not all, and an empty line. -/
inductive LaidOut (widths : List Nat) : List Row → List (List Char) → Prop
  | empty : LaidOut widths [] []
  | header {header : Row} {line : List Char}
      (top : IsRowLine widths header line) :
      LaidOut widths [header] [line, []]
  | rows {header row : Row} {rows : List Row} {line rule : List Char}
      {below : List (List Char)} (top : IsRowLine widths header line)
      (under : IsRuleLine widths rule)
      (body : List.Forall₂ (IsRowLine widths) (row :: rows) below) :
      LaidOut widths (header :: row :: rows) (line :: rule :: (below ++ [[]]))

/-- The columns that a table is written in: one for each cell of the header,
and each a space wider than its widest cell. -/
structure Columns (table : List Row) (widths : List Nat) : Prop where
  own : ∀ header rows, table = header :: rows →
    widths? header rows = some widths ∧ widths.length = header.length
  fit : Fit table widths

/-- The lines of a table are laid out, if all rows have room. -/
theorem laidOut_tableLines {header : Row} {rows : List Row}
    (h : ∀ row ∈ header :: rows, HasRoom widths row) :
    LaidOut widths (header :: rows) (tableLines widths header rows) := by
  rw [List.forall_mem_cons] at h
  cases rows with
  | nil => exact .header (isRowLine_rowLine h.1)
  | cons row rows =>
      have hbody : List.Forall₂ (IsRowLine widths) (row :: rows)
          ((row :: rows).map (rowLine widths)) := by
        rw [List.forall₂_map_right_iff, List.forall₂_same]
        exact fun row hrow => isRowLine_rowLine (h.2 row hrow)
      exact .rows (isRowLine_rowLine h.1) (isRuleLine_ruleLine widths) hbody

/-- Which tables cannot be written, and how all others are: each cell in a
column that is wider than it, and the lines of a table without line feeds in
its cells in step with one another. -/
theorem render?_laidOut (table : List Row) :
    (render? table = none ↔ ∃ header rows, table = header :: rows
      ∧ ∃ row ∈ rows, header.length < row.length)
    ∧ ∀ text, render? table = some text →
      ∃ widths, Columns table widths
        ∧ ((∀ row ∈ table, ∀ cell ∈ row, '\n' ∉ cell.toList) →
          LaidOut widths table (lines text.toList)) := by
  refine ⟨render?_eq_none_iff, fun text htext => ?_⟩
  cases table with
  | nil =>
      cases htext
      refine ⟨[], ⟨?_, ?_⟩, fun _ => ?_⟩
      · rintro _ _ ⟨⟩
      · exact ⟨by simp, by simp⟩
      · exact .empty
  | cons header rows =>
      obtain ⟨widths, hwidths, rfl⟩ := Option.map_eq_some_iff.mp htext
      have hfit := fit_of_widths? hwidths
      refine ⟨widths, ⟨?_, hfit⟩, fun hbreaks => ?_⟩
      · rintro _ _ ⟨⟩
        exact ⟨hwidths, length_widths? hwidths⟩
      · rw [lines_text hbreaks]
        exact laidOut_tableLines hfit.room

/-- A table with a row that ends early, and with cells wider than the
header's. -/
def ragged : List Row :=
  [["a", "bc"], ["défi"], ["", "| |"]]

def raggedText : String :=
  "| a    | bc  |\n|------|-----|\n| défi |\n|      | | | |\n\n"

theorem render?_laidOut_ragged :
    render? ragged = some raggedText
      ∧ ∃ widths, Columns ragged widths
        ∧ LaidOut widths ragged (lines raggedText.toList) := by
  have hrender : render? ragged = some raggedText := by decide +kernel
  obtain ⟨widths, hcolumns, hlaid⟩ := (render?_laidOut ragged).2 _ hrender
  exact ⟨hrender, widths, hcolumns, hlaid (by decide +kernel)⟩

end ProofBatch.Table
