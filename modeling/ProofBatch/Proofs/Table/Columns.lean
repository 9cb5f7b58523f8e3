/-
The columns of a table: which tables have them, and how wide they are.

# Room

Columns are made row by row. A row is refused if it has more cells than there
are columns, and otherwise each column becomes as wide as the row needs
(`getElem?_widen`). The header settles how many columns there are, so a table
can be written if and only if no row is longer than its header
(`render?_eq_none_iff`).

# Fit

`Fit` ties the widths to the rows seen so far: every cell has a column with
room for it and for one space more, and no column is wider than one of its
cells needs. The header alone has it, each row keeps it (`Fit.widen`), and so
the widths of a whole table are those of its widest cells (`fit_of_widths?`).
-/
import Mathlib.Data.List.Basic
import ProofBatch.Table

namespace ProofBatch.Table

variable {widths widths' : List Nat} {row : Row} {rows seen : List Row}

-- ================================================================= one row

/-- The width that a row needs in a column; it needs none where it has no
cell. -/
def need (row : Row) (j : Nat) : Nat :=
  (row[j]?).elim 0 cellWidth

/-- Only a row that is too long does not fit into columns of any width. -/
theorem widen_eq_none_iff :
    widen widths row = none ↔ widths.length < row.length := by
  fun_induction widen widths row with
  | case1 => simp
  | case2 => simp
  | case3 width widths cell cells ih =>
      rw [Option.map_eq_none_iff, ih, List.length_cons, List.length_cons,
        Nat.add_lt_add_iff_right]

theorem length_le_of_widen (h : widen widths row = some widths') :
    row.length ≤ widths.length := by
  rw [← Nat.not_lt, ← widen_eq_none_iff, h]
  exact Option.some_ne_none widths'

theorem length_widen (h : widen widths row = some widths') :
    widths'.length = widths.length := by
  induction row generalizing widths widths' with
  | nil =>
      rw [widen] at h
      cases h
      rfl
  | cons cell cells ih =>
      cases widths with
      | nil => cases h
      | cons width widths =>
          obtain ⟨rest, hrest, rfl⟩ := Option.map_eq_some_iff.mp h
          rw [List.length_cons, List.length_cons, ih hrest]

/-- A row widens each column to what it needs there. -/
theorem getElem?_widen (h : widen widths row = some widths') (j : Nat) :
    widths'[j]? = widths[j]?.map (max · (need row j)) := by
  induction row generalizing widths widths' j with
  | nil =>
      rw [widen] at h
      cases h
      simp [need]
  | cons cell cells ih =>
      cases widths with
      | nil => cases h
      | cons width widths =>
          obtain ⟨rest, hrest, rfl⟩ := Option.map_eq_some_iff.mp h
          cases j with
          | zero => rfl
          | succ j => exact ih hrest j

-- ================================================================ all rows

/-- Rows widen the columns one after the other. -/
theorem widenAll_cons_eq_some_iff :
    widenAll widths (row :: rows) = some widths'
      ↔ ∃ next, widen widths row = some next
        ∧ widenAll next rows = some widths' := by
  rw [widenAll]
  cases widen widths row with
  | none => simp
  | some next => simp

/-- Rows do not fit if and only if one of them is too long. -/
theorem widenAll_eq_none_iff :
    widenAll widths rows = none
      ↔ ∃ row ∈ rows, widths.length < row.length := by
  induction rows generalizing widths with
  | nil => simp [widenAll]
  | cons row rows ih =>
      simp only [List.mem_cons, exists_eq_or_imp]
      rw [widenAll, ← widen_eq_none_iff]
      cases h : widen widths row with
      | none => simp
      | some next =>
          show widenAll next rows = none ↔ _
          rw [ih, length_widen h]
          exact (or_iff_right (Option.some_ne_none next)).symm

/-- However many rows there are, the columns do not get more. -/
theorem length_widenAll (h : widenAll widths rows = some widths') :
    widths'.length = widths.length := by
  induction rows generalizing widths with
  | nil =>
      cases h
      rfl
  | cons row rows ih =>
      obtain ⟨next, hrow, hrest⟩ := widenAll_cons_eq_some_iff.mp h
      rw [ih hrest, length_widen hrow]

/-- Every cell of a row has a column that is wider than the cell. -/
def HasRoom (widths : List Nat) (row : Row) : Prop :=
  ∀ (j : Nat) (cell : String), row[j]? = some cell →
    ∃ w, widths[j]? = some w ∧ cell.length < w

theorem HasRoom.length_le (h : HasRoom widths row) :
    row.length ≤ widths.length := by
  by_contra hlt
  obtain ⟨w, hw, _⟩ :=
    h widths.length _ (List.getElem?_eq_getElem (Nat.lt_of_not_le hlt))
  rw [List.getElem?_eq_none (Nat.le_refl _)] at hw
  cases hw

/-- The widths are told from the rows seen: room for every cell and a space,
and no more than that for one of them. -/
structure Fit (seen : List Row) (widths : List Nat) : Prop where
  room : ∀ row ∈ seen, HasRoom widths row
  tight : ∀ (j w : Nat), widths[j]? = some w →
    ∃ row ∈ seen, ∃ cell : String, row[j]? = some cell ∧ w = cell.length + 1

namespace Fit

theorem ofHeader (header : Row) : Fit [header] (header.map cellWidth) where
  room row hrow j cell hcell := by
    cases List.mem_singleton.mp hrow
    refine ⟨cellWidth cell, ?_, Nat.lt_succ_self _⟩
    rw [List.getElem?_map, hcell]
    rfl
  tight j w hw := by
    rw [List.getElem?_map] at hw
    obtain ⟨cell, hcell, rfl⟩ := Option.map_eq_some_iff.mp hw
    exact ⟨header, List.mem_singleton_self header, cell, hcell, rfl⟩

/-- One more row. -/
theorem widen (hfit : Fit seen widths)
    (h : Table.widen widths row = some widths') :
    Fit (seen ++ [row]) widths' where
  room row' hrow' j cell hcell := by
    have hj := getElem?_widen h j
    rcases List.mem_append.mp hrow' with hseen | hrow
    · obtain ⟨w, hw, hlt⟩ := hfit.room row' hseen j cell hcell
      rw [hw] at hj
      exact ⟨_, hj, Nat.lt_of_lt_of_le hlt (Nat.le_max_left ..)⟩
    · cases List.mem_singleton.mp hrow
      have hlen : j < widths.length :=
        Nat.lt_of_lt_of_le (List.getElem?_eq_some_iff.mp hcell).1
          (length_le_of_widen h)
      have hneed : need row j = cell.length + 1 := by
        rw [need, hcell]
        rfl
      rw [List.getElem?_eq_getElem hlen, hneed] at hj
      exact ⟨_, hj, Nat.le_max_right ..⟩
  tight j w' hw' := by
    rw [getElem?_widen h j] at hw'
    obtain ⟨w, hw, rfl⟩ := Option.map_eq_some_iff.mp hw'
    -- Either the row needs more than what was there, or it changes nothing.
    by_cases hle : need row j ≤ w
    · obtain ⟨row', hrow', cell, hcell, heq⟩ := hfit.tight j w hw
      refine ⟨row', List.mem_append_left _ hrow', cell, hcell, ?_⟩
      rw [Nat.max_eq_left hle, heq]
    · cases hcell : row[j]? with
      | none =>
          rw [need, hcell] at hle
          exact absurd (Nat.zero_le w) hle
      | some cell =>
          refine ⟨row, List.mem_append_right _ (List.mem_singleton_self row),
            cell, hcell, ?_⟩
          rw [Nat.max_eq_right (Nat.le_of_not_le hle), need, hcell]
          rfl

/-- Columns that fit what has been seen, widened by more rows, fit all of
it. -/
theorem widenAll (hfit : Fit seen widths)
    (h : Table.widenAll widths rows = some widths') :
    Fit (seen ++ rows) widths' := by
  induction rows generalizing seen widths with
  | nil =>
      cases h
      rwa [List.append_nil]
  | cons row rows ih =>
      obtain ⟨next, hrow, hrest⟩ := widenAll_cons_eq_some_iff.mp h
      rw [List.append_cons]
      exact ih (hfit.widen hrow) hrest

end Fit

-- =============================================================== one table

section Table

variable {header : Row} {table : List Row}

/-- The widths that are found fit the header and all rows. -/
theorem fit_of_widths? (h : widths? header rows = some widths) :
    Fit (header :: rows) widths :=
  (Fit.ofHeader header).widenAll h

theorem length_widths? (h : widths? header rows = some widths) :
    widths.length = header.length := by
  rw [length_widenAll h, List.length_map]

/-- There are no widths if and only if a row is longer than the header. -/
theorem widths?_eq_none_iff :
    widths? header rows = none ↔ ∃ row ∈ rows, header.length < row.length := by
  rw [widths?, widenAll_eq_none_iff, List.length_map]

/-- A table without such a row has widths. -/
theorem exists_widths? (h : ∀ row ∈ rows, row.length ≤ header.length) :
    ∃ widths, widths? header rows = some widths := by
  rw [← Option.ne_none_iff_exists', ne_eq, widths?_eq_none_iff]
  rintro ⟨row, hrow, hlong⟩
  exact absurd (h row hrow) (Nat.not_le_of_lt hlong)

/-- A table cannot be written if and only if some row is longer than the
header. -/
theorem render?_eq_none_iff :
    render? table = none ↔ ∃ header rows, table = header :: rows
      ∧ ∃ row ∈ rows, header.length < row.length := by
  cases table with
  | nil =>
      constructor
      · rintro ⟨⟩
      · rintro ⟨_, _, ⟨⟩, _⟩
  | cons header rows =>
      rw [render?, Option.map_eq_none_iff, widths?_eq_none_iff]
      constructor
      · exact fun h => ⟨header, rows, rfl, h⟩
      · rintro ⟨_, _, ⟨⟩, h⟩
        exact h

end Table

end ProofBatch.Table
