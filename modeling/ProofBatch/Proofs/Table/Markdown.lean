/-
Which lines are a table in Markdown.

A table in Markdown is a line of headings, directly below it a line of dashes,
a line for each row, and an empty line; all have the same number of columns, as
their bars tell (`IsMarkdown`). Without the line of dashes there is no table,
but a line with bars in it (`IsBare`).

The text of a table whose rows are as long as its header is such a table, if it
has a row (`isMarkdown_tableLines`). If it has none, the line of dashes is not
written either (`isBare_tableLines`).
-/
import Mathlib.Data.List.Forall2
import ProofBatch.Proofs.Table.Lines

namespace ProofBatch.Table

variable {widths : List Nat} {header row : Row} {rows : List Row}
  {columns : Nat} {key : String} {keys : List String}

-- ================================================================ Markdown

/-- Bars around as many pieces as there are columns. -/
def IsLine (columns : Nat) (line : List Char) : Prop :=
  ∃ pieces : List (List Char), pieces.length = columns
    ∧ (∀ p ∈ pieces, '|' ∉ p) ∧ line = barred pieces

/-- Bars around groups of dashes, one for each column. -/
def IsRule (columns : Nat) (line : List Char) : Prop :=
  ∃ groups : List (List Char), groups.length = columns
    ∧ (∀ g ∈ groups, g ≠ [] ∧ ∀ c ∈ g, c = '-') ∧ line = barred groups

/-- The first cell of a line has the given text. -/
def Opens (key : String) (line : List Char) : Prop :=
  ∃ width rest, line = '|' :: (piece key width ++ '|' :: rest)

/-- A table with a row for each key, which the row begins with. -/
inductive IsMarkdown (columns : Nat) (keys : List String) :
    List (List Char) → Prop
  | intro {header rule : List Char} {body : List (List Char)}
      (top : IsLine columns header) (under : IsRule columns rule)
      (rows : List.Forall₂
        (fun key line => IsLine columns line ∧ Opens key line)
        keys body) :
      IsMarkdown columns keys (header :: rule :: (body ++ [[]]))

/-- A line that would be the header of a table, with nothing below it. -/
inductive IsBare (columns : Nat) : List (List Char) → Prop
  | intro {header : List Char} (top : IsLine columns header) :
      IsBare columns [header, []]

/-- A rule shows a dash after its first bar. -/
theorem IsRule.getElem?_one {rule : List Char} (h : IsRule columns rule)
    (hcolumns : 0 < columns) : rule[1]? = some '-' := by
  obtain ⟨groups, rfl, hgroups, rfl⟩ := h
  obtain ⟨g, groups, rfl⟩ := List.exists_cons_of_length_pos hcolumns
  rw [List.forall_mem_cons] at hgroups
  obtain ⟨c, dashes, rfl⟩ := List.exists_cons_of_ne_nil hgroups.1.1
  cases hgroups.1.2 c (List.mem_cons_self ..)
  rw [barred_cons]
  rfl

/-- A table in Markdown has a line with a dash after its first bar. -/
theorem IsMarkdown.exists_rule {table : List (List Char)}
    (h : IsMarkdown columns keys table) (hcolumns : 0 < columns) :
    ∃ chars ∈ table, chars[1]? = some '-' := by
  cases h with
  | intro top under rows =>
      exact ⟨_, List.mem_cons_of_mem _ (List.mem_cons_self ..),
        under.getElem?_one hcolumns⟩

-- =================================================================== texts

/-- The line of a row has a field for each cell, if no cell has a bar. -/
theorem isLine_rowLine (hroom : HasRoom widths row)
    (hbar : ∀ cell ∈ row, '|' ∉ cell.toList) :
    IsLine row.length (rowLine widths row) :=
  ⟨_, length_zipWith_piece hroom, notMem_of_mem_pieces hbar (by decide), rfl⟩

/-- The line of a rule has a field of dashes for each column. -/
theorem isRule_ruleLine (widths : List Nat) :
    IsRule widths.length (ruleLine widths) := by
  refine ⟨_, List.length_map dashes, fun g hg => ?_, rfl⟩
  obtain ⟨width, _, rfl⟩ := List.mem_map.mp hg
  exact ⟨List.cons_ne_nil _ _, fun c hc => List.eq_of_mem_replicate hc⟩

/-- The first field of a line is the first cell of its row. -/
theorem opens_rowLine (hroom : HasRoom widths row)
    (hkey : row[0]? = some key) :
    Opens key (rowLine widths row) := by
  obtain ⟨cells, rfl⟩ : ∃ cells, row = key :: cells := by
    cases row with
    | nil => cases hkey
    | cons cell cells =>
        cases hkey
        exact ⟨cells, rfl⟩
  cases widths with
  | nil => exact absurd hroom.length_le (Nat.not_succ_le_zero _)
  | cons width widths =>
      obtain ⟨rest, hrest⟩ := exists_barred (cells.zipWith piece widths)
      refine ⟨width, rest, ?_⟩
      rw [rowLine, List.zipWith_cons_cons, barred_cons, hrest]

/-- Rows that begin with some keys make lines that open with them. -/
theorem lines_of_keys
    (hkeys : List.Forall₂ (fun key row => row[0]? = some key) keys rows)
    (hroom : ∀ row ∈ rows, HasRoom widths row)
    (hline : ∀ row ∈ rows, IsLine columns (rowLine widths row)) :
    List.Forall₂ (fun key line => IsLine columns line ∧ Opens key line)
      keys (rows.map (rowLine widths)) := by
  induction hkeys with
  | nil => exact .nil
  | cons hkey _ ih =>
      rw [List.forall_mem_cons] at hroom hline
      exact .cons ⟨hline.1, opens_rowLine hroom.1 hkey⟩ (ih hroom.2 hline.2)

/-- A table with rows that are all as long as the header is one for readers of
Markdown. -/
theorem isMarkdown_tableLines (hwidths : widths? header rows = some widths)
    (hlength : ∀ row ∈ rows, row.length = header.length)
    (hbar : ∀ row ∈ header :: rows, ∀ cell ∈ row, '|' ∉ cell.toList)
    (hkeys : List.Forall₂ (fun key row => row[0]? = some key) keys rows)
    (hrows : rows ≠ []) :
    IsMarkdown header.length keys (tableLines widths header rows) := by
  have hroom := (fit_of_widths? hwidths).room
  have hline : ∀ row ∈ header :: rows,
      IsLine header.length (rowLine widths row) := by
    intro row hrow
    have hcolumns : row.length = header.length :=
      (List.mem_cons.mp hrow).elim (congrArg List.length) (hlength row)
    exact hcolumns ▸ isLine_rowLine (hroom row hrow) (hbar row hrow)
  rw [List.forall_mem_cons] at hroom hline
  have hrule : IsRule header.length (ruleLine widths) :=
    length_widths? hwidths ▸ isRule_ruleLine widths
  rw [tableLines, if_neg (by rwa [List.isEmpty_iff])]
  exact .intro hline.1 hrule (lines_of_keys hkeys hroom.2 hline.2)

/-- Without rows a table has no rule, and is none for them. -/
theorem isBare_tableLines (hroom : HasRoom widths header)
    (hbar : ∀ cell ∈ header, '|' ∉ cell.toList) :
    IsBare header.length (tableLines widths header []) :=
  .intro (isLine_rowLine hroom hbar)

end ProofBatch.Table
