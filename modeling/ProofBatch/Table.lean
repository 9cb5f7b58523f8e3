/-
Tables in Markdown. The first row is the header; a line of dashes comes between
it and the second row. Each column is one wider than its widest cell, in
characters, and a bar and a space stand before each cell. A table ends with an
empty line.

A row may have fewer cells than the header, but a table with a longer row
cannot be written.
-/

namespace ProofBatch.Table

/-- The cells of one row. -/
abbrev Row := List String

/-- The width that a cell asks for. -/
def cellWidth (cell : String) : Nat :=
  cell.length + 1

/-- Make columns wide enough for the cells of one more row, if they are enough
columns. -/
def widen : List Nat → Row → Option (List Nat)
  | widths, [] => some widths
  | [], _ :: _ => none
  | width :: widths, cell :: cells =>
    (widen widths cells).map (max width (cellWidth cell) :: ·)

/-- Make columns wide enough for the cells of several rows. -/
def widenAll (widths : List Nat) : List Row → Option (List Nat)
  | [] => some widths
  | row :: rows =>
    match widen widths row with
    | some widths => widenAll widths rows
    | none => none

/-- The widths of the columns of a table. -/
def widths? (header : Row) (rows : List Row) : Option (List Nat) :=
  widenAll (header.map cellWidth) rows

/-- `n` times the character `c`. -/
def fill (n : Nat) (c : Char) : String :=
  .ofList (List.replicate n c)

/-- A cell, with the bar and the space before it and the spaces after it. -/
def cellText (cell : String) (width : Nat) : String :=
  "| " ++ cell ++ fill (width - cell.length) ' '

/-- The line of one row. -/
def rowText (widths : List Nat) (row : Row) : String :=
  String.join (row.zipWith cellText widths) ++ "|\n"

/-- The line between the header and the rows. -/
def ruleText (widths : List Nat) : String :=
  String.join (widths.map fun width => "|" ++ fill (width + 1) '-') ++ "|\n"

/-- The text of a table with the given widths of its columns. -/
def text (widths : List Nat) (header : Row) (rows : List Row) : String :=
  rowText widths header
    ++ (if rows.isEmpty then "" else ruleText widths)
    ++ String.join (rows.map (rowText widths)) ++ "\n"

/-- The text of a table; there is none if a row has more cells than the
header. -/
def render? : List Row → Option String
  | [] => some ""
  | header :: rows =>
    (widths? header rows).map fun widths => text widths header rows

end ProofBatch.Table
