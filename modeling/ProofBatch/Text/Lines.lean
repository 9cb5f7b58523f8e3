/-
Lines of a text. A line ends at a line feed, and a carriage return directly
before that line feed belongs to the ending, not to the line. A text that ends
in a line feed has no empty last line.
-/

namespace ProofBatch.Text

/-- Put a character in front of the first line; without a line it becomes
one. -/
def consLine (c : Char) : List (List Char) → List (List Char)
  | [] => [[c]]
  | line :: rest => (c :: line) :: rest

/-- The lines of a text, without their endings. -/
def lines : List Char → List (List Char)
  | [] => []
  | '\n' :: rest => [] :: lines rest
  | '\r' :: '\n' :: rest => [] :: lines rest
  | c :: rest => consLine c (lines rest)

end ProofBatch.Text
