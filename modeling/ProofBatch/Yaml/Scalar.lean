/-
Scalars of YAML: plain, in single or double quotes, and as literal or folded
blocks.

A scalar may go over several lines. The blanks around the end of a line are
dropped; a single end of line reads as a space, and of several all but the
first are kept. Literal blocks keep all.
-/
import ProofBatch.Yaml.Cursor

namespace ProofBatch.Yaml

-- ================================================================ gaps

/-- What stands between two words of a scalar. -/
structure Gap where
  /-- Whether a line ends in it. -/
  broken : Bool := false
  /-- The spaces and tabs, while no line has ended. -/
  spaces : List Char := []
  /-- The first end of a line. -/
  first : List Char := []
  /-- The further ends of lines. -/
  more : List Char := []

/-- What a gap reads as. -/
def Gap.text (gap : Gap) : List Char :=
  if !gap.broken then gap.spaces
  else if gap.first ≠ ['\n'] then gap.first ++ gap.more
  else if gap.more.isEmpty then [' ']
  else gap.more

/-- Read a gap of which a part is read already. A tab must not stand where the
line is indented by less than `indent`. -/
def readGap (indent : Option Int) (start : Gap) (c : Cursor) :
    Except Problem (Gap × Cursor) :=
  repeatStep c.bound step (start, c)
where
  step : Gap × Cursor → Except Problem (Gap × Cursor ⊕ Gap × Cursor)
    | (gap, c) =>
      if c.blankAt 0 then
        if gap.broken && indent.any ((c.column : Int) < ·)
          && c.sees 0 '\t' then
          .error "a tab stands where the line is to be indented"
        else
          let gap :=
            if gap.broken then gap
            else { gap with spaces := gap.spaces ++ c.rest.take 1 }
          .ok (.inl (gap, c.skip 1))
      else if c.breakAt 0 then
        let (ending, c) := c.readBreak
        let gap :=
          if gap.broken then { gap with more := gap.more ++ ending }
          else { broken := true, first := ending }
        .ok (.inl (gap, c))
      else .ok (.inr (gap, c))

-- ============================================================== plain scalars

/-- What was read of a plain scalar: its text, the gap after it, and the place
after both. -/
structure PlainRead where
  text : List Char := []
  gap : Gap := {}
  cursor : Cursor

/-- The word of a plain scalar from here on. A word ends before a blank, and
before a colon that a blank follows; inside of brackets it also ends before a
bracket or a comma. -/
def plainWord (inFlow : Bool) (c : Cursor) :
    Except Problem (List Char × Cursor) :=
  repeatStep c.bound step ([], c)
where
  step : List Char × Cursor →
      Except Problem (List Char × Cursor ⊕ List Char × Cursor)
    | (word, c) =>
      if c.wordEndAt 0 then .ok (.inr (word.reverse, c))
      else if inFlow && c.sees 0 ':' && c.atAny 1 ",?[]\x7b\x7d" then
        .error "a colon stands in a scalar"
      else if (c.sees 0 ':' && c.wordEndAt 1)
        || (inFlow && c.atAny 0 ",[]\x7b\x7d") then
        .ok (.inr (word.reverse, c))
      else .ok (.inl (c.rest.take 1 ++ word, c.skip 1))

/-- Read a plain scalar in a block whose entries are indented by `indent`. -/
def readPlain (inFlow : Bool) (indent : Int) (c : Cursor) :
    Except Problem PlainRead :=
  repeatStep c.bound step { cursor := c }
where
  step : PlainRead → Except Problem (PlainRead ⊕ PlainRead)
    | read => do
      let c := read.cursor
      if c.atDocumentEdge || c.sees 0 '#' then return .inr read
      let (word, c') ← plainWord inFlow c
      let read : PlainRead :=
        if word.isEmpty then read
        else { text := read.text ++ read.gap.text ++ word, cursor := c' }
      if !(c'.blankAt 0 || c'.breakAt 0) then return .inr read
      let (gap, c') ← readGap (some (indent + 1)) read.gap c'
      let read := { read with gap, cursor := c' }
      if !inFlow && (c'.column : Int) < indent + 1 then return .inr read
      return .inl read

-- ============================================================= quoted scalars

/-- The value of a hexadecimal digit. -/
def hexValue? (c : Char) : Option Nat :=
  if c.isDigit then some (c.toNat - '0'.toNat)
  else if 'a' ≤ c ∧ c ≤ 'f' then some (c.toNat - 'a'.toNat + 10)
  else if 'A' ≤ c ∧ c ≤ 'F' then some (c.toNat - 'A'.toNat + 10)
  else none

/-- The value of hexadecimal digits. -/
def hexNumber? (digits : List Char) : Option Nat :=
  digits.foldlM (fun n c => (hexValue? c).map (n * 16 + ·)) 0

/-- The character with a number, if there is one. -/
def charOfNumber? (n : Nat) : Option Char :=
  if n.isValidChar then some (Char.ofNat n) else none

/-- The characters that a backslash and one more character stand for. -/
def escapes : List (Char × Nat) :=
  [('0', 0), ('a', 7), ('b', 8), ('t', 9), ('\t', 9), ('n', 10), ('v', 11),
   ('f', 12), ('r', 13),
   ('e', 27), (' ', 32), ('"', 34), ('/', 47), ('\\', 92), ('N', 0x85),
   ('_', 0xA0), ('L', 0x2028),
   ('P', 0x2029)]

/-- How many hexadecimal digits an escape for a number has. -/
def escapeLengths : List (Char × Nat) :=
  [('x', 2), ('u', 4), ('U', 8)]

/-- Read an escape, from its backslash on. -/
def readEscape (c : Cursor) : Except Problem (Char × Cursor) :=
  let code := (c.peek? 1).getD ' '
  match (c.peek? 1).bind (List.lookup · escapes),
    escapeLengths.lookup code with
  | some n, _ => .ok (Char.ofNat n, c.skip 2)
  | none, some length =>
    let digits := (c.rest.drop 2).take length
    if digits.length ≠ length then .error "an escape has too few digits"
    else
      match (hexNumber? digits).bind charOfNumber? with
      | some char => .ok (char, c.skip (2 + length))
      | none => .error "an escape names no character"
  | none, none => .error "an unknown escape"

/-- The quotes around a scalar. -/
inductive Quote where
  | single
  | double
  deriving DecidableEq, Repr

/-- The character of a quote. -/
def Quote.char : Quote → Char
  | single => '\''
  | double => '"'

/-- The word of a quoted scalar from here on, and whether it ends in an escaped
end of line. -/
def quotedWord (quote : Quote) (c : Cursor) :
    Except Problem (List Char × Bool × Cursor) :=
  repeatStep c.bound step ([], c)
where
  step : List Char × Cursor →
      Except Problem (List Char × Cursor ⊕ List Char × Bool × Cursor)
    | (word, c) =>
      if c.wordEndAt 0 then .ok (.inr (word.reverse, false, c))
      else if quote = .single && c.sees 0 '\'' && c.sees 1 '\'' then
        .ok (.inl ('\'' :: word, c.skip 2))
      else if c.sees 0 quote.char then .ok (.inr (word.reverse, false, c))
      else if quote = .double && c.sees 0 '\\' then
        if c.breakAt 1 then
          .ok (.inr (word.reverse, true, (c.skip 1).skipBreak))
        else
          match readEscape c with
          | .ok (char, c) => .ok (.inl (char :: word, c))
          | .error e => .error e
      else .ok (.inl (c.rest.take 1 ++ word, c.skip 1))

/-- Read a quoted scalar, from its opening quote on. -/
def readQuoted (quote : Quote) (c : Cursor) :
    Except Problem (List Char × Cursor) :=
  repeatStep c.bound step ([], c.skip 1)
where
  step : List Char × Cursor →
      Except Problem (List Char × Cursor ⊕ List Char × Cursor)
    | (text, c) => do
      if c.atDocumentEdge then throw "a document ends inside of quotes"
      if c.atEnd then throw "the text ends inside of quotes"
      let (word, joined, c) ← quotedWord quote c
      if c.sees 0 quote.char then return .inr (text ++ word, c.skip 1)
      let (gap, c) ← readGap none { broken := joined } c
      return .inl (text ++ word ++ gap.text, c)

-- ================================================================ blocks

/-- What becomes of the ends of lines at the end of a block. -/
inductive Chomping where
  /-- None is kept. -/
  | strip
  /-- One is kept. -/
  | clip
  /-- All are kept. -/
  | keep
  deriving DecidableEq, Repr

/-- The head of a block. -/
structure BlockHead where
  chomping : Chomping := .clip
  /-- By how much more the lines are indented than the block around; found out
  if not given. -/
  increment : Option Nat := none

/-- Read a sign for chomping. -/
def chompingAt? (c : Cursor) : Option Chomping :=
  if c.sees 0 '+' then some .keep else if c.sees 0 '-' then some .strip
  else none

/-- Read the digit that gives an indentation. -/
def incrementAt (c : Cursor) : Except Problem (Option Nat × Cursor) :=
  match c.peek? 0 with
  | some d =>
    if d = '0' then .error "an indentation of zero"
    else if d.isDigit then .ok (some (d.toNat - '0'.toNat), c.skip 1)
    else .ok (none, c)
  | none => .ok (none, c)

/-- Read the head of a block, after its first character, with the end of its
line. -/
def readBlockHead (c : Cursor) : Except Problem (BlockHead × Cursor) := do
  let (head, c) ←
    match chompingAt? c with
    | some chomping => do
      let (increment, c) ← incrementAt (c.skip 1)
      pure ({ chomping, increment : BlockHead }, c)
    | none => do
      let (increment, c) ← incrementAt c
      match increment, chompingAt? c with
      | some _, some chomping =>
        pure ({ chomping, increment : BlockHead }, c.skip 1)
      | _, _ => pure ({ increment : BlockHead }, c)
  let c := c.skipWhile isBlank
  let c := if c.sees 0 '#' then c.skipWhile (!isBreak ·) else c
  if c.lineEndAt 0 then return (head, c.skipBreak)
  else throw "a block begins in its first line"

/-- The place at the first line of a block that is not empty, with the ends of
the lines before it. Its indentation is given, or that of the deepest line up
to there. -/
structure BlockGap where
  indent : Option Nat
  deepest : Nat := 0
  breaks : List Char := []
  cursor : Cursor

/-- Read the empty lines before a line of a block. -/
def readBlockGap (indent : Option Nat) (c : Cursor) :
    Except Problem BlockGap :=
  repeatStep c.bound step { indent, cursor := c }
where
  step (gap : BlockGap) : Except Problem (BlockGap ⊕ BlockGap) :=
    let c := gap.cursor
    let spaces := (c.rest.takeWhile (· == ' ')).length
    let c := c.skip <| match gap.indent with
      | some indent => min spaces (indent - c.column)
      | none => spaces
    let gap := { gap with deepest := max gap.deepest c.column, cursor := c }
    if c.sees 0 '\t' && gap.indent.all (c.column < ·) then
      .error "a tab stands where the line is to be indented"
    else if c.breakAt 0 then
      let (ending, c) := c.readBreak
      .ok (.inl { gap with breaks := gap.breaks ++ ending, cursor := c })
    else .ok (.inr gap)

/-- What was read of a block. -/
structure BlockRead where
  text : List Char := []
  /-- The end of the line read last. -/
  ending : List Char := []
  /-- The ends of the empty lines after it. -/
  breaks : List Char
  /-- Whether the line read last begins with a blank. -/
  blank : Bool := false
  cursor : Cursor

/-- Read a literal or folded block in a block whose entries are indented by
`indent`, from its first character on. -/
def readBlock (literal : Bool) (indent : Int) (c : Cursor) :
    Except Problem (List Char × Cursor) := do
  let (head, c) ← readBlockHead (c.skip 1)
  let gap ← readBlockGap (head.increment.map ((max indent 0).toNat + ·)) c
  let column := gap.indent.getD (max (max gap.deepest (indent + 1).toNat) 1)
  let read ← repeatStep gap.cursor.bound (step column)
    { breaks := gap.breaks, cursor := gap.cursor }
  let tail := match head.chomping with
    | .strip => []
    | .clip => read.ending
    | .keep => read.ending ++ read.breaks
  return (read.text ++ tail, read.cursor)
where
  step (column : Nat) (read : BlockRead) :
      Except Problem (BlockRead ⊕ BlockRead) := do
    let c := read.cursor
    if c.column ≠ column || c.atEnd then return .inr read
    let blank := c.blankAt 0
    let joint :=
      if !literal && read.ending = ['\n'] && !read.blank && !blank then
        if read.breaks.isEmpty then [' '] else []
      else read.ending
    let (line, c) := c.span (!isBreak ·)
    let (ending, c) := c.readBreak
    let gap ← readBlockGap (some column) c
    return .inl
      { text := read.text ++ joint ++ read.breaks ++ line, ending
        breaks := gap.breaks, blank
        cursor := gap.cursor }

end ProofBatch.Yaml
