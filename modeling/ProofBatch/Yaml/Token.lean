/-
The tokens of a YAML text.

The structure of blocks is given by indentation: a token marks the beginning of
a block where a line is indented more than the block around it, and another its
end where a line is indented less. That a scalar is a key shows only at the
colon after it, so its place is kept in mind until then, and the token for a
key is put in front of it. A key that goes without a mark has to end in the
line in which it begins, and to have no more than 1024 characters.
-/
import ProofBatch.Text.Utf8
import ProofBatch.Yaml.Scalar

namespace ProofBatch.Yaml

-- ================================================================ types

/-- How a scalar is written. -/
inductive Style where
  | plain
  | quoted
  | literal
  | folded
  deriving DecidableEq, Repr

/-- A tag as it is written: the handle of an abbreviation, and what follows it.
A tag that is written in full has no handle. -/
structure TagText where
  handle : String
  suffix : String
  deriving DecidableEq, Repr

/-- A token. -/
inductive Token where
  | version (major minor : Nat)
  | tagHandle (handle leading : String)
  | documentStart
  | documentEnd
  | blockSequence
  | blockMapping
  | blockEnd
  | openSequence
  | closeSequence
  | openMapping
  | closeMapping
  | item
  | comma
  | key
  | value
  | alias (name : String)
  | anchor (name : String)
  | tag (tag : TagText)
  | scalar (style : Style) (text : String)
  deriving DecidableEq, Repr

/-- A place at which a key may have begun. -/
structure KeyPlace where
  /-- How many tokens come before it. -/
  before : Nat
  index : Nat
  line : Nat
  column : Nat
  /-- Whether nothing but a key can stand there. -/
  required : Bool

/-- What was read of a text. -/
structure Scan where
  cursor : Cursor
  /-- The tokens so far, the last first. -/
  tokens : List Token := []
  /-- The indentation of the block that is open, and of the blocks around it;
  -1 before the first. -/
  indent : Int := -1
  outer : List Int := []
  /-- How many brackets are open. -/
  flow : Nat := 0
  /-- Whether a key may begin here. -/
  keyAllowed : Bool := true
  /-- Where a key may have begun, for each open bracket and for what is outside
  of all, the innermost first. -/
  keys : List (Option KeyPlace) := [none]

namespace Scan

-- =============================================================== keys, blocks

/-- Add a token. -/
def emit (s : Scan) (token : Token) : Scan :=
  { s with tokens := token :: s.tokens }

/-- Put a token in where `before` tokens come before it. -/
def insertAt (s : Scan) (before : Nat) (token : Token) : Scan :=
  let later := s.tokens.length - before
  { s with tokens := s.tokens.take later ++ token :: s.tokens.drop later }

/-- The place at which the key that is being read may have begun. -/
def key? (s : Scan) : Option KeyPlace :=
  s.keys.head?.join

/-- Keep another place, or none, for the key that is being read. -/
def setKey (s : Scan) (key : Option KeyPlace) : Scan :=
  { s with keys := key :: s.keys.tail }

/-- Give up that a key began; it is wrong to do so where one is required. -/
def dropKey (s : Scan) : Except Problem Scan :=
  if s.key?.any (·.required) then .error "a key has no colon"
  else .ok (s.setKey none)

/-- Remember that a key may begin here. -/
def saveKey (s : Scan) : Except Problem Scan :=
  if s.keyAllowed then do
    let s ← s.dropKey
    return s.setKey <| some
      { before := s.tokens.length, index := s.cursor.index
        line := s.cursor.line
        column := s.cursor.column
        required := s.flow == 0 && decide (s.indent = s.cursor.column) }
  else .ok s

/-- How long a key without a mark may be. -/
def maxKeyLength : Nat :=
  1024

/-- Whether a key that began at a place can no longer end here. -/
def isStale (s : Scan) (key : KeyPlace) : Bool :=
  decide (key.line < s.cursor.line)
    || decide (key.index + maxKeyLength < s.cursor.index)

/-- Give up all keys that can no longer end here. -/
def dropStaleKeys (s : Scan) : Except Problem Scan :=
  if s.keys.any (·.any fun key => s.isStale key && key.required) then
    .error "a key has no colon"
  else .ok { s with keys := s.keys.map (·.filter (!s.isStale ·)) }

/-- Open a block if the column is more indented than the block that is open;
`put` adds the token for it. -/
def openBlock (s : Scan) (column : Nat) (put : Scan → Scan) : Scan :=
  if s.flow = 0 ∧ s.indent < column then
    put { s with indent := column, outer := s.indent :: s.outer }
  else s

/-- Close the blocks in `outer` that are more indented than a column. -/
def closeBlocksIn (column : Int) (s : Scan) : List Int → Scan
  | [] => s
  | around :: outer =>
    if s.indent > column then
      closeBlocksIn column ({ s with indent := around, outer }.emit .blockEnd)
        outer
    else s

/-- Close the blocks that are more indented than a column. -/
def closeBlocks (s : Scan) (column : Int) : Scan :=
  if s.flow = 0 then closeBlocksIn column s s.outer else s

-- ============================================================= between tokens

/-- Pass over blanks, comments and ends of lines. A tab is no blank where a key
may begin. -/
def skipGap (s : Scan) : Except Problem Scan :=
  repeatStep s.cursor.bound step s
where
  step (s : Scan) : Except Problem (Scan ⊕ Scan) :=
    let tabs := s.flow != 0 || !s.keyAllowed
    let c := s.cursor.skipWhile fun x => x == ' ' || (tabs && x == '\t')
    let c := if c.sees 0 '#' then c.skipWhile (!isBreak ·) else c
    if c.breakAt 0 then
      .ok (.inl
        { s with
          cursor := c.skipBreak
          keyAllowed := s.keyAllowed || s.flow == 0 })
    else .ok (.inr { s with cursor := c })

-- ================================================== directives, anchors, tags

/-- A number in a directive. -/
def versionNumber (c : Cursor) : Except Problem (Nat × Cursor) :=
  let (digits, c) := c.span Char.isDigit
  if digits.isEmpty || 9 < digits.length then .error "no version number"
  else .ok (digits.foldl (fun n d => n * 10 + (d.toNat - '0'.toNat)) 0, c)

/-- The bytes that an escape `%xx` and those directly after it stand for. -/
def uriBytes (c : Cursor) : Except Problem (List UInt8 × Cursor) :=
  repeatStep c.bound step ([], c)
where
  step : List UInt8 × Cursor →
      Except Problem (List UInt8 × Cursor ⊕ List UInt8 × Cursor)
    | (bytes, c) =>
      if c.sees 0 '%' then
        match hexNumber? ((c.rest.drop 1).take 2) with
        | some n =>
          if c.rest.length < 3 then .error "an escape has too few digits"
          else .ok (.inl (bytes ++ [UInt8.ofNat n], c.skip 3))
        | none => .error "an escape has too few digits"
      else .ok (.inr (bytes, c))

/-- Whether a character may stand in a tag; some may only in one that is
written in full. -/
def isTagChar (full : Bool) (c : Char) : Bool :=
  isNameChar c || ";/?:@&=+$.!~*'()".toList.contains c
    || (full && ",[]".toList.contains c)

/-- A tag, or the rest of one. -/
def tagChars (full : Bool) (c : Cursor) : Except Problem (String × Cursor) :=
  repeatStep c.bound step ([], c)
where
  step : List Char × Cursor →
      Except Problem (List Char × Cursor ⊕ String × Cursor)
    | (text, c) =>
      if c.sees 0 '%' then
        match uriBytes c with
        | .error e => .error e
        | .ok (bytes, c) =>
          match Text.decode? bytes with
          | some decoded => .ok (.inl (text ++ decoded.toList, c))
          | none => .error "an escape names no character"
      else
        let (taken, c) := c.span (isTagChar full)
        if taken.isEmpty then .ok (.inr (.ofList text, c))
        else .ok (.inl (text ++ taken, c))

/-- The handle of a tag: a `!`, or a name between two. Without the second `!`
it is no handle, but the beginning of a tag. -/
def tagHandle (c : Cursor) : Except Problem (String × Cursor) :=
  if c.sees 0 '!' then
    let (name, c) := (c.skip 1).span isNameChar
    if c.sees 0 '!' then .ok (.ofList ('!' :: name ++ ['!']), c.skip 1)
    else .ok (.ofList ('!' :: name), c)
  else .error "a tag has no handle"

/-- Read a directive, from its `%` on. -/
def directive (c : Cursor) : Except Problem (Token × Cursor) := do
  let (name, c) := (c.skip 1).span isNameChar
  unless c.wordEndAt 0 do throw "a directive has no name"
  let (token, c) ←
    if name = "YAML".toList then do
      let (major, c) ← versionNumber (c.skipWhile isBlank)
      unless c.sees 0 '.' do throw "no version number"
      let (minor, c) ← versionNumber (c.skip 1)
      pure (Token.version major minor, c)
    else if name = "TAG".toList then do
      let (handle, c) ← tagHandle (c.skipWhile isBlank)
      unless handle = "!" || handle.toList.getLast? = some '!' do
        throw "a tag has no handle"
      unless c.blankAt 0 do throw "a tag handle has no end"
      let (leading, c) ← tagChars true (c.skipWhile isBlank)
      if leading.isEmpty then throw "a tag handle stands for nothing"
      unless c.wordEndAt 0 do throw "a tag handle has no end"
      pure (Token.tagHandle handle leading, c)
    else throw "an unknown directive"
  let c := c.skipWhile isBlank
  let c := if c.sees 0 '#' then c.skipWhile (!isBreak ·) else c
  if c.lineEndAt 0 then return (token, c.skipBreak)
  else throw "a directive has no end"

/-- Read the name of an anchor, from its mark on. -/
def anchorName (c : Cursor) : Except Problem (String × Cursor) :=
  let (name, c) := (c.skip 1).span isNameChar
  if name.isEmpty || !(c.wordEndAt 0 || c.atAny 0 "?:,]\x7d%@\x60") then
    .error "an anchor has no name"
  else .ok (.ofList name, c)

/-- Read a tag, from its `!` on. -/
def tag (inFlow : Bool) (c : Cursor) : Except Problem (TagText × Cursor) := do
  let (tag, c) ←
    if c.sees 1 '<' then do
      let (suffix, c) ← tagChars true (c.skip 2)
      if suffix.isEmpty then throw "a tag is empty"
      unless c.sees 0 '>' do throw "a tag has no end"
      pure ({ handle := "", suffix : TagText }, c.skip 1)
    else do
      let (start, c) ← tagHandle c
      let (rest, c) ← tagChars false c
      if 1 < start.length && start.toList.getLast? = some '!' then
        if rest.isEmpty then throw "a tag is empty"
        pure ({ handle := start, suffix := rest : TagText }, c)
      else
        let suffix := .ofList (start.toList.drop 1) ++ rest
        if suffix.isEmpty then
          pure ({ handle := "", suffix := "!" : TagText }, c)
        else pure ({ handle := "!", suffix : TagText }, c)
  if c.wordEndAt 0 || (inFlow && c.sees 0 ',') then return (tag, c)
  else throw "a tag has no end"

-- ================================================================ tokens

/-- Pass over `n` characters and add a token. -/
def sign (s : Scan) (n : Nat) (token : Token) : Scan :=
  ({ s with cursor := s.cursor.skip n }).emit token

/-- Add a token that was read, after which no key may begin. -/
def content (s : Scan) (token : Token) (c : Cursor) : Scan :=
  ({ s with cursor := c, keyAllowed := false }).emit token

/-- A token outside of all blocks. -/
def edge (s : Scan) : Except Problem Scan := do
  let s ← (s.closeBlocks (-1)).dropKey
  return { s with keyAllowed := false }

/-- An item of a sequence in a block. -/
def item (s : Scan) : Except Problem Scan := do
  unless s.flow != 0 || s.keyAllowed do
    throw "a sequence begins where it must not"
  let s ← (s.openBlock s.cursor.column (·.emit .blockSequence)).dropKey
  return ({ s with keyAllowed := true }).sign 1 .item

/-- A key with a mark. -/
def markedKey (s : Scan) : Except Problem Scan := do
  unless s.flow != 0 || s.keyAllowed do
    throw "a mapping begins where it must not"
  let s ← (s.openBlock s.cursor.column (·.emit .blockMapping)).dropKey
  return ({ s with keyAllowed := s.flow == 0 }).sign 1 .key

/-- The colon before a value: what stands before it is a key, or there is
none. -/
def value (s : Scan) : Except Problem Scan :=
  match s.key? with
  | some key =>
    let s := s.insertAt key.before .key
    let s := s.openBlock key.column (·.insertAt key.before .blockMapping)
    .ok (({ s with keyAllowed := false }.setKey none).sign 1 .value)
  | none =>
    if s.flow = 0 ∧ !s.keyAllowed then
      .error "a value stands where it must not"
    else
      let s := s.openBlock s.cursor.column (·.emit .blockMapping)
      .ok (({ s with keyAllowed := s.flow == 0 }).sign 1 .value)

/-- An opening bracket. -/
def openFlow (s : Scan) (token : Token) : Except Problem Scan := do
  let s ← s.saveKey
  return ({ s with
    flow := s.flow + 1, keys := none :: s.keys
    keyAllowed := true }).sign 1 token

/-- A closing bracket. -/
def closeFlow (s : Scan) (token : Token) : Except Problem Scan := do
  let s ← s.dropKey
  let s :=
    if s.flow = 0 then s
    else { s with flow := s.flow - 1, keys := s.keys.tail }
  return ({ s with keyAllowed := false }).sign 1 token

/-- A plain scalar. -/
def plain (s : Scan) : Except Problem Scan := do
  let s ← s.saveKey
  let read ← readPlain (s.flow != 0) s.indent s.cursor
  let s := s.content (.scalar .plain (.ofList read.text)) read.cursor
  return { s with keyAllowed := read.gap.broken }

/-- A scalar in quotes. -/
def quoted (s : Scan) (quote : Quote) : Except Problem Scan := do
  let s ← s.saveKey
  let (text, c) ← readQuoted quote s.cursor
  return s.content (.scalar .quoted (.ofList text)) c

/-- A literal or folded block. -/
def block (s : Scan) (style : Style) : Except Problem Scan := do
  let s ← s.dropKey
  let (text, c) ← readBlock (style == .literal) s.indent s.cursor
  return { s.content (.scalar style (.ofList text)) c with keyAllowed := true }

/-- An anchor or an alias. -/
def named (s : Scan) (token : String → Token) : Except Problem Scan := do
  let s ← s.saveKey
  let (name, c) ← anchorName s.cursor
  return s.content (token name) c

/-- A tag before a value. -/
def tagged (s : Scan) : Except Problem Scan := do
  let s ← s.saveKey
  let (text, c) ← tag (s.flow != 0) s.cursor
  return s.content (.tag text) c

/-- Whether a plain scalar may begin here. -/
def atPlain (s : Scan) : Bool :=
  let c := s.cursor
  !(c.wordEndAt 0 || c.atAny 0 "-?:,[]\x7b\x7d#&*!|>'\"%@\x60")
    || (c.sees 0 '-' && !c.blankAt 1)
    || (s.flow == 0 && c.atAny 0 "?:" && !c.wordEndAt 1)

/-- Read the next token where one begins. -/
def token (s : Scan) : Except Problem Scan :=
  let c := s.cursor
  let inFlow := s.flow != 0
  if c.column = 0 ∧ c.sees 0 '%' then do
    let s ← s.edge
    let (token, c) ← directive s.cursor
    return s.content token c
  else if c.atDocumentMark '-' then do return (← s.edge).sign 3 .documentStart
  else if c.atDocumentMark '.' then do return (← s.edge).sign 3 .documentEnd
  else if c.sees 0 '[' then s.openFlow .openSequence
  else if c.sees 0 '\x7b' then s.openFlow .openMapping
  else if c.sees 0 ']' then s.closeFlow .closeSequence
  else if c.sees 0 '\x7d' then s.closeFlow .closeMapping
  else if c.sees 0 ',' then do
    let s ← s.dropKey
    return ({ s with keyAllowed := true }).sign 1 .comma
  else if c.sees 0 '-' && c.wordEndAt 1 then s.item
  else if c.sees 0 '?' && (inFlow || c.wordEndAt 1) then s.markedKey
  else if c.sees 0 ':' && (inFlow || c.wordEndAt 1) then s.value
  else if c.sees 0 '*' then s.named .alias
  else if c.sees 0 '&' then s.named .anchor
  else if c.sees 0 '!' then s.tagged
  else if c.sees 0 '|' && !inFlow then s.block .literal
  else if c.sees 0 '>' && !inFlow then s.block .folded
  else if c.sees 0 '\'' then s.quoted .single
  else if c.sees 0 '"' then s.quoted .double
  else if s.atPlain then s.plain
  else .error "no token begins like this"

/-- Pass over what is before the next token, and read it; at the end, close
what is open. -/
def step (s : Scan) : Except Problem (Scan ⊕ List Token) := do
  let s ← (← s.skipGap).dropStaleKeys
  let s := s.closeBlocks s.cursor.column
  if s.cursor.atEnd then
    let s ← (s.closeBlocks (-1)).dropKey
    return .inr s.tokens.reverse
  else return .inl (← s.token)

end Scan

/-- The tokens of a text. A mark of the byte order may come first. -/
def Token.scan (text : String) : Except Problem (List Token) :=
  let chars := match text.toList with
    | c :: rest => if c.toNat = 0xFEFF then rest else c :: rest
    | [] => []
  if chars.all isAllowed then
    let c : Cursor := { rest := chars }
    repeatStep c.bound Scan.step { cursor := c }
  else .error "a character that must not stand in a text"

end ProofBatch.Yaml
