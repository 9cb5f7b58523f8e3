/-
The one kind of YAML document that holds settings: a single mapping of scalars
to scalars, in block or flow form, or nothing at all.

A scalar may have an anchor and a tag, and an alias may stand for a scalar
whose anchor came before it. Everything that is nested deeper, and a second
document, is refused.
-/
import ProofBatch.Yaml.Token

namespace ProofBatch.Yaml

-- ================================================================ types

/-- A scalar of a document. -/
structure Scalar where
  tag : Option String := none
  style : Style := .plain
  text : String := ""
  deriving DecidableEq, Repr, Inhabited

/-- The number that a document gives to an anchor. -/
abbrev AnchorNumber := Nat

/-- A key or a value as it is written. -/
inductive Term where
  | scalar (anchor : Option AnchorNumber) (scalar : Scalar)
  | alias (anchor : AnchorNumber)
  deriving DecidableEq, Repr, Inhabited

/-- What is in front of a value. -/
structure Properties where
  anchor : Option String := none
  tag : Option TagText := none

-- ============================================================== reading terms

/-- What is known while a document is read. -/
structure Reader where
  tokens : List Token
  /-- What the handles of tags stand for. -/
  handles : List (String × String)
  /-- The numbers of the anchors that came before. A name that is used again
  gets a new number; the number is how many names there are. -/
  anchors : List (String × AnchorNumber) := []

namespace Reader

/-- What is known once some tokens are read. -/
def past (r : Reader) (rest : List Token) : Reader :=
  { r with tokens := rest }

/-- Give a name the next number. -/
def bind (r : Reader) (name : String) : AnchorNumber × Reader :=
  let number := r.anchors.length
  (number,
    { r with anchors := (name, number) :: r.anchors.filter (·.1 ≠ name) })

/-- The tag that a written tag stands for. -/
def resolveTag (r : Reader) (tag : Option TagText) :
    Except Problem (Option String) :=
  match tag with
  | none => .ok none
  | some ⟨handle, suffix⟩ =>
    if handle.isEmpty then .ok (some suffix)
    else
      match r.handles.lookup handle with
      | some leading => .ok (some (leading ++ suffix))
      | none => .error "an unknown tag handle"

/-- Read an anchor and a tag, in either order. -/
def properties (r : Reader) : Properties × Reader :=
  match r.tokens with
  | .anchor name :: .tag tag :: rest => ({ anchor := name, tag }, r.past rest)
  | .tag tag :: .anchor name :: rest => ({ anchor := name, tag }, r.past rest)
  | .anchor name :: rest => ({ anchor := name }, r.past rest)
  | .tag tag :: rest => ({ tag }, r.past rest)
  | _ => ({}, r)

/-- The tag `!`. -/
def bareTag : String :=
  "!"

/-- Read a term. Nothing but an anchor or a tag is an empty scalar, which keeps
its tag; for a scalar that is there, the bare tag is no tag. -/
def term (r : Reader) : Except Problem (Term × Reader) :=
  match r.tokens with
  | .alias name :: rest =>
    match r.anchors.lookup name with
    | some number => .ok (.alias number, r.past rest)
    | none => .error "an unknown anchor"
  | _ => do
    let (props, r) := r.properties
    let tag ← r.resolveTag props.tag
    let (scalar, r) ← match r.tokens with
      | .scalar style text :: rest =>
        let tag := tag.filter (· ≠ bareTag)
        pure ({ tag, style, text : Scalar }, r.past rest)
      | _ =>
        if props.anchor.isNone && props.tag.isNone then
          throw "a value is missing"
        pure ({ tag : Scalar }, r)
    match props.anchor with
    | none => return (.scalar none scalar, r)
    | some name =>
      let (number, r) := r.bind name
      return (.scalar number scalar, r)

/-- Read a term, or nothing if one of the given tokens comes next. -/
def termUnless (r : Reader) (stop : Token → Bool) :
    Except Problem (Term × Reader) :=
  if r.tokens.head?.any stop then .ok (.scalar none {}, r) else r.term

-- =========================================================== reading mappings

/-- The entries of a mapping: what was read, and what is left. -/
abbrev Entries := List (Term × Term) × Reader

/-- Read the entries of a mapping in a block. -/
def blockStep : Entries → Except Problem (Entries ⊕ Entries)
  | (entries, r) =>
    let stop (token : Token) : Bool :=
      token == .key || token == .value || token == .blockEnd
    match r.tokens with
    | .blockEnd :: rest => .ok (.inr (entries, r.past rest))
    | .key :: rest => do
      let (key, r) ← (r.past rest).termUnless stop
      let (value, r) ← match r.tokens with
        | .value :: rest => (r.past rest).termUnless stop
        | _ => pure (.scalar none {}, r)
      return .inl (entries ++ [(key, value)], r)
    | _ => .error "a key is missing"

/-- Read the entry of a mapping in brackets, where one begins. -/
def flowEntry (r : Reader) : Except Problem ((Term × Term) × Reader) :=
  let stop (token : Token) : Bool := token == .comma || token == .closeMapping
  match r.tokens with
  | .key :: rest => do
    let (key, r) ←
      (r.past rest).termUnless fun token => token == .value || stop token
    let (value, r) ← match r.tokens with
      | .value :: rest => (r.past rest).termUnless stop
      | _ => pure (.scalar none {}, r)
    return ((key, value), r)
  | _ => do
    let (key, r) ← r.term
    return ((key, .scalar none {}), r)

/-- Read the entries of a mapping in brackets; all but the first come after a
comma. -/
def flowStep : Entries → Except Problem (Entries ⊕ Entries)
  | (entries, r) =>
    match r.tokens with
    | .closeMapping :: rest => .ok (.inr (entries, r.past rest))
    | _ => do
      let r ← match r.tokens, entries with
        | .comma :: rest, _ :: _ => pure (r.past rest)
        | _, [] => pure r
        | _, _ => throw "a comma is missing"
      match r.tokens with
      | .closeMapping :: rest => return .inr (entries, r.past rest)
      | _ =>
        let (entry, r) ← r.flowEntry
        return .inl (entries ++ [entry], r)

/-- Read the contents of a document. Nothing, with or without an anchor or a
tag, is an empty mapping. -/
def contents (r : Reader) : Except Problem Entries := do
  let (props, r) := r.properties
  let _ ← r.resolveTag props.tag
  let r := match props.anchor with
    | some name => (r.bind name).2
    | none => r
  match r.tokens with
  | .blockMapping :: rest =>
    repeatStep (rest.length + 1) blockStep ([], r.past rest)
  | .openMapping :: rest =>
    repeatStep (rest.length + 1) flowStep ([], r.past rest)
  | [] => return ([], r)
  | .documentEnd :: _ => return ([], r)
  | _ => throw "the settings are no mapping"

end Reader

-- ================================================================ documents

/-- The directives at the beginning of a document: whether there is one for the
version, and the handles of tags. -/
structure Directives where
  version : Bool := false
  handles : List (String × String) := []

/-- The handles that need no directive. -/
def standardHandles : List (String × String) :=
  [("!", "!"), ("!!", "tag:yaml.org,2002:")]

/-- Read directives, up to the mark for the beginning of the document that has
to follow. -/
def readDirectives (d : Directives) :
    List Token → Except Problem (Directives × List Token)
  | .version major minor :: rest =>
    if d.version then .error "two versions are given"
    else if major = 1 ∧ (minor = 1 ∨ minor = 2) then
      readDirectives { d with version := true } rest
    else .error "an unknown version"
  | .tagHandle handle leading :: rest =>
    if (d.handles.lookup handle).isSome then
      .error "a tag handle is given twice"
    else
      let handles := d.handles ++ [(handle, leading)]
      readDirectives { d with handles } rest
  | .documentStart :: rest => .ok (d, rest)
  | _ => .error "a document does not begin"

/-- A document: its entries, as they are written. -/
structure Document where
  entries : List (Term × Term)
  deriving Repr, Inhabited

namespace Document

/-- The document that a text holds. -/
def parse (text : String) : Except Problem Document := do
  let tokens ← Token.scan text
  let marked := match tokens.head? with
    | some (.version ..) => true
    | some (.tagHandle ..) => true
    | some .documentStart => true
    | _ => false
  if tokens.isEmpty then return { entries := [] }
  let (directives, tokens) ←
    if marked then readDirectives {} tokens else pure ({}, tokens)
  if !marked && tokens.head? = some .documentEnd then
    throw "a document does not begin"
  let reader : Reader :=
    { tokens, handles := directives.handles ++ standardHandles }
  let (entries, rest) ← reader.contents
  if rest.tokens.all (· == .documentEnd) then return { entries }
  else throw "a second document"

/-- The scalars with an anchor, by its number; of several the last counts. -/
def anchored (d : Document) : List (AnchorNumber × Scalar) :=
  (d.entries.flatMap fun (key, value) => [key, value]).reverse.filterMap fun
    | .scalar (some number) scalar => some (number, scalar)
    | _ => none

/-- The scalar that a term stands for. An anchor before the whole mapping
stands for no scalar. -/
def scalar? (d : Document) : Term → Option Scalar
  | .scalar _ scalar => some scalar
  | .alias number => d.anchored.lookup number

/-- The keys and values of a document, none if one of them is no scalar. -/
def scalars? (d : Document) : Option (List (Scalar × Scalar)) :=
  d.entries.mapM fun (key, value) => do
    return (← d.scalar? key, ← d.scalar? value)

end Document

end ProofBatch.Yaml
