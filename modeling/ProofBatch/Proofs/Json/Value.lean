/-
Reading a value from its tokens undoes writing it.

# What was written is read

The reader goes over the tokens of a value and comes out behind them with the
value in its hand, whatever is still open and whatever follows (`read_tokens`).

# What is read was written

What the reader has behind it can be told from what it holds: the containers
that are open, and what it awaits (`behind`). No step changes the tokens behind
it together with those before it, so when it comes to the end with a value,
these were the tokens of the value (`tokens_of_read`).

# What stands behind

Behind a value only spaces may stand. For an object that needs no more than its
closing bracket: no token runs on beyond it (`parse?_eq_none_of_append`).
-/
import ProofBatch.Json.Limits
import ProofBatch.Proofs.Json.Token

namespace ProofBatch.Json

variable {frames : List Frame} {v : Value} {items : List Value}
  {name : List Piece} {members : List (List Piece × Value)}
  {tokens rest : List Token}

-- =================================================== what was written is read

/-- The first item of an array is read like any value. -/
theorem read_item (frames : List Frame) (v : Value) (rest : List Token) :
    read frames .item (v.tokens ++ rest)
      = read frames .value (v.tokens ++ rest) := by
  cases v with
  | null => rfl
  | bool => rfl
  | number => rfl
  | string => rfl
  | array => rfl
  | object => rfl

/-- Wherever a value is awaited, its tokens are read as it. -/
def IsRead (v : Value) : Prop :=
  ∀ frames rest, read frames .value (v.tokens ++ rest)
    = read frames (.after v) rest

/-- Reading the later items of an array completes it. -/
theorem read_laterItems (h : ∀ v ∈ items, IsRead v) (earlier : List Value)
    (v : Value) (frames : List Frame) (rest : List Token) :
    read (.array earlier :: frames) (.after v) (laterItems items ++ rest)
      = read frames (.after (.array ((v :: earlier).reverse ++ items)))
        rest := by
  induction items generalizing earlier v with
  | nil =>
      rw [List.append_nil]
      rfl
  | cons item later ih =>
      obtain ⟨hitem, hlater⟩ := List.forall_mem_cons.mp h
      have hcomma : read (.array earlier :: frames) (.after v)
          (laterItems (item :: later) ++ rest)
          = read (.array (v :: earlier) :: frames) .value
            (item.tokens ++ (laterItems later ++ rest)) := by
        rw [laterItems, List.cons_append, List.append_assoc]
        rfl
      rw [hcomma, hitem, ih hlater, List.reverse_cons, List.append_assoc]
      rfl

/-- Reading the later members of an object completes it. -/
theorem read_laterMembers (h : ∀ m ∈ members, IsRead m.2)
    (earlier : List (List Piece × Value)) (name : List Piece) (v : Value)
    (frames : List Frame) (rest : List Token) :
    read (.object earlier name :: frames) (.after v)
        (laterMembers members ++ rest)
      = read frames
        (.after (.object (((name, v) :: earlier).reverse ++ members)))
        rest := by
  induction members generalizing earlier name v with
  | nil =>
      rw [List.append_nil]
      rfl
  | cons m later ih =>
      obtain ⟨hitem, hlater⟩ := List.forall_mem_cons.mp h
      have hcomma : read (.object earlier name :: frames) (.after v)
          (laterMembers (m :: later) ++ rest)
          = read (.object ((name, v) :: earlier) m.1 :: frames) .value
            (m.2.tokens ++ (laterMembers later ++ rest)) := by
        rw [laterMembers]
        simp only [List.cons_append, List.append_assoc]
        rfl
      rw [hcomma, hitem, ih hlater, List.reverse_cons, List.append_assoc]
      rfl

/-- Every value is read from its tokens, wherever it stands. -/
theorem read_tokens (v : Value) : IsRead v := by
  induction v using valueInduction with
  | null => exact fun _ _ => rfl
  | bool => exact fun _ _ => rfl
  | number => exact fun _ _ => rfl
  | string => exact fun _ _ => rfl
  | array items ih =>
      intro frames rest
      cases items with
      | nil => rfl
      | cons item later =>
          obtain ⟨hitem, hlater⟩ := List.forall_mem_cons.mp ih
          have hopen : read frames .value ((Value.array (item :: later)).tokens
              ++ rest)
              = read (.array [] :: frames) .item
                (item.tokens ++ (laterItems later ++ rest)) := by
            rw [Value.tokens, itemTokens, List.cons_append, List.append_assoc]
            rfl
          rw [hopen, read_item, hitem, read_laterItems hlater]
          rfl
  | object members ih =>
      intro frames rest
      cases members with
      | nil => rfl
      | cons m later =>
          obtain ⟨hitem, hlater⟩ := List.forall_mem_cons.mp ih
          have hopen : read frames .value ((Value.object (m :: later)).tokens
              ++ rest)
              = read (.object [] m.1 :: frames) .value
                (m.2.tokens ++ (laterMembers later ++ rest)) := by
            rw [Value.tokens, memberTokens]
            simp only [List.cons_append, List.append_assoc]
            rfl
          rw [hopen, hitem, read_laterMembers hlater]
          rfl

-- =================================================== what is read was written

/-- Items of an array that others follow. -/
def itemRun (items : List Value) : List Token :=
  items.flatMap fun v => v.tokens ++ [.comma]

/-- Members of an object that others follow. -/
def memberRun (members : List (List Piece × Value)) : List Token :=
  members.flatMap fun m => .string m.1 :: .colon :: (m.2.tokens ++ [.comma])

/-- The last item of an array comes after all others. -/
theorem itemTokens_snoc (items : List Value) (v : Value) :
    itemTokens (items ++ [v])
      = itemRun items ++ (v.tokens ++ [.closeArray]) := by
  induction items with
  | nil => rfl
  | cons item rest ih =>
      have hlater : laterItems (rest ++ [v])
          = .comma :: itemTokens (rest ++ [v]) := by
        cases rest with
        | nil => rfl
        | cons => rfl
      rw [List.cons_append, itemTokens, hlater, ih]
      simp only [itemRun, List.flatMap_cons, List.append_assoc,
        List.cons_append, List.nil_append]

/-- The last member of an object comes after all others. -/
theorem memberTokens_snoc (members : List (List Piece × Value))
    (name : List Piece) (v : Value) :
    memberTokens (members ++ [(name, v)])
      = memberRun members
        ++ .string name :: .colon :: (v.tokens ++ [.closeObject]) := by
  induction members with
  | nil => rfl
  | cons m rest ih =>
      have hlater : laterMembers (rest ++ [(name, v)])
          = .comma :: memberTokens (rest ++ [(name, v)]) := by
        cases rest with
        | nil => rfl
        | cons => rfl
      rw [List.cons_append, memberTokens, hlater, ih]
      simp only [memberRun, List.flatMap_cons, List.append_assoc,
        List.cons_append, List.nil_append]

/-- What a container that is open has behind it. -/
def Frame.behind : Frame → List Token
  | .array items => .openArray :: itemRun items.reverse
  | .object members name =>
    .openObject :: (memberRun members.reverse ++ [.string name, .colon])

/-- What the innermost containers have behind them, and those around them. -/
def openings : List Frame → List Token
  | [] => []
  | frame :: outer => openings outer ++ frame.behind

/-- What is behind when something is awaited, within the open containers. -/
def Awaiting.behind : Awaiting → List Token
  | .value => []
  | .item => []
  | .name members _ => .openObject :: memberRun members.reverse
  | .colon members name =>
    .openObject :: (memberRun members.reverse ++ [.string name])
  | .after v => v.tokens

/-- The value that a token is by itself. -/
def Token.scalar? : Token → Option Value
  | .null => some .null
  | .bool b => some (.bool b)
  | .number n => some (.number n)
  | .string pieces => some (.string pieces)
  | _ => none

/-- Whether a value may come next. -/
def Awaiting.startsValue : Awaiting → Bool
  | .value => true
  | .item => true
  | _ => false

/-- What one token does. -/
inductive Step : List Frame → Awaiting → Token → List Frame → Awaiting → Prop
  | scalar {frames : List Frame} {awaiting : Awaiting} {token : Token}
      {v : Value} (starts : awaiting.startsValue = true)
      (alone : token.scalar? = some v) :
      Step frames awaiting token frames (.after v)
  | openArray {frames : List Frame} {awaiting : Awaiting}
      (starts : awaiting.startsValue = true) :
      Step frames awaiting .openArray (.array [] :: frames) .item
  | openObject {frames : List Frame} {awaiting : Awaiting}
      (starts : awaiting.startsValue = true) :
      Step frames awaiting .openObject frames (.name [] true)
  | nextItem {items : List Value} {frames : List Frame} {v : Value} :
      Step (.array items :: frames) (.after v) .comma
        (.array (v :: items) :: frames) .value
  | closeArray {items : List Value} {frames : List Frame} {v : Value} :
      Step (.array items :: frames) (.after v) .closeArray frames
        (.after (.array (v :: items).reverse))
  | emptyArray {items : List Value} {frames : List Frame} :
      Step (.array items :: frames) .item .closeArray frames
        (.after (.array items.reverse))
  | name {members : List (List Piece × Value)} {orEnd : Bool}
      {name : List Piece} {frames : List Frame} :
      Step frames (.name members orEnd) (.string name) frames
        (.colon members name)
  | colon {members : List (List Piece × Value)} {name : List Piece}
      {frames : List Frame} :
      Step frames (.colon members name) .colon (.object members name :: frames)
        .value
  | nextMember {members : List (List Piece × Value)} {name : List Piece}
      {frames : List Frame} {v : Value} :
      Step (.object members name :: frames) (.after v) .comma frames
        (.name ((name, v) :: members) false)
  | closeObject {members : List (List Piece × Value)} {name : List Piece}
      {frames : List Frame} {v : Value} :
      Step (.object members name :: frames) (.after v) .closeObject frames
        (.after (.object ((name, v) :: members).reverse))
  | emptyObject {members : List (List Piece × Value)} {frames : List Frame} :
      Step frames (.name members true) .closeObject frames
        (.after (.object members.reverse))

/-- A token that is read does one of these things. -/
theorem read_step {awaiting : Awaiting} {token : Token}
    (h : read frames awaiting (token :: rest) = some v) :
    ∃ frames' awaiting', Step frames awaiting token frames' awaiting'
      ∧ read frames' awaiting' rest = some v := by
  cases awaiting with
  | value =>
      cases token with
      | openArray => exact ⟨_, _, .openArray rfl, h⟩
      | openObject => exact ⟨_, _, .openObject rfl, h⟩
      | null => exact ⟨_, _, .scalar rfl rfl, h⟩
      | bool => exact ⟨_, _, .scalar rfl rfl, h⟩
      | number => exact ⟨_, _, .scalar rfl rfl, h⟩
      | string => exact ⟨_, _, .scalar rfl rfl, h⟩
      | _ => cases h
  | item =>
      cases token with
      | openArray => exact ⟨_, _, .openArray rfl, h⟩
      | openObject => exact ⟨_, _, .openObject rfl, h⟩
      | null => exact ⟨_, _, .scalar rfl rfl, h⟩
      | bool => exact ⟨_, _, .scalar rfl rfl, h⟩
      | number => exact ⟨_, _, .scalar rfl rfl, h⟩
      | string => exact ⟨_, _, .scalar rfl rfl, h⟩
      | closeArray =>
          -- only here does it matter whether a first item is awaited
          match frames with
          | .array items :: outer => exact ⟨_, _, .emptyArray, h⟩
          | .object .. :: _ => cases h
          | [] => cases h
      | _ => cases h
  | name members orEnd =>
      cases token with
      | string name => exact ⟨_, _, .name, h⟩
      | closeObject =>
          cases orEnd with
          | true => exact ⟨_, _, .emptyObject, h⟩
          | false => cases h
      | _ => cases h
  | colon members name =>
      cases token with
      | colon => exact ⟨_, _, .colon, h⟩
      | _ => cases h
  | after v =>
      match frames with
      | [] => cases token <;> cases h
      | .array items :: outer =>
          cases token with
          | comma => exact ⟨_, _, .nextItem, h⟩
          | closeArray => exact ⟨_, _, .closeArray, h⟩
          | _ => cases h
      | .object members name :: outer =>
          cases token with
          | comma => exact ⟨_, _, .nextMember, h⟩
          | closeObject => exact ⟨_, _, .closeObject, h⟩
          | _ => cases h

/-- An end is awaited only where nothing stands before it. -/
def Awaiting.Fits (frames : List Frame) : Awaiting → Prop
  | .item => ∃ outer, frames = .array [] :: outer
  | .name members true => members = []
  | _ => True

section Step

variable {frames' : List Frame} {awaiting awaiting' : Awaiting} {token : Token}

/-- What is awaited after a step fits what is open then. -/
theorem Step.fits (h : Step frames awaiting token frames' awaiting') :
    awaiting'.Fits frames' := by
  cases h with
  | openArray => exact ⟨_, rfl⟩
  | openObject => rfl
  | _ => trivial

/-- Where a value may start, none has been read. -/
theorem behind_of_startsValue (h : awaiting.startsValue = true) :
    awaiting.behind = [] := by
  cases awaiting with
  | value => rfl
  | item => rfl
  | _ => cases h

/-- A value without parts is one token. -/
theorem tokens_of_scalar? (h : token.scalar? = some v) :
    v.tokens = [token] := by
  cases token with
  | null =>
      cases h
      rfl
  | bool =>
      cases h
      rfl
  | number =>
      cases h
      rfl
  | string =>
      cases h
      rfl
  | _ => cases h

/-- A token that was read is behind, and what was behind still is. -/
theorem Step.behind (h : Step frames awaiting token frames' awaiting')
    (hfits : awaiting.Fits frames) :
    openings frames' ++ awaiting'.behind
      = openings frames ++ awaiting.behind ++ [token] := by
  cases h with
  | scalar starts alone =>
      rw [behind_of_startsValue starts, List.append_nil]
      exact congrArg _ (tokens_of_scalar? alone)
  | openArray starts =>
      rw [behind_of_startsValue starts, List.append_nil]
      exact List.append_nil _
  | openObject starts =>
      rw [behind_of_startsValue starts, List.append_nil]
      rfl
  | nextItem =>
      simp [openings, Frame.behind, Awaiting.behind, itemRun]
  | closeArray =>
      simp [openings, Frame.behind, Awaiting.behind, Value.tokens,
        itemTokens_snoc]
  | emptyArray =>
      -- with an item before it, a comma would be behind
      obtain ⟨outer, heq⟩ := hfits
      cases heq
      simp [openings, Frame.behind, Awaiting.behind, Value.tokens, itemTokens,
        itemRun]
  | name => simp [Awaiting.behind]
  | colon => simp [openings, Frame.behind, Awaiting.behind]
  | nextMember =>
      simp [openings, Frame.behind, Awaiting.behind, memberRun]
  | closeObject =>
      simp [openings, Frame.behind, Awaiting.behind, Value.tokens,
        memberTokens_snoc]
  | emptyObject =>
      cases hfits
      simp [Awaiting.behind, Value.tokens, memberTokens, memberRun]

/-- What comes out at the end has all tokens that were read. -/
theorem tokens_of_read (h : read frames awaiting tokens = some v)
    (hfits : awaiting.Fits frames) :
    v.tokens = openings frames ++ awaiting.behind ++ tokens := by
  induction tokens generalizing frames awaiting with
  | nil =>
      cases awaiting with
      | after w =>
          match frames with
          | [] =>
              cases h
              exact (List.append_nil _).symm
          | _ :: _ => cases h
      | _ => cases h
  | cons token rest ih =>
      obtain ⟨frames', awaiting', hstep, hrest⟩ := read_step h
      rw [ih hrest hstep.fits, hstep.behind hfits, List.append_assoc]
      rfl

end Step

-- ==================================================================== texts

/-- A text is read as a value if and only if it is written so. -/
theorem parse?_eq_some_iff {text : String} :
    Value.parse? text = some v ↔ v.Written text.toList := by
  unfold Value.parse?
  rw [Option.bind_eq_some_iff]
  constructor
  · rintro ⟨tokens, htokens, hread⟩
    have hall : v.tokens = tokens := tokens_of_read hread trivial
    rw [Value.Written, hall]
    exact laid_of_tokens? _ tokens htokens
  · intro h
    refine ⟨v.tokens, tokens?_of_laid h (apart_tokens v), ?_⟩
    have hread := read_tokens v [] []
    rw [List.append_nil] at hread
    exact hread

/-- A text is no more than one value. -/
theorem Value.Written.unique {w : Value} {text : List Char}
    (h : v.Written text)
    (h' : w.Written text) : v = w := by
  rw [← String.toList_ofList (l := text), ← parse?_eq_some_iff] at h h'
  exact Option.some.inj (h.symm.trans h')

/-- An object ends with its bracket. -/
theorem getLast?_tokens_object (members : List (List Piece × Value)) :
    (Value.object members).tokens.getLast? = some .closeObject := by
  have hends : ∃ front, memberTokens members = front ++ [.closeObject] := by
    rcases List.eq_nil_or_concat members with hnil | ⟨earlier, m, hsnoc⟩
    · rw [hnil]
      exact ⟨[], rfl⟩
    · rw [hsnoc, List.concat_eq_append, memberTokens_snoc]
      exact ⟨memberRun earlier ++ .string m.1 :: .colon :: m.2.tokens, by simp⟩
  obtain ⟨front, hfront⟩ := hends
  rw [Value.tokens, hfront, ← List.cons_append, List.getLast?_append]
  rfl

/-- A text without tokens has nothing but spaces. -/
theorem Laid.isSpace_of_nil {text : List Char} (h : Laid [] text) :
    ∀ c ∈ text, isSpace c = true := by
  generalize htokens : ([] : List Token) = tokens at h
  induction h with
  | nil => exact fun c hc => absurd hc List.not_mem_nil
  | space hspace _ ih => exact List.forall_mem_cons.mpr ⟨hspace, ih htokens⟩
  | token => cases htokens

/-- An object with something behind it that is no space is no value. -/
theorem parse?_eq_none_of_append {front rest : List Char} {text : String}
    (h : (Value.object members).Written front)
    (htext : text.toList = front ++ rest)
    (hrest : ∃ c ∈ rest, isSpace c = false) : Value.parse? text = none := by
  have hends : ∀ t ∈ (Value.object members).tokens.getLast?, t.isSign = false →
      ∀ c ∈ rest.head?, isNumberChar c = false ∧ c.isAlpha = false := by
    intro t ht hlong
    rw [getLast?_tokens_object] at ht
    cases ht
    cases hlong
  rw [Value.parse?, htext, tokens?_append h (apart_tokens _) hends]
  cases htokens : tokens? rest with
  | none => rfl
  | some later =>
      show read [] .value ((Value.object members).tokens ++ later) = none
      rw [read_tokens]
      cases later with
      | nil =>
          obtain ⟨c, hc, hspace⟩ := hrest
          have hall := (laid_of_tokens? rest [] htokens).isSpace_of_nil c hc
          rw [hspace] at hall
          cases hall
      | cons token later => cases token <;> rfl

/-- A text is read if it is the text of a value that is not too deep. -/
theorem parseHeld?_eq_some_iff {text : String} :
    Value.parseHeld? text = some v
      ↔ v.Written text.toList ∧ v.isHeld maxDepth = true := by
  unfold Value.parseHeld?
  constructor
  · intro h
    split at h
    next value hvalue =>
      split at h
      next hheld =>
        cases h
        exact ⟨parse?_eq_some_iff.mp hvalue, hheld⟩
      next => cases h
    next => cases h
  · rintro ⟨hwritten, hheld⟩
    rw [parse?_eq_some_iff.mpr hwritten]
    exact if_pos hheld

end ProofBatch.Json
