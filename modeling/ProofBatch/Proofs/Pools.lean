/-
Whether expensive jobs get a pool of their own, by what Litani prints.

# Reports

A report is a text that is a JSON array or object. It names the strings that
stand in the array, or the members of the object (`Names`). What else stands
there, how deep it goes, how often a name is there and where makes no
difference.

# Decisions

Pools are in use if and only if jobs are restricted and Litani ended well with
a report that names pools (`detect_litani`). Nothing that Litani does is an
error: where it cannot be asked, or says what is no report, it has no
capabilities. The log gets one warning about a text that is no report, and one
about a tool that does not know pools where they were insisted on.
-/
import ProofBatch.Pools
import ProofBatch.Proofs.Journal
import ProofBatch.Proofs.Json.Value
import ProofBatch.Proofs.Session.Launches

namespace ProofBatch

open Json

variable {σ : Type} {text name : String} {v : Value} {caps : CapabilitySet}
  {answer : Except IoError Finished}

-- ==================================================================== reports

/-- A text that is a value, within the limits. -/
structure Holds (text : String) (v : Value) : Prop where
  written : v.Written text.toList
  held : v.isHeld maxDepth = true

/-- A report is an array or an object. -/
inductive IsReport : Value → Prop
  | array (items : List Value) : IsReport (.array items)
  | object (members : List (List Piece × Value)) : IsReport (.object members)

/-- What a report names: strings that are items, and members. -/
inductive Names (name : String) : Value → Prop
  | item {items : List Value} {pieces : List Piece}
      (among : .string pieces ∈ items)
      (spelled : text? pieces = some name.toList) : Names name (.array items)
  | member {members : List (List Piece × Value)} {pieces : List Piece}
      {v : Value} (among : (pieces, v) ∈ members)
      (spelled : text? pieces = some name.toList) :
      Names name (.object members)

/-- What names a capability is a report. -/
theorem Names.isReport (h : Names name v) : IsReport v := by
  cases h with
  | item => exact .array _
  | member => exact .object _

/-- A text that is no report. -/
def IsUnreadable (text : String) : Prop :=
  ¬∃ v, Holds text v ∧ IsReport v

namespace CapabilitySet

/-- A value is a report if and only if it can be read as one. -/
theorem isReport_iff : IsReport v ↔ ∃ caps, ofValue? v = some caps := by
  constructor
  · rintro (_ | _)
    · exact ⟨_, rfl⟩
    · exact ⟨_, rfl⟩
  · rintro ⟨caps, h⟩
    cases v with
    | array items => exact .array items
    | object members => exact .object members
    | _ => cases h

theorem map_ofList_eq_some_iff {chars : Option (List Char)} :
    chars.map String.ofList = some name ↔ chars = some name.toList := by
  rw [Option.map_eq_some_iff]
  constructor
  · rintro ⟨chars, rfl, rfl⟩
    rw [String.toList_ofList]
  · rintro rfl
    exact ⟨_, rfl, String.ofList_toList⟩

/-- The capabilities in a report are what it names. -/
theorem contains_iff_names (h : ofValue? v = some caps) (name : String) :
    caps.contains name = true ↔ Names name v := by
  cases v with
  | array items =>
      cases h
      rw [contains_ofList, List.contains_iff_mem, List.mem_filterMap]
      constructor
      · rintro ⟨item, hitem, hname⟩
        cases item with
        | string pieces => exact .item hitem (map_ofList_eq_some_iff.mp hname)
        | _ => cases hname
      · rintro (⟨among, spelled⟩ | _)
        exact ⟨_, among, map_ofList_eq_some_iff.mpr spelled⟩
  | object members =>
      cases h
      rw [contains_ofList, List.contains_iff_mem, List.mem_filterMap]
      constructor
      · rintro ⟨m, hm, hname⟩
        exact .member hm (map_ofList_eq_some_iff.mp hname)
      · rintro (_ | ⟨among, spelled⟩)
        exact ⟨_, among, map_ofList_eq_some_iff.mpr spelled⟩
  | _ => cases h

/-- A text that is read is the text of a report. -/
theorem ofReport?_eq_some_iff :
    ofReport? text = some caps
      ↔ ∃ v, Holds text v ∧ ofValue? v = some caps := by
  unfold ofReport?
  rw [Option.bind_eq_some_iff]
  constructor
  · rintro ⟨v, hv, hcaps⟩
    obtain ⟨hwritten, hheld⟩ := parseHeld?_eq_some_iff.mp hv
    exact ⟨v, ⟨hwritten, hheld⟩, hcaps⟩
  · rintro ⟨v, ⟨hwritten, hheld⟩, hcaps⟩
    exact ⟨v, parseHeld?_eq_some_iff.mpr ⟨hwritten, hheld⟩, hcaps⟩

/-- A text that is not read is no text of a report. -/
theorem ofReport?_eq_none_iff : ofReport? text = none ↔ IsUnreadable text := by
  rw [Option.eq_none_iff_forall_ne_some]
  constructor
  · rintro hnone ⟨v, hholds, hreport⟩
    obtain ⟨caps, hcaps⟩ := isReport_iff.mp hreport
    exact hnone caps (ofReport?_eq_some_iff.mpr ⟨v, hholds, hcaps⟩)
  · intro hno caps hcaps
    obtain ⟨v, hholds, hv⟩ := ofReport?_eq_some_iff.mp hcaps
    exact hno ⟨v, hholds, isReport_iff.mpr ⟨caps, hv⟩⟩

end CapabilitySet

-- =============================================================== one question

namespace Litani

/-- The process that tells the capabilities of a tool. -/
def question (path : Path) : Launch :=
  { program := path.text, arguments := Commands.capabilities
    captures := true, hushed := true }

/-- A process that ended well, and what it printed. -/
inductive Printed : Except IoError Finished → String → Prop
  | mk {finished : Finished} (well : finished.ending = .exited 0) :
      Printed (.ok finished) (Text.decodeLossy finished.output)

/-- The warning about a text that is no report. -/
def couldNotLoad (text : String) : String :=
  s!"Could not load litani capabilities: '{Text.trim text}'"

/-- The warnings about what a process printed: one if that is no report. -/
inductive Complained (answer : Except IoError Finished) : List String → Prop
  | unreadable {text : String} (printed : Printed answer text)
      (no : IsUnreadable text) : Complained answer [couldNotLoad text]
  | fine (yes : ∀ text, Printed answer text → ¬IsUnreadable text) :
      Complained answer []

/-- A process prints one text. -/
theorem Printed.unique {other : String} (h : Printed answer text)
    (h' : Printed answer other) : text = other := by
  cases h
  cases h'
  rfl

/-- The answer is made of what was printed, and there is nothing to say if
nothing was. -/
theorem capabilitiesAnswer_cases (answer : Except IoError Finished) :
    (∃ text, Printed answer text
        ∧ capabilitiesAnswer answer = capabilitiesIn text)
      ∨ (∀ text, ¬Printed answer text)
        ∧ ∃ note, capabilitiesAnswer answer
          = (.empty, [.note .debug note]) := by
  cases answer with
  | error e => exact .inr ⟨nofun, _, rfl⟩
  | ok finished =>
      by_cases hwell : finished.ending.isSuccess = true
      · exact .inl ⟨_, ⟨Ending.isSuccess_iff.mp hwell⟩, if_pos hwell⟩
      · refine .inr ⟨?_, _, if_neg hwell⟩
        rintro _ ⟨well⟩
        exact hwell (Ending.isSuccess_iff.mpr well)

/-- A capability counts as there if a report names it, and only then. -/
theorem contains_capabilitiesIn (text name : String) :
    (capabilitiesIn text).1.contains name = true
      ↔ ∃ v, Holds text v ∧ Names name v := by
  unfold capabilitiesIn
  split
  next caps hcaps =>
    obtain ⟨v, hholds, hv⟩ := CapabilitySet.ofReport?_eq_some_iff.mp hcaps
    rw [CapabilitySet.contains_iff_names hv]
    constructor
    · exact fun hnames => ⟨v, hholds, hnames⟩
    · rintro ⟨w, hw, hnames⟩
      cases hholds.written.unique hw.written
      exact hnames
  next hnone =>
    have hunreadable := CapabilitySet.ofReport?_eq_none_iff.mp hnone
    constructor
    · nofun
    · rintro ⟨v, hholds, hnames⟩
      exact absurd ⟨v, hholds, hnames.isReport⟩ hunreadable

/-- What Litani can do is what its report names. -/
theorem contains_capabilitiesAnswer (answer : Except IoError Finished)
    (name : String) :
    (capabilitiesAnswer answer).1.contains name = true
      ↔ ∃ text v, Printed answer text ∧ Holds text v ∧ Names name v := by
  obtain ⟨text, hprinted, heq⟩ | ⟨hsilent, note, heq⟩ :=
    capabilitiesAnswer_cases answer
  · rw [heq, contains_capabilitiesIn]
    constructor
    · rintro ⟨v, hholds, hnames⟩
      exact ⟨text, v, hprinted, hholds, hnames⟩
    · rintro ⟨other, v, hother, hholds, hnames⟩
      cases hprinted.unique hother
      exact ⟨v, hholds, hnames⟩
  · rw [heq]
    constructor
    · nofun
    · rintro ⟨text, _, hprinted, -, -⟩
      exact absurd hprinted (hsilent text)

/-- The warnings about an answer are the ones that are due. -/
theorem complained_capabilitiesAnswer (answer : Except IoError Finished) :
    Complained answer
      (Journal.warnings ((capabilitiesAnswer answer).2.map .heard)) := by
  obtain ⟨text, hprinted, heq⟩ | ⟨hsilent, note, heq⟩ :=
    capabilitiesAnswer_cases answer
  · rw [heq]
    unfold capabilitiesIn
    split
    next caps hcaps =>
      refine .fine fun other hother => ?_
      cases hprinted.unique hother
      rw [← CapabilitySet.ofReport?_eq_none_iff, hcaps]
      nofun
    next hnone =>
      exact .unreadable hprinted (CapabilitySet.ofReport?_eq_none_iff.mp hnone)
  · rw [heq]
    exact .fine fun text h => absurd h (hsilent text)

end Litani

-- ================================================================== decisions

/-- Warnings are read from left to right. -/
theorem Journal.warnings_append (j k : Journal) :
    warnings (j ++ k) = j.warnings ++ k.warnings :=
  List.filterMap_append

namespace Pools

open Litani

/-- The warning that a tool does not know pools, where they are insisted on. -/
def ageWarning (restriction : Restriction) (pools : Bool) (tool : String) :
    List String :=
  if restriction = .yes ∧ pools = false then [tooOld tool] else []

/-- What it means that pools were decided about. -/
structure Detected (start : Launcher σ) (path : Path)
    (restriction : Restriction) (w : World σ) (result : Bool × World σ) :
    Prop where
  /-- Pools are in use where jobs are restricted and Litani reports pools. -/
  decided : result.1 = true ↔ restriction ≠ .no
    ∧ ∃ text v, Printed (start (question path) w.outside).answer text
      ∧ Holds text v ∧ Names poolsCapability v
  /-- Without a restriction nothing happens. -/
  skipped : restriction = .no → result.2 = w
  /-- Otherwise Litani is asked, once. -/
  asked : restriction ≠ .no →
    result.2.outside = (start (question path) w.outside).outside
      ∧ ∃ events unread, result.2.journal = w.journal ++ events
        ∧ events.calls = [.capabilities]
        ∧ Complained (start (question path) w.outside).answer unread
        ∧ events.warnings
          = Journal.warnings
              ((start (question path) w.outside).remarks.map .heard)
            ++ unread
            ++ ageWarning restriction result.1
              (Litani.tool start path).describe

/-- Notes of one level, written by the run itself. -/
def noted (level : Level) (texts : List String) : Journal :=
  texts.map fun text => .said (.note level text)

theorem calls_noted (level : Level) (texts : List String) :
    Journal.calls (noted level texts) = [] := by
  induction texts with
  | nil => rfl
  | cons text rest ih => exact ih

theorem warnings_noted_debug (texts : List String) :
    Journal.warnings (noted .debug texts) = [] := by
  induction texts with
  | nil => rfl
  | cons text rest ih => exact ih

theorem warnings_noted_warn (texts : List String) :
    Journal.warnings (noted .warn texts) = texts := by
  induction texts with
  | nil => rfl
  | cons text rest ih => exact congrArg (text :: ·) ih

/-- What is told of the capabilities is for debugging, whatever they are. -/
theorem noteCapabilities_eq (tool : BuildTool σ) (restriction : Restriction)
    (caps : CapabilitySet) (w : World σ) :
    ∃ texts, noteCapabilities tool restriction caps w
      = { w with journal := w.journal ++ noted .debug texts } := by
  unfold noteCapabilities
  by_cases hnone : caps.isEmpty = true
  · rw [if_pos hnone]
    exact ⟨[_, _], congrArg (World.mk w.outside) (List.append_assoc ..)⟩
  · rw [if_neg hnone]
    exact ⟨[_], rfl⟩

/-- Where jobs are restricted the capabilities decide, and all that is done is
to warn. -/
theorem judge_eq (caps : CapabilitySet) {restriction : Restriction}
    (tool : String) (w : World σ) (h : restriction ≠ .no) :
    judge caps restriction tool w
      = (caps.contains poolsCapability,
        { w with
          journal := w.journal ++ noted .warn (ageWarning restriction
            (caps.contains poolsCapability) tool) }) := by
  have hsilent : w = { w with journal := w.journal ++ [] } := by
    rw [List.append_nil]
  cases restriction with
  | no => exact absurd rfl h
  | auto => exact congrArg _ hsilent
  | yes =>
      unfold judge
      cases caps.contains poolsCapability with
      | true => exact congrArg _ hsilent
      | false => rfl

/-- What the question about the capabilities leaves in the journal. -/
theorem ask_litani (start : Launcher σ) (path : Path) (w : World σ) :
    ∃ events, w.ask .capabilities (Litani.tool start path).capabilities
          .capabilities
        = ((capabilitiesAnswer (start (question path) w.outside).answer).1,
          { outside := (start (question path) w.outside).outside
            journal := w.journal ++ events })
      ∧ events.calls = [.capabilities]
      ∧ events.warnings
        = Journal.warnings
            ((start (question path) w.outside).remarks.map .heard)
          ++ Journal.warnings ((capabilitiesAnswer
            (start (question path) w.outside).answer).2.map .heard) := by
  have htool : (Litani.tool start path).capabilities
      = oneProcess start (question path)
        [Litani.logLine path Commands.capabilities] capabilitiesAnswer :=
    Litani.capabilities_eq path start
  rw [htool]
  generalize hreply : start (question path) w.outside = reply
  refine ⟨[.asked .capabilities,
      .heard (Litani.logLine path Commands.capabilities)]
    ++ reply.remarks.map .heard
    ++ (capabilitiesAnswer reply.answer).2.map .heard
    ++ [.answered (.capabilities (capabilitiesAnswer reply.answer).1)],
    ?_, ?_, ?_⟩
  · simp [World.ask, World.act, World.log, oneProcess, hreply]
  · simp only [Journal.calls_append, Journal.calls_heard]
    rfl
  · simp only [Journal.warnings_append]
    exact List.append_nil _

/-- What pools are decided by where jobs are restricted, and what that leaves
in the journal. -/
theorem detect_restricted (start : Launcher σ) (path : Path)
    {restriction : Restriction} (w : World σ) (h : restriction ≠ .no) :
    ∃ events, detect (Litani.tool start path) restriction w
        = ((capabilitiesAnswer
            (start (question path) w.outside).answer).1.contains
              poolsCapability,
          { outside := (start (question path) w.outside).outside
            journal := w.journal ++ events })
      ∧ events.calls = [.capabilities]
      ∧ events.warnings
        = Journal.warnings
            ((start (question path) w.outside).remarks.map .heard)
          ++ Journal.warnings ((capabilitiesAnswer
            (start (question path) w.outside).answer).2.map .heard)
          ++ ageWarning restriction
            ((capabilitiesAnswer (start (question path)
              w.outside).answer).1.contains poolsCapability)
            (Litani.tool start path).describe := by
  obtain ⟨asking, hask, hcalls, hwarnings⟩ := ask_litani start path w
  unfold detect
  rw [if_neg h, hask]
  -- from here on it does not matter what was asked, and of whom
  generalize start (question path) w.outside = reply at hwarnings ⊢
  generalize (capabilitiesAnswer reply.answer).1 = caps
  obtain ⟨texts, hnotes⟩ := noteCapabilities_eq (Litani.tool start path)
    restriction caps
    { outside := reply.outside, journal := w.journal ++ asking }
  dsimp only
  rw [hnotes, judge_eq _ _ _ h]
  refine ⟨asking ++ (noted .debug texts ++ noted .warn (ageWarning restriction
    (caps.contains poolsCapability) (Litani.tool start path).describe)),
    ?_, ?_, ?_⟩
  · simp only [List.append_assoc]
  · rw [Journal.calls_append, Journal.calls_append, hcalls, calls_noted,
      calls_noted]
    rfl
  · rw [Journal.warnings_append, Journal.warnings_append, hwarnings,
      warnings_noted_debug, warnings_noted_warn]
    rfl

/-- Whatever Litani does, pools are decided about. -/
theorem detect_litani (start : Launcher σ) (path : Path)
    (restriction : Restriction) (w : World σ) :
    Detected start path restriction w
      (detect (Litani.tool start path) restriction w) := by
  by_cases hno : restriction = .no
  · unfold detect
    rw [if_pos hno]
    constructor
    case decided => exact ⟨nofun, fun h => absurd hno h.1⟩
    case skipped => exact fun _ => rfl
    case asked => exact fun h => absurd hno h
  · obtain ⟨events, hdetect, hcalls, hwarnings⟩ :=
      detect_restricted start path w hno
    rw [hdetect]
    constructor
    case decided =>
      rw [contains_capabilitiesAnswer]
      exact ⟨fun h => ⟨hno, h⟩, fun h => h.2⟩
    case skipped => exact fun h => absurd h hno
    case asked =>
      exact fun _ => ⟨rfl, events, _, rfl, hcalls,
        complained_capabilitiesAnswer _, hwarnings⟩

end Pools

end ProofBatch
