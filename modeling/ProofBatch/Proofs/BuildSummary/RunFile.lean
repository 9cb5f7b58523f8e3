/-
Reading the record of a build.

# What a file tells

The file is a JSON text. It tells a build if it is an object with one member
`pipelines`, an array of objects each of which has one member `name` and one
member `status`, both strings (`TellsRun`). What other members there are makes
no difference, nor how anything is written. Every build can be told
(`exists_telling`).

# What is wrong with a file

A member is at fault if it is missing, given more than once, or of another kind
(`AtFault`). One such member makes a file unreadable (`IsFlawed`), and so does
what stands behind the object.

# Names

Other members are passed over with their values, but their names are looked at.
A name has to be a text (`IsLegible`): a file with half of a surrogate pair in
a name is unreadable, though it is a JSON text and tells a build.
-/
import Mathlib.Data.List.Forall2
import ProofBatch.BuildSummary.RunFile
import ProofBatch.Proofs.Json.Value
import ProofBatch.Proofs.Json.Writing

namespace ProofBatch

open Json

variable {name text : String} {members : List (List Piece × Value)}
  {items : List Value} {pieces : List Piece} {v : Value} {p : Pipeline}
  {run : BuildRecord} {t : FileTree} {file : Path}

-- ================================================================= the format

/-- A string that spells a text. -/
def Spells (text : String) (v : Value) : Prop :=
  ∃ pieces, v = .string pieces ∧ text? pieces = some text.toList

/-- The values that an object has under a name. -/
def under (name : String) (members : List (List Piece × Value)) : List Value :=
  (members.filter fun m => text? m.1 == some name.toList).map Prod.snd

/-- What tells a pipeline: an object with its name and its status. -/
inductive TellsPipeline (p : Pipeline) : Value → Prop
  | object {members : List (List Piece × Value)} {n s : Value}
      (named : under "name" members = [n]) (name : Spells p.name n)
      (ended : under "status" members = [s]) (status : Spells p.status s) :
      TellsPipeline p (.object members)

/-- What tells a build: an object with its pipelines. -/
inductive TellsRun (run : BuildRecord) : Value → Prop
  | object {members : List (List Piece × Value)} {items : List Value}
      (listed : under "pipelines" members = [.array items])
      (each : List.Forall₂ TellsPipeline run.pipelines items) :
      TellsRun run (.object members)

/-- The names of members are texts. -/
def AreLegible (members : List (List Piece × Value)) : Prop :=
  ∀ m ∈ members, ∃ chars, text? m.1 = some chars

/-- The names that are looked at are texts: those of the members of the object,
and of the members of its pipelines. -/
inductive IsLegible : Value → Prop
  | object {members : List (List Piece × Value)} (own : AreLegible members)
      (pipelines : ∀ items, .array items ∈ under "pipelines" members →
        ∀ pipeline, .object pipeline ∈ items → AreLegible pipeline) :
      IsLegible (.object members)

/-- A member is not there once, with a value of the right kind. -/
inductive AtFault (name : String) (Right : Value → Prop)
    (members : List (List Piece × Value)) : Prop
  | missing (none : under name members = [])
  | repeated (more : 2 ≤ (under name members).length)
  | wrong {v : Value} (given : v ∈ under name members) (wrong : ¬Right v)

/-- An array. -/
def IsArray (v : Value) : Prop :=
  ∃ items, v = .array items

/-- A string that is a text. -/
def IsText (v : Value) : Prop :=
  ∃ text, Spells text v

/-- A member at fault, of the object or of one of its pipelines. -/
inductive IsFlawed : Value → Prop
  | pipelines {members : List (List Piece × Value)}
      (fault : AtFault "pipelines" IsArray members) :
      IsFlawed (.object members)
  | pipeline {members pipeline : List (List Piece × Value)}
    {items : List Value}
      (listed : .array items ∈ under "pipelines" members)
      (among : .object pipeline ∈ items)
      (fault : AtFault "name" IsText pipeline
        ∨ AtFault "status" IsText pipeline) : IsFlawed (.object members)

-- ================================================================ the members

/-- All items are read if and only if each of them is. -/
theorem mapM_eq_some_iff {α β : Type} {f : α → Option β} {l : List α}
    {r : List β} :
    l.mapM f = some r ↔ List.Forall₂ (fun a b => f a = some b) l r := by
  induction l generalizing r with
  | nil => simp [eq_comm]
  | cons a l ih =>
      rw [List.mapM_cons, List.forall₂_cons_left_iff]
      simp only [Option.bind_eq_bind, Option.pure_def, Option.bind_eq_some_iff,
        Option.some.injEq, ih]
      constructor
      · intro h
        obtain ⟨b, hb, later, hlater, heq⟩ := h
        exact ⟨b, later, hb, hlater, heq.symm⟩
      · intro h
        obtain ⟨b, later, hb, hlater, heq⟩ := h
        exact ⟨b, hb, later, hlater, heq.symm⟩

/-- A value is read as a text if and only if it spells one. -/
theorem string?_eq_some_iff : v.string? = some text ↔ Spells text v := by
  cases v with
  | string pieces =>
      show (text? pieces).map String.ofList = some text ↔ _
      rw [Option.map_eq_some_iff]
      constructor
      · intro h
        obtain ⟨chars, hchars, heq⟩ := h
        refine ⟨pieces, rfl, ?_⟩
        rw [hchars, ← heq, String.toList_ofList]
      · intro h
        obtain ⟨_, heq, hchars⟩ := h
        cases heq
        exact ⟨_, hchars, String.ofList_toList⟩
  | _ =>
      constructor
      · intro h
        cases h
      · intro h
        obtain ⟨_, heq, _⟩ := h
        cases heq

/-- The members of an object can be named if and only if all their names can be
read. -/
theorem exists_namedMembers?_iff :
    (∃ named, namedMembers? members = some named) ↔ AreLegible members := by
  induction members with
  | nil => exact iff_of_true ⟨[], rfl⟩ nofun
  | cons m rest ih =>
      unfold namedMembers? at ih ⊢
      rw [AreLegible, List.forall_mem_cons, ← AreLegible, ← ih]
      simp only [List.mapM_cons, Option.bind_eq_bind, Option.pure_def,
        Option.bind_eq_some_iff, Option.map_eq_some_iff, Option.some.injEq]
      constructor
      · intro h
        obtain ⟨_, _, ⟨chars, hchars, _⟩, later, hlater, _⟩ := h
        exact ⟨⟨chars, hchars⟩, later, hlater⟩
      · intro h
        obtain ⟨⟨chars, hchars⟩, later, hlater⟩ := h
        exact ⟨_, _, ⟨chars, hchars, rfl⟩, later, hlater, rfl⟩

/-- A name means the same before and after the names have been read. -/
theorem under_eq {named : List (String × Value)}
    (h : namedMembers? members = some named) (name : String) :
    under name members = (named.filter (·.1 = name)).map Prod.snd := by
  have hall := mapM_eq_some_iff.mp h
  clear h
  induction hall with
  | nil => rfl
  | @cons m n members named hm hrest ih =>
      obtain ⟨chars, hchars, rfl⟩ := Option.map_eq_some_iff.mp hm
      have hname : (text? m.1 == some name.toList)
          = decide (String.ofList chars = name) := by
        rw [hchars, Bool.eq_iff_iff, beq_iff_eq, decide_eq_true_iff,
          Option.some.injEq]
        constructor
        · intro h
          rw [h, String.ofList_toList]
        · intro h
          rw [← h, String.toList_ofList]
      unfold under at ih ⊢
      rw [List.filter_cons, List.filter_cons, hname]
      cases decide (String.ofList chars = name) with
      | true => simp [ih]
      | false => simp [ih]

/-- A member is found if and only if exactly one has its name. -/
theorem member?_eq_some_iff {named : List (String × Value)}
    (h : namedMembers? members = some named) :
    member? name named = some v ↔ under name members = [v] := by
  rw [under_eq h, member?]
  split
  next heq => simp [heq]
  next hne =>
    constructor
    · intro h
      cases h
    · intro h
      obtain ⟨n, hn, heq⟩ := List.map_eq_singleton_iff.mp h
      exact absurd hn (hne n.1 n.2)

/-- A record is told by members that are there once. -/
theorem record?_object {names : List String} {values : List Value} :
    record? names (.object members) = some values
      ↔ AreLegible members
        ∧ List.Forall₂
          (fun name v => under name members = [v]) names values := by
  rw [record?, Option.bind_eq_some_iff, ← exists_namedMembers?_iff]
  constructor
  · intro h
    obtain ⟨named, hnamed, hvalues⟩ := h
    refine ⟨⟨named, hnamed⟩, (mapM_eq_some_iff.mp hvalues).imp ?_⟩
    exact fun _ _ => (member?_eq_some_iff hnamed).mp
  · intro h
    obtain ⟨⟨named, hnamed⟩, hvalues⟩ := h
    refine ⟨named, hnamed, mapM_eq_some_iff.mpr (hvalues.imp ?_)⟩
    exact fun _ _ => (member?_eq_some_iff hnamed).mpr

/-- A member that is there once and of the right kind is not at fault. -/
theorem not_atFault {Right : Value → Prop} (honce : under name members = [v])
    (hright : Right v) : ¬AtFault name Right members := by
  intro h
  cases h with
  | missing none =>
      rw [none] at honce
      cases honce
  | repeated more =>
      rw [honce, List.length_singleton] at more
      omega
  | wrong given wrong =>
      rw [honce, List.mem_singleton] at given
      exact wrong (given ▸ hright)

-- ================================================================= the values

/-- A pipeline is read where all names can be read and both texts that are
needed are told. -/
theorem ofValue?_pipeline :
    Pipeline.ofValue? (.object members) = some p
      ↔ AreLegible members ∧ TellsPipeline p (.object members) := by
  unfold Pipeline.ofValue?
  constructor
  · intro h
    split at h
    next n s hrecord =>
      obtain ⟨hlegible, hvalues⟩ := record?_object.mp hrecord
      simp only [List.forall₂_cons, List.forall₂_nil_left_iff] at hvalues
      simp only [Option.bind_eq_bind, Option.pure_def, Option.bind_eq_some_iff,
        Option.some.injEq] at h
      obtain ⟨name, hname, status, hstatus, rfl⟩ := h
      exact ⟨hlegible, .object hvalues.1 (string?_eq_some_iff.mp hname)
        hvalues.2.1 (string?_eq_some_iff.mp hstatus)⟩
    next => cases h
  · intro h
    obtain ⟨hlegible, named, hname, ended, hstatus⟩ := h
    have hrecord :=
      record?_object.mpr ⟨hlegible, .cons named (.cons ended .nil)⟩
    rw [hrecord]
    simp [string?_eq_some_iff.mpr hname, string?_eq_some_iff.mpr hstatus]

/-- A build is read where all names can be read and there is one array of
pipelines, each of which is read. -/
theorem ofValue?_run :
    BuildRecord.ofValue? (.object members) = some run
      ↔ AreLegible members
        ∧ ∃ items, under "pipelines" members = [.array items]
        ∧ List.Forall₂ (fun item p => Pipeline.ofValue? item = some p) items
          run.pipelines := by
  unfold BuildRecord.ofValue?
  constructor
  · intro h
    split at h
    next items hrecord =>
      obtain ⟨hlegible, hvalues⟩ := record?_object.mp hrecord
      simp only [List.forall₂_cons, List.forall₂_nil_left_iff] at hvalues
      obtain ⟨pipelines, hpipelines, rfl⟩ := Option.map_eq_some_iff.mp h
      exact ⟨hlegible, items, hvalues.1, mapM_eq_some_iff.mp hpipelines⟩
    next => cases h
  · intro h
    obtain ⟨hlegible, items, hlisted, hpipelines⟩ := h
    have hrecord := record?_object.mpr ⟨hlegible, .cons hlisted .nil⟩
    rw [hrecord]
    show (items.mapM Pipeline.ofValue?).map BuildRecord.mk = _
    rw [mapM_eq_some_iff.mpr hpipelines]
    rfl

/-- Each value of an array is read as the pipeline that it tells. -/
theorem forall₂_ofValue? {pipelines : List Pipeline}
    (each : List.Forall₂ TellsPipeline pipelines items)
    (hlegible : ∀ pipeline, .object pipeline ∈ items → AreLegible pipeline) :
    List.Forall₂ (fun item p => Pipeline.ofValue? item = some p) items
      pipelines := by
  induction each with
  | nil => exact .nil
  | @cons p item pipelines items htells _ ih =>
      refine .cons ?_ (ih fun pipeline hmem =>
        hlegible pipeline (List.mem_cons_of_mem _ hmem))
      cases htells with
      | @object members _ _ named name ended status =>
          have hown := hlegible members (List.mem_cons_self ..)
          exact ofValue?_pipeline.mpr ⟨hown, .object named name ended status⟩

/-- With a single array of pipelines, its objects are those to look at. -/
theorem IsLegible.of_listed (own : AreLegible members)
    (listed : under "pipelines" members = [.array items])
    (each : ∀ pipeline, .object pipeline ∈ items → AreLegible pipeline) :
    IsLegible (.object members) := by
  refine .object own fun items' hitems' => ?_
  rw [listed, List.mem_singleton] at hitems'
  cases hitems'
  exact each

/-- What tells a build and can be read is read as that build. -/
theorem ofValue?_of_tells (h : TellsRun run v) (hlegible : IsLegible v) :
    BuildRecord.ofValue? v = some run := by
  obtain ⟨listed, each⟩ := h
  obtain ⟨own, pipelines⟩ := hlegible
  refine ofValue?_run.mpr ⟨own, _, listed, forall₂_ofValue? each ?_⟩
  exact pipelines _ (listed ▸ List.mem_singleton_self _)

/-- The objects in an array of pipelines are read as pipelines. -/
theorem exists_pipeline {pipelines : List Pipeline} {item : Value}
    (h : List.Forall₂ (fun item p => Pipeline.ofValue? item = some p) items
      pipelines) (hitem : item ∈ items) :
    ∃ p, Pipeline.ofValue? item = some p := by
  induction h with
  | nil => cases hitem
  | @cons first p items pipelines hfirst _ ih =>
      rcases List.mem_cons.mp hitem with heq | hlater
      · rw [heq]
        exact ⟨p, hfirst⟩
      · exact ih hlater

/-- What is read as a build is legible, and has no flaw. -/
theorem sound_of_ofValue?
    (h : BuildRecord.ofValue? (.object members) = some run) :
    IsLegible (.object members) ∧ ¬IsFlawed (.object members) := by
  obtain ⟨own, items, listed, hpipelines⟩ := ofValue?_run.mp h
  have hread : ∀ pipeline, .object pipeline ∈ items →
      ∃ p, AreLegible pipeline ∧ TellsPipeline p (.object pipeline) := by
    intro pipeline hmem
    obtain ⟨p, hp⟩ := exists_pipeline hpipelines hmem
    exact ⟨p, ofValue?_pipeline.mp hp⟩
  constructor
  · refine .of_listed own listed fun pipeline hmem => ?_
    obtain ⟨_, hlegible, _⟩ := hread pipeline hmem
    exact hlegible
  · intro hflawed
    cases hflawed with
    | pipelines fault => exact not_atFault listed ⟨items, rfl⟩ fault
    | pipeline hitems' hmem fault =>
        rw [listed, List.mem_singleton] at hitems'
        cases hitems'
        obtain ⟨_, _, named, name, ended, status⟩ := hread _ hmem
        rcases fault with fault | fault
        · exact not_atFault named ⟨_, name⟩ fault
        · exact not_atFault ended ⟨_, status⟩ fault

/-- What is flawed is not read. -/
theorem ofValue?_of_isFlawed (h : IsFlawed v) :
    BuildRecord.ofValue? v = none := by
  rw [Option.eq_none_iff_forall_ne_some]
  intro run hrun
  cases h with
  | pipelines fault => exact (sound_of_ofValue? hrun).2 (.pipelines fault)
  | pipeline listed among fault =>
      exact (sound_of_ofValue? hrun).2 (.pipeline listed among fault)

/-- What cannot be named is not read, even where it tells a build. -/
theorem ofValue?_of_not_isLegible (h : TellsRun run v)
    (hlegible : ¬IsLegible v) :
    BuildRecord.ofValue? v = none := by
  rw [Option.eq_none_iff_forall_ne_some]
  intro run' hrun
  cases h with
  | object => exact hlegible (sound_of_ofValue? hrun).1

-- ================================================================ every build

def Pipeline.toValue (p : Pipeline) : Value :=
  .object [(spelled "name", .string (spelled p.name)),
    (spelled "status", .string (spelled p.status))]

/-- A build as it may be told. -/
def BuildRecord.toValue (run : BuildRecord) : Value :=
  .object [(spelled "pipelines", .array (run.pipelines.map Pipeline.toValue))]

theorem spells_spelled (text : String) :
    Spells text (.string (spelled text)) :=
  ⟨_, rfl, text?_spelled _⟩

theorem tellsPipeline_toValue (p : Pipeline) : TellsPipeline p p.toValue :=
  .object rfl (spells_spelled _) rfl (spells_spelled _)

/-- The value of a build tells the build. -/
theorem tellsRun_toValue (run : BuildRecord) : TellsRun run run.toValue := by
  refine .object rfl ?_
  rw [List.forall₂_map_right_iff, List.forall₂_same]
  exact fun p _ => tellsPipeline_toValue p

/-- All names in the value of a build can be read. -/
theorem isLegible_toValue (run : BuildRecord) : IsLegible run.toValue := by
  have hspelled : ∀ text, ∃ chars, text? (spelled text) = some chars :=
    fun text => ⟨_, text?_spelled _⟩
  refine .of_listed (List.forall_mem_singleton.mpr (hspelled _)) rfl ?_
  intro pipeline hmem
  obtain ⟨p, -, hp⟩ := List.mem_map.mp hmem
  cases hp
  exact List.forall_mem_cons.mpr
    ⟨hspelled _, List.forall_mem_singleton.mpr (hspelled _)⟩

/-- The value of a build can be written. -/
theorem exists_written_toValue (run : BuildRecord) :
    ∃ text, run.toValue.Written text := by
  apply exists_laid
  refine areWritable_object (List.forall_mem_singleton.mpr
    ⟨areWritable_spelled _, areWritable_array fun v hv => ?_⟩)
  obtain ⟨p, -, hp⟩ := List.mem_map.mp hv
  rw [← hp]
  refine areWritable_object (List.forall_mem_cons.mpr ⟨?_, ?_⟩)
  · exact ⟨areWritable_spelled _, areWritable_spelled _⟩
  · exact List.forall_mem_singleton.mpr
      ⟨areWritable_spelled _, areWritable_spelled _⟩

/-- Every build can be told in a text. -/
theorem exists_telling (run : BuildRecord) :
    ∃ v text, v.Written text ∧ TellsRun run v ∧ IsLegible v := by
  obtain ⟨text, hwritten⟩ := exists_written_toValue run
  exact ⟨run.toValue, text, hwritten, tellsRun_toValue run,
    isLegible_toValue run⟩

-- ================================================================== two files

/-- A directory with a record of a build and nothing else. -/
def recordOnly (text : String) : FileTree :=
  { root := .directory {} [("run.json", .file {} text.toByteArray.toList)] }

theorem readText_recordOnly
    (h : Text.decode? text.toByteArray.toList = some text) :
    (recordOnly text).readText ⟨"run.json"⟩ = .ok text :=
  FileTree.readText_of_bytes rfl h

theorem areLegible_of_all (h : members.all fun m => (text? m.1).isSome) :
    AreLegible members := by
  intro m hm
  exact Option.isSome_iff_exists.mp (List.all_eq_true.mp h m hm)

/-- A file with half of a surrogate pair in a value that nobody needs. -/
def spareText : String :=
  "\x7b\"x\":[\"\\ud800\"], \"pipelines\":"
    ++ "[\x7b\"status\":\"fail\",\"name\":\"\\u0061\"\x7d]\x7d"

def spareValue : Value :=
  .object [(spelled "x", .array [.string [.unit 0xD800]]),
    (spelled "pipelines", .array [.object [
      (spelled "status", .string (spelled "fail")),
      (spelled "name", .string [.unit 0x61])]])]

/-- A file with half of a surrogate pair in a name. -/
def halfText : String :=
  "\x7b\"\\ud800\":0,\"pipelines\":"
    ++ "[\x7b\"name\":\"a\",\"status\":\"success\"\x7d]\x7d"

def halfValue : Value :=
  .object [([.unit 0xD800], .number ⟨false, ['0'], [], none⟩),
    (spelled "pipelines", .array [.object [
      (spelled "name", .string (spelled "a")),
      (spelled "status", .string (spelled "success"))]])]

-- ================================================================== the files

/-- A file is refused, by its path. -/
def IsRefused (t : FileTree) (file : Path) : Prop :=
  ∃ problem, BuildRecord.load t file = .error (.runFile file problem)

theorem load_of_some (hread : t.readText file = .ok text)
    (hrun : (Value.parse? text).bind BuildRecord.ofValue? = some run) :
    BuildRecord.load t file = .ok run := by
  simp only [BuildRecord.load, hread, hrun]

theorem isRefused_of_none (hread : t.readText file = .ok text)
    (hnone : (Value.parse? text).bind BuildRecord.ofValue? = none) :
    IsRefused t file := by
  refine ⟨notARecord, ?_⟩
  simp only [BuildRecord.load, hread, hnone]

/-- A file that is a JSON text and tells a build is read as that build, if the
names that are looked at are texts, and is refused otherwise. So is a file with
a member at fault, and one with something behind the object. -/
theorem load_tells (hread : t.readText file = .ok text) :
    (∀ run v, v.Written text.toList → TellsRun run v → IsLegible v →
        BuildRecord.load t file = .ok run)
      ∧ (∀ run v, v.Written text.toList → TellsRun run v → ¬IsLegible v →
        IsRefused t file)
      ∧ (∀ v, v.Written text.toList → IsFlawed v → IsRefused t file)
      ∧ ∀ members front rest, text.toList = front ++ rest →
        (Value.object members).Written front →
        (∃ c ∈ rest, isSpace c = false) → IsRefused t file := by
  refine ⟨?_, ?_, ?_, ?_⟩
  · intro run v hwritten htells hlegible
    apply load_of_some hread
    rw [parse?_eq_some_iff.mpr hwritten, Option.bind_some]
    exact ofValue?_of_tells htells hlegible
  · intro run v hwritten htells hlegible
    apply isRefused_of_none hread
    rw [parse?_eq_some_iff.mpr hwritten, Option.bind_some]
    exact ofValue?_of_not_isLegible htells hlegible
  · intro v hwritten hflawed
    apply isRefused_of_none hread
    rw [parse?_eq_some_iff.mpr hwritten, Option.bind_some]
    exact ofValue?_of_isFlawed hflawed
  · intro members front rest htext hwritten hrest
    apply isRefused_of_none hread
    rw [parse?_eq_none_of_append hwritten htext hrest, Option.bind_none]

/-- What nobody needs is passed over, and it does not matter how a name is
written. -/
theorem load_tells_spare :
    (recordOnly spareText).readText ⟨"run.json"⟩ = .ok spareText
      ∧ spareValue.Written spareText.toList
      ∧ TellsRun ⟨[⟨"a", "fail"⟩]⟩ spareValue ∧ IsLegible spareValue
      ∧ BuildRecord.load (recordOnly spareText) ⟨"run.json"⟩
        = .ok ⟨[⟨"a", "fail"⟩]⟩ := by
  have hread : (recordOnly spareText).readText ⟨"run.json"⟩ = .ok spareText :=
    readText_recordOnly (by decide +kernel)
  have htokens : tokens? spareText.toList = some spareValue.tokens := by
    decide +kernel
  have hwritten : spareValue.Written spareText.toList :=
    laid_of_tokens? _ _ htokens
  have htells : TellsRun ⟨[⟨"a", "fail"⟩]⟩ spareValue :=
    .object rfl (.cons (.object rfl ⟨_, rfl, rfl⟩ rfl ⟨_, rfl, rfl⟩) .nil)
  have hlegible : IsLegible spareValue := by
    refine .of_listed (areLegible_of_all rfl) rfl fun pipeline hmem => ?_
    rw [List.mem_singleton] at hmem
    cases hmem
    exact areLegible_of_all rfl
  exact ⟨hread, hwritten, htells, hlegible,
    (load_tells hread).1 _ _ hwritten htells hlegible⟩

/-- The file tells a build, and is refused for a name that nobody needs. -/
theorem not_loaded_half :
    (recordOnly halfText).readText ⟨"run.json"⟩ = .ok halfText
      ∧ halfValue.Written halfText.toList
      ∧ TellsRun ⟨[⟨"a", "success"⟩]⟩ halfValue
      ∧ BuildRecord.load (recordOnly halfText) ⟨"run.json"⟩
        = .error (.runFile ⟨"run.json"⟩ notARecord) := by
  have hread : (recordOnly halfText).readText ⟨"run.json"⟩ = .ok halfText :=
    readText_recordOnly (by decide +kernel)
  have htokens : tokens? halfText.toList = some halfValue.tokens := by
    decide +kernel
  have hwritten : halfValue.Written halfText.toList :=
    laid_of_tokens? _ _ htokens
  refine ⟨hread, hwritten, ?_, ?_⟩
  · exact .object rfl
      (.cons (.object rfl ⟨_, rfl, rfl⟩ rfl ⟨_, rfl, rfl⟩) .nil)
  · have hnone : BuildRecord.ofValue? halfValue = none := by
      rfl
    simp only [BuildRecord.load, hread, parse?_eq_some_iff.mpr hwritten,
      Option.bind_some, hnone]

end ProofBatch
