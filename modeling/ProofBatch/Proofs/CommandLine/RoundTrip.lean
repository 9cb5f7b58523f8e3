/-
The settings of a run can be written as a command line, and are read back from
it.

# Writing

`Overrides.flags` are the groups of some settings, one for everything that is
set. `Writes` says which other sequences of groups write the same settings: the
names of proofs may be spread over several groups of `--proofs`, and only their
order among themselves counts.

# Reading back

An option other than `--proofs` has its value in one group, wherever that
stands, so looking it up gives the value (`lookup_eq_of_mem_iff`). The names of
proofs are put together from their groups. Hence each setting is read from its
own groups, and the others may stand before, after and between those
(`Writes.overrides_eq`).
-/
import Mathlib.Algebra.GroupWithZero.Nat
import ProofBatch.Proofs.CommandLine.Groups
import ProofBatch.Proofs.Progress

namespace ProofBatch

-- ==================================================================== writing

/-- The values that a word is given with, to ask for some settings. -/
def Overrides.values? (given : Overrides) :
    CommandLine.Word → Option (List String)
  | .switch .noStandalone => if given.noStandalone then some [] else none
  | .opt .proofRoot => given.root.map fun path => [path.text]
  | .opt .proofMarker => given.marker.map fun name => [name]
  | .opt .proofs => given.proofs
  | .opt .projectName => given.project.map fun name => [name]
  | .opt .restriction => given.restriction.map fun r => [r.word]
  | .opt .expensiveJobs => given.expensiveJobs.map fun n => [toString n]
  | .opt .configureJobs => given.configureJobs.map fun n => [toString n]
  | .opt .parallelJobs => given.parallelJobs.map fun n => [toString n]
  | .opt .litani => given.litani.map fun path => [path.text]
  | _ => none

/-- The groups that ask for some settings, each thing that is set once. -/
def Overrides.flags (given : Overrides) : List CommandLine.Flag :=
  CommandLine.Context.run.words.filterMap fun w =>
    (given.values? w).map fun values => ⟨w, values⟩

/-- A text that can be told from an argument. -/
def CommandLine.IsValue (text : String) : Prop :=
  text ≠ "" ∧ text.toList.head? ≠ some '-'

/-- Settings that a command line can carry. -/
structure Overrides.IsWritable (given : Overrides) : Prop where
  root : ∀ path ∈ given.root, CommandLine.IsValue path.text
  marker : ∀ name ∈ given.marker, CommandLine.IsValue name
  proofs : ∀ names ∈ given.proofs,
    names ≠ [] ∧ ∀ name ∈ names, CommandLine.IsValue name
  project : ∀ name ∈ given.project, CommandLine.IsValue name
  expensiveJobs : ∀ n ∈ given.expensiveJobs, n < 2 ^ 64
  configureJobs : ∀ n ∈ given.configureJobs, n < 2 ^ 64
  parallelJobs : ∀ n ∈ given.parallelJobs, n < 2 ^ 64
  litani : ∀ path ∈ given.litani, CommandLine.IsValue path.text

namespace CommandLine

variable {c : Context} {o : Opt} {w : Word} {f : Flag} {flags : List Flag}
  {values : List String} {given : Overrides}

/-- A written form of some settings: the groups of `flags` but those of
`--proofs` are the groups of the settings in any order, and the names of proofs
are spread over groups of `--proofs`, of which each has at least one. -/
structure Writes (flags : List Flag) (given : Overrides) : Prop where
  others : (flags.filter (·.word ≠ proofsWord)).Perm
    (given.flags.filter (·.word ≠ proofsWord))
  names : (flags.filter (·.word = proofsWord)).flatMap (·.values)
    = given.proofs.getD []
  named : ∀ f ∈ flags, f.word = proofsWord → f.values ≠ []

/-- Everything that is set has its group. -/
theorem mem_flags_iff : ⟨w, values⟩ ∈ given.flags
    ↔ given.values? w = some values := by
  unfold Overrides.flags
  rw [List.mem_filterMap]
  constructor
  · rintro ⟨w', -, hw'⟩
    obtain ⟨values', hvalues, heq⟩ := Option.map_eq_some_iff.mp hw'
    cases heq
    exact hvalues
  · intro hvalues
    refine ⟨w, ?_, by rw [hvalues]; rfl⟩
    -- Whatever asks for something is a word of a run.
    unfold Overrides.values? at hvalues
    split at hvalues
    case h_11 => cases hvalues
    all_goals decide

/-- No two groups of some settings begin with the same word. -/
theorem flags_pairwise (given : Overrides) :
    given.flags.Pairwise fun f g => f.word ≠ g.word := by
  have hwords : Context.run.words.Pairwise (· ≠ ·) := by decide +kernel
  refine List.pairwise_filterMap.mpr (hwords.imp fun hne f hf g hg => ?_)
  obtain ⟨_, -, rfl⟩ := Option.map_eq_some_iff.mp hf
  obtain ⟨_, -, rfl⟩ := Option.map_eq_some_iff.mp hg
  exact hne

/-- The names of proofs make one group, if there are any. -/
theorem filter_flags_proofs (given : Overrides) :
    given.flags.filter (·.word = proofsWord)
      = (given.proofs.map fun names => ⟨proofsWord, names⟩).toList := by
  have hone : ∀ group : Option Flag,
      Context.run.words.filterMap (fun w =>
        if w = proofsWord then group else none) = group.toList := by
    intro group
    cases group <;> rfl
  unfold Overrides.flags
  rw [List.filter_filterMap, ← hone]
  congr 1
  funext w
  by_cases hw : w = proofsWord
  · rw [if_pos hw, hw]
    cases hproofs : given.proofs <;> simp [Overrides.values?, hproofs]
  · rw [if_neg hw]
    cases given.values? w <;> simp [hw]

/-- In any order, the groups of some settings write them. -/
theorem writes_of_perm (hgiven : given.IsWritable)
    (h : flags.Perm given.flags) : Writes flags given := by
  have hproofs : flags.filter (·.word = proofsWord)
      = (given.proofs.map fun names => ⟨proofsWord, names⟩).toList := by
    have hperm := h.filter (·.word = proofsWord)
    rw [filter_flags_proofs] at hperm
    cases hnames : given.proofs with
    | none =>
        rw [hnames] at hperm
        exact List.perm_nil.mp hperm
    | some names =>
        rw [hnames] at hperm
        exact List.perm_singleton.mp hperm
  refine ⟨h.filter _, ?_, fun f hf hword => ?_⟩
  · rw [hproofs]
    cases given.proofs <;> simp
  · have hvalues : given.values? f.word = some f.values :=
      mem_flags_iff.mp (h.mem_iff.mp hf)
    rw [hword] at hvalues
    exact (hgiven.proofs _ hvalues).1

namespace Writes

/-- Other words than `--proofs` stand with the values that they are to have. -/
theorem mem_iff (h : Writes flags given) (hw : w ≠ proofsWord) :
    ⟨w, values⟩ ∈ flags ↔ given.values? w = some values := by
  have hmem := h.others.mem_iff (a := ⟨w, values⟩)
  rw [List.mem_filter, List.mem_filter] at hmem
  simpa [hw, mem_flags_iff] using hmem

/-- No flag is written twice, but for the names of proofs. -/
theorem distinct (h : Writes flags given) :
    flags.Pairwise fun f g => g.word ≠ proofsWord → f.word ≠ g.word := by
  have hothers := (h.others.pairwise_iff (fun hne => Ne.symm hne)).mpr
    ((flags_pairwise given).filter _)
  refine (List.pairwise_filter.mp hothers).imp fun hne hg heq => ?_
  exact hne (decide_eq_true (heq ▸ hg)) (decide_eq_true hg) heq

end Writes

-- =================================================================== readable

/-- Digits are read as the number that they were written for. -/
theorem natural?_toString {n : Nat} (h : n < 2 ^ 64) :
    natural? (toString n).toList = some n := by
  have hdigit : ∀ c ∈ Nat.toDigits 10 n, c.isDigit = true :=
    fun c hc => Nat.isDigit_of_mem_toDigits (by decide) (by decide) hc
  have hmax : n ≤ maxNumber := Nat.le_sub_one_of_lt h
  have hfold : (Nat.toDigits 10 n).foldl
      (fun n c => n * 10 + (c.toNat - '0'.toNat)) 0 = n := by
    calc _ = Nat.ofDigitChars 10 (Nat.toDigits 10 n) 0 := by
          rw [Nat.ofDigitChars_eq_foldl]
          simp only [Nat.mul_comm]
      _ = n := Nat.ofDigitChars_ten_toDigits
  rw [Nat.toString_eq_repr, Nat.toList_repr]
  unfold natural?
  split
  next rest hplus =>
    have hdash := hdigit '+' (hplus ▸ List.mem_cons_self)
    cases hdash
  next =>
    have hall : (Nat.toDigits 10 n).all Char.isDigit = true :=
      List.all_eq_true.mpr hdigit
    simp only [hfold, hall]
    simp [hmax]

/-- The digits of a number begin with no dash. -/
theorem head?_toString_ne_dash (n : Nat) :
    (toString n).toList.head? ≠ some '-' := by
  intro h
  have hmem : '-' ∈ (toString n).toList := List.mem_of_head? h
  have hdigit := Progress.isDigit_of_mem_toString hmem
  cases hdigit

namespace Flag.IsReadable

/-- An option with one value. -/
theorem single {v : String} (known : .opt o ∈ Context.run.words)
    (dash : v.toList.head? ≠ some '-') (check : o.kind.check v = .ok ()) :
    IsReadable ⟨.opt o, [v]⟩ := by
  refine .opt known nofun (fun _ => rfl) ?_ ?_
  · intro v' hv'
    rwa [List.mem_singleton.mp hv']
  · intro v' hv'
    rwa [List.mem_singleton.mp hv']

/-- A text that is not taken for something else can be read. -/
theorem text {name : String} (known : .opt o ∈ Context.run.words)
    (hkind : o.kind = .text) (h : IsValue name) :
    IsReadable ⟨.opt o, [name]⟩ :=
  .single known h.2 (by rw [hkind]; rfl)

theorem path {path : Path} (known : .opt o ∈ Context.run.words)
    (hkind : o.kind = .path) (h : IsValue path.text) :
    IsReadable ⟨.opt o, [path.text]⟩ := by
  have hempty : path.text.isEmpty = false := by
    rw [← Bool.not_eq_true, String.isEmpty_iff]
    exact h.1
  refine .single known h.2 ?_
  unfold Kind.check
  rw [hkind, hempty]
  rfl

/-- A number of 64 bits can be read. -/
theorem number {n : Nat} (known : .opt o ∈ Context.run.words)
    (hkind : o.kind = .number) (h : n < 2 ^ 64) :
    IsReadable ⟨.opt o, [toString n]⟩ := by
  refine .single known (head?_toString_ne_dash n) ?_
  unfold Kind.check
  rw [hkind, natural?_toString h]
  rfl

theorem restriction (r : Restriction) :
    IsReadable ⟨.opt .restriction, [r.word]⟩ :=
  .single (by decide) (by cases r <;> decide) (by cases r <;> rfl)

end Flag.IsReadable

namespace Writes

/-- The names of proofs that stand in the groups are those to be written. -/
theorem name_isValue (h : Writes flags given) (hgiven : given.IsWritable)
    (hf : f ∈ flags) (hword : f.word = proofsWord) :
    ∀ name ∈ f.values, IsValue name := by
  intro name hname
  have hmem : name ∈ given.proofs.getD [] := by
    rw [← h.names]
    exact List.mem_flatMap.mpr
      ⟨f, List.mem_filter.mpr ⟨hf, decide_eq_true hword⟩, hname⟩
  cases hproofs : given.proofs with
  | none =>
      rw [hproofs] at hmem
      cases hmem
  | some names =>
      rw [hproofs] at hmem
      exact (hgiven.proofs names hproofs).2 name hmem

/-- What writable settings are written with can be read. -/
theorem isReadable (h : Writes flags given) (hgiven : given.IsWritable)
    (hf : f ∈ flags) : f.IsReadable := by
  obtain ⟨w, values⟩ := f
  by_cases hw : w = proofsWord
  · cases hw
    exact .opt (by decide) (h.named _ hf rfl) nofun
      (fun v hv => (h.name_isValue hgiven hf rfl v hv).2) (fun _ _ => rfl)
  · have hvalues := (h.mem_iff hw).mp hf
    unfold Overrides.values? at hvalues
    split at hvalues
    case h_1 =>
      split at hvalues
      next =>
        cases hvalues
        exact .noStandalone
      next => cases hvalues
    case h_2 =>
      obtain ⟨path, hpath, rfl⟩ := Option.map_eq_some_iff.mp hvalues
      exact .path (by decide) rfl (hgiven.root path hpath)
    case h_3 =>
      obtain ⟨name, hname, rfl⟩ := Option.map_eq_some_iff.mp hvalues
      exact .text (by decide) rfl (hgiven.marker name hname)
    case h_4 => exact absurd rfl hw
    case h_5 =>
      obtain ⟨name, hname, rfl⟩ := Option.map_eq_some_iff.mp hvalues
      exact .text (by decide) rfl (hgiven.project name hname)
    case h_6 =>
      obtain ⟨r, -, rfl⟩ := Option.map_eq_some_iff.mp hvalues
      exact .restriction r
    case h_7 =>
      obtain ⟨n, hn, rfl⟩ := Option.map_eq_some_iff.mp hvalues
      exact .number (by decide) rfl (hgiven.expensiveJobs n hn)
    case h_8 =>
      obtain ⟨n, hn, rfl⟩ := Option.map_eq_some_iff.mp hvalues
      exact .number (by decide) rfl (hgiven.configureJobs n hn)
    case h_9 =>
      obtain ⟨n, hn, rfl⟩ := Option.map_eq_some_iff.mp hvalues
      exact .number (by decide) rfl (hgiven.parallelJobs n hn)
    case h_10 =>
      obtain ⟨path, hpath, rfl⟩ := Option.map_eq_some_iff.mp hvalues
      exact .path (by decide) rfl (hgiven.litani path hpath)
    case h_11 => cases hvalues

end Writes

-- ================================================================== read back

/-- A look-up in a list that has one entry at most for a key. -/
theorem lookup_eq_of_mem_iff {α β : Type} [BEq α] [LawfulBEq α] {a : α}
    {l : List (α × β)} {found : Option β}
    (h : ∀ b, (a, b) ∈ l ↔ found = some b) : l.lookup a = found := by
  ext b
  rw [← h]
  constructor
  · intro hlookup
    obtain ⟨l₁, l₂, rfl, -⟩ := List.lookup_eq_some_iff.mp hlookup
    simp
  · intro hmem
    cases hlookup : l.lookup a with
    | none =>
        have hne := List.lookup_eq_none_iff.mp hlookup _ hmem
        simp at hne
    | some b' =>
        obtain ⟨l₁, l₂, rfl, -⟩ := List.lookup_eq_some_iff.mp hlookup
        have hb' := (h b').mp (by simp)
        rw [(h b).mp hmem] at hb'
        exact hb'.symm

namespace Writes

/-- The one group of an option gives its value, wherever it stands. -/
theorem value?_eq (h : Writes flags given) (o : Opt) (ho : o ≠ .proofs) :
    (settled c flags).value? o
      = (given.values? (.opt o)).bind List.head? := by
  have hlookup : (flags.filterMap Flag.option?).lookup o
      = given.values? (.opt o) := by
    apply lookup_eq_of_mem_iff
    intro values
    rw [mem_options_iff, h.mem_iff fun heq => ho (Word.opt.inj heq)]
  unfold State.value? settled
  rw [hlookup]

/-- A switch is read as set if it is so. -/
theorem contains_switch (h : Writes flags given) (switch : Switch) :
    (settled c flags).switches.contains switch
      = (given.values? (.switch switch)).isSome := by
  rw [Bool.eq_iff_iff, List.contains_iff_mem, Option.isSome_iff_exists]
  unfold settled
  rw [mem_switches_iff]
  exact exists_congr fun values => h.mem_iff nofun

/-- The names of proofs are put together from their groups. -/
theorem values_proofs (h : Writes flags given) :
    (settled c flags).values .proofs = given.proofs.getD [] := by
  rw [← h.names]
  unfold State.values settled
  clear h
  induction flags with
  | nil => rfl
  | cons f rest ih =>
      obtain ⟨s | o, values⟩ := f
      · simpa [Flag.option?, List.filterMap_cons] using ih
      · by_cases ho : o = .proofs
        · simpa [Flag.option?, List.filterMap_cons, ho] using ih
        · simpa [Flag.option?, List.filterMap_cons, ho] using ih

/-- A number is read as it was written. -/
theorem number?_eq (h : Writes flags given) (o : Opt) (ho : o ≠ .proofs)
    {number : Option Nat} (hsmall : ∀ n ∈ number, n < 2 ^ 64)
    (hvalues : given.values? (.opt o) = number.map fun n => [toString n]) :
    (settled c flags).number? o = number := by
  unfold State.number?
  rw [h.value?_eq o ho, hvalues]
  cases number with
  | none => rfl
  | some n => exact natural?_toString (hsmall n rfl)

theorem path?_eq (h : Writes flags given) (o : Opt) (ho : o ≠ .proofs)
    {path : Option Path}
    (hvalues : given.values? (.opt o) = path.map fun p => [p.text]) :
    (settled c flags).path? o = path := by
  unfold State.path?
  rw [h.value?_eq o ho, hvalues]
  cases path <;> rfl

theorem text?_eq (h : Writes flags given) (o : Opt) (ho : o ≠ .proofs)
    {name : Option String}
    (hvalues : given.values? (.opt o) = name.map fun n => [n]) :
    (settled c flags).value? o = name := by
  rw [h.value?_eq o ho, hvalues]
  cases name <;> rfl

/-- Each setting is read from its own groups. -/
theorem overrides_eq (h : Writes flags given) (hgiven : given.IsWritable) :
    (settled c flags).overrides = given := by
  have hproofs : (if ((settled c flags).values .proofs).isEmpty then none
      else some ((settled c flags).values .proofs)) = given.proofs := by
    rw [h.values_proofs]
    cases hnames : given.proofs with
    | none => rfl
    | some names =>
        have hne := (hgiven.proofs names hnames).1
        simp [hne]
  have hrestriction :
      ((settled c flags).value? .restriction).bind Restriction.ofWord?
        = given.restriction := by
    rw [h.value?_eq .restriction nofun]
    cases hr : given.restriction with
    | none => simp [Overrides.values?, hr]
    | some r => simp [Overrides.values?, hr]
  have hstandalone : (settled c flags).switches.contains .noStandalone
      = given.noStandalone := by
    rw [h.contains_switch]
    cases hno : given.noStandalone <;> simp [Overrides.values?, hno]
  unfold State.overrides
  rw [hproofs, hrestriction, hstandalone,
    h.path?_eq .proofRoot nofun rfl, h.text?_eq .proofMarker nofun rfl,
    h.text?_eq .projectName nofun rfl,
    h.number?_eq .expensiveJobs nofun hgiven.expensiveJobs rfl,
    h.number?_eq .configureJobs nofun hgiven.configureJobs rfl,
    h.number?_eq .parallelJobs nofun hgiven.parallelJobs rfl,
    h.path?_eq .litani nofun rfl]

end Writes

-- ============================================================== the statement

/-- A command line that runs the proofs, with `run` in front or without. -/
def commandLine (named : Bool) (flags : List Flag) : List String :=
  (if named then ["run"] else []) ++ flags.flatMap Flag.words

/-- Settings that are written as long options are read back as they were: with
their groups in any order, and with the names of proofs, in their order, spread
over any number of groups that stand between the others. -/
theorem parse_commandLine (hgiven : given.IsWritable) (named : Bool) :
    (∀ flags : List Flag, flags.Perm given.flags →
      parse (commandLine named flags)
        = .ok { logLevel := "warn", verbose := false, config := none
                request := .run named given })
    ∧ (∀ flags : List Flag, Writes flags given →
      parse (commandLine named flags)
        = .ok { logLevel := "warn", verbose := false, config := none
                request := .run named given }) := by
  have hwritten : ∀ flags : List Flag, Writes flags given →
      parse (commandLine named flags)
        = .ok { logLevel := "warn", verbose := false, config := none
                request := .run named given } := by
    intro flags h
    have hread : readAll {} (commandLine named flags)
        = .ok (settled (if named then .run else .root) flags) := by
      have hreadable := fun f hf => h.isReadable hgiven (f := f) hf
      cases named with
      | false => exact readAll_groups nofun hreadable h.distinct
      | true => exact readAll_groups (c := .run) nofun hreadable h.distinct
    have hrequest : (settled (if named then .run else .root) flags).request
        = .ok (.run named
          (settled (if named then .run else .root) flags).overrides) := by
      cases named <;> rfl
    have hconfig :
      (settled (if named then .run else .root) flags).path? .config
        = none := h.path?_eq .config nofun rfl
    rw [parse_of_readAll hread hrequest, h.overrides_eq hgiven, hconfig,
      h.value?_eq .logLevel nofun, h.contains_switch .verbose]
    rfl
  exact ⟨fun flags hflags => hwritten flags (writes_of_perm hgiven hflags),
    hwritten⟩

/-- Settings whose values are spelled like other words. -/
def lookalikes : Overrides where
  root := some ⟨"help"⟩
  marker := some "run"
  proofs := some ["a", "summarize", "a"]
  noStandalone := true
  project := some "litani=x"
  restriction := some .auto
  expensiveJobs := some 0
  configureJobs := some 18446744073709551615
  litani := some ⟨"l"⟩

/-- Their groups in some order, with the names of proofs in two places. -/
def scattered : List Flag :=
  [⟨proofsWord, ["a", "summarize"]⟩, ⟨.opt .proofRoot, ["help"]⟩,
    ⟨.switch .noStandalone, []⟩, ⟨.opt .litani, ["l"]⟩,
    ⟨.opt .configureJobs, ["18446744073709551615"]⟩,
    ⟨.opt .projectName, ["litani=x"]⟩, ⟨proofsWord, ["a"]⟩,
    ⟨.opt .restriction, ["auto"]⟩, ⟨.opt .expensiveJobs, ["0"]⟩,
    ⟨.opt .proofMarker, ["run"]⟩]

theorem parse_commandLine_lookalikes :
    lookalikes.IsWritable ∧ Writes scattered lookalikes
      ∧ lookalikes.flags.reverse.Perm lookalikes.flags
      ∧ parse ["run", "--proofs", "a", "summarize", "--proof-root", "help",
          "--no-standalone", "--litani", "l", "--configure-jobs",
          "18446744073709551615", "--project-name", "litani=x", "--proofs",
          "a",
          "--restrict-expensive-jobs", "auto", "--expensive-jobs-parallelism",
          "0", "--proof-marker", "run"]
        = .ok { logLevel := "warn", verbose := false, config := none
                request := .run true lookalikes }
      ∧ parse ["--litani", "l", "--proof-root", "help",
          "--expensive-jobs-parallelism", "0", "--restrict-expensive-jobs",
          "auto", "--proof-marker", "run", "--project-name", "litani=x",
          "--proofs", "a", "summarize", "a", "--configure-jobs",
          "18446744073709551615", "--no-standalone"]
        = .ok { logLevel := "warn", verbose := false, config := none
                request := .run false lookalikes } := by
  have hwritable : lookalikes.IsWritable := by
    constructor <;> simp [lookalikes, IsValue]
  have hwrites : Writes scattered lookalikes := by
    constructor <;> decide +kernel
  have hreverse := List.reverse_perm lookalikes.flags
  exact ⟨hwritable, hwrites, hreverse,
    (parse_commandLine hwritable true).2 scattered hwrites,
    (parse_commandLine hwritable false).1 _ hreverse⟩

end CommandLine

end ProofBatch
