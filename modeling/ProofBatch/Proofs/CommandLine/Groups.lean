/-
How a command line is read that is made of groups: a switch or an option by its
long name, and then its values, each a word of its own.

# One group

What follows a group has no say in how it is read: an option takes its values
while it waits for them, and no word with a dash in front is among them. But an
option is settled only when the next group begins. So what one group does
(`State.readAll_flag`) is told of the state as it will be once it is settled.

# All groups

Each group adds itself to what was settled before it. No group takes anything
away, and none but those of `--proofs` may repeat what is settled, so any
sequence of groups that are distinct otherwise is read in whole
(`readAll_groups`).
-/
import ProofBatch.Proofs.CommandLine.Default

namespace ProofBatch.CommandLine

-- ===================================================================== groups

/-- A switch or an option, and the values that are given with it. -/
structure Flag where
  word : Word
  values : List String
  deriving DecidableEq, Repr

/-- A group of words: the long name and the values apart from it. -/
def Flag.words (f : Flag) : List String :=
  ("--" ++ f.word.long) :: f.values

/-- The switch of a group. -/
def Flag.switch? (f : Flag) : Option Switch :=
  match f.word with
  | .switch switch => some switch
  | .opt _ => none

/-- The option of a group, with its values. -/
def Flag.option? (f : Flag) : Option (Opt × List String) :=
  match f.word with
  | .switch _ => none
  | .opt o => some (o, f.values)

/-- The option that may be given more than once. -/
abbrev proofsWord : Word :=
  .opt .proofs

/-- A group that is read wherever it stands, once. -/
inductive Flag.IsReadable : Flag → Prop
  | noStandalone : IsReadable ⟨.switch .noStandalone, []⟩
  | opt {o : Opt} {values : List String}
      (known : .opt o ∈ Context.run.words) (named : values ≠ [])
      (single : o.isList = false → values.length = 1)
      (dash : ∀ v ∈ values, v.toList.head? ≠ some '-')
      (check : ∀ v ∈ values, o.kind.check v = .ok ()) :
      IsReadable ⟨.opt o, values⟩

variable {c : Context} {s t : State} {p : Pending} {o : Opt} {w : Word}
  {f : Flag} {flags : List Flag} {values : List String} {text : String}

/-- Values that are each as they should be are so together. -/
theorem forM_check {kind : Kind} (h : ∀ v ∈ values, kind.check v = .ok ()) :
    values.forM kind.check = .ok () := by
  induction values with
  | nil => rfl
  | cons v rest ih =>
      have hrest := ih fun v' hv' => h v' (.tail _ hv')
      have hv := h v List.mem_cons_self
      simp only [List.forM_eq_forM, List.forM_cons] at hrest ⊢
      rw [hv]
      exact hrest

-- ============================================================= one group read

namespace State

/-- What a group adds to what was settled before it. -/
def give (s : State) (f : Flag) : State :=
  match f.word with
  | .switch switch =>
      { s with seen := true, switches := s.switches ++ [switch] }
  | .opt o =>
      { s with seen := true, options := s.options ++ [(o, f.values)] }

/-- A switch or an option is settled. -/
def Has (s : State) : Word → Prop
  | .switch switch => switch ∈ s.switches
  | .opt o => o ∈ s.options.map Prod.fst

/-- What is given is there, and what was there stays. -/
theorem has_give : (s.give f).Has w ↔ s.Has w ∨ w = f.word := by
  unfold give
  cases hf : f.word <;> cases w <;> simp [Has]

/-- Settling touches the options only, and leaves none pending. -/
theorem eq_of_settle (h : s.settle = .ok t) :
    t = { s with pending := none, options := t.options } := by
  unfold settle at h
  cases hpending : s.pending with
  | none =>
      rw [hpending] at h
      cases h
      rw [← hpending]
  | some p =>
      rw [hpending] at h
      unfold settleOption at h
      simp only at h
      split at h
      next => cases h
      next =>
        split at h
        next => cases h
        next =>
          split at h
          next => cases h
          next =>
            cases h
            rfl

/-- A word with no dash in front goes to the option that waits for it. -/
theorem readAll_value (hpending : s.pending = some p) (hopen : p.isOpen = true)
    (hclosed : s.closed = false) (hdash : text.toList.head? ≠ some '-')
    (rest : List String) :
    readAll s (text :: rest)
      = readAll
        { s with pending := some { p with values := p.values ++ [text] } }
        rest := by
  have hcommand : ¬ s.IsCommand text := by
    rintro ⟨hmay, -⟩
    unfold mayBeCommand awaitsValue at hmay
    simp [hpending, hopen] at hmay
  have hword : s.word text
      = .ok { s with
        pending := some { p with values := p.values ++ [text] } } := by
    unfold word
    rw [if_neg (ne_true_of_eq_false hclosed)]
    split
    next h => simp [h] at hdash
    next h => simp [h] at hdash
    next h => simp [h] at hdash
    next =>
      unfold plain
      rw [hpending]
      exact if_pos hopen
  rw [readAll_cons hcommand, hword]

/-- An option that takes several values takes all of them. -/
theorem readAll_values (hpending : s.pending = some p)
    (hlist : p.opt.isList = true) (hclosed : s.closed = false)
    (hdash : ∀ v ∈ values, v.toList.head? ≠ some '-') (rest : List String) :
    readAll s (values ++ rest)
      = readAll
        { s with pending := some { p with values := p.values ++ values } }
        rest := by
  induction values generalizing s p with
  | nil =>
      rw [List.append_nil, ← hpending]
      rfl
  | cons v values ih =>
      have hopen : p.isOpen = true := by
        unfold Pending.isOpen
        rw [hlist]
        rfl
      have hvalue := readAll_value hpending hopen hclosed
        (hdash v List.mem_cons_self) (values ++ rest)
      have hvalues := ih
        (s := { s with pending := some { p with values := p.values ++ [v] } })
        rfl hlist hclosed fun v' hv' => hdash v' (.tail _ hv')
      rw [List.append_assoc, List.singleton_append] at hvalues
      exact hvalue.trans hvalues

/-- A text without `=` has nothing attached to it. -/
theorem splitEquals_of_notMem {cs : List Char} (h : '=' ∉ cs) :
    splitEquals cs = (cs, none) := by
  induction cs with
  | nil => rfl
  | cons c cs ih =>
      obtain ⟨hc, hcs⟩ := List.ne_and_not_mem_of_not_mem_cons h
      unfold splitEquals
      rw [if_neg (Ne.symm hc), ih hcs]

end State

namespace Word

/-- No option has the sign in its name that comes before a value. -/
theorem equals_notMem_long (w : Word) : '=' ∉ w.long.toList := by
  rcases w with s | o
  · cases s <;> decide +kernel
  · cases o <;> decide +kernel

theorem long_ne_nil (w : Word) : w.long.toList ≠ [] := by
  rcases w with s | o
  · cases s <;> decide +kernel
  · cases o <;> decide +kernel

end Word

namespace State

/-- Read the name of a switch or an option. -/
def enter (s : State) : Word → Except Fault State
  | .switch switch => s.settleSwitch switch
  | .opt o => s.beginOption o none

/-- A long name that has a place here is read by itself. -/
theorem readAll_long (hclosed : s.closed = false) (hw : w ∈ s.context.words)
    (rest : List String) :
    readAll s (("--" ++ w.long) :: rest)
      = match s.enter w with
        | .ok t => readAll t rest
        | .error e => .error e := by
  obtain ⟨c, cs, hlong⟩ := List.exists_cons_of_ne_nil w.long_ne_nil
  have htext : ("--" ++ w.long).toList = '-' :: '-' :: c :: cs := by
    rw [String.toList_append, hlong]
    rfl
  have hcommand : ¬ s.IsCommand ("--" ++ w.long) := by
    rintro ⟨-, hname⟩
    unfold command? at hname
    have hne : ∀ name : String, name.toList.head? ≠ some '-' →
        "--" ++ w.long ≠ name := by
      rintro name hname rfl
      rw [htext] at hname
      exact hname rfl
    rw [if_neg (hne "run" (by decide)), if_neg (hne "summarize" (by decide))]
      at hname
    exact hname.elim (hne "help" (by decide)) nofun
  have hword : s.word ("--" ++ w.long) = s.long w.long.toList := by
    unfold word
    rw [if_neg (ne_true_of_eq_false hclosed), htext, hlong]
    rfl
  have hread : s.long w.long.toList = s.enter w := by
    unfold long
    rw [splitEquals_of_notMem w.equals_notMem_long]
    simp only [String.ofList_toList]
    rw [Context.long?_eq_some_iff.mpr ⟨hw, rfl⟩]
    cases w <;> rfl
  have hcons := readAll_cons hcommand rest
  rw [hword, hread] at hcons
  exact hcons

end State

/-- The words of a run are known before any command too. -/
theorem Context.mem_words (hc : c ≠ .summarize) (hw : w ∈ run.words) :
    w ∈ c.words := by
  cases c with
  | root => exact (mem_words_run.mp hw).1
  | run => exact hw
  | summarize => exact absurd rfl hc

namespace State

/-- The values of an option, as many as it takes. -/
theorem readAll_group (hpending : s.pending = some { opt := o })
    (hclosed : s.closed = false) (hnamed : values ≠ [])
    (hsingle : o.isList = false → values.length = 1)
    (hdash : ∀ v ∈ values, v.toList.head? ≠ some '-') (rest : List String) :
    readAll s (values ++ rest)
      = readAll { s with pending := some { opt := o, values } } rest := by
  cases hlist : o.isList with
  | true => exact readAll_values hpending hlist hclosed hdash rest
  | false =>
      obtain ⟨v, rfl⟩ := List.length_eq_one_iff.mp (hsingle hlist)
      have hopen : ({ opt := o } : Pending).isOpen = true := Bool.or_true _
      exact readAll_value hpending hopen hclosed
        (hdash v List.mem_cons_self) rest

/-- An option that is settled: its values are of its kind, and it was not given
before. -/
theorem settleOption_of_check (hnamed : values ≠ [])
    (hfresh : o.isList = false → ¬ s.Has (.opt o))
    (hcheck : ∀ v ∈ values, o.kind.check v = .ok ()) :
    s.settleOption o values
      = .ok { s with options := s.options ++ [(o, values)] } := by
  have hempty : values.isEmpty = false := by
    rwa [← Bool.not_eq_true, List.isEmpty_iff]
  have htwice : (!o.isList && s.options.any (·.1 == o)) = false := by
    cases hlist : o.isList with
    | true => rfl
    | false =>
        have hnot : o ∉ s.options.map Prod.fst := hfresh hlist
        rw [Bool.not_false, Bool.true_and, ← Bool.not_eq_true,
          List.any_eq_true]
        rintro ⟨entry, hentry, hkey⟩
        exact hnot (List.mem_map.mpr ⟨entry, hentry, beq_iff_eq.mp hkey⟩)
  unfold settleOption
  rw [hempty, htwice, forM_check hcheck]
  rfl

/-- What one group does, whatever follows it: once it is settled, it is added
to what was settled before it. -/
theorem readAll_flag (hs : s.settle = .ok t) (hclosed : s.closed = false)
    (hcontext : s.context ≠ .summarize) (hf : f.IsReadable)
    (hfresh : f.word ≠ proofsWord → ¬ t.Has f.word) (rest : List String) :
    ∃ s', readAll s (f.words ++ rest) = readAll s' rest
      ∧ s'.settle = .ok (t.give f) ∧ s'.closed = false
      ∧ s'.context = s.context := by
  have ht := eq_of_settle hs
  have hpending : t.pending = none := by rw [ht]
  have htclosed : t.closed = false := by rw [ht, ← hclosed]
  have htcontext : t.context = s.context := by rw [ht]
  unfold Flag.words
  cases hf with
  | noStandalone =>
      have hknown := Context.mem_words hcontext
        (w := .switch .noStandalone) (by decide)
      have hnot : t.switches.contains .noStandalone = false := by
        rw [← Bool.not_eq_true, List.contains_iff_mem]
        exact hfresh nofun
      have henter : s.enter (.switch .noStandalone)
          = .ok (t.give ⟨.switch .noStandalone, []⟩) := by
        unfold enter settleSwitch
        rw [hs]
        simp only [hnot]
        rfl
      have hnone : (t.give ⟨.switch .noStandalone, []⟩).pending = none :=
        hpending
      refine ⟨t.give ⟨.switch .noStandalone, []⟩, ?_, ?_, htclosed, htcontext⟩
      · rw [List.cons_append, readAll_long hclosed hknown, henter]
        rfl
      · unfold settle
        rw [hnone]
  | @opt o values known named single dash check =>
      have hknown := Context.mem_words hcontext known
      have henter : s.enter (.opt o)
          = .ok { t with seen := true, pending := some { opt := o } } := by
        unfold enter beginOption
        rw [hs]
      have hopt : o.isList = false →
          ¬ ({ t with seen := true, pending := none } : State).Has
            (.opt o) := by
        intro hlist
        refine hfresh fun hproofs => ?_
        cases hproofs
        cases hlist
      refine ⟨{ t with seen := true, pending := some { opt := o, values } },
        ?_, ?_, htclosed, htcontext⟩
      · rw [List.cons_append, readAll_long hclosed hknown, henter]
        exact readAll_group
          (s := { t with seen := true, pending := some { opt := o } })
          rfl htclosed named single dash rest
      · unfold settle give
        simp only
        rw [settleOption_of_check named hopt check, hpending]

-- ============================================================ all groups read

/-- The groups of a command line are settled one after the other. -/
theorem readAll_flags (hs : s.settle = .ok t) (hclosed : s.closed = false)
    (hcontext : s.context ≠ .summarize) (hflags : ∀ f ∈ flags, f.IsReadable)
    (hfresh : ∀ f ∈ flags, f.word ≠ proofsWord → ¬ t.Has f.word)
    (hdistinct : flags.Pairwise fun f g =>
      g.word ≠ proofsWord → f.word ≠ g.word) :
    readAll s (flags.flatMap Flag.words) = .ok (flags.foldl give t) := by
  induction flags generalizing s t with
  | nil => exact hs
  | cons f rest ih =>
      obtain ⟨hfirst, hrest⟩ := List.pairwise_cons.mp hdistinct
      obtain ⟨s', hread, hs', hclosed', hcontext'⟩ :=
        readAll_flag hs hclosed hcontext (hflags f List.mem_cons_self)
          (hfresh f List.mem_cons_self) (rest.flatMap Flag.words)
      rw [List.flatMap_cons, hread, List.foldl_cons]
      refine ih hs' hclosed' (hcontext' ▸ hcontext)
        (fun g hg => hflags g (.tail _ hg)) (fun g hg hproofs hhas => ?_) hrest
      rcases has_give.mp hhas with hhas | heq
      · exact hfresh g (.tail _ hg) hproofs hhas
      · exact hfirst g hg hproofs heq.symm

/-- What the groups of a command line add up to. -/
theorem foldl_give (s : State) (flags : List Flag) :
    flags.foldl give s
      = { s with
        seen := s.seen || !flags.isEmpty
        switches := s.switches ++ flags.filterMap Flag.switch?
        options := s.options ++ flags.filterMap Flag.option? } := by
  induction flags generalizing s with
  | nil => simp
  | cons f rest ih =>
      rw [List.foldl_cons, ih]
      obtain ⟨switch | o, values⟩ := f <;>
        simp [give, Flag.switch?, Flag.option?, List.filterMap_cons]

end State

/-- What was read of the groups of a command line, in its context. -/
def settled (c : Context) (flags : List Flag) : State where
  context := c
  seen := !flags.isEmpty
  switches := flags.filterMap Flag.switch?
  options := flags.filterMap Flag.option?

/-- Groups that are readable, and distinct but for those of `--proofs`, are
read in whole. -/
theorem readAll_groups (hc : c ≠ .summarize)
    (hflags : ∀ f ∈ flags, f.IsReadable)
    (hdistinct : flags.Pairwise fun f g =>
      g.word ≠ proofsWord → f.word ≠ g.word) :
    readAll { context := c } (flags.flatMap Flag.words)
      = .ok (settled c flags) := by
  have hfresh : ∀ f ∈ flags, f.word ≠ proofsWord →
      ¬ ({ context := c } : State).Has f.word := by
    intro f _ _ hhas
    unfold State.Has at hhas
    cases hf : f.word <;> simp [hf] at hhas
  rw [State.readAll_flags (s := { context := c }) rfl rfl hc hflags hfresh
    hdistinct, State.foldl_give]
  simp [settled]

/-- The switches that are set are those that are given. -/
theorem mem_switches_iff {switch : Switch} :
    switch ∈ flags.filterMap Flag.switch?
      ↔ ∃ values, ⟨.switch switch, values⟩ ∈ flags := by
  rw [List.mem_filterMap]
  constructor
  · rintro ⟨⟨w, values⟩, hf, hswitch⟩
    cases w with
    | switch s =>
        cases hswitch
        exact ⟨values, hf⟩
    | opt o => cases hswitch
  · rintro ⟨values, hf⟩
    exact ⟨_, hf, rfl⟩

theorem mem_options_iff :
    (o, values) ∈ flags.filterMap Flag.option?
      ↔ ⟨.opt o, values⟩ ∈ flags := by
  rw [List.mem_filterMap]
  constructor
  · rintro ⟨⟨w, values⟩, hf, hoption⟩
    cases w with
    | switch s => cases hoption
    | opt o =>
        cases hoption
        exact hf
  · intro hf
    exact ⟨_, hf, rfl⟩

end ProofBatch.CommandLine
