/-
Running the proofs is what a command line without a command asks for.

# Two contexts

The options of a run may stand before any command, and after the command that
runs the proofs. Both places know the same words but one: the version can be
asked for before a command only (`Context.mem_words_run`). Asking for it ends
the reading, and so does a word that is not known, so every word is read in
both places to the same effect, or in neither (`State.alike_word`).

# Commands

A word may be a command only if no option stands before it. Such a word takes
the reading to another context, and after `run` it is a word that has no place.
A value that is spelled like a command is no such word: an option waits for it.

So what is read without a command is read after `run`, to the same effect, and
nothing else is (`State.readAll_named`).
-/
import ProofBatch.Session

namespace ProofBatch.CommandLine

-- ====================================================================== names

/-- The one entry of a list that fits is the first that does. -/
theorem find?_eq_some_iff_of_unique {α : Type} {l : List α} {p : α → Bool}
    {a : α}
    (h : ∀ b ∈ l, ∀ c ∈ l, p b = true → p c = true → b = c) :
    l.find? p = some a ↔ a ∈ l ∧ p a = true := by
  constructor
  · intro hfind
    exact ⟨List.mem_of_find?_eq_some hfind, List.find?_some hfind⟩
  · rintro ⟨hmem, hp⟩
    cases hfind : l.find? p with
    | none => exact absurd hp (List.find?_eq_none.mp hfind a hmem)
    | some b =>
        rw [h b (List.mem_of_find?_eq_some hfind) a hmem
          (List.find?_some hfind) hp]

namespace Word

/-- The name after two dashes. -/
def long : Word → String
  | switch s => s.long
  | opt o => o.long

/-- The letter after one dash. -/
def short? : Word → Option Char
  | switch s => s.short?
  | opt o => o.short?

end Word

namespace Context

variable {c : Context} {name : String} {letter : Char} {w : Word}

/-- No two words of a context share a name. -/
theorem long_injective (c : Context) :
    ∀ w ∈ c.words, ∀ w' ∈ c.words, w.long = w'.long → w = w' := by
  cases c <;> decide +kernel

/-- No two words of a context share a letter. -/
theorem short_injective (c : Context) :
    ∀ w ∈ c.words, ∀ w' ∈ c.words,
      w.short?.isSome → w.short? = w'.short? → w = w' := by
  cases c <;> decide +kernel

/-- A long name finds the word that has it. -/
theorem long?_eq_some_iff :
    c.long? name = some w ↔ w ∈ c.words ∧ w.long = name := by
  have hlong : c.long? name
      = c.words.find? fun w => decide (w.long = name) := by
    unfold long?
    congr 1
    funext w
    cases w <;> rfl
  rw [hlong, find?_eq_some_iff_of_unique, decide_eq_true_iff]
  intro w hw w' hw' h h'
  exact long_injective c w hw w' hw'
    ((of_decide_eq_true h).trans (of_decide_eq_true h').symm)

theorem short?_eq_some_iff :
    c.short? letter = some w ↔ w ∈ c.words ∧ w.short? = some letter := by
  have hshort : c.short? letter
      = c.words.find? fun w => decide (w.short? = some letter) := by
    unfold short?
    congr 1
    funext w
    cases w <;> rfl
  rw [hshort, find?_eq_some_iff_of_unique, decide_eq_true_iff]
  intro w hw w' hw' h h'
  have hletter := of_decide_eq_true h
  refine short_injective c w hw w' hw' ?_
    (hletter.trans (of_decide_eq_true h').symm)
  rw [hletter]
  rfl

/-- After `run`, all words are known that are known before a command, but for
the question about the version. -/
theorem mem_words_run :
    w ∈ run.words ↔ w ∈ root.words ∧ w ≠ .switch .version := by
  have hfilter : run.words
      = root.words.filter fun w => decide (w ≠ .switch .version) := by
    decide +kernel
  rw [hfilter, List.mem_filter, decide_eq_true_iff]

/-- Under the command, all options can be found that the program has, but for
the one for the version. -/
theorem long?_run (name : String) :
    run.long? name
      = (root.long? name).filter fun w => decide (w ≠ .switch .version) := by
  ext w
  rw [Option.filter_eq_some_iff, long?_eq_some_iff, long?_eq_some_iff,
    mem_words_run, decide_eq_true_iff, and_right_comm]

/-- So can their letters. -/
theorem short?_run (letter : Char) :
    run.short? letter
      = (root.short? letter).filter fun w =>
          decide (w ≠ .switch .version) := by
  ext w
  rw [Option.filter_eq_some_iff, short?_eq_some_iff, short?_eq_some_iff,
    mem_words_run, decide_eq_true_iff, and_right_comm]

end Context

-- ================================================================= two places

namespace State

variable {s t : State} {o : Opt} {text : String} {args : List String}

/-- What was read, as if it stood in another context. -/
def within (s : State) (c : Context) : State :=
  { s with context := c }

@[simp] theorem context_within (s : State) (c : Context) :
    (s.within c).context = c := rfl

@[simp] theorem pending_within (s : State) (c : Context) :
    (s.within c).pending = s.pending := rfl

@[simp] theorem seen_within (s : State) (c : Context) :
    (s.within c).seen = s.seen := rfl

@[simp] theorem closed_within (s : State) (c : Context) :
    (s.within c).closed = s.closed := rfl

@[simp] theorem options_within (s : State) (c : Context) :
    (s.within c).options = s.options := rfl

@[simp] theorem switches_within (s : State) (c : Context) :
    (s.within c).switches = s.switches := rfl

/-- Settling does not look at the context. -/
theorem settleOption_within (s : State) (c : Context) (o : Opt)
    (values : List String) :
    (s.within c).settleOption o values
      = (s.settleOption o values).map (·.within c) := by
  unfold settleOption
  rw [options_within]
  by_cases hnone : values.isEmpty = true
  · rw [if_pos hnone, if_pos hnone]
    rfl
  · rw [if_neg hnone, if_neg hnone]
    by_cases htwice : (!o.isList && s.options.any (·.1 == o)) = true
    · rw [if_pos htwice, if_pos htwice]
      rfl
    · rw [if_neg htwice, if_neg htwice]
      cases values.forM o.kind.check <;> rfl

/-- An option that waits for values is settled in either place alike. -/
theorem settle_within (s : State) (c : Context) :
    (s.within c).settle = s.settle.map (·.within c) := by
  unfold settle
  rw [pending_within]
  cases s.pending with
  | none => rfl
  | some p => exact settleOption_within { s with pending := none } c ..

theorem settleSwitch_within (s : State) (c : Context) (switch : Switch) :
    (s.within c).settleSwitch switch
      = (s.settleSwitch switch).map (·.within c) := by
  unfold settleSwitch
  rw [settle_within]
  cases s.settle with
  | error e => rfl
  | ok t =>
      cases switch with
      | help => rfl
      | version => rfl
      | _ =>
          simp only [Except.map]
          split
          next htwice =>
            rw [if_pos (show t.switches.contains _ = true from htwice)]
          next hfresh =>
            rw [if_neg (show ¬ t.switches.contains _ = true from hfresh)]
            rfl

theorem beginOption_within (s : State) (c : Context) (o : Opt)
    (attached : Option String) :
    (s.within c).beginOption o attached
      = (s.beginOption o attached).map (·.within c) := by
  unfold beginOption
  rw [settle_within]
  cases s.settle with
  | error e => rfl
  | ok t =>
      cases attached with
      | none => rfl
      | some value => exact settleOption_within { t with seen := true } c ..

/-- Asking for the version ends the reading. -/
theorem settleSwitch_version (s : State) :
    ∃ e, s.settleSwitch .version = .error e := by
  unfold settleSwitch
  cases s.settle with
  | error e => exact ⟨e, rfl⟩
  | ok t => exact ⟨_, rfl⟩

/-- A word was read before any command and after `run`: to the same effect, or
in neither place. -/
inductive Alike : Except Fault State → Except Fault State → Prop
  | read {s : State} (root : s.context = .root) :
      Alike (.ok s) (.ok (s.within .run))
  | refused (e e' : Fault) : Alike (.error e) (.error e')

/-- What does not look at the context has the same effect in both places. -/
theorem Alike.of_within {f : State → Except Fault State}
    (hf : ∀ s c, f (s.within c) = (f s).map (·.within c))
    (h : s.context = .root) : Alike (f s) (f (s.within .run)) := by
  have hroot : (f s).map (·.within .root) = f s := by
    rw [← hf, ← h]
    rfl
  rw [hf]
  cases hfs : f s with
  | error e => exact .refused e e
  | ok t =>
      rw [hfs] at hroot
      have hsame : t.within .root = t := Except.ok.inj hroot
      exact .read (congrArg State.context hsame).symm

theorem alike_settleSwitch (h : s.context = .root) (switch : Switch) :
    Alike (s.settleSwitch switch) ((s.within .run).settleSwitch switch) :=
  .of_within (f := (·.settleSwitch switch))
    (fun s c => settleSwitch_within s c switch) h

theorem alike_beginOption (h : s.context = .root) (o : Opt)
    (attached : Option String) :
    Alike (s.beginOption o attached)
      ((s.within .run).beginOption o attached) :=
  .of_within (f := (·.beginOption o attached))
    (fun s c => beginOption_within s c o attached) h

/-- A long option keeps them together, unless it is the one that only one of
them knows. -/
theorem alike_long (h : s.context = .root) (text : List Char) :
    Alike (s.long text) ((s.within .run).long text) := by
  unfold long
  rw [h, context_within]
  obtain ⟨name, attached⟩ := splitEquals text
  simp only [Context.long?_run]
  cases Context.root.long? (.ofList name) with
  | none => exact .refused _ _
  | some w =>
      by_cases hversion : w = .switch .version
      · rw [hversion]
        obtain ⟨e, he⟩ := settleSwitch_version s
        simp only [he]
        cases attached <;> exact .refused _ _
      · rw [Option.filter_some, if_pos (decide_eq_true hversion)]
        cases w with
        | switch switch =>
            simp only
            split
            next => exact .refused _ _
            next => exact alike_settleSwitch h switch
        | opt o => exact alike_beginOption h o _

theorem alike_short (h : s.context = .root) (text : List Char) :
    Alike (s.short text) ((s.within .run).short text) := by
  induction text generalizing s with
  | nil => exact .read h
  | cons letter rest ih =>
      unfold short
      rw [h, context_within, Context.short?_run]
      cases Context.root.short? letter with
      | none => exact .refused _ _
      | some w =>
          by_cases hversion : w = .switch .version
          · rw [hversion]
            obtain ⟨e, he⟩ := settleSwitch_version s
            simp only [he]
            exact .refused _ _
          · rw [Option.filter_some, if_pos (decide_eq_true hversion)]
            cases w with
            | switch switch =>
                have hswitch := alike_settleSwitch h switch
                generalize hbefore : s.settleSwitch switch = before at hswitch
                generalize hafter : (s.within .run).settleSwitch switch = after
                  at hswitch
                simp only [hbefore, hafter]
                cases hswitch with
                | read hroot => exact ih hroot
                | refused e e' => exact .refused e e'
            | opt o => exact alike_beginOption h o _

/-- What is no option is a value or a fault, for both. -/
theorem alike_plain (h : s.context = .root) (text : String) :
    Alike (s.plain text) ((s.within .run).plain text) := by
  unfold plain
  rw [pending_within]
  cases s.pending with
  | none => exact .refused _ _
  | some p =>
      by_cases hopen : p.isOpen = true
      · simp only [if_pos hopen]
        exact .read (s := { s with pending := _ }) h
      · simp only [if_neg hopen]
        exact .refused _ _

/-- Any word keeps the two readers together that does not name a command. -/
theorem alike_word (h : s.context = .root) (text : String) :
    Alike (s.word text) ((s.within .run).word text) := by
  unfold word
  rw [closed_within]
  by_cases hclosed : s.closed = true
  · rw [if_pos hclosed, if_pos hclosed]
    exact .refused _ _
  · rw [if_neg hclosed, if_neg hclosed]
    split
    next => exact .read (s := { s with closed := true }) h
    next => exact alike_long h _
    next => exact alike_short h _
    next => exact alike_plain h text

-- =================================================================== commands

/-- What does not look at the context does not change it. -/
theorem context_of_within {f : State → Except Fault State}
    (hf : ∀ s c, f (s.within c) = (f s).map (·.within c))
    (h : f s = .ok t) : t.context = s.context := by
  have hsame : f s = (f s).map (·.within s.context) := hf s s.context
  rw [h] at hsame
  have ht : t = t.within s.context := Except.ok.inj hsame
  calc t.context = (t.within s.context).context := congrArg State.context ht
    _ = s.context := rfl

/-- Nothing but a command leads to another context. -/
theorem context_settleSwitch {switch : Switch}
    (h : s.settleSwitch switch = .ok t) : t.context = s.context :=
  context_of_within (f := (·.settleSwitch switch))
    (fun s c => settleSwitch_within s c switch) h

theorem context_beginOption {attached : Option String}
    (h : s.beginOption o attached = .ok t) : t.context = s.context :=
  context_of_within (f := (·.beginOption o attached))
    (fun s c => beginOption_within s c o attached) h

theorem context_long {letters : List Char} (h : s.long letters = .ok t) :
    t.context = s.context := by
  unfold long at h
  simp only at h
  split at h
  next => cases h
  next =>
    split at h
    next => cases h
    next => exact context_settleSwitch h
  next => exact context_beginOption h

theorem context_short {letters : List Char} (h : s.short letters = .ok t) :
    t.context = s.context := by
  induction letters generalizing s with
  | nil =>
      cases h
      rfl
  | cons letter rest ih =>
      unfold short at h
      split at h
      next => cases h
      next =>
        split at h
        next hswitch => rw [ih h, context_settleSwitch hswitch]
        next => cases h
      next => exact context_beginOption h

theorem context_plain (h : s.plain text = .ok t) : t.context = s.context := by
  unfold plain at h
  split at h
  next =>
    split at h
    next =>
      cases h
      rfl
    next => cases h
  next => cases h

/-- A word that is no command stays in its context. -/
theorem context_word (h : s.word text = .ok t) : t.context = s.context := by
  unfold word at h
  split at h
  next => cases h
  next =>
    split at h
    next =>
      cases h
      rfl
    next => exact context_long h
    next => exact context_short h
    next => exact context_plain h

/-- A word stands where a command may, and is the name of one. -/
def IsCommand (s : State) (text : String) : Prop :=
  s.mayBeCommand = true ∧ (text = helpCommand ∨ (command? text).isSome)

/-- A word that is no command is read by itself. -/
theorem readAll_cons (h : ¬ s.IsCommand text) (rest : List String) :
    readAll s (text :: rest)
      = match s.word text with
        | .ok t => readAll t rest
        | .error e => .error e := by
  rw [readAll]
  cases hmay : s.mayBeCommand with
  | false => rfl
  | true =>
      obtain ⟨hhelp, hnone⟩ := not_or.mp fun hname => h ⟨hmay, hname⟩
      rw [Option.not_isSome_iff_eq_none] at hnone
      rw [hnone, Bool.true_and, decide_eq_false hhelp]
      rfl

/-- Under a command there are no further commands. -/
theorem not_isCommand_of_context_ne (h : s.context ≠ .root) :
    ¬ s.IsCommand text := by
  rintro ⟨hmay, -⟩
  unfold mayBeCommand at hmay
  rw [beq_false_of_ne h] at hmay
  cases hmay

/-- After a command no other is read. -/
theorem context_readAll (hcontext : s.context ≠ .root)
    (h : readAll s args = .ok t) : t.context = s.context := by
  induction args generalizing s with
  | nil =>
      exact context_of_within (f := settle) settle_within h
  | cons text rest ih =>
      rw [readAll_cons (not_isCommand_of_context_ne hcontext)] at h
      cases hword : s.word text with
      | error e =>
          rw [hword] at h
          cases h
      | ok u =>
          rw [hword] at h
          have hu := context_word hword
          rw [ih (hu ▸ hcontext) h, hu]

/-- No command leads back. -/
theorem command?_ne_root {c : Context} (h : command? text = some c) :
    c ≠ .root := by
  unfold command? at h
  split at h
  next => cases h; nofun
  next =>
    split at h
    next => cases h; nofun
    next => cases h

/-- A command has no place after `run`. -/
theorem word_run_of_isCommand (h : s.IsCommand text) :
    ∃ e, (s.within .run).word text = .error e := by
  obtain ⟨hmay, hcommand⟩ := h
  have hawaits : s.awaitsValue = false :=
    (Bool.not_eq_true' _).mp (Bool.and_eq_true_iff.mp hmay).2
  have hplain : ∃ e, (s.within .run).plain text = .error e := by
    unfold plain
    rw [pending_within]
    cases hpending : s.pending with
    | none => exact ⟨_, rfl⟩
    | some p =>
        have hopen : p.isOpen = false := by
          unfold awaitsValue at hawaits
          rwa [hpending] at hawaits
        exact ⟨_, if_neg (ne_true_of_eq_false hopen)⟩
  have hname : text = "help" ∨ text = "run" ∨ text = "summarize" := by
    unfold command? at hcommand
    split at hcommand
    next hrun => exact .inr (.inl hrun)
    next =>
      split at hcommand
      next hsummarize => exact .inr (.inr hsummarize)
      next => exact hcommand.imp_right fun hnone => nomatch hnone
  -- None of the names begins with a dash.
  have hword : (s.within .run).word text
      = if s.closed then .error ((s.within .run).stray text)
        else (s.within .run).plain text := by
    unfold word
    obtain rfl | rfl | rfl := hname <;> rfl
  rw [hword]
  split
  next => exact ⟨_, rfl⟩
  next => exact hplain

/-- A command takes the reading to another context, for good. -/
theorem context_readAll_of_isCommand {rest : List String}
    (h : s.IsCommand text)
    (ht : readAll s (text :: rest) = .ok t) : t.context ≠ .root := by
  obtain ⟨hmay, hcommand⟩ := h
  rw [readAll, hmay, Bool.true_and] at ht
  split at ht
  next => cases ht
  next hhelp =>
    have hhelp : text ≠ helpCommand := fun h => hhelp (decide_eq_true h)
    obtain ⟨c, hc⟩ :=
      Option.isSome_iff_exists.mp (hcommand.resolve_left hhelp)
    have hne := command?_ne_root hc
    simp only [if_true, hc] at ht
    rw [context_readAll (s := { context := c }) hne ht]
    exact hne

/-- What a command line comes to with and without `run` before it: the same
without any command, and no reading after `run` where there is another one. -/
inductive Named : Except Fault State → Except Fault State → Prop
  | same {s : State} (root : s.context = .root) :
      Named (.ok s) (.ok (s.within .run))
  | refused {before : Except Fault State}
      (commanded : ∀ t, before = .ok t → t.context ≠ .root) (e : Fault) :
      Named before (.error e)

/-- Readers that end together do so with the command named for one of them. -/
theorem Alike.named {before after : Except Fault State}
    (h : Alike before after) : Named before after := by
  cases h with
  | read root => exact .same root
  | refused e e' =>
      exact .refused (fun t (ht : Except.error e = .ok t) => nomatch ht) e'

/-- Read from the program or from the command, words mean the same, as long as
none is a command. -/
theorem readAll_named (h : s.context = .root) (args : List String) :
    Named (readAll s args) (readAll (s.within .run) args) := by
  induction args generalizing s with
  | nil => exact (Alike.of_within (f := settle) settle_within h).named
  | cons text rest ih =>
      have hrun : (s.within .run).context ≠ .root := nofun
      rw [readAll_cons (not_isCommand_of_context_ne hrun)]
      by_cases hcommand : s.IsCommand text
      · obtain ⟨e, he⟩ := word_run_of_isCommand hcommand
        rw [he]
        exact .refused (fun t ht => context_readAll_of_isCommand hcommand ht) e
      · rw [readAll_cons hcommand]
        have hword := alike_word h text
        generalize s.word text = before at hword
        generalize (s.within .run).word text = after at hword
        cases hword with
        | read hroot => exact ih hroot
        | refused e e' => exact (Alike.refused e e').named

end State

-- ================================================================ the default

variable {args : List String} {logLevel : String} {verbose : Bool}
  {config : Option Path} {given : Overrides} {e : Fault}

/-- A command line that was read in a context where the proofs are run. -/
theorem parse_of_readAll {s : State} {named : Bool}
    (h : readAll {} args = .ok s)
    (hrequest : s.request = .ok (.run named s.overrides)) :
    parse args = .ok
      { logLevel := (s.value? .logLevel).getD "warn"
        verbose := s.switches.contains .verbose
        config := s.path? .config
        request := .run named s.overrides } := by
  unfold parse
  rw [h]
  simp only [hrequest]

/-- A run without its command named is asked of the program itself. -/
theorem context_eq_root_of_request {s : State}
    (h : s.request = .ok (.run false given)) : s.context = .root := by
  unfold State.request at h
  split at h
  next hroot => exact hroot
  next => cases h
  next => split at h <;> cases h

/-- Without a command, the reading ends where it began. -/
theorem context_of_parse
    (h : parse args = .ok ⟨logLevel, verbose, config, .run false given⟩) :
    ∃ s, readAll {} args = .ok s ∧ s.context = .root := by
  unfold parse at h
  split at h
  next => cases h
  next s hread =>
    split at h
    next => cases h
    next request hrequest =>
      cases h
      exact ⟨s, hread, context_eq_root_of_request hrequest⟩

/-- After `run` comes what its context reads. -/
theorem readAll_run (args : List String) :
    readAll {} ("run" :: args) = readAll (({} : State).within .run) args :=
  rfl

/-- Naming the command in front makes no difference to words that ask for a run
without it, and is a fault in front of all others. -/
theorem parse_run (args : List String) :
    (∃ logLevel verbose config given,
      parse args = .ok ⟨logLevel, verbose, config, .run false given⟩
        ∧ parse ("run" :: args)
          = .ok ⟨logLevel, verbose, config, .run true given⟩)
    ∨ (∀ logLevel verbose config given,
        parse args ≠ .ok ⟨logLevel, verbose, config, .run false given⟩)
      ∧ ∃ e, parse ("run" :: args) = .error e := by
  have hnamed := State.readAll_named (s := {}) rfl args
  rw [← readAll_run] at hnamed
  generalize hbefore : readAll {} args = before at hnamed
  generalize hafter : readAll {} ("run" :: args) = after at hnamed
  cases hnamed with
  | @same s hroot =>
      have hrequest : s.request = .ok (.run false s.overrides) := by
        unfold State.request
        rw [hroot]
      exact .inl ⟨_, _, _, _, parse_of_readAll hbefore hrequest,
        parse_of_readAll (s := s.within .run) hafter rfl⟩
  | refused hcommanded e =>
      refine .inr ⟨fun logLevel verbose config given hparse => ?_, e, ?_⟩
      · obtain ⟨s, hs, hroot⟩ := context_of_parse hparse
        exact hcommanded s (hbefore.symm.trans hs) hroot
      · unfold parse
        rw [hafter]

/-- What `run` before a command line changes: nothing where no command is
given, and nothing else can follow it. -/
structure RunIsDefault (args : List String) : Prop where
  /-- With and without `run`, the same is read. -/
  parses : ∀ logLevel verbose config given,
    parse args = .ok ⟨logLevel, verbose, config, .run false given⟩
      ↔ parse ("run" :: args)
        = .ok ⟨logLevel, verbose, config, .run true given⟩
  /-- After `run`, nothing but a run is read. -/
  named : ∀ invocation, parse ("run" :: args) = .ok invocation →
    ∃ given, invocation.request = .run true given
  /-- With and without `run`, the same is done. -/
  executed : ∀ logLevel verbose config given,
    parse args = .ok ⟨logLevel, verbose, config, .run false given⟩ →
    ∀ {σ : Type} (host : Session.Host σ) (outside : σ),
      Session.run host args outside
        = Session.run host ("run" :: args) outside

/-- Running the proofs is the default command. -/
theorem run_is_default (args : List String) : RunIsDefault args := by
  obtain ⟨logLevel, verbose, config, given, hparse, hrun⟩ | ⟨hnone, e, he⟩ :=
    parse_run args
  · refine ⟨fun l v c g => ?_, fun invocation h => ?_, fun l v c g h => ?_⟩
    · rw [hparse, hrun]
      simp
    · rw [hrun] at h
      cases h
      exact ⟨given, rfl⟩
    · intro σ host outside
      unfold Session.run
      rw [hparse, hrun]
      rfl
  · refine ⟨fun l v c g => ?_, fun invocation h => ?_, fun l v c g h => ?_⟩
    · rw [he]
      exact ⟨fun h => absurd h (hnone l v c g), nofun⟩
    · rw [he] at h
      cases h
    · exact absurd h (hnone l v c g)

end ProofBatch.CommandLine
