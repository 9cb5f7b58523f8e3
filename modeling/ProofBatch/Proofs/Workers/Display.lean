/-
The progress display of a pass: which lines are drawn, and how many.

# Counting the lines

Every worker draws at the beginning of each of its rounds, and it begins one
round more than it has recorded proofs. So at every moment

    lines drawn + workers about to draw = workers + proofs recorded

(`Drawn.number`). Only drawing and recording change a summand, and each of the
two changes one on either side.

# What the lines show

A line shows the tally as it is when the line is drawn, in one step with the
drawing, and the tally only grows; so the counts never fall (`Drawn.rising`).
A single worker draws each count once, and the end of the pass draws the last
one again.
-/
import ProofBatch.Proofs.Progress
import ProofBatch.Proofs.Workers.Pass

namespace ProofBatch.Workers

variable {σ : Type} {setting : Setting σ} {s t : State σ} {i total : Nat}
  {units : List ProofUnit} {events news : Journal} {counts : List Nat}

-- ================================================= one position exchanged

/-- An exchanged position counts no longer, and the new one does. -/
theorem count_set {positions : List Position} {p : Position}
    (hp : positions[i]? = some p) (q r : Position) :
    (positions.set i q).count r + (if p = r then 1 else 0)
      = positions.count r + (if q = r then 1 else 0) := by
  obtain ⟨hi, rfl⟩ := List.getElem?_eq_some_iff.mp hp
  rw [List.count_set hi]
  by_cases hr : positions[i] = r
  · have hpos : 0 < positions.count r :=
      List.count_pos_iff.mpr (hr ▸ List.getElem_mem hi)
    simp only [hr, beq_iff_eq, if_true]
    omega
  · simp only [hr, beq_iff_eq, if_false]
    omega

/-- An exchange of positions of which neither counts. -/
theorem count_set_of_ne {positions : List Position} {p q r : Position}
    (hp : positions[i]? = some p) (hpr : p ≠ r) (hqr : q ≠ r) :
    (positions.set i q).count r = positions.count r := by
  have hset := count_set hp q r
  rw [if_neg hpr, if_neg hqr] at hset
  exact hset

-- ================================================================ the lines

/-- The text of a line over the one before. -/
def strokeAt (total complete : Nat) : String :=
  "\r" ++ Progress.lineAt total complete

/-- The line tells how many are complete of all there are. -/
theorem Framed.line {workers : Nat} (h : Framed workers units s) :
    s.progress.line
      = Progress.lineAt units.length s.progress.complete := by
  unfold Progress.lineAt Progress.line
  rw [h.total, h.width]
  rfl

/-- The lines drawn so far, by what they count. -/
structure Drawn (total : Nat) (events : Journal) (counts : List Nat)
    (s : State σ) : Prop where
  strokes : events.strokes = counts.map (strokeAt total)
  number : counts.length + s.positions.count .drawing
    = s.positions.length + s.progress.complete
  rising : counts.Pairwise (· ≤ ·)
  within : ∀ c ∈ counts, c ≤ s.progress.complete
  first : ∀ c, counts.head? = some c → c = 0
  /-- A single worker leaves no count out and draws none twice. -/
  single : s.positions.length = 1 → counts = List.range counts.length

theorem drawn_start (workers : Nat) (units : List ProofUnit) (w : World σ) :
    Drawn units.length [] [] (start workers units w) := by
  constructor
  case strokes => rfl
  case number =>
    show 0 + (List.replicate _ Position.drawing).count .drawing = _ + 0
    rw [List.count_replicate_self]
    simp [start]
  case rising => exact .nil
  case within => exact nofun
  case first => exact nofun
  case single => exact fun _ => rfl

/-- Before the first line nothing is recorded. -/
theorem Drawn.complete_eq_zero (h : Drawn total events [] s) :
    s.progress.complete = 0 := by
  have hnumber := h.number
  have hcount :=
    List.count_le_length (a := Position.drawing) (l := s.positions)
  rw [List.length_nil] at hnumber
  omega

/-- One line more, which shows the tally as it is. -/
theorem Drawn.first_snoc (h : Drawn total events counts s) {c : Nat}
    (hc : (counts ++ [s.progress.complete]).head? = some c) : c = 0 := by
  cases counts with
  | nil =>
      cases hc
      exact h.complete_eq_zero
  | cons first rest => exact h.first c hc

/-- The count that would be drawn next is not smaller than those before. -/
theorem Drawn.rising_snoc (h : Drawn total events counts s) :
    (counts ++ [s.progress.complete]).Pairwise (· ≤ ·) := by
  apply List.pairwise_append.mpr
  refine ⟨h.rising, List.pairwise_singleton .., ?_⟩
  intro c hc d hd
  rw [List.mem_singleton.mp hd]
  exact h.within c hc

-- ================================================================ the steps

/-- A step that draws nothing, records nothing and leaves nobody about to
draw. -/
theorem Drawn.quiet {p q : Position} (h : Drawn total events counts s)
    (hp : s.positions[i]? = some p) (hpd : p ≠ .drawing) (hqd : q ≠ .drawing)
    (hpos : t.positions = s.positions.set i q)
    (hprog : t.progress = s.progress) (hnews : news.strokes = []) :
    Drawn total (events ++ news) counts t := by
  constructor
  case strokes =>
    rw [Journal.strokes_append, hnews, List.append_nil]
    exact h.strokes
  case number =>
    rw [hpos, hprog, count_set_of_ne hp hpd hqd, List.length_set]
    exact h.number
  case rising => exact h.rising
  case within =>
    rw [hprog]
    exact h.within
  case first => exact h.first
  case single =>
    rw [hpos, List.length_set]
    exact h.single

/-- A worker draws. -/
theorem Drawn.draw (h : Drawn total events counts s)
    (hp : s.positions[i]? = some .drawing)
    (hline : s.progress.line = Progress.lineAt total s.progress.complete) :
    Drawn total (events ++ [drawing s.progress])
      (counts ++ [s.progress.complete]) (s.draw i) := by
  have hnumber := h.number
  have hcount := count_set hp .taking .drawing
  rw [if_pos rfl, if_neg nofun] at hcount
  constructor
  case strokes =>
    rw [Journal.strokes_append, h.strokes, List.map_append, List.map_singleton,
      strokeAt, ← hline]
    rfl
  case number =>
    show (counts ++ [_]).length + (s.positions.set i .taking).count .drawing
      = (s.positions.set i .taking).length + s.progress.complete
    rw [List.length_append, List.length_singleton, List.length_set]
    omega
  case rising => exact h.rising_snoc
  case within =>
    intro c hc
    rcases List.mem_append.mp hc with hc | hc
    · exact h.within c hc
    · exact Nat.le_of_eq (List.mem_singleton.mp hc)
  case first => exact fun _ => h.first_snoc
  case single =>
    intro hlen
    have hone : s.positions.length = 1 := by
      rw [← hlen]
      exact (List.length_set ..).symm
    obtain ⟨hall, -⟩ := eq_of_length_le_one hp (Nat.le_of_eq hone)
    -- nobody else can have recorded anything, so the next count is due
    have hnext : s.progress.complete = counts.length := by
      rw [hall, List.count_singleton_self, List.length_singleton] at hnumber
      omega
    rw [hnext, List.length_append, List.length_singleton, List.range_succ,
      ← h.single hone]

/-- A worker records, and is about to draw again. -/
theorem Drawn.record {unit : ProofUnit} {o : Outcome}
    (h : Drawn total events counts s)
    (hp : s.positions[i]? = some (.recording unit o)) :
    Drawn total events counts (s.record i unit o) := by
  have hnumber := h.number
  have hcount := count_set hp .drawing .drawing
  rw [if_neg nofun, if_pos rfl] at hcount
  have hcomplete : (s.record i unit o).progress.complete
      = s.progress.complete + 1 := by
    cases o <;> rfl
  constructor
  case strokes => exact h.strokes
  case number =>
    rw [hcomplete]
    show _ + (s.positions.set i .drawing).count .drawing
      = (s.positions.set i .drawing).length + _
    rw [List.length_set]
    omega
  case rising => exact h.rising
  case within =>
    intro c hc
    have := h.within c hc
    omega
  case first => exact h.first
  case single =>
    intro hlen
    apply h.single
    rw [← hlen]
    exact (List.length_set ..).symm

/-- The end of a configuration is not drawn. -/
theorem strokes_finishNews (dir : Path)
    (reply : Reply σ (Except RunError Outcome)) :
    (finishNews dir reply).strokes = [] := by
  cases h : reply.answer <;>
    simp [finishNews, complaints, h, Journal.strokes_cons]

/-- The lines drawn since the start account for the state. -/
def Displayed (workers : Nat) (units : List ProofUnit) (before : Journal)
    (s : State σ) : Prop :=
  Framed workers units s ∧ ∃ events counts,
    s.world.journal = before ++ events ∧ Drawn units.length events counts s

/-- A quiet step keeps the account, whatever else it writes. -/
theorem Displayed.quiet {workers : Nat} {before : Journal} {p q : Position}
    (h : Displayed workers units before s) (hf : Framed workers units t)
    (hp : s.positions[i]? = some p) (hpd : p ≠ .drawing) (hqd : q ≠ .drawing)
    (hpos : t.positions = s.positions.set i q)
    (hprog : t.progress = s.progress)
    (hj : t.world.journal = s.world.journal ++ news)
    (hnews : news.strokes = []) : Displayed workers units before t := by
  obtain ⟨-, events, counts, hevents, hd⟩ := h
  refine ⟨hf, events ++ news, counts, ?_,
    hd.quiet hp hpd hqd hpos hprog hnews⟩
  rw [hj, hevents, List.append_assoc]

/-- Every step keeps the account of the lines. -/
theorem Displayed.step {workers : Nat} {before : Journal}
    (hst : Step setting s i t) (h : Displayed workers units before s) :
    Displayed workers units before t := by
  have hf := h.1.step hst
  cases hst with
  | draw hp =>
      obtain ⟨hf₀, events, counts, hj, hd⟩ := h
      refine ⟨hf, _, _, ?_, hd.draw hp hf₀.line⟩
      show s.world.journal ++ [_] = _
      rw [hj, List.append_assoc]
  | stop hp =>
      exact h.quiet hf (q := .returned) hp nofun nofun rfl rfl rfl rfl
  | exhaust hp =>
      exact h.quiet hf (q := .returned) hp nofun nofun rfl rfl
        (List.append_nil _).symm rfl
  | refuse hp =>
      exact h.quiet hf (q := .returned) hp nofun nofun rfl rfl
        (List.append_nil _).symm rfl
  | @claim unit rest registry hp =>
      exact h.quiet hf (q := .asking unit) hp nofun nofun rfl rfl
        (List.append_nil _).symm rfl
  | @begin unit hp =>
      exact h.quiet hf (q := .configuring unit) hp nofun nofun rfl rfl
        (List.append_assoc ..) rfl
  | @finish unit hp =>
      exact h.quiet hf (q := .recording unit _) hp nofun nofun rfl rfl
        (journal_finish ..) (strokes_finishNews ..)
  | record hp =>
      obtain ⟨-, events, counts, hj, hd⟩ := h
      exact ⟨hf, events, counts, hj, hd.record hp⟩

/-- A whole pass is displayed as it should be. -/
theorem displayed_pass (setting : Setting σ) (schedule : Schedule)
    (workers : Nat) (units : List ProofUnit) (w : World σ) :
    Displayed workers units w.journal
      (pass setting schedule workers units w) := by
  obtain ⟨turns, hturns⟩ :=
    exists_run?_drive setting schedule 0 (start workers units w)
  exact run?_induction Displayed.step hturns ⟨framed_start .., [], [],
    (List.append_nil _).symm, drawn_start ..⟩

-- =================================================================== the end

/-- Whatever a pass gives, it draws the tally a last time and ends the line. -/
theorem conclude_strokes (s : State σ) :
    ∃ closing, (conclude s).2.journal = s.world.journal ++ closing
      ∧ closing.strokes = ["\r" ++ s.progress.line, "\n"] := by
  cases h : firstError? s.results with
  | none => exact ⟨_, (conclude_ok h).2, rfl⟩
  | some e => exact ⟨_, (conclude_error h).2, rfl⟩

/-- When all workers have returned, nobody is about to draw. -/
theorem Drawn.number_of_allReturned (h : Drawn total events counts s)
    (hret : s.AllReturned) :
    counts.length = s.positions.length + s.progress.complete := by
  have hnone : s.positions.count .drawing = 0 := by
    apply List.count_eq_zero.mpr
    intro hmem
    cases hret _ hmem
  have hnumber := h.number
  omega

-- ============================================================ the statement

/-- The display of a pass that ends with the tally `p`: `events` is all that
the pass wrote, and `counts` are what its lines show. -/
structure Display (workers : Nat) (units : List ProofUnit) (p : Progress)
    (events : Journal) (counts : List Nat) : Prop where
  text : events.drawn
    = String.join (counts.map fun c => "\r" ++ Progress.lineAt units.length c)
      ++ "\n"
  /-- It has no line feed but the one at its end. -/
  lineFeeds : events.drawn.toList.count '\n' = 1
  first : counts.head? = some 0
  rising : counts.Pairwise (· ≤ ·)
  last : counts.getLast? = some (p.succeeded ++ p.failed).length
  number : counts.length
    = min (max workers 1) units.length + (p.succeeded ++ p.failed).length + 1
  single : min (max workers 1) units.length = 1 →
    counts = List.range ((p.succeeded ++ p.failed).length + 1)
      ++ [(p.succeeded ++ p.failed).length]
  empty : units = [] → counts = [0]

/-- Lines by themselves feed no line. -/
theorem count_strokes (total : Nat) (counts : List Nat) :
    (String.join (counts.map (strokeAt total))).toList.count '\n' = 0 := by
  apply List.count_eq_zero.mpr
  rw [String.toList_join, List.mem_flatMap]
  rintro ⟨text, htext, hmem⟩
  obtain ⟨c, -, rfl⟩ := List.mem_map.mp htext
  rw [strokeAt, String.toList_append, List.mem_append] at hmem
  rcases hmem with hmem | hmem
  · exact absurd hmem (by decide)
  · exact Progress.lineFeed_notMem_line _ hmem

/-- The lines of a pass whose workers have all returned, the last one and the
line feed. -/
theorem Drawn.display {workers : Nat} {closing : Journal}
    (h : Drawn units.length events counts s) (hf : Framed workers units s)
    (hret : s.AllReturned)
    (hcomplete : s.progress.complete
      = (s.progress.succeeded ++ s.progress.failed).length)
    (hle : s.progress.complete ≤ units.length)
    (hclosing : closing.strokes = ["\r" ++ s.progress.line, "\n"]) :
    Display workers units s.progress (events ++ closing)
      (counts ++ [s.progress.complete]) := by
  have hcrew : s.positions.length = min (max workers 1) units.length := hf.crew
  have hnumber := h.number_of_allReturned hret
  have htext : (events ++ closing).drawn
      = String.join ((counts ++ [s.progress.complete]).map
        (strokeAt units.length)) ++ "\n" := by
    rw [Journal.drawn_eq_join, Journal.strokes_append, h.strokes, hclosing,
      hf.line, List.map_append, String.join_append, String.join_append,
      String.append_assoc]
    rfl
  constructor
  case text => exact htext
  case lineFeeds =>
    rw [htext, String.toList_append, List.count_append, count_strokes]
    rfl
  case first =>
    cases hhead : (counts ++ [s.progress.complete]).head? with
    | none => simp at hhead
    | some c => rw [h.first_snoc hhead]
  case rising => exact h.rising_snoc
  case last => rw [List.getLast?_concat, hcomplete]
  case number =>
    rw [List.length_append, List.length_singleton, hnumber, hcrew, hcomplete]
  case single =>
    intro hone
    have hlength : counts.length = s.progress.complete + 1 := by omega
    rw [h.single (hcrew.trans hone), hlength, hcomplete]
  case empty =>
    rintro rfl
    have hzero : s.progress.complete = 0 := Nat.le_zero.mp hle
    have hnone : counts.length = 0 := by
      rw [hnumber, hcrew, hzero]
      exact Nat.min_zero _
    rw [List.eq_nil_of_length_eq_zero hnone, hzero]
    rfl

/-- No more proofs are claimed than there are. -/
theorem Claims.length_claimed_le {claimed : List ProofUnit}
    {refused : Option (ProofUnit × RunError)}
    (h : Claims units claimed refused s) : claimed.length ≤ units.length := by
  have hlen := congrArg List.length h.split
  rw [List.length_append, List.length_append] at hlen
  omega

/-- What a pass displays, whether it gives its tally or is stopped by a refused
claim: for every list of proofs, every number of workers, every behaviour of
the configurer and every interleaving. -/
theorem configureAll_display (setting : Setting σ) (schedule : Schedule)
    (workers : Nat) (units : List ProofUnit) (w : World σ) :
    ∃ events counts,
      (configureAll setting schedule workers units w).2.journal
        = w.journal ++ events
      ∧ Display workers units (pass setting schedule workers units w).progress
        events counts := by
  obtain ⟨hf, events, counts, hj, hd⟩ :=
    displayed_pass setting schedule workers units w
  obtain ⟨claimed, _, _, -, hc, hb⟩ :=
    accounted_pass setting schedule workers units w
  have hret := pass_returned setting schedule workers units w
  have hle : (pass setting schedule workers units w).progress.complete
      ≤ units.length := by
    rw [(hb.settle hf hret).complete]
    exact hc.length_claimed_le
  obtain ⟨closing, hclose, hstrokes⟩ :=
    conclude_strokes (pass setting schedule workers units w)
  have hcomplete := hb.complete
  rw [← List.length_append] at hcomplete
  refine ⟨events ++ closing, _, ?_, hd.display hf hret
    hcomplete hle hstrokes⟩
  rw [← List.append_assoc, ← hj]
  exact hclose

end ProofBatch.Workers
