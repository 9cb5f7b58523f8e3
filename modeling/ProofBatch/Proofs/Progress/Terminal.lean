/-
What a tally says after any records, and what a terminal shows of its lines.

# The tally

Recording adds the proof to one of the two lists and one to the count
(`record_eq`), so any number of records leaves in each list those of its
outcome, in order (`recordAll_eq`). Nothing is lost, nothing is counted twice,
and the total and the width stay as they were at the start.

# The terminal

A terminal line keeps what was written until something is written over it. A
text after a carriage return covers as many places as it is long
(`cells_write_return`), so a line that is shorter than the one before would
leave the end of that one standing. The lines of one pass are of one length,
and each covers the one before.
-/
import ProofBatch.Proofs.Journal
import ProofBatch.Proofs.Progress
import ProofBatch.Workers

namespace ProofBatch

-- ================================================================ the records

namespace Progress

/-- Count some proofs, one after the other. -/
def recordAll (p : Progress) (records : List (Path × Outcome)) : Progress :=
  records.foldl (fun p r => p.record r.1 r.2) p

/-- The proofs that were recorded with an outcome, in order. -/
def recordedAs (outcome : Outcome) (records : List (Path × Outcome)) :
    List Path :=
  (records.filter (·.2 = outcome)).map (·.1)

/-- The proof goes to the list of its outcome. -/
theorem record_eq (p : Progress) (r : Path × Outcome) :
    p.record r.1 r.2
      = { p with
        complete := p.complete + 1
        succeeded := p.succeeded ++ recordedAs .succeeded [r]
        failed := p.failed ++ recordedAs .failed [r] } := by
  obtain ⟨path, outcome⟩ := r
  cases outcome <;> simp [record, recordedAs]

/-- The first record counts for itself. -/
theorem recordedAs_cons (outcome : Outcome) (r : Path × Outcome)
    (records : List (Path × Outcome)) :
    recordedAs outcome (r :: records)
      = recordedAs outcome [r] ++ recordedAs outcome records := by
  unfold recordedAs
  rw [← List.map_append, ← List.filter_append, List.singleton_append]

/-- Records add up, whatever their order. -/
theorem recordAll_eq (p : Progress) (records : List (Path × Outcome)) :
    p.recordAll records
      = { p with
        complete := p.complete + records.length
        succeeded := p.succeeded ++ recordedAs .succeeded records
        failed := p.failed ++ recordedAs .failed records } := by
  induction records generalizing p with
  | nil => simp [recordAll, recordedAs]
  | cons r rest ih =>
      have hrest : p.recordAll (r :: rest)
          = (p.record r.1 r.2).recordAll rest := rfl
      rw [hrest, ih, record_eq, recordedAs_cons .succeeded r rest,
        recordedAs_cons .failed r rest, List.length_cons]
      simp only [List.append_assoc, Nat.add_assoc, Nat.add_comm 1]

/-- The tally of a pass is determined by what was recorded in it. -/
theorem recordAll_start (total : Nat) (records : List (Path × Outcome)) :
    recordAll (start total) records
      = { complete := records.length
          succeeded := recordedAs .succeeded records
          failed := recordedAs .failed records
          total, width := decimalWidth total } := by
  rw [recordAll_eq]
  simp [start]

/-- Every record has one of the two outcomes. -/
theorem length_recordedAs_add (records : List (Path × Outcome)) :
    (recordedAs .succeeded records).length +
      (recordedAs .failed records).length
      = records.length := by
  induction records with
  | nil => rfl
  | cons r rest ih =>
      rw [recordedAs_cons .succeeded, recordedAs_cons .failed,
        List.length_append, List.length_append, List.length_cons, ← ih]
      obtain ⟨path, outcome⟩ := r
      cases outcome <;> simp [recordedAs] <;> omega

end Progress

-- =============================================================== the terminal

/-- A line of a terminal, of any length: what stands on it, and how many places
are left of the next character. -/
structure TerminalLine where
  cells : List Char := []
  cursor : Nat := 0

namespace TerminalLine

variable {l : TerminalLine} {text : String}

/-- A carriage return goes back to the first place. Any other character is put
over what stands in its place, and the next one goes right of it. -/
def put (l : TerminalLine) (c : Char) : TerminalLine :=
  if c = '\r' then { l with cursor := 0 }
  else
    { cells := l.cells.take l.cursor ++ c :: l.cells.drop (l.cursor + 1)
      cursor := l.cursor + 1 }

/-- Put the characters of a text, one after the other. -/
def write (l : TerminalLine) (text : String) : TerminalLine :=
  text.toList.foldl put l

/-- What is written in two pieces is written in one. -/
theorem write_append (l : TerminalLine) (a b : String) :
    l.write (a ++ b) = (l.write a).write b := by
  unfold write
  rw [String.toList_append, List.foldl_append]

/-- What characters leave of what they are put over: in front of them all, and
behind them what lies further right. -/
theorem foldl_put {front back cs : List Char} (h : '\r' ∉ cs) :
    cs.foldl put ⟨front ++ back, front.length⟩
      = ⟨front ++ cs ++ back.drop cs.length, front.length + cs.length⟩ := by
  induction cs generalizing front back with
  | nil => simp
  | cons c cs ih =>
      obtain ⟨hc, hcs⟩ := List.ne_and_not_mem_of_not_mem_cons h
      have hput : put ⟨front ++ back, front.length⟩ c
          = ⟨(front ++ [c]) ++ back.drop 1, (front ++ [c]).length⟩ := by
        unfold put
        rw [if_neg (Ne.symm hc)]
        simp
      rw [List.foldl_cons, hput, ih hcs]
      simp [Nat.add_comm, Nat.add_left_comm]

/-- After a carriage return, a text covers as many places as it is long. -/
theorem cells_write_return (l : TerminalLine) (h : '\r' ∉ text.toList) :
    (l.write ("\r" ++ text)).cells
      = text.toList ++ l.cells.drop text.length := by
  have hreturn : l.write "\r" = ⟨[] ++ l.cells, ([] : List Char).length⟩ := rfl
  rw [write_append, hreturn]
  unfold write
  rw [foldl_put h, List.nil_append, String.length_toList]

/-- Texts of one length, each after a carriage return: the last one stands
alone. -/
theorem cells_write_strokes (width : Nat) {texts : List String}
    (htexts : ∀ t ∈ texts, t.length = width ∧ '\r' ∉ t.toList)
    (htext : text.length = width) (hreturn : '\r' ∉ text.toList)
    (hl : l.cells.length ≤ width) :
    (l.write (String.join ((texts ++ [text]).map ("\r" ++ ·)))).cells
      = text.toList := by
  induction texts generalizing l with
  | nil =>
      have hjoin : String.join (([] ++ [text]).map ("\r" ++ ·))
          = "\r" ++ text := by simp
      rw [hjoin, cells_write_return l hreturn, htext,
        List.drop_eq_nil_of_le hl, List.append_nil]
  | cons t rest ih =>
      obtain ⟨ht, htreturn⟩ := htexts t List.mem_cons_self
      have hjoin : String.join (((t :: rest) ++ [text]).map ("\r" ++ ·))
          = ("\r" ++ t) ++ String.join ((rest ++ [text]).map ("\r" ++ ·)) := by
        simp
      have hcells : (l.write ("\r" ++ t)).cells.length = width := by
        rw [cells_write_return l htreturn, ht, List.drop_eq_nil_of_le hl,
          List.append_nil, String.length_toList, ht]
      rw [hjoin, write_append]
      exact ih (fun t' ht' => htexts t' (.tail _ ht')) (Nat.le_of_eq hcells)

end TerminalLine

-- ============================================================== the statement

namespace Progress

/-- What a line of a terminal shows after some tallies were drawn on it. -/
def shown (drawn : List Progress) : List Char :=
  (TerminalLine.write {} (Journal.drawn (drawn.map Workers.drawing))).cells

/-- The tally `p` of a pass over `total` proofs says what was recorded, and its
line shows it. -/
structure Faithful (total : Nat) (records : List (Path × Outcome))
    (p : Progress) : Prop where
  kept : p.total = total
  complete : p.complete = records.length
  lists : p.complete = p.succeeded.length + p.failed.length
  succeeded : p.succeeded = recordedAs .succeeded records
  failed : p.failed = recordedAs .failed records
  drained : p.isDrained = true ↔ records.length = total
  /-- Only the total decides how long the line is. -/
  length : p.complete ≤ p.total → p.line.length = lineLength total
  /-- The line covers all those of the same pass that were drawn before it. -/
  covers : p.complete ≤ p.total → ∀ earlier : List (List (Path × Outcome)),
    (∀ before ∈ earlier, before.length ≤ total) →
    shown (earlier.map (recordAll (start total)) ++ [p]) = p.line.toList
  /-- No other count and no other total have this line. -/
  unambiguous : ∀ (total' : Nat) (records' : List (Path × Outcome)),
    p.line = (recordAll (start total') records').line →
    p.complete = records'.length ∧ p.total = total'

/-- The display is what is left when each line is drawn over the last. -/
theorem shown_eq (drawn : List Progress) :
    shown drawn = (TerminalLine.write {} (String.join
      ((drawn.map line).map ("\r" ++ ·)))).cells := by
  unfold shown
  rw [Journal.drawn_eq_join]
  unfold Journal.strokes Workers.drawing
  rw [List.filterMap_map, List.map_map, ← List.filterMap_eq_map]
  rfl

/-- As long as no more is recorded than there is, no line is longer or shorter
than the first. -/
theorem length_line_recordAll {total : Nat} {records : List (Path × Outcome)}
    (h : records.length ≤ total) :
    (recordAll (start total) records).line.length = lineLength total := by
  rw [recordAll_start]
  exact length_line rfl h

/-- Whatever was recorded, the tally says it, and its line is that of no other
tally. As long as no more is done than there is, the line has the length that
the total decides, and leaves nothing to be seen of those before it. -/
theorem recordAll_faithful (total : Nat) (records : List (Path × Outcome)) :
    Faithful total records (recordAll (start total) records) := by
  have hstart := recordAll_start total records
  constructor
  case kept => rw [hstart]
  case complete => rw [hstart]
  case lists =>
    rw [hstart]
    exact (length_recordedAs_add records).symm
  case succeeded => rw [hstart]
  case failed => rw [hstart]
  case drained =>
    rw [hstart]
    exact beq_iff_eq
  case length =>
    intro hle
    rw [hstart] at hle
    exact length_line_recordAll hle
  case covers =>
    intro hle earlier hearlier
    rw [hstart] at hle
    rw [shown_eq, List.map_append, List.map_map, List.map_singleton]
    refine TerminalLine.cells_write_strokes (lineLength total) ?_
      (length_line_recordAll hle) (return_notMem_line _) (Nat.zero_le _)
    intro text htext
    obtain ⟨before, hbefore, rfl⟩ := List.mem_map.mp htext
    exact ⟨length_line_recordAll (hearlier before hbefore),
      return_notMem_line _⟩
  case unambiguous =>
    intro total' records' hline
    have hnumbers := line_injective hline
    rwa [recordAll_start total' records'] at hnumbers

/-- From one digit to two, the line stays as long as it was. -/
theorem recordAll_faithful_ten :
    shown [recordAll (start 10) (List.replicate 9 (⟨"a"⟩, .succeeded)),
        recordAll (start 10) (List.replicate 10 (⟨"a"⟩, .succeeded))]
      = "Configuring CBMC proofs: 10 / 10".toList := by
  have hten := recordAll_faithful 10 (List.replicate 10 (⟨"a"⟩, .succeeded))
  have hcovers := hten.covers (by decide)
    [List.replicate 9 (⟨"a"⟩, .succeeded)] (by decide)
  exact hcovers.trans (by decide)

end Progress

end ProofBatch
