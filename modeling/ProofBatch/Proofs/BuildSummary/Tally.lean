/-
The two tables of a summary, and how they agree.

# One status at a time

The statuses are counted as they come. `Tallied` ties the counts to the
statuses seen so far: each of them is listed once, in the order in which they
came first, with the number of times it has been seen. One more status either
raises one count or comes last with a count of one (`mem_count`,
`map_fst_count_of_mem`, `map_fst_count_of_notMem`), and both keep the tie
(`Tallied.count`).

# The tables

The table of pipelines has a row for each pipeline, the table of statuses a row
for each entry of the tally. So a count can be checked against the rows of the
other table, and all counts together come to the number of its rows
(`tables_agree`).
-/
import Mathlib.Algebra.GroupWithZero.Nat
import Mathlib.Data.List.Basic
import Mathlib.Data.List.Forall2
import Mathlib.Data.List.Nodup
import ProofBatch.BuildSummary

namespace ProofBatch.BuildSummary

variable {seen statuses : List String} {status : String}
  {counts : List (String × Nat)} {e : String × Nat}

-- ========================================================= one status more

/-- A status that has been seen gets no new entry. -/
theorem map_fst_count_of_mem (h : status ∈ counts.map Prod.fst) :
    (count status counts).map Prod.fst = counts.map Prod.fst := by
  induction counts with
  | nil => cases h
  | cons first rest ih =>
      obtain ⟨other, n⟩ := first
      by_cases heq : other = status
      · rw [count, if_pos heq]
        rfl
      · have hrest : status ∈ rest.map Prod.fst :=
          (List.mem_cons.mp h).resolve_left (Ne.symm heq)
        rw [count, if_neg heq, List.map_cons, ih hrest, List.map_cons]

/-- A new status gets the last entry. -/
theorem map_fst_count_of_notMem (h : status ∉ counts.map Prod.fst) :
    (count status counts).map Prod.fst = counts.map Prod.fst ++ [status] := by
  induction counts with
  | nil => rfl
  | cons first rest ih =>
      obtain ⟨other, n⟩ := first
      rw [List.map_cons, List.mem_cons, not_or] at h
      rw [count, if_neg (Ne.symm h.1), List.map_cons, ih h.2]
      rfl

/-- What is in the counts after one more status: what was there of others, and
the count of this one, raised or new. -/
theorem mem_count (hnodup : (counts.map Prod.fst).Nodup)
    (he : e ∈ count status counts) :
    (e ∈ counts ∧ e.1 ≠ status)
      ∨ (∃ n, (status, n) ∈ counts ∧ e = (status, n + 1))
      ∨ (status ∉ counts.map Prod.fst ∧ e = (status, 1)) := by
  induction counts with
  | nil => exact .inr (.inr ⟨List.not_mem_nil, List.mem_singleton.mp he⟩)
  | cons first rest ih =>
      obtain ⟨other, n⟩ := first
      rw [List.map_cons, List.nodup_cons] at hnodup
      by_cases heq : other = status
      · subst heq
        rw [count, if_pos rfl] at he
        rcases List.mem_cons.mp he with rfl | hrest
        · exact .inr (.inl ⟨n, List.mem_cons_self .., rfl⟩)
        · refine .inl ⟨List.mem_cons_of_mem _ hrest, fun hfst => hnodup.1 ?_⟩
          exact hfst ▸ List.mem_map.mpr ⟨e, hrest, rfl⟩
      · rw [count, if_neg heq] at he
        rcases List.mem_cons.mp he with rfl | hrest
        · exact .inl ⟨List.mem_cons_self .., heq⟩
        · rcases ih hnodup.2 hrest with ⟨hmem, hne⟩ | ⟨n, hmem, rfl⟩ |
            ⟨hno, rfl⟩
          · exact .inl ⟨List.mem_cons_of_mem _ hmem, hne⟩
          · exact .inr (.inl ⟨n, List.mem_cons_of_mem _ hmem, rfl⟩)
          · refine .inr (.inr ⟨fun hmem => ?_, rfl⟩)
            exact (List.mem_cons.mp hmem).elim (Ne.symm heq) hno

/-- Each status adds one to the sum. -/
theorem sum_count (status : String) (counts : List (String × Nat)) :
    ((count status counts).map Prod.snd).sum
      = (counts.map Prod.snd).sum + 1 := by
  induction counts with
  | nil => rfl
  | cons first rest ih =>
      obtain ⟨other, n⟩ := first
      rw [count]
      split
      · simp only [List.map_cons, List.sum_cons]
        omega
      · simp only [List.map_cons, List.sum_cons, ih]
        omega

-- ======================================================== all the statuses

/-- The counts are told from the statuses seen. -/
structure Tallied (seen : List String) (counts : List (String × Nat)) : Prop
    where
  listed : ∀ s, s ∈ counts.map Prod.fst ↔ s ∈ seen
  order : (counts.map Prod.fst).Pairwise fun s t => seen.idxOf s < seen.idxOf t
  counted : ∀ e ∈ counts, e.2 = seen.count e.1
  total : (counts.map Prod.snd).sum = seen.length

namespace Tallied

theorem nil : Tallied [] [] where
  listed s := Iff.rfl
  order := .nil
  counted e he := by cases he
  total := rfl

/-- No status has two entries, as each stands where it was seen first. -/
theorem nodup (h : Tallied seen counts) : (counts.map Prod.fst).Nodup := by
  refine h.order.imp fun hlt => ?_
  rintro rfl
  exact absurd hlt (Nat.lt_irrefl _)

/-- Later statuses change nothing in the order of the entries. -/
theorem order_append (h : Tallied seen counts) (later : List String) :
    (counts.map Prod.fst).Pairwise
      fun s t => (seen ++ later).idxOf s < (seen ++ later).idxOf t := by
  refine h.order.imp_of_mem fun hs ht hlt => ?_
  rw [List.idxOf_append_of_mem ((h.listed _).mp hs),
    List.idxOf_append_of_mem ((h.listed _).mp ht)]
  exact hlt

/-- After one more status, each entry still has the number of its own. -/
theorem counted_count (h : Tallied seen counts)
    (he : e ∈ BuildSummary.count status counts) :
    e.2 = (seen ++ [status]).count e.1 := by
  rw [List.count_append]
  rcases mem_count h.nodup he with ⟨hmem, hne⟩ | ⟨n, hmem, rfl⟩ | ⟨hnew, rfl⟩
  · have hlast : e.1 ∉ [status] := fun hlast =>
      hne (List.mem_singleton.mp hlast)
    rw [h.counted e hmem, List.count_eq_zero_of_not_mem hlast, Nat.add_zero]
  · rw [List.count_singleton_self, ← h.counted _ hmem]
  · rw [h.listed] at hnew
    rw [List.count_singleton_self, List.count_eq_zero_of_not_mem hnew]

/-- One more status. -/
theorem count (h : Tallied seen counts) (status : String) :
    Tallied (seen ++ [status]) (BuildSummary.count status counts) := by
  have hcounted : ∀ e ∈ BuildSummary.count status counts,
      e.2 = (seen ++ [status]).count e.1 :=
    fun e he => h.counted_count he
  have htotal : ((BuildSummary.count status counts).map Prod.snd).sum
      = (seen ++ [status]).length := by
    rw [sum_count, h.total, List.length_append, List.length_singleton]
  by_cases hold : status ∈ counts.map Prod.fst
  case pos =>
    have hkeys := map_fst_count_of_mem hold
    refine ⟨fun s => ?_, hkeys ▸ h.order_append [status], hcounted, htotal⟩
    rw [hkeys, h.listed, List.mem_append, List.mem_singleton]
    refine (or_iff_left_of_imp ?_).symm
    rintro rfl
    exact (h.listed s).mp hold
  case neg =>
    have hkeys := map_fst_count_of_notMem hold
    refine ⟨fun s => ?_, ?_, hcounted, htotal⟩
    · rw [hkeys, List.mem_append, h.listed, List.mem_append]
    · rw [hkeys, List.pairwise_append]
      refine ⟨h.order_append [status], List.pairwise_singleton _ _, ?_⟩
      -- A new status comes behind all that were seen before it.
      intro s hs t ht
      rw [h.listed] at hs hold
      cases List.mem_singleton.mp ht
      rw [List.idxOf_append_of_mem hs, List.idxOf_append_of_notMem hold]
      exact Nat.lt_of_lt_of_le (List.idxOf_lt_length_of_mem hs)
        (Nat.le_add_right ..)

/-- A tally stays right, status by status. -/
theorem foldl (h : Tallied seen counts) (statuses : List String) :
    Tallied (seen ++ statuses)
      (statuses.foldl
        (fun counts s => BuildSummary.count s counts) counts) := by
  induction statuses generalizing seen counts with
  | nil => rwa [List.append_nil]
  | cons status statuses ih =>
      rw [List.append_cons]
      exact ih (h.count status)

end Tallied

/-- The tally of some statuses tallies them. -/
theorem tallied_tally (statuses : List String) :
    Tallied statuses (tally statuses) :=
  Tallied.nil.foldl statuses

-- ============================================================== two tables

section Tables

variable {location : Option ReportLocation} {run : BuildRecord}

/-- The number of rows that bear a status. -/
def bearing (status : String) (rows : List Table.Row) : Nat :=
  rows.countP fun row => row[1]? == some status

/-- The place of the first pipeline with a status. -/
def firstWith (status : String) (run : BuildRecord) : Nat :=
  run.pipelines.findIdx fun p => Status.pretty p.status == status

/-- The rows tell the pipelines one by one: the name, the status for people
and, if reports are served, the link to the report. -/
def Tells (location : Option ReportLocation) (run : BuildRecord)
    (rows : List Table.Row) : Prop :=
  List.Forall₂ (fun p row => row = [p.name, Status.pretty p.status]
    ++ (location.map fun l => s!"[Details]({l.proof p.name})").toList)
    run.pipelines rows

/-- The counts are those of the statuses in some rows, which tell the pipelines
of a run. -/
structure Counts (run : BuildRecord) (rows : List Table.Row)
    (counts : List (String × Nat)) : Prop where
  listed : ∀ s, s ∈ counts.map Prod.fst
    ↔ ∃ p ∈ run.pipelines, Status.pretty p.status = s
  once : (counts.map Prod.fst).Nodup
  order : (counts.map Prod.fst).Pairwise fun s t =>
    firstWith s run < firstWith t run
  counted : ∀ e ∈ counts, e.2 = bearing e.1 rows
  positive : ∀ e ∈ counts, 0 < e.2
  total : (counts.map Prod.snd).sum = run.pipelines.length

/-- The rows of the table tell the pipelines. -/
theorem tells_pipelineRow (location : Option ReportLocation)
    (run : BuildRecord) :
    Tells location run (run.pipelines.map (pipelineRow location)) := by
  rw [Tells, List.forall₂_map_right_iff, List.forall₂_same]
  intro p _
  cases location with
  | none => rfl
  | some l => rfl

theorem bearing_pipelineRow (status : String) :
    bearing status (run.pipelines.map (pipelineRow location))
      = (run.pipelines.map statusOf).count status := by
  rw [bearing, List.count, List.countP_map, List.countP_map]
  refine List.countP_congr fun p _ => ?_
  show (some (statusOf p) == some status) = true
    ↔ (statusOf p == status) = true
  rw [beq_iff_eq, beq_iff_eq, Option.some_inj]

/-- Where a status is seen first, its first pipeline is. -/
theorem idxOf_statusOf (status : String) :
    (run.pipelines.map statusOf).idxOf status = firstWith status run := by
  rw [List.idxOf, List.findIdx_map]
  rfl

/-- What tallies the statuses counts the rows. -/
theorem counts_of_tallied (location : Option ReportLocation)
    (h : Tallied (run.pipelines.map statusOf) counts) :
    Counts run (run.pipelines.map (pipelineRow location)) counts where
  listed s := by
    rw [h.listed, List.mem_map]
    rfl
  once := h.nodup
  order := h.order.imp fun hlt => by
    rwa [idxOf_statusOf, idxOf_statusOf] at hlt
  counted e he := by rw [h.counted e he, bearing_pipelineRow]
  positive e he := by
    have hseen := (h.listed e.1).mp (List.mem_map_of_mem he)
    rw [h.counted e he]
    exact List.count_pos_iff.mpr hseen
  total := by rw [h.total, List.length_map]

/-- The table of pipelines tells the pipelines in their order; the table of
statuses lists each of their statuses once, in the order of their first
pipelines, with the number of rows of the other table that bear it. -/
theorem tables_agree (location : Option ReportLocation) (run : BuildRecord) :
    ∃ rows counts,
      pipelineTable location run = (["Proof", "Status"]
        ++ if location.isSome then ["CBMC proof report"] else []) :: rows
      ∧ Tells location run rows
      ∧ statusTable run = ["Status", "Count"]
        :: counts.map (fun e => [e.1, toString e.2])
      ∧ Counts run rows counts :=
  ⟨_, _, rfl, tells_pipelineRow location run, rfl,
    counts_of_tallied location (tallied_tally (run.pipelines.map statusOf))⟩

/-- Statuses that look alike to people are counted together. -/
example :
    statusTable ⟨[⟨"a", "fail_ignored"⟩, ⟨"b", "OK"⟩, ⟨"c", "FAIL IGNORED"⟩]⟩
      = [["Status", "Count"], ["Fail Ignored", "2"], ["Ok", "1"]] := by
  decide +kernel

end Tables

end ProofBatch.BuildSummary
