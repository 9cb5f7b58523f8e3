/-
The summary of a run as Markdown.

# Clean texts

A text with a bar or a line feed would be more than one cell or more than one
line (`IsClean`). A run is clean if its names, its statuses and the address of
its reports are; then so are all cells of the two tables, and no other text is
put into the headings.

# The law

A clean run has a summary: headings, and the lines of two tables. If the
run has a pipeline, these are tables in Markdown, with a row for each status in
one and for each pipeline in the other. Without a pipeline both are without
their line of dashes, so that no table is shown (`render?_markdown`); a run
without pipelines is a run all the same (`not_summarized_empty`).
-/
import ProofBatch.Proofs.BuildSummary.Tally
import ProofBatch.Proofs.Progress
import ProofBatch.Proofs.Status
import ProofBatch.Proofs.Table.Markdown

namespace ProofBatch.BuildSummary

open ProofBatch.Text ProofBatch.Table

variable {location : Option ReportLocation} {run : BuildRecord}
  {s t : String}

-- ============================================================= clean texts

/-- A text that is one cell of one line. -/
def IsClean (s : String) : Prop :=
  '|' ∉ s.toList ∧ '\n' ∉ s.toList

instance : Decidable (IsClean s) :=
  inferInstanceAs (Decidable (_ ∧ _))

theorem isClean_append (hs : IsClean s) (ht : IsClean t) :
    IsClean (s ++ t) := by
  unfold IsClean
  rw [String.toList_append, List.mem_append, List.mem_append, not_or, not_or]
  exact ⟨⟨hs.1, ht.1⟩, ⟨hs.2, ht.2⟩⟩

/-- The form for people keeps a text clean: it makes no bars and no line ends
of other characters. -/
theorem isClean_pretty (h : IsClean s) : IsClean (Status.pretty s) :=
  ⟨Status.notMem_pretty isApart_bar (by decide) h.1,
    Status.notMem_pretty isApart_lineFeed (by decide) h.2⟩

theorem isClean_toString (n : Nat) : IsClean (toString n) := by
  constructor
  · exact fun h => absurd (Progress.isDigit_of_mem_toString h) (by decide)
  · exact fun h => absurd (Progress.isDigit_of_mem_toString h) (by decide)

/-- A run, and an address of its reports, from which the cells of the tables
are put together without a bar or a line feed. -/
structure IsCleanRun (location : Option ReportLocation) (run : BuildRecord) :
    Prop
    where
  pipelines : ∀ p ∈ run.pipelines, IsClean p.name ∧ IsClean p.status
  address : ∀ l ∈ location, IsClean l.domain ∧ IsClean l.directory

section Reports

variable {l : ReportLocation}

/-- The address of the reports is as clean as its parts. -/
theorem isClean_base (h : IsClean l.domain ∧ IsClean l.directory) :
    IsClean l.base :=
  isClean_append (isClean_append (isClean_append (by decide +kernel) h.1)
    (by decide +kernel)) h.2

theorem isClean_index (h : IsClean l.domain ∧ IsClean l.directory) :
    IsClean l.index :=
  isClean_append (isClean_base h) (by decide +kernel)

/-- The address of a report is as clean as its parts and the name of the
proof. -/
theorem isClean_proof (h : IsClean l.domain ∧ IsClean l.directory)
    (hname : IsClean s) : IsClean (l.proof s) :=
  isClean_append (isClean_append (isClean_append (isClean_base h)
    (by decide +kernel)) hname) (by decide +kernel)

end Reports

-- ========================================================== the two tables

def statusHeader : Table.Row :=
  ["Status", "Count"]

def statusRows (run : BuildRecord) : List Table.Row :=
  (tally (run.pipelines.map statusOf)).map fun e => [e.1, toString e.2]

def pipelineHeader (location : Option ReportLocation) : Table.Row :=
  ["Proof", "Status"] ++ if location.isSome then ["CBMC proof report"] else []

def pipelineRows (location : Option ReportLocation) (run : BuildRecord) :
    List Table.Row :=
  run.pipelines.map (pipelineRow location)

theorem statusTable_eq (run : BuildRecord) :
    statusTable run = statusHeader :: statusRows run :=
  rfl

theorem pipelineTable_eq (location : Option ReportLocation)
    (run : BuildRecord) :
    pipelineTable location run
      = pipelineHeader location :: pipelineRows location run :=
  rfl

/-- Every row of the first table has a cell for each column. -/
theorem length_statusRows (run : BuildRecord) :
    ∀ row ∈ statusRows run, row.length = statusHeader.length := by
  intro row hrow
  obtain ⟨e, _, rfl⟩ := List.mem_map.mp hrow
  rfl

/-- Every row of the second table has a cell for each column, with links or
without. -/
theorem length_pipelineRows (location : Option ReportLocation)
    (run : BuildRecord) : ∀ row ∈ pipelineRows location run,
      row.length = (pipelineHeader location).length := by
  intro row hrow
  obtain ⟨p, _, rfl⟩ := List.mem_map.mp hrow
  cases location with
  | none => rfl
  | some l => rfl

/-- No cell of the first table can break a row. -/
theorem isClean_statusTable (h : IsCleanRun location run) :
    ∀ row ∈ statusHeader :: statusRows run, ∀ cell ∈ row, IsClean cell := by
  rw [List.forall_mem_cons]
  refine ⟨by decide +kernel, fun row hrow => ?_⟩
  obtain ⟨e, he, rfl⟩ := List.mem_map.mp hrow
  have hseen := ((tallied_tally _).listed e.1).mp (List.mem_map_of_mem he)
  obtain ⟨p, hp, hstatus⟩ := List.mem_map.mp hseen
  have hfirst : IsClean e.1 := hstatus ▸ isClean_pretty (h.pipelines p hp).2
  simpa using ⟨hfirst, isClean_toString e.2⟩

/-- No cell of the second table can break a row. -/
theorem isClean_pipelineTable (h : IsCleanRun location run) :
    ∀ row ∈ pipelineHeader location :: pipelineRows location run,
      ∀ cell ∈ row, IsClean cell := by
  rw [List.forall_mem_cons]
  constructor
  · cases location with
    | none => decide +kernel
    | some l =>
        show ∀ cell ∈ ["Proof", "Status", "CBMC proof report"], IsClean cell
        decide +kernel
  · intro row hrow cell hcell
    obtain ⟨p, hp, rfl⟩ := List.mem_map.mp hrow
    obtain ⟨hname, hstatus⟩ := h.pipelines p hp
    rcases List.mem_append.mp hcell with hcell | hlink
    · rw [List.mem_pair] at hcell
      rcases hcell with rfl | rfl
      · exact hname
      · exact isClean_pretty hstatus
    · cases location with
      | none => cases hlink
      | some l =>
          cases List.mem_singleton.mp hlink
          have hproof := isClean_proof (h.address l rfl) hname
          exact isClean_append (isClean_append (by decide +kernel) hproof)
            (by decide +kernel)

-- =============================================================== the text

/-- A heading of the second level. -/
def IsHeading (line : List Char) : Prop :=
  ∃ rest, line = '#' :: '#' :: ' ' :: rest

/-- A text of headings and the lines of two tables, with an empty line after
each. -/
def Comprises (text : String) (first second : List (List Char)) : Prop :=
  ∃ headings, (∀ line ∈ headings, IsHeading line)
    ∧ lines text.toList = headings ++ first ++ [] :: (second ++ [[]])

/-- A heading is one line. -/
theorem lines_heading (h : IsClean s) (rest : List Char) :
    ∃ line, IsHeading line
      ∧ lines (("## " ++ s ++ "\n").toList ++ rest) = line :: lines rest := by
  have htext : ("## " ++ s ++ "\n").toList ++ rest
      = ('#' :: '#' :: ' ' :: s.toList) ++ '\n' :: rest := by
    rw [String.toList_append, String.toList_append, List.append_assoc]
    rfl
  have hline : '\n' ∉ '#' :: '#' :: ' ' :: s.toList := by
    simpa using h.2
  refine ⟨_, ⟨chomp s.toList, ?_⟩, htext ▸ lines_append hline rest⟩
  rw [chomp_cons fun h => absurd h (by decide),
    chomp_cons fun h => absurd h (by decide),
    chomp_cons fun h => absurd h (by decide)]

/-- The link to the overall report. -/
def link (l : ReportLocation) : String :=
  "[Click here to see the CBMC proof report](" ++ l.index ++ ")"

theorem heading_some (l : ReportLocation) :
    heading (some l) = "## " ++ link l ++ "\n" := by
  have hfront : "## [Click here to see the CBMC proof report]("
      = "## " ++ "[Click here to see the CBMC proof report](" := by
    decide +kernel
  have hback : ")\n" = ")" ++ "\n" := by decide +kernel
  have hassoc : ∀ first front name back last : String,
      first ++ front ++ name ++ (back ++ last)
        = first ++ (front ++ name ++ back) ++ last := by
    intro first front name back last
    simp only [String.append_assoc]
  exact (congrArg₂ (· ++ l.index ++ ·) hfront hback).trans (hassoc ..)

/-- Before the first table there are headings and nothing else, whether the
reports have a location or not. -/
theorem lines_headings (h : IsCleanRun location run) (rest : List Char) :
    ∃ headings, (∀ line ∈ headings, IsHeading line)
      ∧ lines ((heading location).toList
          ++ ("## Summary of CBMC proof results\n".toList ++ rest))
        = headings ++ lines rest := by
  have hsummary : "## Summary of CBMC proof results\n"
      = "## " ++ "Summary of CBMC proof results" ++ "\n" := by
    decide +kernel
  have hname : IsClean "Summary of CBMC proof results" := by decide +kernel
  obtain ⟨title, htitle, hlines⟩ := lines_heading hname rest
  rw [← hsummary] at hlines
  cases location with
  | none =>
      refine ⟨[title], ?_, hlines⟩
      rw [List.forall_mem_singleton]
      exact htitle
  | some l =>
      have hlink : IsClean (link l) :=
        isClean_append (isClean_append (by decide +kernel)
          (isClean_index (h.address l rfl))) (by decide +kernel)
      obtain ⟨first, hfirst, hline⟩ := lines_heading hlink
        ("## Summary of CBMC proof results\n".toList ++ rest)
      refine ⟨[first, title], ?_, ?_⟩
      · rw [List.forall_mem_cons, List.forall_mem_singleton]
        exact ⟨hfirst, htitle⟩
      · rw [heading_some, hline, hlines]
        rfl

/-- The whole text, line by line: headings, and the lines of the two tables
with an empty line after each. -/
theorem comprises_texts (h : IsCleanRun location run)
    (widths widths' : List Nat) :
    Comprises (heading location ++ "## Summary of CBMC proof results\n"
        ++ text widths statusHeader (statusRows run) ++ "\n"
        ++ text widths' (pipelineHeader location) (pipelineRows location run)
        ++ "\n")
      (tableLines widths statusHeader (statusRows run))
      (tableLines widths' (pipelineHeader location)
        (pipelineRows location run)) := by
  have hblank : ∀ rest, lines ("\n".toList ++ rest) = [] :: lines rest :=
    fun rest => rfl
  have hstatuses := fun row hrow cell hcell =>
    (isClean_statusTable h row hrow cell hcell).2
  have hpipelines := fun row hrow cell hcell =>
    (isClean_pipelineTable h row hrow cell hcell).2
  obtain ⟨headings, hheadings, hlines⟩ := lines_headings h
    ((text widths statusHeader (statusRows run)).toList ++ ("\n".toList
      ++ ((text widths' (pipelineHeader location)
        (pipelineRows location run)).toList ++ ("\n".toList ++ []))))
  refine ⟨headings, hheadings, ?_⟩
  rw [lines_text_append hstatuses, hblank, lines_text_append hpipelines,
    hblank, List.append_nil] at hlines
  simp only [String.toList_append, List.append_assoc]
  exact hlines

/-- There is a summary of every clean run. -/
theorem exists_comprises (h : IsCleanRun location run) :
    ∃ widths widths' text,
      widths? statusHeader (statusRows run) = some widths
      ∧ widths? (pipelineHeader location) (pipelineRows location run)
        = some widths'
      ∧ render? location run = some text
      ∧ Comprises text (tableLines widths statusHeader (statusRows run))
        (tableLines widths' (pipelineHeader location)
          (pipelineRows location run)) := by
  obtain ⟨widths, hwidths⟩ := exists_widths? fun row hrow =>
    Nat.le_of_eq (length_statusRows run row hrow)
  obtain ⟨widths', hwidths'⟩ := exists_widths? fun row hrow =>
    Nat.le_of_eq (length_pipelineRows location run row hrow)
  refine ⟨widths, widths', _, hwidths, hwidths', ?_,
    comprises_texts h widths widths'⟩
  rw [render?, statusTable_eq, pipelineTable_eq, Table.render?, Table.render?,
    hwidths, hwidths']
  rfl

/-- The number of columns of the table of pipelines. -/
def columnsOf (location : Option ReportLocation) : Nat :=
  if location.isSome then 3 else 2

/-- The summary of a run as the headings and tables that it is meant to be. -/
def IsSummarized (location : Option ReportLocation) (run : BuildRecord) :
    Prop :=
  ∃ text statuses first second, render? location run = some text
    ∧ statuses.Nodup
    ∧ (∀ s, s ∈ statuses ↔ ∃ p ∈ run.pipelines, Status.pretty p.status = s)
    ∧ Comprises text first second ∧ IsMarkdown 2 statuses first
    ∧ IsMarkdown (columnsOf location) (run.pipelines.map (·.name)) second

theorem length_pipelineHeader (location : Option ReportLocation) :
    (pipelineHeader location).length = columnsOf location := by
  cases location with
  | none => rfl
  | some l => rfl

/-- The rows of the first table begin with the statuses, in the order of the
tally. -/
theorem keys_statusRows :
    List.Forall₂ (fun key row => row[0]? = some key)
      ((tally (run.pipelines.map statusOf)).map Prod.fst)
      (statusRows run) := by
  rw [statusRows, List.forall₂_map_left_iff, List.forall₂_map_right_iff,
    List.forall₂_same]
  exact fun e _ => rfl

/-- The rows of the second table begin with the names of the pipelines, in
their order. -/
theorem keys_pipelineRows :
    List.Forall₂ (fun key row => row[0]? = some key)
      (run.pipelines.map (·.name)) (pipelineRows location run) := by
  rw [pipelineRows, List.forall₂_map_left_iff, List.forall₂_map_right_iff,
    List.forall₂_same]
  exact fun p _ => rfl

/-- Where there is a pipeline there is a status to count. -/
theorem statusRows_ne_nil (h : run.pipelines ≠ []) : statusRows run ≠ [] := by
  intro hrows
  have htally := List.map_eq_nil_iff.mp hrows
  have htotal := (tallied_tally (run.pipelines.map statusOf)).total
  rw [htally, List.length_map] at htotal
  exact h (List.length_eq_zero_iff.mp htotal.symm)

/-- A build with pipelines is summarized in full: neither table stays without
rows, so each has its rule. -/
theorem isSummarized (h : IsCleanRun location run) (hne : run.pipelines ≠ []) :
    IsSummarized location run := by
  obtain ⟨widths, widths', text, hwidths, hwidths', htext, hlines⟩ :=
    exists_comprises h
  have hcounts := counts_of_tallied location
    (tallied_tally (run.pipelines.map statusOf))
  refine ⟨text, _, _, _, htext, hcounts.once, hcounts.listed, hlines, ?_, ?_⟩
  · exact isMarkdown_tableLines hwidths (length_statusRows run)
      (fun row hrow cell hcell =>
        (isClean_statusTable h row hrow cell hcell).1)
      keys_statusRows (statusRows_ne_nil hne)
  · rw [← length_pipelineHeader]
    exact isMarkdown_tableLines hwidths' (length_pipelineRows location run)
      (fun row hrow cell hcell =>
        (isClean_pipelineTable h row hrow cell hcell).1)
      keys_pipelineRows (fun hrows => hne (List.map_eq_nil_iff.mp hrows))

/-- The summary of a clean run is headings and tables in Markdown, if the run
has a pipeline; otherwise the tables are bare headers. -/
theorem render?_markdown (h : IsCleanRun location run) :
    (run.pipelines ≠ [] → IsSummarized location run)
      ∧ (run.pipelines = [] → ∃ text first second,
        render? location run = some text ∧ Comprises text first second
          ∧ IsBare 2 first ∧ IsBare (columnsOf location) second) := by
  refine ⟨isSummarized h, fun hnil => ?_⟩
  obtain ⟨widths, widths', text, hwidths, hwidths', htext, hlines⟩ :=
    exists_comprises h
  have hstatuses : statusRows run = [] := by
    rw [statusRows, hnil]
    rfl
  have hpipelines : pipelineRows location run = [] := by
    rw [pipelineRows, hnil]
    rfl
  refine ⟨text, _, _, htext, hlines, ?_, ?_⟩
  · rw [hstatuses]
    exact isBare_tableLines
      ((fit_of_widths? hwidths).room _ (List.mem_cons_self ..))
      (fun cell hcell =>
        (isClean_statusTable h _ (List.mem_cons_self ..) cell hcell).1)
  · rw [hpipelines, ← length_pipelineHeader]
    exact isBare_tableLines
      ((fit_of_widths? hwidths').room _ (List.mem_cons_self ..))
      (fun cell hcell =>
        (isClean_pipelineTable h _ (List.mem_cons_self ..) cell hcell).1)

/-- A run of which two pipelines have statuses that look alike to people. -/
def threePipelines : BuildRecord :=
  ⟨[⟨"a", "fail_ignored"⟩, ⟨"b", "success"⟩, ⟨"c", "Fail Ignored"⟩]⟩

theorem render?_markdown_three :
    IsCleanRun (some ⟨"reports.example", "final"⟩) threePipelines
      ∧ IsSummarized (some ⟨"reports.example", "final"⟩) threePipelines := by
  have h : IsCleanRun (some ⟨"reports.example", "final"⟩) threePipelines := by
    refine ⟨by decide +kernel, ?_⟩
    rintro _ ⟨⟩
    decide +kernel
  exact ⟨h, (render?_markdown h).1 (by decide)⟩

/-- The summary of a run without pipelines. -/
def emptySummary : String :=
  "## Summary of CBMC proof results\n| Status | Count |\n\n\n"
    ++ "| Proof | Status |\n\n\n"

/-- A run without pipelines has a summary in which nothing is a table. -/
theorem not_summarized_empty :
    IsCleanRun none ⟨[]⟩ ∧ ¬IsSummarized none ⟨[]⟩ := by
  refine ⟨⟨by decide, by decide⟩, ?_⟩
  rintro ⟨text, _, first, second, htext, -, -, ⟨headings, -, hlines⟩, hfirst,
    -⟩
  have hrender : render? none ⟨[]⟩ = some emptySummary := by decide +kernel
  rw [hrender] at htext
  cases htext
  -- No line of the text has a dash where a line of dashes has its first.
  have hno : ∀ chars ∈ lines emptySummary.toList,
      chars[1]? ≠ some '-' := by
    decide +kernel
  obtain ⟨line, hline, hdash⟩ := hfirst.exists_rule (by decide)
  refine hno line ?_ hdash
  rw [hlines]
  exact List.mem_append_left _ (List.mem_append_right _ hline)

end ProofBatch.BuildSummary
