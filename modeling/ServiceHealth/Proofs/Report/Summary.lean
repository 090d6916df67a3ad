import Mathlib.Algebra.Ring.Nat
import Mathlib.Data.List.Forall2
import ServiceHealth.Report.Entry

/-!
# The summary of a run

The numbers of a summary, its verdict and its printed text are computed one by one from the
reports of the features.  `summary_agrees` states that they agree, for every number of features
and scenarios.

The text is described by relations between a report and the lines about it, which do not mention
the entries that are printed: `FailureBlock` for a scenario that failed, and `TotalsLine` for
the whole run.
-/

namespace ServiceHealth.Report

variable {report : ScenarioResult} {summary : RunResult}

/-! ## Numbers and verdict -/

namespace RunResult

theorem total_eq_sum (summary : RunResult) :
    summary.total = (summary.features.map fun feature => feature.scenarios.length).sum :=
  List.length_flatMap

theorem passed_le_total (summary : RunResult) : summary.passed ≤ summary.total :=
  List.length_filter_le _ _

/-- The difference of the numbers is never cut off. -/
theorem passed_add_failed (summary : RunResult) : summary.passed + summary.failed = summary.total :=
  Nat.add_sub_of_le summary.passed_le_total

/-- The reports of the scenarios that failed, in the order of the run. -/
def failures (summary : RunResult) : List ScenarioResult :=
  summary.scenarios.filter fun report => !report.passed

theorem length_failures (summary : RunResult) : summary.failures.length = summary.failed := by
  have hsplit : summary.total = summary.passed + summary.failures.length :=
    List.length_eq_length_filter_add _
  have hsum := summary.passed_add_failed
  omega

/-- A run succeeds if and only if every scenario is reported as passed. -/
theorem success_iff :
    summary.success = true ↔ ∀ report ∈ summary.scenarios, report.passed = true := by
  have hle := summary.passed_le_total
  have hall : summary.passed = summary.total ↔
      ∀ report ∈ summary.scenarios, report.passed = true := List.length_filter_eq_length_iff
  rw [← hall, RunResult.success, beq_iff_eq, RunResult.failed]
  omega

theorem success_iff_features :
    summary.success = true ↔ ∀ feature ∈ summary.features, feature.passed = true := by
  simp only [success_iff, scenarios, List.forall_mem_flatMap, FeatureResult.passed,
    List.all_eq_true]

end RunResult

/-! ## The printed text -/

/-- The text of an entry, whatever its colours are. -/
def Entry.text (entry : Entry) : String :=
  String.join (entry.spans.map Span.text)

/-- Without colour an entry is printed as its text. -/
theorem Entry.render_eq_text (entry : Entry) : entry.render false = entry.text ++ "\n" := rfl

/-- Where a scenario failed: there is a line about it if and only if one of its steps failed. -/
inductive StepLine (report : ScenarioResult) : List String → Prop
  | omitted (h : report.failedStep = none) : StepLine report []
  | printed {step : String} (h : report.failedStep = some step) :
      StepLine report [s!"  at step {report.stepsRun}/{report.stepsTotal}: " ++ step]

/-- Why a scenario failed: there is a line about it if and only if an error is recorded. -/
inductive ErrorLine (report : ScenarioResult) : List String → Prop
  | omitted (h : report.error = none) : ErrorLine report []
  | printed {error : String} (h : report.error = some error) : ErrorLine report ["  " ++ error]

/-- The lines about a scenario that failed. -/
inductive FailureBlock (report : ScenarioResult) : List String → Prop
  | mk {place reason : List String} (step : StepLine report place)
      (error : ErrorLine report reason) :
      FailureBlock report ((cross ++ " " ++ report.name) :: (place ++ reason))

/-- The line about the whole run, with its three numbers after a mark, between two line ends. -/
inductive TotalsLine (summary : RunResult) : String → Prop
  | mk {mark : String} (success : mark = tick ↔ summary.success = true)
      (failure : mark = cross ↔ summary.success = false) :
      TotalsLine summary ("\n" ++ mark ++ " " ++
        s!"{summary.total} scenarios: {summary.passed} passed, {summary.failed} failed" ++ "\n")

theorem stepLine_failedAt (report : ScenarioResult) :
    StepLine report ((report.failedStep.map
      (Entry.failedAt report.stepsRun report.stepsTotal)).toList.map Entry.text) := by
  cases hstep : report.failedStep with
  | none => exact .omitted hstep
  | some step =>
      have htext : (Entry.failedAt report.stepsRun report.stepsTotal step).text =
          s!"  at step {report.stepsRun}/{report.stepsTotal}: " ++ step := String.empty_append
      have hline := StepLine.printed hstep
      rwa [← htext] at hline

theorem errorLine_failedBecause (report : ScenarioResult) :
    ErrorLine report ((report.error.map Entry.failedBecause).toList.map Entry.text) := by
  cases herror : report.error with
  | none => exact .omitted herror
  | some error =>
      have htext : (Entry.failedBecause error).text = "  " ++ error := rfl
      have hline := ErrorLine.printed herror
      rwa [← htext] at hline

/-- What the summary says about a scenario that failed is its block. -/
theorem failureBlock_of_failed (h : report.passed = false) :
    FailureBlock report (report.summaryEntries.map Entry.text) := by
  have hname : (Entry.failedScenario report.name).text = cross ++ " " ++ report.name := rfl
  have hblock := FailureBlock.mk (stepLine_failedAt report) (errorLine_failedBecause report)
  rw [← hname, ← List.map_append, ← List.map_cons] at hblock
  simpa only [ScenarioResult.summaryEntries, h, Bool.false_eq_true, if_false] using hblock

theorem totalsLine_totals (summary : RunResult) :
    TotalsLine summary
      (Entry.totals summary.total summary.passed summary.failed summary.success).text := by
  have hmarks : tick ≠ cross := by decide
  cases hsuccess : summary.success with
  | true => exact .mk (by simp [hsuccess]) (by simp [hsuccess, hmarks])
  | false => exact .mk (by simp [hsuccess, hmarks.symm]) (by simp [hsuccess])

/-- Scenarios that passed leave nothing in the summary. -/
theorem flatMap_summaryEntries (reports : List ScenarioResult) :
    reports.flatMap ScenarioResult.summaryEntries =
      (reports.filter fun report => !report.passed).flatMap ScenarioResult.summaryEntries := by
  induction reports with
  | nil => rfl
  | cons report reports ih =>
      cases hpassed : report.passed with
      | true => simp [ScenarioResult.summaryEntries, hpassed, ih]
      | false => simp [hpassed, ih]

/-- The lines of the summary: a blank one, a block for each scenario that failed, and the totals. -/
theorem exists_failureBlocks (summary : RunResult) :
    ∃ (blocks : List (List String)) (last : String),
      summary.entries.map Entry.text = "" :: (blocks.flatten ++ [last]) ∧
      List.Forall₂ FailureBlock summary.failures blocks ∧ TotalsLine summary last := by
  refine ⟨summary.failures.map fun report => report.summaryEntries.map Entry.text, _, ?_, ?_,
    totalsLine_totals summary⟩
  · rw [RunResult.entries, flatMap_summaryEntries, ← RunResult.failures, List.map_cons,
      List.map_append, List.map_flatMap, List.flatMap_def]
    rfl
  · rw [List.forall₂_map_right_iff, List.forall₂_same]
    intro report hreport
    have hfailed := (List.mem_filter.mp hreport).2
    exact failureBlock_of_failed (by simpa using hfailed)

/-- The numbers, the verdict and the text of a summary agree. -/
theorem summary_agrees (summary : RunResult) :
    summary.total = (summary.features.map fun feature => feature.scenarios.length).sum ∧
      summary.passed ≤ summary.total ∧ summary.passed + summary.failed = summary.total ∧
      (summary.success = true ↔ ∀ feature ∈ summary.features, feature.passed = true) ∧
      (summary.success = true ↔ ∀ report ∈ summary.scenarios, report.passed = true) ∧
      ∃ (blocks : List (List String)) (last : String),
        summary.entries.map Entry.text = "" :: (blocks.flatten ++ [last]) ∧
        summary.entries.map (Entry.render false) =
          ("" :: (blocks.flatten ++ [last])).map (· ++ "\n") ∧
        List.Forall₂ FailureBlock summary.failures blocks ∧
        blocks.length = summary.failed ∧ TotalsLine summary last := by
  obtain ⟨blocks, last, htext, hblocks, hlast⟩ := exists_failureBlocks summary
  have hrender : summary.entries.map (Entry.render false) =
      ("" :: (blocks.flatten ++ [last])).map (· ++ "\n") := by
    rw [← htext, List.map_map]
    exact List.map_congr_left fun entry _ => entry.render_eq_text
  have hlength : blocks.length = summary.failed := by
    rw [← hblocks.length_eq, summary.length_failures]
  exact ⟨summary.total_eq_sum, summary.passed_le_total, summary.passed_add_failed,
    RunResult.success_iff_features, RunResult.success_iff, blocks, last, htext, hrender, hblocks,
    hlength, hlast⟩

/-- One scenario of two failed, and it was a step that did. -/
example :
    let failed : ScenarioResult := ⟨"Ping", false, 2, 3, some "Then it answers", some "no answer"⟩
    let passed : ScenarioResult := ⟨"Pong", true, 1, 1, none, none⟩
    (RunResult.mk [⟨"Health", none, [failed, passed]⟩]).entries.map Entry.text =
      ["", "✗ Ping", "  at step 2/3: Then it answers", "  no answer",
        "\n✗ 2 scenarios: 1 passed, 1 failed\n"] := by
  decide

end ServiceHealth.Report
