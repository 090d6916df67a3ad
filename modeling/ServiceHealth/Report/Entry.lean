import ServiceHealth.Report.Basic
import ServiceHealth.Report.Style
import ServiceHealth.Step.Kind

/-!
# Entries of the printed report

A run prints one entry after another.  An entry says what happened; how it looks
is decided when it is rendered.
-/

namespace ServiceHealth.Report

/-- One entry of the printed report. -/
inductive Entry where
  | feature (name : String)
  | featurePath (path : String)
  | scenario (name : String)
  | unsupported (reason : String)
  | unresolved (line : Nat) (error : String)
  | stepPassed (label : String)
  | stepFailed (label : String)
  | stepError (error : String)
  | scenarioPassed
  | unloadable (error : String)
  | blank
  | failedScenario (name : String)
  | failedAt (stepsRun stepsTotal : Nat) (step : String)
  | failedBecause (error : String)
  | totals (total passed failed : Nat) (success : Bool)
  | serviceReady (url : String) (attempts : Nat)
  | serviceAnswered (url : String) (attempts : Nat)
  | stepKind (kind : Step.Kind)
  | definition (pattern : String)
  | information (text : String)
  deriving DecidableEq, Repr

/-- The mark of what failed. -/
def cross : String := "✗"

/-- The mark of what passed. -/
def tick : String := "✓"

/-- A number of attempts in words. -/
def attemptsText (attempts : Nat) : String :=
  s!"after {attempts} attempt" ++ if attempts = 1 then "" else "s"

/-- The pieces of text of an entry. -/
def Entry.spans : Entry → List Span
  | .feature name => [plain "\n", ⟨.bold .blue, "Feature:"⟩, plain " ", ⟨.bold .white, name⟩]
  | .featurePath path => [plain "  ", ⟨.dimmed, path⟩]
  | .scenario name =>
    [plain "\n  ", ⟨.coloured .cyan, "Scenario:"⟩, plain " ", ⟨.coloured .white, name⟩]
  | .unsupported reason => [plain "    ", ⟨.coloured .red, cross⟩, plain (" " ++ reason)]
  | .unresolved line error =>
    [plain "    ", ⟨.coloured .red, cross⟩, plain (s!" line {line}: " ++ error)]
  | .stepPassed label => [plain "    ", ⟨.coloured .green, tick⟩, plain " ", ⟨.dimmed, label⟩]
  | .stepFailed label => [plain "    ", ⟨.coloured .red, cross⟩, plain (" " ++ label)]
  | .stepError error => [plain "      ", ⟨.coloured .red, error⟩]
  | .scenarioPassed =>
    [plain "    ", ⟨.bold .green, tick⟩, plain " ", ⟨.coloured .green, "Passed"⟩]
  | .unloadable error =>
    [plain "  ", ⟨.coloured .red, cross⟩, plain " ", ⟨.coloured .red, error⟩]
  | .blank => []
  | .failedScenario name => [⟨.coloured .red, cross⟩, plain " ", ⟨.bold .white, name⟩]
  | .failedAt stepsRun stepsTotal step =>
    [plain (s!"  at step {stepsRun}/{stepsTotal}: " ++ step)]
  | .failedBecause error => [plain "  ", ⟨.coloured .red, error⟩]
  | .totals total passed failed success =>
    let line := s!"{total} scenarios: {passed} passed, {failed} failed"
    if success then
      [plain "\n", ⟨.bold .green, tick⟩, plain " ", ⟨.bold .green, line⟩, plain "\n"]
    else [plain "\n", ⟨.bold .red, cross⟩, plain " ", ⟨.bold .red, line⟩, plain "\n"]
  | .serviceReady url attempts =>
    [⟨.coloured .green, "Service ready:"⟩,
      plain (" " ++ url ++ " (" ++ attemptsText attempts ++ ")")]
  | .serviceAnswered url attempts =>
    [⟨.coloured .green, tick⟩, plain (" " ++ url ++ " answered " ++ attemptsText attempts)]
  | .stepKind kind => [⟨.bold .cyan, kind.name⟩]
  | .definition pattern => [plain ("  " ++ pattern)]
  | .information text => [plain text]

/-- An entry as it is printed, with its line end. -/
def Entry.render (colour : Bool) (entry : Entry) : String :=
  String.join (entry.spans.map (Span.render colour)) ++ "\n"

/-! ## The summary at the end -/

/-- The entries about one scenario in the summary: none if it passed. -/
def ScenarioResult.summaryEntries (report : ScenarioResult) : List Entry :=
  if report.passed then []
  else
    .failedScenario report.name ::
      ((report.failedStep.map (Entry.failedAt report.stepsRun report.stepsTotal)).toList ++
        (report.error.map Entry.failedBecause).toList)

/-- The entries of the summary: a blank line, a block for each failed scenario, and the totals. -/
def RunResult.entries (summary : RunResult) : List Entry :=
  .blank :: (summary.scenarios.flatMap ScenarioResult.summaryEntries ++
    [.totals summary.total summary.passed summary.failed summary.success])

end ServiceHealth.Report
