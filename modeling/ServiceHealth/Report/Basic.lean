/-!
# Reports

What became of a scenario, of a feature and of a whole run.
-/

namespace ServiceHealth.Report

/-- What became of one scenario. -/
structure ScenarioResult where
  name : String
  passed : Bool
  /-- How many steps were started. -/
  stepsRun : Nat
  stepsTotal : Nat
  /-- The step that failed, as keyword and text. -/
  failedStep : Option String
  error : Option String
  deriving DecidableEq, Repr

/-- What became of the scenarios of one file. -/
structure FeatureResult where
  name : String
  path : Option String
  scenarios : List ScenarioResult
  deriving DecidableEq, Repr

/-- No scenario of the feature failed. -/
def FeatureResult.passed (report : FeatureResult) : Bool :=
  report.scenarios.all (·.passed)

/-- What became of a run. -/
structure RunResult where
  features : List FeatureResult
  deriving DecidableEq, Repr

namespace RunResult

/-- The reports of all scenarios, in the order in which they ran. -/
def scenarios (summary : RunResult) : List ScenarioResult :=
  summary.features.flatMap (·.scenarios)

/-- How many scenarios there were. -/
def total (summary : RunResult) : Nat :=
  summary.scenarios.length

/-- How many scenarios passed. -/
def passed (summary : RunResult) : Nat :=
  (summary.scenarios.filter (·.passed)).length

/-- How many scenarios failed. -/
def failed (summary : RunResult) : Nat :=
  summary.total - summary.passed

/-- No scenario failed. -/
def success (summary : RunResult) : Bool :=
  summary.failed == 0

end RunResult

end ServiceHealth.Report
