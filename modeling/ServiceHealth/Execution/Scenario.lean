import ServiceHealth.Feature.Basic
import ServiceHealth.Step.Registry

/-!
# Executing a scenario

All lines of a scenario are resolved before the first one is executed, so a line
that cannot be resolved fails the scenario before anything is sent.  Then the
handlers are executed in order from a fresh world, until one fails.
-/

namespace ServiceHealth.Execution

open Feature (Line Scenario)
open Report (ScenarioResult)
open Step (Bound Registry Session World)

/-- What executes scenarios. -/
structure Runner where
  session : Session
  registry : Registry
  /-- Every step that passes is printed. -/
  verbose : Bool

/-- The report of a scenario that passed. -/
def passedResult (scenario : Scenario) : ScenarioResult :=
  ⟨scenario.fullName, true, scenario.lines.length, scenario.lines.length, none, none⟩

/-- The report of a scenario that failed. -/
def failedResult (scenario : Scenario) (stepsRun : Nat) (failedStep : Option String)
    (error : String) : ScenarioResult :=
  ⟨scenario.fullName, false, stepsRun, scenario.lines.length, failedStep, some error⟩

/-- The lines with their definitions; the first that cannot be resolved stops. -/
def resolveLines (registry : Registry) : List Line → Except (Line × Error) (List (Line × Bound))
  | [] => .ok []
  | line :: lines =>
    match registry.resolve line.kind line.keyword line.text with
    | .error error => .error (line, error)
    | .ok bound =>
      match resolveLines registry lines with
      | .error failure => .error failure
      | .ok others => .ok ((line, bound) :: others)

namespace Runner

/-- Executes the steps of a scenario that are left when some are over. -/
def executeSteps (runner : Runner) (scenario : Scenario) (completed : Nat) (world : World) :
    List (Line × Bound) → Interaction ScenarioResult
  | [] => do
    Interaction.say .scenarioPassed
    return passedResult scenario
  | (line, bound) :: others => do
    let conclusion ← bound.definition.handler.invoke world bound.arguments
    match conclusion.verdict with
    | .error error =>
      Interaction.say (.stepFailed line.label)
      Interaction.say (.stepError error.message)
      return failedResult scenario (completed + 1) (some line.label) error.message
    | .ok () =>
      if runner.verbose then Interaction.say (.stepPassed line.label)
      runner.executeSteps scenario (completed + 1) conclusion.world others

/-- Executes a scenario. -/
def executeScenario (runner : Runner) (scenario : Scenario) : Interaction ScenarioResult := do
  Interaction.say (.scenario scenario.fullName)
  match scenario.unsupported with
  | some reason =>
    Interaction.say (.unsupported reason)
    return failedResult scenario 0 none reason
  | none =>
    match resolveLines runner.registry scenario.lines with
    | .error (line, error) =>
      Interaction.say (.unresolved line.number error.message)
      return failedResult scenario 0 none error.message
    | .ok steps => runner.executeSteps scenario 0 (World.fresh runner.session) steps

end Runner

end ServiceHealth.Execution
