import ServiceHealth.Execution.Scenario
import ServiceHealth.Feature.Collection

/-!
# Executing feature files

The scenarios of a feature are executed one after another, each from an empty
context.  A run executes the files that its paths stand for.  A file that cannot
be loaded counts as one failed scenario, and the files after it are executed all
the same; only a path that stands for nothing stops the run before its first file.
-/

namespace ServiceHealth.Execution

open Report (FeatureResult RunResult ScenarioResult)

namespace Runner

/-- Executes scenarios one after another. -/
def executeScenarios (runner : Runner) : List Feature.Scenario → Interaction (List ScenarioResult)
  | [] => return []
  | scenario :: scenarios => do
    let report ← runner.executeScenario scenario
    let reports ← runner.executeScenarios scenarios
    return report :: reports

/-- Executes the scenarios of a feature. -/
def executeFeature (runner : Runner) (feature : Feature) : Interaction FeatureResult := do
  Interaction.say (.feature feature.name)
  Interaction.sayAll (feature.path.map Report.Entry.featurePath).toList
  let scenarios ← runner.executeScenarios feature.scenarios
  return ⟨feature.name, feature.path, scenarios⟩

/-- Loads and executes a feature file. -/
def executeFile (runner : Runner) (files : FileSystem) (path : String) :
    Interaction (Except Error FeatureResult) :=
  match Feature.load files path with
  | .error error => return .error error
  | .ok feature => do
    let report ← runner.executeFeature feature
    return .ok report

end Runner

/-- The report of a file that cannot be loaded. -/
def unloadableResult (path : String) (error : Error) : FeatureResult :=
  ⟨path, some path, [⟨path, false, 0, 0, none, some error.message⟩]⟩

namespace Runner

/-- Loads and executes a file of a run. -/
def executeCollected (runner : Runner) (files : FileSystem) (path : String) :
    Interaction FeatureResult :=
  match Feature.load files path with
  | .error error => do
    Interaction.say (.feature path)
    Interaction.say (.unloadable error.message)
    return unloadableResult path error
  | .ok feature => runner.executeFeature feature

/-- Loads and executes the files of a run one after another. -/
def executeAll (runner : Runner) (files : FileSystem) :
    (paths : List String) → Interaction (List FeatureResult)
  | [] => return []
  | path :: paths => do
    let report ← runner.executeCollected files path
    let reports ← runner.executeAll files paths
    return report :: reports

/-- Executes the files that paths stand for. -/
def executePaths (runner : Runner) (files : FileSystem) (paths : List String) :
    Interaction (Except Error RunResult) :=
  match Feature.collect files paths with
  | .error error => return .error error
  | .ok collected => do
    let reports ← runner.executeAll files collected
    return .ok ⟨reports⟩

end Runner

end ServiceHealth.Execution
