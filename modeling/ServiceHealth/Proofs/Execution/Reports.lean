import ServiceHealth.Proofs.Execution.FileRuns

/-!
# The reports of scenarios in a run

A run executes scenarios one after another, and all that one hands to the next is the
state of the network: `reportIn` is the report of a scenario from a state, `stateAfter`
the state that scenarios leave.  The reports of a feature and of a file are those of its
scenarios (`result_executeScenarios`, `result_executeAll`).

With these, all reports of a run are good exactly if every file loads and every scenario
passes from the state in which it finds the network (`passed_fileReportsFrom_iff`).
-/

namespace ServiceHealth.Execution

open Feature (Scenario)
open Report (FeatureResult RunResult ScenarioResult)

variable {σ : Type} {runner : Runner} {network : Network σ} {files : FileSystem}

/-! ## Scenarios, one after another -/

namespace Runner

/-- The report of a scenario when the network is in some state. -/
def reportIn (runner : Runner) (network : Network σ) (state : σ) (scenario : Scenario) :
    ScenarioResult :=
  ((runner.executeScenario scenario).run network state).result

/-- The state of the network after scenarios. -/
def stateAfter (runner : Runner) (network : Network σ) (state : σ)
    (scenarios : List Scenario) : σ :=
  scenarios.foldl
    (fun state scenario => ((runner.executeScenario scenario).run network state).state) state

/-- The reports of scenarios, each from the state that those before it leave. -/
def reportsFrom (runner : Runner) (network : Network σ) : σ → List Scenario → List ScenarioResult
  | _, [] => []
  | state, scenario :: scenarios =>
    runner.reportIn network state scenario ::
      runner.reportsFrom network (runner.stateAfter network state [scenario]) scenarios

/-- Every scenario passes from the state that those before it leave. -/
def EveryPasses (runner : Runner) (network : Network σ) (state : σ) (scenarios : List Scenario) :
    Prop :=
  ∀ before scenario after, scenarios = before ++ scenario :: after →
    (runner.reportIn network (runner.stateAfter network state before) scenario).passed = true

end Runner

open Runner

theorem stateAfter_append (state : σ) (first second : List Scenario) :
    runner.stateAfter network state (first ++ second) =
      runner.stateAfter network (runner.stateAfter network state first) second :=
  List.foldl_append

theorem stateAfter_cons (state : σ) (scenario : Scenario) (scenarios : List Scenario) :
    runner.stateAfter network state (scenario :: scenarios) =
      runner.stateAfter network (runner.stateAfter network state [scenario]) scenarios :=
  stateAfter_append state [scenario] scenarios

theorem state_executeScenarios (runner : Runner) (network : Network σ) (state : σ)
    (scenarios : List Scenario) :
    ((runner.executeScenarios scenarios).run network state).state =
      runner.stateAfter network state scenarios := by
  induction scenarios generalizing state with
  | nil => rfl
  | cons scenario scenarios ih =>
      rw [run_executeScenarios_cons, stateAfter_cons]
      exact ih _

theorem result_executeScenarios (runner : Runner) (network : Network σ) (state : σ)
    (scenarios : List Scenario) :
    ((runner.executeScenarios scenarios).run network state).result =
      runner.reportsFrom network state scenarios := by
  induction scenarios generalizing state with
  | nil => rfl
  | cons scenario scenarios ih =>
      rw [run_executeScenarios_cons, reportsFrom]
      exact congrArg (_ :: ·) (ih _)

/-- A scenario in the middle is reported from the state that those before it leave. -/
theorem reportsFrom_append (state : σ) (first second : List Scenario) :
    runner.reportsFrom network state (first ++ second) =
      runner.reportsFrom network state first ++
        runner.reportsFrom network (runner.stateAfter network state first) second := by
  induction first generalizing state with
  | nil => rfl
  | cons scenario first ih =>
      rw [List.cons_append, reportsFrom, reportsFrom, ih, stateAfter_cons state scenario first,
        List.cons_append]

theorem everyPasses_nil (state : σ) : runner.EveryPasses network state [] := by
  intro before scenario after heq
  simp at heq

theorem everyPasses_cons {state : σ} {scenario : Scenario} {scenarios : List Scenario} :
    runner.EveryPasses network state (scenario :: scenarios) ↔
      (runner.reportIn network state scenario).passed = true ∧
        runner.EveryPasses network (runner.stateAfter network state [scenario]) scenarios := by
  constructor
  · intro h
    refine ⟨h [] scenario scenarios rfl, ?_⟩
    rintro before other after rfl
    have hother := h (scenario :: before) other after rfl
    rwa [stateAfter_cons] at hother
  · rintro ⟨hfirst, hrest⟩ before other after heq
    cases before with
    | nil =>
        cases heq
        exact hfirst
    | cons first before =>
        cases heq
        rw [stateAfter_cons]
        exact hrest before other after rfl

/-- Every scenario passes if and only if every report says so. -/
theorem everyPasses_iff {state : σ} {scenarios : List Scenario} :
    runner.EveryPasses network state scenarios ↔
      ∀ report ∈ runner.reportsFrom network state scenarios, report.passed = true := by
  induction scenarios generalizing state with
  | nil => simp [everyPasses_nil, reportsFrom]
  | cons scenario scenarios ih => rw [everyPasses_cons, reportsFrom, List.forall_mem_cons, ih]

theorem everyPasses_append {state : σ} {first second : List Scenario} :
    runner.EveryPasses network state (first ++ second) ↔
      runner.EveryPasses network state first ∧
        runner.EveryPasses network (runner.stateAfter network state first) second := by
  simp only [everyPasses_iff, reportsFrom_append, List.forall_mem_append]

/-! ## Files, one after another -/

/-- The scenarios of a file, if it can be loaded. -/
def scenariosAt (files : FileSystem) (path : String) : List Scenario :=
  match Feature.load files path with
  | .ok feature => feature.scenarios
  | .error _ => []

/-- The report of a file when the network is in some state. -/
def fileReport (runner : Runner) (network : Network σ) (files : FileSystem) (state : σ)
    (path : String) : FeatureResult :=
  match Feature.load files path with
  | .ok feature =>
    ⟨feature.name, feature.path, runner.reportsFrom network state feature.scenarios⟩
  | .error error => unloadableResult path error

theorem result_executeCollected (runner : Runner) (network : Network σ) (files : FileSystem)
    (state : σ) (path : String) :
    ((runner.executeCollected files path).run network state).result =
      fileReport runner network files state path := by
  unfold Runner.executeCollected fileReport
  cases Feature.load files path with
  | error error => rfl
  | ok feature =>
      simp only [run_executeFeature, result_executeScenarios]

theorem state_executeCollected (runner : Runner) (network : Network σ) (files : FileSystem)
    (state : σ) (path : String) :
    ((runner.executeCollected files path).run network state).state =
      runner.stateAfter network state (scenariosAt files path) := by
  unfold Runner.executeCollected scenariosAt
  cases Feature.load files path with
  | error error => rfl
  | ok feature =>
      simp only [run_executeFeature, state_executeScenarios]

/-- The reports of files, each from the state that the scenarios of those before it leave. -/
def fileReportsFrom (runner : Runner) (network : Network σ) (files : FileSystem) :
    σ → List String → List FeatureResult
  | _, [] => []
  | state, path :: paths =>
    fileReport runner network files state path ::
      fileReportsFrom runner network files
        (runner.stateAfter network state (scenariosAt files path)) paths

theorem result_executeAll (runner : Runner) (network : Network σ) (files : FileSystem)
    (state : σ) (paths : List String) :
    ((runner.executeAll files paths).run network state).result =
      fileReportsFrom runner network files state paths := by
  induction paths generalizing state with
  | nil => rfl
  | cons path paths ih =>
      rw [run_executeAll_cons, fileReportsFrom]
      simp only [result_executeCollected, state_executeCollected, ih]

theorem passed_fileReport_iff {state : σ} {path : String} :
    (∀ report ∈ (fileReport runner network files state path).scenarios, report.passed = true) ↔
      (∃ feature, Feature.load files path = .ok feature) ∧
        runner.EveryPasses network state (scenariosAt files path) := by
  unfold fileReport scenariosAt
  cases Feature.load files path with
  | error error => simp [unloadableResult]
  | ok feature => simp [everyPasses_iff]

/-- Every report of files says that its scenario passed if and only if the files load and
every scenario in them passes. -/
theorem passed_fileReportsFrom_iff {state : σ} {paths : List String} :
    (∀ report ∈ (fileReportsFrom runner network files state paths).flatMap (·.scenarios),
        report.passed = true) ↔
      (∀ path ∈ paths, ∃ feature, Feature.load files path = .ok feature) ∧
        runner.EveryPasses network state (paths.flatMap (scenariosAt files)) := by
  induction paths generalizing state with
  | nil => simp [fileReportsFrom, everyPasses_nil]
  | cons path paths ih =>
      rw [fileReportsFrom, List.flatMap_cons, List.forall_mem_append, List.forall_mem_cons,
        List.flatMap_cons, everyPasses_append]
      exact (and_congr passed_fileReport_iff ih).trans and_and_and_comm

end ServiceHealth.Execution
