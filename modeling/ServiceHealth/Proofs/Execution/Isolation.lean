import ServiceHealth.Proofs.Execution.Reports
import ServiceHealth.Proofs.Execution.ScenarioRun
import ServiceHealth.Proofs.Interaction.Steadiness
import ServiceHealth.Proofs.Step.Ambiguity

/-!
# Scenarios do not see each other

All that one scenario hands to the next is the state of the network.  If the network
does not remember, nothing is left: `executeScenario` is then steady, and so every
scenario of a run is reported as if it were alone.

* **Steps.**  `isSteady_of_mem_standardSteps` goes through the built-in steps; only this
  is special to them, since a handler could look at the order in which copies of a
  call are complete.
* **Scenarios.**  `steady_executeScenario` follows the steps of one scenario.
* **Runs.**  `reportsFrom_eq_map` and `fileReportsFrom_eq_map` follow from it by induction.
-/

namespace ServiceHealth

open Feature (Line Scenario)
open Interaction
open Report (FeatureResult RunResult ScenarioResult)
open Step (Bound Handler Registry World)

variable {σ : Type} {network : Network σ}

/-! ## Built-in steps -/

namespace Step

open Http (Request)
open Standard

/-- What the handler comes to does not depend on what was sent before, if the network does not
remember that either. -/
def Handler.IsSteady (handler : Handler) : Prop :=
  ∀ {σ : Type} {network : Network σ}, network.IsMemoryless →
    ∀ world arguments, (handler.invoke world arguments).Steady network

theorem isSteady_check (verdict : World → Arguments → Except Error Unit) :
    (Handler.check verdict).IsSteady :=
  fun _ _ _ => steady_done _

theorem isSteady_sends (requestOf : Arguments → Except Error Request) :
    (sends requestOf).IsSteady := by
  intro σ network h world arguments
  simp only [sends, Handler.invoke]
  cases requestOf arguments with
  | error error => exact steady_done _
  | ok request =>
      exact steady_bind (Http.Client.steady_requestWithin h _ _ _) fun _ => steady_done _

theorem isSteady_sendsBatch (requestsOf : Arguments → Except Error (Nat × Request)) :
    (sendsBatch requestsOf).IsSteady := by
  intro σ network h world arguments
  simp only [sendsBatch, Handler.invoke]
  cases requestsOf arguments with
  | error error => exact steady_done _
  | ok requests =>
      exact steady_bind (Http.Client.steady_requestTogether h _ _ _ _) fun _ => steady_done _

theorem isSteady_of_mem_standardSteps :
    ∀ entry ∈ standardSteps, entry.2.2.IsSteady := by
  simp only [standardSteps, plainSteps, callSteps, databaseSteps, monitoringSteps,
    List.cons_append, List.nil_append, List.forall_mem_cons]
  and_intros
  all_goals
    first
    | exact isSteady_check _
    | exact isSteady_sends _
    | exact isSteady_sendsBatch _
    | simp

/-- Every definition does what one of the built-in steps does, whatever its kind and its
pattern are. -/
def Registry.IsBuiltIn (registry : Registry) : Prop :=
  ∀ definition ∈ registry.definitions, ∃ entry ∈ standardSteps, definition.handler = entry.2.2

theorem Registry.isBuiltIn_standard {registry : Registry}
    (h : Registry.standard = .ok registry) : registry.IsBuiltIn := by
  intro definition hdefinition
  obtain ⟨entry, hentry, hregisters⟩ := exists_standardStep_of_mem h hdefinition
  exact ⟨entry, hentry, hregisters.handler⟩

end Step

namespace Execution

open Runner

variable {runner : Runner}

/-! ## One scenario -/

theorem steady_executeSteps (h : network.IsMemoryless) (scenario : Scenario)
    {steps : List (Line × Bound)}
    (hsteps : ∀ step ∈ steps, step.2.definition.handler.IsSteady) (completed : Nat)
    (world : World) :
    Steady network (runner.executeSteps scenario completed world steps) := by
  -- a step hands on a world, so the steps after it are steady from every world
  induction steps generalizing completed world with
  | nil => exact steady_bind (steady_say _) fun _ => steady_done _
  | cons step steps ih =>
      rw [List.forall_mem_cons] at hsteps
      refine steady_bind (hsteps.1 h _ _) fun conclusion => ?_
      obtain ⟨verdict, next⟩ := conclusion
      cases verdict with
      | error error =>
          exact steady_bind (steady_say _) fun _ => steady_bind (steady_say _) fun _ =>
            steady_done _
      | ok value =>
          have hrest := ih hsteps.2 (completed + 1) next
          dsimp only
          split
          · exact steady_bind (steady_say _) fun _ => hrest
          · exact hrest

/-- What is reported of a scenario of built-in steps does not depend on what was sent
before. -/
theorem steady_executeScenario (hbuiltIn : runner.registry.IsBuiltIn) (h : network.IsMemoryless)
    (scenario : Scenario) : Steady network (runner.executeScenario scenario) := by
  refine steady_bind (steady_say _) fun _ => ?_
  cases hunsupported : scenario.unsupported with
  | some reason => exact steady_bind (steady_say _) fun _ => steady_done _
  | none =>
      cases hresolve : resolveLines runner.registry scenario.lines with
      | error failure => exact steady_bind (steady_say _) fun _ => steady_done _
      | ok steps =>
          refine steady_executeSteps h scenario (fun step hstep => ?_) 0 _
          obtain ⟨entry, hentry, heq⟩ := hbuiltIn _ (Step.mem_definitions_of_resolve
            ((resolveLines_eq_ok_iff.mp hresolve).2 step hstep))
          rw [heq]
          exact Step.isSteady_of_mem_standardSteps entry hentry

/-! ## Runs -/

section Reports

variable (hbuiltIn : runner.registry.IsBuiltIn) (h : network.IsMemoryless)

include hbuiltIn h

theorem reportIn_eq (state alone : σ) (scenario : Scenario) :
    runner.reportIn network state scenario = runner.reportIn network alone scenario :=
  steady_executeScenario hbuiltIn h scenario state alone

/-- The scenarios of a list are reported one by one. -/
theorem reportsFrom_eq_map (state alone : σ) (scenarios : List Scenario) :
    runner.reportsFrom network state scenarios =
      scenarios.map (runner.reportIn network alone) := by
  induction scenarios generalizing state with
  | nil => rfl
  | cons scenario scenarios ih =>
      rw [reportsFrom, ih, reportIn_eq hbuiltIn h state alone, List.map_cons]

theorem fileReport_eq (files : FileSystem) (state alone : σ) (path : String) :
    fileReport runner network files state path = fileReport runner network files alone path := by
  unfold fileReport
  cases Feature.load files path with
  | error error => rfl
  | ok feature =>
      simp only [reportsFrom_eq_map hbuiltIn h state alone,
        reportsFrom_eq_map hbuiltIn h alone alone]

/-- The files of a list are reported one by one. -/
theorem fileReportsFrom_eq_map (files : FileSystem) (state alone : σ) (paths : List String) :
    fileReportsFrom runner network files state paths =
      paths.map (fileReport runner network files alone) := by
  induction paths generalizing state with
  | nil => rfl
  | cons path paths ih =>
      rw [fileReportsFrom, ih, fileReport_eq hbuiltIn h files state alone, List.map_cons]

/-- In the report of a file its scenarios are reported one by one. -/
theorem scenarios_fileReport (files : FileSystem) (state alone : σ) {path : String}
    {feature : Feature} (hload : Feature.load files path = .ok feature) :
    (fileReport runner network files state path).scenarios =
      (scenariosAt files path).map (runner.reportIn network alone) := by
  simp only [fileReport, scenariosAt, hload, reportsFrom_eq_map hbuiltIn h state alone]

end Reports

/-- The scenario at a place of a run: the place of its file among those that are collected, and
its own place in the file. -/
def scenarioAt? (files : FileSystem) (paths : List String) (file place : Nat) : Option Scenario :=
  (Feature.filesOf files paths)[file]?.bind fun path => (scenariosAt files path)[place]?

/-- The report at a place of a summary. -/
def reportAt? (summary : RunResult) (file place : Nat) : Option ScenarioResult :=
  summary.features[file]?.bind fun feature => feature.scenarios[place]?

theorem summary_of_executePaths {files : FileSystem} {paths : List String} {state : σ}
    {summary : RunResult}
    (hrun : ((runner.executePaths files paths).run network state).result = .ok summary) :
    summary = ⟨fileReportsFrom runner network files state (Feature.filesOf files paths)⟩ := by
  rw [Runner.executePaths] at hrun
  cases hcollect : Feature.collect files paths with
  | error error =>
      rw [hcollect] at hrun
      cases hrun
  | ok found =>
      obtain ⟨-, rfl⟩ := Feature.collect_eq_ok_iff.mp hcollect
      simp only [hcollect, Interaction.run_bind, Trace.followedBy, Interaction.pure_eq_done,
        Interaction.run_done, result_executeAll] at hrun
      injection hrun with hrun
      exact hrun.symm

/-- Whatever else a run of paths executes, a scenario of it is reported as if it were alone. -/
theorem reportAt?_of_scenarioAt? (hbuiltIn : runner.registry.IsBuiltIn) (h : network.IsMemoryless)
    {files : FileSystem} {paths : List String} {state : σ} {summary : RunResult}
    (hrun : ((runner.executePaths files paths).run network state).result = .ok summary)
    {file place : Nat} {scenario : Scenario}
    (hscenario : scenarioAt? files paths file place = some scenario) (alone : σ) :
    reportAt? summary file place = some (runner.reportIn network alone scenario) := by
  obtain ⟨path, hpath, hplace⟩ := Option.bind_eq_some_iff.mp hscenario
  obtain ⟨feature, hload⟩ : ∃ feature, Feature.load files path = .ok feature := by
    cases hload : Feature.load files path with
    | ok feature => exact ⟨feature, rfl⟩
    | error error =>
        -- a file that cannot be loaded has no scenarios
        simp [scenariosAt, hload] at hplace
  rw [reportAt?, summary_of_executePaths hrun,
    fileReportsFrom_eq_map hbuiltIn h files state alone, List.getElem?_map, hpath,
    Option.map_some, Option.bind_some, scenarios_fileReport hbuiltIn h files alone alone hload,
    List.getElem?_map, hplace, Option.map_some]

/-- Scenarios are executed without an effect on each other's reports. -/
structure Isolated (runner : Runner) (network : Network σ) : Prop where
  /-- The scenarios of a feature are reported as each of them is alone. -/
  feature : ∀ state alone feature,
    ((runner.executeFeature feature).run network state).result =
      ⟨feature.name, feature.path, feature.scenarios.map (runner.reportIn network alone)⟩
  /-- So are those of the files of a run. -/
  paths : ∀ files paths state alone summary,
    ((runner.executePaths files paths).run network state).result = .ok summary →
      summary.features =
          (Feature.filesOf files paths).map (fileReport runner network files alone) ∧
        ∀ file place scenario, scenarioAt? files paths file place = some scenario →
          reportAt? summary file place = some (runner.reportIn network alone scenario)
  /-- A scenario that is executed in two runs has the same report in both, wherever it stands
  and whatever else they execute. -/
  surroundings : ∀ files others paths otherPaths state other summary otherSummary,
    ((runner.executePaths files paths).run network state).result = .ok summary →
    ((runner.executePaths others otherPaths).run network other).result = .ok otherSummary →
      ∀ file place otherFile otherPlace scenario,
        scenarioAt? files paths file place = some scenario →
        scenarioAt? others otherPaths otherFile otherPlace = some scenario →
        reportAt? summary file place = reportAt? otherSummary otherFile otherPlace
  /-- Every scenario starts without records, in the state that the others before it leave, and
  its steps share what they record with each other only. -/
  fresh : ∀ state before scenario after,
    ∃ trace, ScenarioRun runner network scenario (runner.stateAfter network state before) trace ∧
      (runner.executeScenarios (before ++ scenario :: after)).run network state =
        let first := (runner.executeScenarios before).run network state
        let last := (runner.executeScenarios after).run network trace.state
        ⟨first.result ++ trace.result :: last.result, last.state,
          first.events ++ (trace.events ++ last.events)⟩

/-- With a registry of built-in steps and a service that does not remember, scenarios are
isolated from each other. -/
theorem isolated_of_isBuiltIn (hbuiltIn : runner.registry.IsBuiltIn) (h : network.IsMemoryless) :
    Isolated runner network where
  feature := fun state alone feature => by
    simp only [run_executeFeature, result_executeScenarios,
      reportsFrom_eq_map hbuiltIn h state alone]
  paths := fun files paths state alone summary hrun => by
    refine ⟨?_, fun file place scenario hscenario =>
      reportAt?_of_scenarioAt? hbuiltIn h hrun hscenario alone⟩
    rw [summary_of_executePaths hrun]
    exact fileReportsFrom_eq_map hbuiltIn h files state alone _
  surroundings := fun files others paths otherPaths state other summary otherSummary hrun hother
      file place otherFile otherPlace scenario hscenario hoccurs => by
    rw [reportAt?_of_scenarioAt? hbuiltIn h hrun hscenario state,
      reportAt?_of_scenarioAt? hbuiltIn h hother hoccurs state]
  fresh := fun state before scenario after => by
    obtain ⟨trace, htrace⟩ := exists_scenarioRun runner network scenario
      (runner.stateAfter network state before)
    refine ⟨trace, htrace, ?_⟩
    simp only [run_executeScenarios_append, run_executeScenarios_cons, state_executeScenarios,
      executeScenario_run_of_scenarioRun htrace]

/-- The standard registry and a service that counts its calls. -/
theorem isolated_of_isBuiltIn_countingService :
    ∃ registry, Registry.standard = .ok registry ∧ registry.IsBuiltIn ∧
      let network := Network.ofService (.counting fun _ => .ok ⟨200, [], []⟩)
      network.IsMemoryless ∧ Isolated ⟨⟨{}⟩, registry, false⟩ network := by
  obtain ⟨registry, hstandard, -⟩ := Step.standard_isSeparated
  have hbuiltIn := Registry.isBuiltIn_standard hstandard
  have hmemoryless : (Network.ofService (.counting fun _ => .ok ⟨200, [], []⟩)).IsMemoryless :=
    Network.isMemoryless_between (Http.Service.isMemoryless_counting _)
  exact ⟨registry, hstandard, hbuiltIn, hmemoryless, isolated_of_isBuiltIn hbuiltIn hmemoryless⟩

end Execution

end ServiceHealth
