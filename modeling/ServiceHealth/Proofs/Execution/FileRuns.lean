import ServiceHealth.Execution.Run
import ServiceHealth.Proofs.Feature.Collected
import ServiceHealth.Proofs.Interaction.Traces

/-!
# What executing feature files comes to

The files of a run are executed in the order in which they are collected, whatever
becomes of each: `FileRun` says what a file leaves when it is executed by itself, and
`FilesRun` puts this together for a list of files, each of which starts from the state
of the network that the one before it leaves.

`executePaths_run_eq_iff` states that a run does this and nothing else.  It fails only
if its files cannot be collected; otherwise there is one report for each file, in the
order of the files, and a file that cannot be loaded neither stops the run nor changes
what is reported of the others.
-/

namespace ServiceHealth.Execution

open Feature (Scenario)
open Report (FeatureResult RunResult ScenarioResult)

variable {σ : Type} {runner : Runner} {network : Network σ} {files : FileSystem}

/-! ## Scenarios and features -/

theorem run_executeScenarios_cons (runner : Runner) (network : Network σ) (state : σ)
    (scenario : Scenario) (scenarios : List Scenario) :
    (runner.executeScenarios (scenario :: scenarios)).run network state =
      let first := (runner.executeScenario scenario).run network state
      let rest := (runner.executeScenarios scenarios).run network first.state
      ⟨first.result :: rest.result, rest.state, first.events ++ rest.events⟩ := by
  rw [Runner.executeScenarios, Interaction.run_bind, Interaction.run_bind]
  simp only [Trace.followedBy, Interaction.pure_eq_done, Interaction.run_done, List.append_nil]

theorem run_executeScenarios_append (runner : Runner) (network : Network σ) (state : σ)
    (first second : List Scenario) :
    (runner.executeScenarios (first ++ second)).run network state =
      let before := (runner.executeScenarios first).run network state
      let after := (runner.executeScenarios second).run network before.state
      ⟨before.result ++ after.result, after.state, before.events ++ after.events⟩ := by
  induction first generalizing state with
  | nil => rfl
  | cons scenario first ih =>
      simp only [List.cons_append, run_executeScenarios_cons, ih, List.append_assoc]

/-- The entries with which a feature is announced. -/
def announcement (feature : Feature) : List Event :=
  .printed (.feature feature.name) ::
    (feature.path.map Report.Entry.featurePath).toList.map .printed

/-- A feature leaves what its scenarios leave. -/
theorem run_executeFeature (runner : Runner) (network : Network σ) (state : σ)
    (feature : Feature) :
    (runner.executeFeature feature).run network state =
      let scenarios := (runner.executeScenarios feature.scenarios).run network state
      ⟨⟨feature.name, feature.path, scenarios.result⟩, scenarios.state,
        announcement feature ++ scenarios.events⟩ := by
  rw [Runner.executeFeature, Interaction.run_say_bind,
    Interaction.run_bind_of_run (Interaction.run_sayAll network state _), Interaction.run_bind]
  simp only [Trace.followedBy, Trace.after, Interaction.pure_eq_done, Interaction.run_done,
    List.append_nil, announcement, List.cons_append]

/-! ## Files -/

/-- What becomes of a file when the network is in some state: it leaves what the file
leaves by itself, and if that is an error, the report of one failed scenario. -/
inductive FileRun (runner : Runner) (network : Network σ) (files : FileSystem) (path : String)
    (state : σ) : Trace σ FeatureResult → Prop
  | loaded {report : FeatureResult} {final : σ} {events : List Event}
      (alone : (runner.executeFile files path).run network state = ⟨.ok report, final, events⟩) :
      FileRun runner network files path state ⟨report, final, events⟩
  | unloadable {error : Error} {final : σ} {events : List Event}
      (alone : (runner.executeFile files path).run network state = ⟨.error error, final, events⟩) :
      FileRun runner network files path state
        ⟨⟨path, some path, [⟨path, false, 0, 0, none, some error.message⟩]⟩, state,
          [.printed (.feature path), .printed (.unloadable error.message)]⟩

theorem run_executeFile_of_load {path : String} {feature : Feature}
    (h : Feature.load files path = .ok feature) (runner : Runner) (network : Network σ)
    (state : σ) :
    (runner.executeFile files path).run network state =
      let trace := (runner.executeFeature feature).run network state
      ⟨.ok trace.result, trace.state, trace.events⟩ := by
  simp only [Runner.executeFile, h]
  rw [Interaction.run_bind]
  simp only [Trace.followedBy, Interaction.pure_eq_done, Interaction.run_done, List.append_nil]

/-- A file that cannot be loaded leaves no trace by itself. -/
theorem run_executeFile_of_not_load {path : String} {error : Error}
    (h : Feature.load files path = .error error) (runner : Runner) (network : Network σ)
    (state : σ) :
    (runner.executeFile files path).run network state = ⟨.error error, state, []⟩ := by
  simp only [Runner.executeFile, h]
  rfl

/-- A file of a run becomes what `FileRun` says. -/
theorem executeCollected_run_eq_iff {path : String} {state : σ} {trace : Trace σ FeatureResult} :
    (runner.executeCollected files path).run network state = trace ↔
      FileRun runner network files path state trace := by
  cases hload : Feature.load files path with
  | error error =>
      have halone := run_executeFile_of_not_load hload runner network state
      have hcollected : (runner.executeCollected files path).run network state =
          ⟨unloadableResult path error, state,
            [.printed (.feature path), .printed (.unloadable error.message)]⟩ := by
        simp only [Runner.executeCollected, hload]
        rfl
      rw [hcollected]
      constructor
      · rintro rfl
        exact .unloadable halone
      · intro hrun
        cases hrun with
        | loaded alone =>
            rw [halone] at alone
            cases alone
        | unloadable alone =>
            rw [halone] at alone
            cases alone
            rfl
  | ok feature =>
      have halone := run_executeFile_of_load hload runner network state
      have hcollected : (runner.executeCollected files path).run network state =
          (runner.executeFeature feature).run network state := by
        simp only [Runner.executeCollected, hload]
      rw [hcollected]
      constructor
      · rintro rfl
        exact .loaded halone
      · intro hrun
        cases hrun with
        | loaded alone =>
            rw [halone] at alone
            cases alone
            rfl
        | unloadable alone =>
            rw [halone] at alone
            cases alone

/-- What becomes of files that are executed one after another: each starts from the state
of the network that the file before it leaves, whether that one was loaded or not. -/
inductive FilesRun (runner : Runner) (network : Network σ) (files : FileSystem) :
    σ → List String → List FeatureResult → σ → List Event → Prop
  | nil (state : σ) : FilesRun runner network files state [] [] state []
  | cons {state middle final : σ} {path : String} {paths : List String} {report : FeatureResult}
      {reports : List FeatureResult} {events others : List Event}
      (first : FileRun runner network files path state ⟨report, middle, events⟩)
      (rest : FilesRun runner network files middle paths reports final others) :
      FilesRun runner network files state (path :: paths) (report :: reports) final
        (events ++ others)

theorem run_executeAll_cons (runner : Runner) (network : Network σ) (files : FileSystem)
    (state : σ) (path : String) (paths : List String) :
    (runner.executeAll files (path :: paths)).run network state =
      let first := (runner.executeCollected files path).run network state
      let rest := (runner.executeAll files paths).run network first.state
      ⟨first.result :: rest.result, rest.state, first.events ++ rest.events⟩ := by
  rw [Runner.executeAll, Interaction.run_bind, Interaction.run_bind]
  simp only [Trace.followedBy, Interaction.pure_eq_done, Interaction.run_done, List.append_nil]

theorem filesRun_executeAll (runner : Runner) (network : Network σ) (files : FileSystem)
    (paths : List String) (state : σ) :
    let trace := (runner.executeAll files paths).run network state
    FilesRun runner network files state paths trace.result trace.state trace.events := by
  induction paths generalizing state with
  | nil => exact .nil state
  | cons path paths ih =>
      rw [run_executeAll_cons]
      exact .cons (executeCollected_run_eq_iff.mp rfl) (ih _)

theorem executeAll_run_of_filesRun {paths : List String} {state final : σ}
    {reports : List FeatureResult} {events : List Event}
    (h : FilesRun runner network files state paths reports final events) :
    (runner.executeAll files paths).run network state = ⟨reports, final, events⟩ := by
  induction h with
  | nil state => rfl
  | cons first rest ih =>
      rw [run_executeAll_cons, executeCollected_run_eq_iff.mpr first]
      simp only [ih]

/-- Files that are executed after others start from the state that those leave. -/
theorem FilesRun.append {first second : List String} {state middle final : σ}
    {reports others : List FeatureResult} {events later : List Event}
    (hfirst : FilesRun runner network files state first reports middle events)
    (hsecond : FilesRun runner network files middle second others final later) :
    FilesRun runner network files state (first ++ second) (reports ++ others) final
      (events ++ later) := by
  induction hfirst with
  | nil state => exact hsecond
  | cons head _ ih =>
      rw [List.append_assoc]
      exact .cons head (ih hsecond)

/-! ## The reports of a run -/

theorem path_of_load {path : String} {feature : Feature}
    (h : Feature.load files path = .ok feature) : feature.path = some path := by
  cases htext : files.readText path with
  | error error =>
      simp only [Feature.load, htext] at h
      cases h
  | ok text =>
      simp only [Feature.load, htext] at h
      cases hparse : Feature.parse text path with
      | error error =>
          rw [hparse] at h
          cases h
      | ok parsed =>
          rw [hparse] at h
          injection h with heq
          rw [← heq]

/-- The report of a file is the report of the file at its path. -/
theorem path_of_fileRun {path : String} {state : σ} {trace : Trace σ FeatureResult}
    (h : FileRun runner network files path state trace) : trace.result.path = some path := by
  cases h with
  | unloadable alone => rfl
  | loaded alone =>
      cases hload : Feature.load files path with
      | error error =>
          rw [run_executeFile_of_not_load hload] at alone
          cases alone
      | ok feature =>
          rw [run_executeFile_of_load hload, run_executeFeature] at alone
          cases alone
          exact path_of_load hload

/-- There is one report for each file, in the order of the files. -/
theorem map_path_of_filesRun {paths : List String} {state final : σ}
    {reports : List FeatureResult} {events : List Event}
    (h : FilesRun runner network files state paths reports final events) :
    reports.map (·.path) = paths.map some := by
  induction h with
  | nil state => rfl
  | cons first _ ih => rw [List.map_cons, List.map_cons, path_of_fileRun first, ih]

/-! ## Whole runs -/

/-- What becomes of a run of paths when the network is in some state. -/
inductive PathsRun (runner : Runner) (network : Network σ) (files : FileSystem)
    (paths : List String) (state : σ) : Trace σ (Except Error RunResult) → Prop
  | uncollected {error : Error} (fails : Feature.collect files paths = .error error) :
      PathsRun runner network files paths state ⟨.error error, state, []⟩
  | collected {found : List String} {reports : List FeatureResult} {final : σ}
      {events : List Event} (collects : Feature.collect files paths = .ok found)
      (run : FilesRun runner network files state found reports final events) :
      PathsRun runner network files paths state ⟨.ok ⟨reports⟩, final, events⟩

theorem executePaths_run_of_pathsRun {paths : List String} {state : σ}
    {trace : Trace σ (Except Error RunResult)}
    (h : PathsRun runner network files paths state trace) :
    (runner.executePaths files paths).run network state = trace := by
  cases h with
  | uncollected fails =>
      simp only [Runner.executePaths, fails]
      rfl
  | collected collects run =>
      simp only [Runner.executePaths, collects]
      rw [Interaction.run_bind_of_run (executeAll_run_of_filesRun run)]
      simp only [Trace.followedBy, Interaction.pure_eq_done, Interaction.run_done,
        List.append_nil]

/-- Something becomes of every run. -/
theorem exists_pathsRun (runner : Runner) (network : Network σ) (files : FileSystem)
    (paths : List String) (state : σ) :
    ∃ trace, PathsRun runner network files paths state trace := by
  cases hcollect : Feature.collect files paths with
  | error error => exact ⟨_, .uncollected hcollect⟩
  | ok found =>
      exact ⟨_, .collected hcollect (filesRun_executeAll runner network files found state)⟩

/-- A run does what becomes of it, and nothing else: it fails exactly if its files cannot be
collected, and then nothing has happened; otherwise each file has its report, and runs of
paths one after another report what a run of all these paths reports. -/
theorem executePaths_run_eq_iff (runner : Runner) (network : Network σ) (files : FileSystem)
    (paths : List String) (state : σ) :
    (∀ trace, (runner.executePaths files paths).run network state = trace ↔
      PathsRun runner network files paths state trace) ∧
    (∀ error, ((runner.executePaths files paths).run network state).result = .error error ↔
      Feature.collect files paths = .error error) ∧
    (∀ found summary, Feature.collect files paths = .ok found →
      ((runner.executePaths files paths).run network state).result = .ok summary →
      summary.features.map (·.path) = found.map some) ∧
    ∀ others found more, Feature.collect files paths = .ok found →
      Feature.collect files others = .ok more →
      ∃ first second middle final events later,
        (runner.executePaths files paths).run network state =
          ⟨.ok ⟨first⟩, middle, events⟩ ∧
        (runner.executePaths files others).run network middle =
          ⟨.ok ⟨second⟩, final, later⟩ ∧
        (runner.executePaths files (paths ++ others)).run network state =
          ⟨.ok ⟨first ++ second⟩, final, events ++ later⟩ := by
  obtain ⟨trace, htrace⟩ := exists_pathsRun runner network files paths state
  have hrun := executePaths_run_of_pathsRun htrace
  refine ⟨fun other => ⟨?_, executePaths_run_of_pathsRun⟩, ?_, ?_, ?_⟩
  · intro hother
    rw [← hother, hrun]
    exact htrace
  · intro error
    rw [hrun]
    cases htrace with
    | uncollected fails => simp only [fails, Except.error.injEq]
    | collected collects run =>
        rw [collects]
        exact ⟨nofun, nofun⟩
  · intro found summary hcollect hresult
    rw [hrun] at hresult
    cases htrace with
    | uncollected fails => cases hresult
    | collected collects run =>
        rw [collects] at hcollect
        cases hcollect
        cases hresult
        exact map_path_of_filesRun run
  · intro others found more hcollect hmore
    have hfirst := filesRun_executeAll runner network files found state
    have hsecond := filesRun_executeAll runner network files more
      ((runner.executeAll files found).run network state).state
    exact ⟨_, _, _, _, _, _, executePaths_run_of_pathsRun (.collected hcollect hfirst),
      executePaths_run_of_pathsRun (.collected hmore hsecond),
      executePaths_run_of_pathsRun (.collected (Feature.collect_append hcollect hmore)
        (hfirst.append hsecond))⟩

end ServiceHealth.Execution
