import ServiceHealth.Command.Program
import ServiceHealth.Proofs.Execution.Probes
import ServiceHealth.Proofs.Execution.Reports
import ServiceHealth.Proofs.Execution.ScenarioRun
import ServiceHealth.Proofs.Feature.Headings
import ServiceHealth.Proofs.Interaction.Steadiness
import ServiceHealth.Proofs.Report.Summary
import ServiceHealth.Proofs.Step.Ambiguity
import ServiceHealth.Proofs.Step.Endings
import ServiceHealth.Proofs.Text.Encoding

/-!
# The stages of a run

A run of paths resolves its settings, waits for the service, collects its files, and
executes them.  `RunSucceeds` says, stage by stage, when nothing is wrong, and
`OnlyProbes` that a run has come no further than to its probes.

`program_run_of_paths` states that the exit status is 0 exactly if nothing is wrong at
any stage, and 1 otherwise, and that a stage that fails keeps all later ones from having
an effect.

* **Waiting.**  `Execution.ready_run_of_firstReady` and
  `Execution.ready_run_of_not_ready` describe both ends of the gate by its probes.
* **Executing.**  `passed_fileReportsFrom_iff` takes the summary apart into files that
  load and scenarios that pass.
-/

namespace ServiceHealth

open Execution
open Feature (IsCollectible Scenario)
open Http (Client)
open Step (Registry Session)

variable {σ : Type}

/-! ## When nothing is wrong -/

/-- The scenarios of the files that paths stand for. -/
def scenariosOf (files : FileSystem) (paths : List String) : List Scenario :=
  (Feature.filesOf files paths).flatMap (scenariosAt files)

/-- With these settings nothing is wrong at any stage of a run, and so many probes come before
the first one that shows that the service is ready. -/
structure StagesPass (registry : Registry) (files : FileSystem) (environment : Environment)
    (verbose : Bool) (paths : List String) (target : Target) (network : Network σ) (state : σ)
    (settings : Settings) (earlier : Nat) : Prop where
  configured : Settings.resolve files environment target = .ok settings
  ready : FirstReady network (Client.ofSettings settings) settings.readiness state earlier
  allowed : earlier < allowedAttempts settings.readiness
  collected : ∀ path ∈ paths, IsCollectible files path
  loaded : ∀ file ∈ Feature.filesOf files paths, ∃ feature, Feature.load files file = .ok feature
  passed : (Runner.mk ⟨settings⟩ registry verbose).EveryPasses network
    (stateAfterProbes network (Client.ofSettings settings) settings.readiness state (earlier + 1))
    (scenariosOf files paths)

theorem scenariosOf_eq_nil {files : FileSystem} {paths : List String}
    (h : ∀ file ∈ Feature.filesOf files paths, ∃ feature, Feature.load files file = .ok feature ∧
      feature.scenarios = []) :
    scenariosOf files paths = [] := by
  rw [scenariosOf, List.flatMap_eq_nil_iff]
  intro file hfile
  obtain ⟨feature, hload, hscenarios⟩ := h file hfile
  simp only [scenariosAt, hload, hscenarios]

/-- Nothing is wrong at any stage of a run. -/
def RunSucceeds (registry : Registry) (files : FileSystem) (environment : Environment)
    (verbose : Bool) (paths : List String) (target : Target) (network : Network σ) (state : σ) :
    Prop :=
  ∃ settings earlier,
    StagesPass registry files environment verbose paths target network state settings earlier

/-- So many probes were sent and nothing else, and no scenario was executed. -/
structure OnlyProbes {α : Type} (settings : Settings) (network : Network σ) (state : σ)
    (count : Nat) (trace : Trace σ α) : Prop where
  calls : trace.calls = probeCalls (Client.ofSettings settings) settings.readiness count
  state : trace.state =
    stateAfterProbes network (Client.ofSettings settings) settings.readiness state count
  noScenario : ∀ name, Event.printed (.scenario name) ∉ trace.events

/-- Besides the probes something may be printed, but no scenario. -/
theorem onlyProbes_of_events {α : Type} {settings : Settings} {network : Network σ} {state : σ}
    {count : Nat} {trace : Trace σ α} (entries : List Report.Entry)
    (hstate : trace.state =
      stateAfterProbes network (Client.ofSettings settings) settings.readiness state count)
    (hevents : trace.events =
      probeEvents network (Client.ofSettings settings) settings.readiness state count ++
        entries.map .printed)
    (hentries : ∀ name, Report.Entry.scenario name ∉ entries) :
    OnlyProbes settings network state count trace := by
  refine ⟨?_, hstate, ?_⟩
  · rw [Trace.calls, hevents, List.flatMap_append, calls_probeEvents, flatMap_calls_map_printed,
      List.append_nil]
  · intro name hmem
    rw [hevents, List.mem_append] at hmem
    rcases hmem with hprobe | hprinted
    · exact printed_notMem_probeEvents network (Client.ofSettings settings) settings.readiness
        state count _ hprobe
    · obtain ⟨entry, hentry, heq⟩ := List.mem_map.mp hprinted
      injection heq with heq
      exact hentries name (heq ▸ hentry)

namespace Command

/-! ## Executing the files -/

section Executing

variable {files : FileSystem} {runner : Runner} {network : Network σ} {state : σ}
  {paths : List String}

theorem runReady_run_of_not_collected {error : Error}
    (h : Feature.collect files paths = .error error) :
    (runReady files runner paths).run network state = ⟨.error error, state, []⟩ := by
  simp only [runReady, Runner.executePaths, h]
  rfl

/-- Executing the files is a success if and only if they can be collected and loaded and every
scenario passes. -/
theorem runReady_run_eq_ok_true_iff :
    ((runReady files runner paths).run network state).result = .ok true ↔
      (∀ path ∈ paths, IsCollectible files path) ∧
        (∀ file ∈ Feature.filesOf files paths, ∃ feature, Feature.load files file = .ok feature) ∧
        runner.EveryPasses network state (scenariosOf files paths) := by
  cases hcollect : Feature.collect files paths with
  | error error =>
      rw [runReady_run_of_not_collected hcollect]
      constructor
      · nofun
      · rintro ⟨hpaths, -⟩
        rw [Feature.collect_eq_ok_iff.mpr ⟨hpaths, rfl⟩] at hcollect
        cases hcollect
  | ok found =>
      obtain ⟨hpaths, rfl⟩ := Feature.collect_eq_ok_iff.mp hcollect
      have hsummary := executePaths_run_of_pathsRun (.collected hcollect
        (filesRun_executeAll runner network files (Feature.filesOf files paths) state))
      rw [runReady, Interaction.run_bind_of_run hsummary]
      simp only [result_executeAll, Interaction.run_bind, Trace.followedBy,
        Interaction.pure_eq_done, Interaction.run_done, Except.ok.injEq]
      rw [Report.RunResult.success_iff, Report.RunResult.scenarios,
        passed_fileReportsFrom_iff, ← scenariosOf]
      exact (and_iff_right hpaths).symm

end Executing

/-! ## Waiting for the service -/

section Waiting

variable {settings : Settings} {network : Network σ} {state : σ} (registry : Registry)
  (files : FileSystem) (verbose : Bool) (paths : List String)

/-- When the service is ready this is printed, and then the files are executed. -/
theorem runFiles_run_of_firstReady {earlier : Nat}
    (h : FirstReady network (Client.ofSettings settings) settings.readiness state earlier)
    (hlt : earlier < allowedAttempts settings.readiness)
    {trace : Trace σ (Except Error Bool)}
    (hrest : (runReady files ⟨⟨settings⟩, registry, verbose⟩ paths).run network
      (stateAfterProbes network (Client.ofSettings settings) settings.readiness state
        (earlier + 1)) = trace) :
    (runFiles files ⟨⟨settings⟩, registry, verbose⟩ paths).run network state =
      ⟨trace.result, trace.state,
        probeEvents network (Client.ofSettings settings) settings.readiness state
            (earlier + 1) ++
          .printed (.serviceReady ((Client.ofSettings settings).url settings.readiness.path)
            (earlier + 1)) :: trace.events⟩ := by
  rw [runFiles, Interaction.run_bind_of_run (ready_run_of_firstReady h hlt)]
  simp only [Interaction.run_say_bind, hrest, Trace.followedBy, Trace.after]

/-- When the service does not get ready nothing follows. -/
theorem runFiles_run_of_not_ready
    (h : ∀ attempt < allowedAttempts settings.readiness, ¬ IsReady
      (probeOutcome network (Client.ofSettings settings) settings.readiness state attempt)) :
    ∃ error, (runFiles files ⟨⟨settings⟩, registry, verbose⟩ paths).run network state =
      ⟨.error error,
        stateAfterProbes network (Client.ofSettings settings) settings.readiness state
          (allowedAttempts settings.readiness),
        probeEvents network (Client.ofSettings settings) settings.readiness state
          (allowedAttempts settings.readiness)⟩ := by
  obtain ⟨error, hrun⟩ := ready_run_of_not_ready h
  refine ⟨error, ?_⟩
  rw [runFiles, Interaction.run_bind_of_run hrun]
  simp only [Interaction.pure_eq_done, Interaction.run_done, Trace.followedBy, List.append_nil]

/-- Waiting and then executing the files is a success if and only if an allowed probe shows that
the service is ready and executing the files after it is one. -/
theorem runFiles_run_eq_ok_true_iff :
    ((runFiles files ⟨⟨settings⟩, registry, verbose⟩ paths).run network state).result = .ok true ↔
      ∃ earlier < allowedAttempts settings.readiness,
        FirstReady network (Client.ofSettings settings) settings.readiness state earlier ∧
          ((runReady files ⟨⟨settings⟩, registry, verbose⟩ paths).run network
            (stateAfterProbes network (Client.ofSettings settings) settings.readiness state
              (earlier + 1))).result = .ok true := by
  rcases firstReady_or_not_ready network (Client.ofSettings settings) settings.readiness state
    (allowedAttempts settings.readiness) with ⟨earlier, hlt, hready⟩ | hnone
  · rw [runFiles_run_of_firstReady registry files verbose paths hready hlt rfl]
    constructor
    · exact fun hsuccess => ⟨earlier, hlt, hready, hsuccess⟩
    · rintro ⟨other, -, hother, hsuccess⟩
      obtain rfl := hready.unique hother
      exact hsuccess
  · obtain ⟨error, hrun⟩ := runFiles_run_of_not_ready registry files verbose paths hnone
    rw [hrun]
    constructor
    · nofun
    · rintro ⟨earlier, hlt, hready, -⟩
      exact absurd hready.1 (hnone earlier hlt)

end Waiting

/-! ## All stages -/

section Performing

variable {registry : Registry} {files : FileSystem} {environment : Environment} {verbose : Bool}
  {paths : List String} {target : Target}

/-- What a run of paths does. -/
theorem perform_run (files : FileSystem) (environment : Environment) (verbose : Bool)
    (paths : List String) (target : Target) :
    perform files environment verbose (.run paths target) =
      match Settings.resolve files environment target with
      | .error error => return .error error
      | .ok settings =>
        match Registry.standard with
        | .error error => return .error error
        | .ok registry => runFiles files ⟨⟨settings⟩, registry, verbose⟩ paths := rfl

theorem perform_of_unconfigured {error : Error}
    (h : Settings.resolve files environment target = .error error) :
    perform files environment verbose (.run paths target) = .done (.error error) := by
  rw [perform_run, h]
  exact Interaction.pure_eq_done _

theorem perform_of_configured (hstandard : Registry.standard = .ok registry) {settings : Settings}
    (h : Settings.resolve files environment target = .ok settings) :
    perform files environment verbose (.run paths target) =
      runFiles files ⟨⟨settings⟩, registry, verbose⟩ paths := by
  rw [perform_run, h, hstandard]

/-- A run reports success if and only if nothing is wrong at any stage. -/
theorem perform_run_eq_ok_true_iff (hstandard : Registry.standard = .ok registry)
    (network : Network σ) (state : σ) :
    ((perform files environment verbose (.run paths target)).run network state).result =
        .ok true ↔
      RunSucceeds registry files environment verbose paths target network state := by
  cases hsettings : Settings.resolve files environment target with
  | error error =>
      rw [perform_of_unconfigured hsettings]
      constructor
      · nofun
      · rintro ⟨settings, earlier, hpass⟩
        rw [hpass.configured] at hsettings
        cases hsettings
  | ok settings =>
      rw [perform_of_configured hstandard hsettings, runFiles_run_eq_ok_true_iff]
      simp only [runReady_run_eq_ok_true_iff]
      constructor
      · rintro ⟨earlier, hlt, hready, hpaths, hloaded, hpassed⟩
        exact ⟨settings, earlier, hsettings, hready, hlt, hpaths, hloaded, hpassed⟩
      · rintro ⟨other, earlier, hpass⟩
        obtain rfl : settings = other :=
          Except.ok.inj (hsettings.symm.trans hpass.configured)
        exact ⟨earlier, hpass.allowed, hpass.ready, hpass.collected, hpass.loaded, hpass.passed⟩

/-- A run whose service does not get ready comes no further than to its probes. -/
theorem onlyProbes_perform_of_not_ready {network : Network σ} {state : σ} {settings : Settings}
    (verbose : Bool) (paths : List String) (hstandard : Registry.standard = .ok registry)
    (hsettings : Settings.resolve files environment target = .ok settings)
    (hnone : ∀ attempt < allowedAttempts settings.readiness, ¬ IsReady (probeOutcome network
      (Client.ofSettings settings) settings.readiness state attempt)) :
    OnlyProbes settings network state (allowedAttempts settings.readiness)
      ((perform files environment verbose (.run paths target)).run network state) := by
  obtain ⟨error, hrun⟩ := runFiles_run_of_not_ready registry files verbose paths hnone
  rw [perform_of_configured hstandard hsettings, hrun]
  exact onlyProbes_of_events [] rfl (List.append_nil _).symm fun _ => List.not_mem_nil

/-- A run with a path that stands for nothing comes no further than to its probes, whatever
its other paths are. -/
theorem onlyProbes_perform_of_not_collected {network : Network σ} {state : σ}
    {settings : Settings} {earlier : Nat} (verbose : Bool)
    (hstandard : Registry.standard = .ok registry)
    (hsettings : Settings.resolve files environment target = .ok settings)
    (hready : FirstReady network (Client.ofSettings settings) settings.readiness state earlier)
    (hlt : earlier < allowedAttempts settings.readiness)
    (hnot : ∃ path ∈ paths, ¬ IsCollectible files path) :
    OnlyProbes settings network state (earlier + 1)
      ((perform files environment verbose (.run paths target)).run network state) := by
  rcases hcollect : Feature.collect files paths with error | found
  · rw [perform_of_configured hstandard hsettings,
      runFiles_run_of_firstReady registry files verbose paths hready hlt
        (runReady_run_of_not_collected hcollect)]
    exact onlyProbes_of_events [_] rfl rfl (by simp)
  · obtain ⟨path, hpath, hnotPath⟩ := hnot
    exact absurd ((Feature.collect_eq_ok_iff.mp hcollect).1 path hpath) hnotPath

end Performing

end Command

/-! ## The exit status -/

theorem status_ofResult_eq_zero_iff {result : Except Error Bool} :
    (Ending.ofResult result).status = 0 ↔ result = .ok true := by
  rcases result with error | _ | _ <;> simp [Ending.ofResult, Ending.status]

/-- A command that is carried out ends with status 0 or 1. -/
theorem status_ofResult_eq_one_iff {result : Except Error Bool} :
    (Ending.ofResult result).status = 1 ↔ (Ending.ofResult result).status ≠ 0 := by
  rcases result with error | _ | _ <;> simp [Ending.ofResult, Ending.status]

/-- What a run of paths comes to when its log is open. -/
structure StagedRun (registry : Registry) (files : FileSystem) (environment : Environment)
    (verbose : Bool) (paths : List String) (target : Target) (network : Network σ) (state : σ)
    (trace : Trace σ Ending) : Prop where
  /-- It succeeds if and only if nothing is wrong at any stage. -/
  succeeds_iff : trace.result.status = 0 ↔
    RunSucceeds registry files environment verbose paths target network state
  /-- Otherwise it fails. -/
  fails_iff : trace.result.status = 1 ↔
    ¬ RunSucceeds registry files environment verbose paths target network state
  /-- Without settings nothing happens. -/
  unconfigured : (∀ settings, Settings.resolve files environment target ≠ .ok settings) →
    trace.events = [] ∧ trace.state = state
  /-- If the service does not get ready, all allowed probes are sent and nothing else. -/
  notReady : ∀ settings, Settings.resolve files environment target = .ok settings →
    (∀ attempt < allowedAttempts settings.readiness, ¬ IsReady (probeOutcome network
      (Client.ofSettings settings) settings.readiness state attempt)) →
    OnlyProbes settings network state (allowedAttempts settings.readiness) trace
  /-- If a path stands for nothing, the probes are sent and nothing else. -/
  notCollected : ∀ settings earlier, Settings.resolve files environment target = .ok settings →
    FirstReady network (Client.ofSettings settings) settings.readiness state earlier →
    earlier < allowedAttempts settings.readiness →
    (∃ path ∈ paths, ¬ IsCollectible files path) →
    OnlyProbes settings network state (earlier + 1) trace
  /-- With a service that is ready and nothing to execute, it succeeds. -/
  nothingToExecute : ∀ settings earlier,
    Settings.resolve files environment target = .ok settings →
    FirstReady network (Client.ofSettings settings) settings.readiness state earlier →
    earlier < allowedAttempts settings.readiness →
    (∀ path ∈ paths, IsCollectible files path) →
    (∀ file ∈ Feature.filesOf files paths, ∃ feature, Feature.load files file = .ok feature ∧
      feature.scenarios = []) →
    trace.result.status = 0

section Program

variable {files opened : FileSystem} {arguments : List String}
  {verbose : Bool} {logFile : Option String} {paths : List String} {target : Target}

/-- With a valid command line and an open log, a program is its command. -/
theorem run_program {command : Command}
    (hread : Invocation.read arguments = .ok ⟨verbose, logFile, command⟩)
    (hlog : Invocation.openLog ⟨verbose, logFile, command⟩ files = .ok opened)
    (environment : Environment) (network : Network σ) (state : σ) :
    (program files environment arguments).run network state =
      let trace := (command.perform opened environment verbose).run network state
      ⟨Ending.ofResult trace.result, trace.state, trace.events⟩ := by
  rw [program, hread]
  simp only [Invocation.perform, hlog]
  rw [Interaction.run_bind, Interaction.pure_eq_done, Interaction.run_done, Trace.followedBy,
    List.append_nil]

/-- For every file system, environment and service, a run of paths ends with status 0 if nothing
is wrong at any stage, and with status 1 if something is; and it is staged. -/
theorem program_run_of_paths
    (hread : Invocation.read arguments = .ok ⟨verbose, logFile, .run paths target⟩)
    (hlog : Invocation.openLog ⟨verbose, logFile, .run paths target⟩ files = .ok opened)
    (environment : Environment) (network : Network σ) (state : σ) :
    ∃ registry, Registry.standard = .ok registry ∧
      StagedRun registry opened environment verbose paths target network state
        ((program files environment arguments).run network state) := by
  obtain ⟨registry, hstandard, -⟩ := Step.standard_isSeparated
  refine ⟨registry, hstandard, ?_⟩
  have hsame := run_program hread hlog environment network state
  have hsucceeds : ((program files environment arguments).run network state).result.status = 0 ↔
      RunSucceeds registry opened environment verbose paths target network state := by
    rw [hsame, status_ofResult_eq_zero_iff]
    exact Command.perform_run_eq_ok_true_iff hstandard network state
  refine ⟨hsucceeds, ?_, ?_, ?_, ?_, ?_⟩
  · rw [← hsucceeds, hsame]
    exact status_ofResult_eq_one_iff
  · intro hnone
    cases hsettings : Settings.resolve opened environment target with
    | ok settings => exact absurd hsettings (hnone settings)
    | error error =>
        rw [hsame, Command.perform_of_unconfigured hsettings]
        exact ⟨rfl, rfl⟩
  · intro settings hsettings hnone
    have honly := Command.onlyProbes_perform_of_not_ready verbose paths hstandard hsettings hnone
    rw [hsame]
    exact ⟨honly.calls, honly.state, honly.noScenario⟩
  · intro settings earlier hsettings hready hlt hnot
    have honly :=
      Command.onlyProbes_perform_of_not_collected verbose hstandard hsettings hready hlt hnot
    rw [hsame]
    exact ⟨honly.calls, honly.state, honly.noScenario⟩
  · intro settings earlier hsettings hready hlt hpaths hempty
    rw [hsucceeds]
    exact ⟨settings, earlier, hsettings, hready, hlt, hpaths,
      fun file hfile => (hempty file hfile).imp fun feature hload => hload.1,
      (scenariosOf_eq_nil hempty).symm ▸ everyPasses_nil _⟩

/-! ## A run of one file -/

/-- Where the same response comes to every call, the first probe shows whether it is ready. -/
theorem firstReady_of_always {response : Http.Response} (hstatus : response.status = 200)
    {client : Client} {readiness : Settings.Readiness}
    (hbuilt : (client.build (.get readiness.path) readiness.probeTimeoutSecs).isOk = true) :
    FirstReady (Network.always (.answered response)) client readiness () 0 := by
  rw [firstReady_zero_iff, ← run_probe, probe, Client.requestWithin]
  cases hbuild : client.build (.get readiness.path) readiness.probeTimeoutSecs with
  | error failure =>
      rw [hbuild] at hbuilt
      cases hbuilt
  | ok call => exact ⟨response, rfl, hstatus⟩

/-- A file with one scenario, which asks the service once and expects status 200. -/
def pingText : String :=
  "Feature: Ping\nScenario: Answer\nWhen I make a GET request to \"/ping\"\n" ++
    "Then the HTTP status should be 200\n"

/-- The scenario of this file. -/
def pingScenario : Scenario where
  name := "Answer"
  rule := none
  number := 2
  lines :=
    [⟨.event, "When", "I make a GET request to \"/ping\"", 3⟩,
      ⟨.expectation, "Then", "the HTTP status should be 200", 4⟩]
  unsupported := none

/-- A directory with this file and one that has no features in it. -/
def pingDirectory : FileSystem where
  node
    | "features" => .directory (.ok ["notes.txt", "ping.feature"])
    | "features/ping.feature" => .file (.ok (Text.Utf8.encode pingText))
    | _ => .absent .notFound
  opened _ := .error .directory

theorem filesOf_pingDirectory :
    Feature.filesOf pingDirectory ["features"] = ["features/ping.feature"] := by
  decide +kernel

theorem load_pingDirectory :
    Feature.load pingDirectory "features/ping.feature" =
      .ok ⟨"Ping", some "features/ping.feature", [pingScenario]⟩ := by
  let document : Feature.Document := ⟨"Ping", [], [⟨.example_, "Answer", 2,
    [⟨.event, "When ", "I make a GET request to \"/ping\"", 3⟩,
      ⟨.expectation, "Then ", "the HTTP status should be 200", 4⟩], 0⟩], []⟩
  have hdecoded : Text.Utf8.decode? (Text.Utf8.encode pingText) = some pingText :=
    Text.Utf8.decode?_eq_some_iff.mpr rfl
  have htext : pingDirectory.readText "features/ping.feature" = .ok pingText := by
    simp only [FileSystem.readText, FileSystem.read, pingDirectory, hdecoded]
  have hread : Feature.Document.read? pingText = some document := by decide +kernel
  have hparse : Feature.parse pingText "features/ping.feature" = .ok (document.toFeature none) :=
    Feature.parse_eq_ok_iff.mpr ⟨document, hread, rfl⟩
  have hscenarios : (document.toFeature none).scenarios = [pingScenario] := by decide +kernel
  have hname : (document.toFeature none).name = "Ping" := rfl
  simp only [Feature.load, htext, hparse, Except.map, hscenarios, hname]

/-- The scenario passes with a service that answers 200 to everything. -/
theorem everyPasses_pingScenario {registry : Registry}
    (hstandard : Registry.standard = .ok registry) (hseparated : registry.IsSeparated)
    (verbose : Bool) :
    (Runner.mk ⟨Settings.withHost {} "[::1]"⟩ registry verbose).EveryPasses
      (Network.always (.answered ⟨200, [], []⟩)) () [pingScenario] := by
  let session : Session := ⟨Settings.withHost {} "[::1]"⟩
  obtain ⟨get, hget, hsingle⟩ := Step.exists_ping hstandard hseparated
  obtain ⟨hasStatus, hstatus, hcheck⟩ := Step.exists_resolve_of_argumentsIn? hstandard hseparated
    (List.mem_of_getElem? (show Step.standardSteps[7]? = some _ from rfl))
    (show Step.argumentsIn? "the HTTP status should be \x7bint\x7d"
      "the HTTP status should be 200" = some [.integer 200] by decide +kernel)
  obtain ⟨call, hbuild⟩ : ∃ call, session.client.build (Http.Request.get "/ping")
      session.client.timeoutSecs = .ok call :=
    Client.exists_call_of_isSome (by decide +kernel)
  let runner : Runner := ⟨session, registry, verbose⟩
  let network := Network.always (.answered ⟨200, [], []⟩)
  let world : Step.World := (Step.World.fresh session).recording Step.responseKey
    (.outcome (.answered ⟨200, [], []⟩))
  have hgetLine : ResolvesTo registry ⟨.event, "When", _, 3⟩ get := hget "When"
  have hstatusLine : ResolvesTo registry ⟨.expectation, "Then", _, 4⟩
      ⟨hasStatus, [.integer 200]⟩ := hcheck "Then"
  have hresolves : Resolves registry pingScenario.lines _ :=
    resolves_cons hgetLine (resolves_cons hstatusLine (resolves_nil _))
  -- the request is answered, and the check finds its answer recorded
  have hsent : invoked network (.fresh session) () get = ⟨⟨.ok (), world⟩, (), [.sent call]⟩ :=
    Step.invoke_of_single hstandard ⟨_, _, _, hgetLine⟩ hsingle (.fresh session ()) hbuild
  have hchecked : invoked network world () ⟨hasStatus, [.integer 200]⟩ =
      ⟨⟨.ok (), world⟩, (), []⟩ := by
    rw [invoked, hstatus.handler]
    rfl
  have hpasses : PassesWith runner network pingScenario () world :=
    ⟨rfl, _, (), _, hresolves, .cons hsent (.cons hchecked (.nil _ _))⟩
  rw [everyPasses_cons]
  exact ⟨(passed_iff_exists_passesWith runner network pingScenario ()).mpr ⟨world, hpasses⟩,
    everyPasses_nil _⟩

/-- A run of a directory with one feature file, whose scenario passes. -/
theorem program_run_of_paths_of_passing_scenario :
    Invocation.read ["run", "--host", "[::1]", "features"] =
        .ok ⟨false, none, .run ["features"] ⟨none, some "[::1]", none⟩⟩ ∧
      Invocation.openLog ⟨false, none, .run ["features"] ⟨none, some "[::1]", none⟩⟩
        pingDirectory = .ok pingDirectory ∧
      scenariosOf pingDirectory ["features"] = [pingScenario] ∧
      ((program pingDirectory ⟨none, none, none⟩ ["run", "--host", "[::1]", "features"]).run
        (Network.always (.answered ⟨200, [], []⟩)) ()).result.status = 0 := by
  have hread : Invocation.read ["run", "--host", "[::1]", "features"] =
      .ok ⟨false, none, .run ["features"] ⟨none, some "[::1]", none⟩⟩ := rfl
  have hlog : Invocation.openLog ⟨false, none, .run ["features"] ⟨none, some "[::1]", none⟩⟩
      pingDirectory = .ok pingDirectory := rfl
  have hscenarios : scenariosOf pingDirectory ["features"] = [pingScenario] := by
    simp only [scenariosOf, filesOf_pingDirectory, List.flatMap_singleton, scenariosAt,
      load_pingDirectory]
  have hbuilt : ((Client.ofSettings (({} : Settings).withHost "[::1]")).build (.get "/ping")
      2).isOk = true := by decide +kernel
  obtain ⟨registry, hstandard, hstaged⟩ := program_run_of_paths hread hlog ⟨none, none, none⟩
    (Network.always (.answered ⟨200, [], []⟩)) ()
  obtain ⟨standard, hsame, hseparated⟩ := Step.standard_isSeparated
  obtain rfl : standard = registry := Except.ok.inj (hsame.symm.trans hstandard)
  refine ⟨hread, hlog, hscenarios, hstaged.succeeds_iff.mpr
    ⟨({} : Settings).withHost "[::1]", 0, rfl, firstReady_of_always rfl hbuilt,
      Nat.le_max_left 1 _, ?_, ?_, ?_⟩⟩
  · intro path hpath
    rw [List.mem_singleton.mp hpath]
    exact .inr ⟨_, rfl⟩
  · intro file hfile
    rw [filesOf_pingDirectory, List.mem_singleton] at hfile
    exact ⟨_, hfile ▸ load_pingDirectory⟩
  · rw [hscenarios]
    exact everyPasses_pingScenario hstandard hseparated false

end Program

end ServiceHealth
