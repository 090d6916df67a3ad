import Mathlib.Algebra.Ring.Nat
import Mathlib.Data.List.Flatten
import ServiceHealth.Proofs.Execution.FileRuns
import ServiceHealth.Proofs.Execution.ScenarioRun

/-!
# What a verbose runner adds

A verbose runner prints an entry for each step that passes, and differs in nothing else.  So
one account of a run tells what either runner leaves: a `Chapter` for each file, and in it a
`Block` for each scenario, with the steps that passed and what each of them left.  Both runners
leave what stands in the account, in its order; `mark` is what only the verbose one adds, right
after what the step has left.

`executePaths_verbose` compares the two runs.  Its blocks come from `exists_block`, which
looks at the cases of `ScenarioRun`; lists of scenarios and of files follow by induction.
-/

namespace ServiceHealth

open Feature (Line Scenario)
open Report (Entry FeatureResult RunResult ScenarioResult)
open Step (Bound Registry Session World)

/-- How many steps of a scenario were executed and passed: all that were started, but for the one
that failed. -/
def Report.ScenarioResult.stepsPassed (report : ScenarioResult) : Nat :=
  if report.failedStep.isSome then report.stepsRun - 1 else report.stepsRun

namespace Execution

variable {σ : Type} {runner : Runner} {network : Network σ} {files : FileSystem}

/-- The runner, verbose or not. -/
def Runner.withVerbose (runner : Runner) (verbose : Bool) : Runner :=
  { runner with verbose := verbose }

/-! ## Accounts of a run -/

/-- What a runner prints about a step that has passed. -/
def mark (verbose : Bool) (line : Line) : List Event :=
  if verbose then [.printed (.stepPassed line.label)] else []

/-- Steps that have passed leave their events, each followed by its mark. -/
def marked (verbose : Bool) (passed : List (Line × List Event)) : List Event :=
  passed.flatMap fun step => step.2 ++ mark verbose step.1

/-- The line resolves to a step that can succeed, and then leaves these events. -/
def Runner.Leaves (runner : Runner) (network : Network σ) (line : Line) (events : List Event) :
    Prop :=
  ∃ bound world state next final, ResolvesTo runner.registry line bound ∧
    invoked network world state bound = ⟨⟨.ok (), next⟩, final, events⟩

/-- The account of a scenario. -/
structure Block where
  scenario : Scenario
  report : ScenarioResult
  /-- The steps that passed, each with what it left. -/
  passed : List (Line × List Event)
  /-- What came after them: a step that failed, or that all have passed, or why none was
  started. -/
  ending : List Event

namespace Block

/-- What a runner leaves of a scenario. -/
def events (verbose : Bool) (block : Block) : List Event :=
  .printed (.scenario block.scenario.fullName) ::
    (marked verbose block.passed ++ block.ending)

/-- The steps in the account are those that were executed and passed. -/
structure IsComplete (runner : Runner) (network : Network σ) (block : Block) : Prop where
  lines : block.passed.map Prod.fst <+: block.scenario.lines
  length : block.passed.length = block.report.stepsPassed
  leaves : ∀ step ∈ block.passed, runner.Leaves network step.1 step.2

end Block

/-- The account of a file. -/
structure Chapter where
  path : String
  report : FeatureResult
  /-- What is printed before the first scenario. -/
  opening : List Event
  blocks : List Block

namespace Chapter

/-- What a runner leaves of a file. -/
def events (verbose : Bool) (chapter : Chapter) : List Event :=
  chapter.opening ++ chapter.blocks.flatMap (Block.events verbose)

/-- The account is that of the file at its path. -/
inductive IsAbout (runner : Runner) (network : Network σ) (files : FileSystem) : Chapter → Prop
  | loaded {path : String} {feature : Feature} {blocks : List Block}
      (load : Feature.load files path = .ok feature)
      (scenarios : blocks.map Block.scenario = feature.scenarios)
      (complete : ∀ block ∈ blocks, block.IsComplete runner network) :
      IsAbout runner network files ⟨path, ⟨feature.name, feature.path, blocks.map Block.report⟩,
        announcement feature, blocks⟩
  | unloadable {path : String} {error : Error} (load : Feature.load files path = .error error) :
      IsAbout runner network files ⟨path, unloadableResult path error,
        [.printed (.feature path), .printed (.unloadable error.message)], []⟩

end Chapter

/-! ## What the marks come to -/

section Marks

variable (passed : List (Line × List Event)) (block : Block) (chapter : Chapter)

theorem marked_cons (verbose : Bool) (step : Line × List Event) :
    marked verbose (step :: passed) =
      step.2 ++ mark verbose step.1 ++ marked verbose passed :=
  List.flatMap_cons

/-- The marks are printed, so nothing else changes with them. -/
theorem traffic_marked :
    Event.traffic (marked true passed) = Event.traffic (marked false passed) := by
  induction passed with
  | nil => rfl
  | cons step passed ih =>
      simp only [marked_cons, Event.traffic_append, ih]
      rfl

theorem marked_sublist : (marked false passed).Sublist (marked true passed) :=
  List.Sublist.flatMap_right passed fun step _ =>
    (List.Sublist.refl step.2).append (List.nil_sublist _)

/-- There is one mark for each step. -/
theorem countP_marked :
    (marked true passed).countP Event.isPrinted =
      (marked false passed).countP Event.isPrinted + passed.length := by
  induction passed with
  | nil => rfl
  | cons step passed ih =>
      have htrue : (mark true step.1).countP Event.isPrinted = 1 := rfl
      have hfalse : (mark false step.1).countP Event.isPrinted = 0 := rfl
      simp only [marked_cons, List.countP_append, ih, htrue, hfalse, List.length_cons]
      omega

namespace Block

theorem traffic_events :
    Event.traffic (block.events true) = Event.traffic (block.events false) := by
  simp only [events, Event.traffic_cons_printed, Event.traffic_append, traffic_marked]

theorem events_sublist : (block.events false).Sublist (block.events true) :=
  ((marked_sublist block.passed).append (List.Sublist.refl block.ending)).cons_cons _

theorem countP_events :
    (block.events true).countP Event.isPrinted =
      (block.events false).countP Event.isPrinted + block.passed.length := by
  simp only [events, List.countP_cons, List.countP_append, countP_marked]
  omega

end Block

namespace Chapter

theorem traffic_events :
    Event.traffic (chapter.events true) = Event.traffic (chapter.events false) := by
  simp only [events, Event.traffic_append, Event.traffic_flatMap, Block.traffic_events]

theorem events_sublist : (chapter.events false).Sublist (chapter.events true) :=
  (List.Sublist.refl chapter.opening).append
    (List.Sublist.flatMap_right chapter.blocks fun block _ => block.events_sublist)

end Chapter

/-- The blocks of complete accounts have as many marks as steps passed. -/
theorem countP_blocks {blocks : List Block}
    (h : ∀ block ∈ blocks, block.IsComplete runner network) :
    (blocks.flatMap (Block.events true)).countP Event.isPrinted =
      (blocks.flatMap (Block.events false)).countP Event.isPrinted +
        ((blocks.map Block.report).map ScenarioResult.stepsPassed).sum := by
  induction blocks with
  | nil => rfl
  | cons block blocks ih =>
      obtain ⟨hblock, hblocks⟩ := List.forall_mem_cons.mp h
      simp only [List.flatMap_cons, List.countP_append, ih hblocks, block.countP_events,
        hblock.length, List.map_cons, List.sum_cons]
      omega

theorem countP_chapter {chapter : Chapter} (h : chapter.IsAbout runner network files) :
    (chapter.events true).countP Event.isPrinted =
      (chapter.events false).countP Event.isPrinted +
        (chapter.report.scenarios.map ScenarioResult.stepsPassed).sum := by
  cases h with
  | loaded load scenarios complete =>
      simp only [Chapter.events, List.countP_append, countP_blocks complete]
      omega
  | unloadable load => rfl

theorem countP_chapters {chapters : List Chapter}
    (h : ∀ chapter ∈ chapters, chapter.IsAbout runner network files) :
    (chapters.flatMap (Chapter.events true)).countP Event.isPrinted =
      (chapters.flatMap (Chapter.events false)).countP Event.isPrinted +
        ((RunResult.scenarios ⟨chapters.map Chapter.report⟩).map
          ScenarioResult.stepsPassed).sum := by
  induction chapters with
  | nil => rfl
  | cons chapter chapters ih =>
      obtain ⟨hchapter, hchapters⟩ := List.forall_mem_cons.mp h
      have hrest := ih hchapters
      have hfirst := countP_chapter hchapter
      simp only [RunResult.scenarios, List.map_cons, List.flatMap_cons, List.countP_append,
        List.map_append, List.sum_append] at hrest ⊢
      omega

end Marks

/-! ## One scenario -/

/-- Steps that pass leave the same for both runners, but for the marks. -/
theorem exists_passed_of_stepsPass {world last : World} {state final : σ}
    {steps : List (Line × Bound)} {events : List Event}
    (h : StepsPass runner network world state steps last final events)
    (hresolved : ∀ step ∈ steps, ResolvesTo runner.registry step.1 step.2) :
    ∃ passed : List (Line × List Event), passed.map Prod.fst = steps.map Prod.fst ∧
      (∀ step ∈ passed, runner.Leaves network step.1 step.2) ∧
      ∀ verbose, StepsPass (runner.withVerbose verbose) network world state steps last final
        (marked verbose passed) := by
  induction h with
  | nil world state => exact ⟨[], rfl, by simp, fun verbose => .nil world state⟩
  | @cons world next last state middle final events others line bound steps first rest ih =>
      obtain ⟨hline, hsteps⟩ := List.forall_mem_cons.mp hresolved
      obtain ⟨passed, hlines, hleaves, hpassed⟩ := ih hsteps
      have hhead : runner.Leaves network line events :=
        ⟨bound, world, state, next, middle, hline, first⟩
      refine ⟨(line, events) :: passed, by rw [List.map_cons, List.map_cons, hlines],
        List.forall_mem_cons.mpr ⟨hhead, hleaves⟩, ?_⟩
      intro verbose
      exact .cons first (hpassed verbose)

/-- A scenario has one account, whatever the runner prints. -/
theorem exists_block (runner : Runner) (network : Network σ) (scenario : Scenario) (state : σ) :
    ∃ (block : Block) (final : σ), block.scenario = scenario ∧
      block.IsComplete runner network ∧
      ∀ verbose, ((runner.withVerbose verbose).executeScenario scenario).run network state =
        ⟨block.report, final, block.events verbose⟩ := by
  have hrun := scenarioRun_run runner network scenario state
  generalize (runner.executeScenario scenario).run network state = trace at hrun
  cases hrun with
  | @unsupported reason marked =>
      refine ⟨⟨scenario, failedResult scenario 0 none reason, [],
        [.printed (.unsupported reason)]⟩, state, rfl, ⟨List.nil_prefix, rfl, by simp⟩, ?_⟩
      intro verbose
      exact executeScenario_run_of_scenarioRun (.unsupported marked)
  | @unresolved line error supported first =>
      refine ⟨⟨scenario, failedResult scenario 0 none error.message, [],
        [.printed (.unresolved line.number error.message)]⟩, state, rfl,
        ⟨List.nil_prefix, rfl, by simp⟩, ?_⟩
      intro verbose
      exact executeScenario_run_of_scenarioRun (.unresolved supported first)
  | @failed before after line bound world left middle final earlier events error supported
      resolved passed failure =>
      have hbefore := (List.forall_mem_append.mp resolved.2).1
      obtain ⟨steps, hlines, hleaves, hpassed⟩ := exists_passed_of_stepsPass passed hbefore
      have hlength : steps.length = before.length := by
        simpa using congrArg List.length hlines
      refine ⟨⟨scenario,
        failedResult scenario (before.length + 1) (some line.label) error.message, steps,
        events ++ [.printed (.stepFailed line.label), .printed (.stepError error.message)]⟩,
        final, rfl, ⟨?_, hlength, hleaves⟩, ?_⟩
      · rw [hlines, ← resolved.1, List.map_append]
        exact List.prefix_append _ _
      · intro verbose
        exact executeScenario_run_of_scenarioRun (.failed supported resolved (hpassed verbose)
          failure)
  | @passed lines world final events supported resolved passed =>
      obtain ⟨steps, hlines, hleaves, hpassed⟩ := exists_passed_of_stepsPass passed resolved.2
      have hall : steps.map Prod.fst = scenario.lines := hlines.trans resolved.1
      have hlength : steps.length = scenario.lines.length := by
        simpa using congrArg List.length hall
      refine ⟨⟨scenario, passedResult scenario, steps, [.printed .scenarioPassed]⟩, final, rfl,
        ⟨?_, hlength, hleaves⟩, ?_⟩
      · exact hall ▸ List.prefix_refl _
      · intro verbose
        exact executeScenario_run_of_scenarioRun (.passed supported resolved (hpassed verbose))

/-! ## Scenarios and files, one after another -/

theorem exists_blocks (runner : Runner) (network : Network σ) (scenarios : List Scenario)
    (state : σ) :
    ∃ (blocks : List Block) (final : σ), blocks.map Block.scenario = scenarios ∧
      (∀ block ∈ blocks, block.IsComplete runner network) ∧
      ∀ verbose, ((runner.withVerbose verbose).executeScenarios scenarios).run network state =
        ⟨blocks.map Block.report, final, blocks.flatMap (Block.events verbose)⟩ := by
  induction scenarios generalizing state with
  | nil => exact ⟨[], state, rfl, by simp, fun verbose => rfl⟩
  | cons scenario scenarios ih =>
      obtain ⟨block, middle, hscenario, hcomplete, hblock⟩ :=
        exists_block runner network scenario state
      obtain ⟨blocks, final, hscenarios, hall, hblocks⟩ := ih middle
      refine ⟨block :: blocks, final, by rw [List.map_cons, hscenario, hscenarios],
        List.forall_mem_cons.mpr ⟨hcomplete, hall⟩, ?_⟩
      intro verbose
      simp only [run_executeScenarios_cons, hblock verbose, hblocks verbose, List.map_cons,
        List.flatMap_cons]

theorem exists_chapter (runner : Runner) (network : Network σ) (files : FileSystem)
    (path : String) (state : σ) :
    ∃ (chapter : Chapter) (final : σ), chapter.path = path ∧
      chapter.IsAbout runner network files ∧
      ∀ verbose, ((runner.withVerbose verbose).executeCollected files path).run network state =
        ⟨chapter.report, final, chapter.events verbose⟩ := by
  cases hload : Feature.load files path with
  | error error =>
      refine ⟨_, state, rfl, .unloadable hload, ?_⟩
      intro verbose
      simp only [Runner.executeCollected, hload]
      rfl
  | ok feature =>
      obtain ⟨blocks, final, hscenarios, hcomplete, hblocks⟩ :=
        exists_blocks runner network feature.scenarios state
      refine ⟨_, final, rfl, .loaded hload hscenarios hcomplete, ?_⟩
      intro verbose
      simp only [Runner.executeCollected, hload, run_executeFeature, hblocks verbose]
      rfl

theorem exists_chapters (runner : Runner) (network : Network σ) (files : FileSystem)
    (paths : List String) (state : σ) :
    ∃ (chapters : List Chapter) (final : σ), chapters.map Chapter.path = paths ∧
      (∀ chapter ∈ chapters, chapter.IsAbout runner network files) ∧
      ∀ verbose, ((runner.withVerbose verbose).executeAll files paths).run network state =
        ⟨chapters.map Chapter.report, final, chapters.flatMap (Chapter.events verbose)⟩ := by
  induction paths generalizing state with
  | nil => exact ⟨[], state, rfl, by simp, fun verbose => rfl⟩
  | cons path paths ih =>
      obtain ⟨chapter, middle, hpath, habout, hchapter⟩ :=
        exists_chapter runner network files path state
      obtain ⟨chapters, final, hpaths, hall, hchapters⟩ := ih middle
      refine ⟨chapter :: chapters, final, by rw [List.map_cons, hpath, hpaths],
        List.forall_mem_cons.mpr ⟨habout, hall⟩, ?_⟩
      intro verbose
      simp only [run_executeAll_cons, hchapter verbose, hchapters verbose, List.map_cons,
        List.flatMap_cons]

/-! ## Whole runs -/

/-- A run has one account, whatever the runner prints; if its files cannot be collected, the account
is empty. -/
theorem exists_account (runner : Runner) (network : Network σ) (files : FileSystem)
    (paths : List String) (state : σ) :
    ∃ (chapters : List Chapter) (result : Except Error RunResult) (final : σ),
      (∀ chapter ∈ chapters, chapter.IsAbout runner network files) ∧
      (∀ verbose, ((runner.withVerbose verbose).executePaths files paths).run network state =
        ⟨result, final, chapters.flatMap (Chapter.events verbose)⟩) ∧
      (∀ error, result = .error error → chapters = []) ∧
      ∀ summary, result = .ok summary →
        Feature.collect files paths = .ok (chapters.map Chapter.path) ∧
          summary = ⟨chapters.map Chapter.report⟩ := by
  cases hcollect : Feature.collect files paths with
  | error error =>
      refine ⟨[], .error error, state, by simp, ?_, fun _ _ => rfl, nofun⟩
      intro verbose
      exact executePaths_run_of_pathsRun (.uncollected hcollect)
  | ok found =>
      obtain ⟨chapters, final, rfl, habout, hchapters⟩ :=
        exists_chapters runner network files found state
      refine ⟨chapters, .ok ⟨chapters.map Chapter.report⟩, final, habout, ?_, nofun, ?_⟩
      · intro verbose
        simp only [Runner.executePaths, hcollect]
        rw [Interaction.run_bind_of_run (hchapters verbose)]
        simp only [Trace.followedBy, Interaction.pure_eq_done, Interaction.run_done,
          List.append_nil]
      · intro summary hsummary
        exact ⟨rfl, (Except.ok.inj hsummary).symm⟩

/-- A verbose runner leaves what one that is not verbose leaves, and prints one more entry for each
step that was executed and passed, right after the step and in the block of its scenario. -/
theorem executePaths_verbose (session : Session) (registry : Registry) (network : Network σ)
    (files : FileSystem) (paths : List String) (state : σ) :
    let quiet := (Runner.executePaths ⟨session, registry, false⟩ files paths).run network state
    let verbose := (Runner.executePaths ⟨session, registry, true⟩ files paths).run network state
    verbose.result = quiet.result ∧ verbose.state = quiet.state ∧
      verbose.traffic = quiet.traffic ∧ verbose.calls = quiet.calls ∧
      quiet.printed.Sublist verbose.printed ∧
      ∃ chapters : List Chapter,
        (∀ chapter ∈ chapters, chapter.IsAbout ⟨session, registry, false⟩ network files) ∧
        quiet.events = chapters.flatMap (Chapter.events false) ∧
        verbose.events = chapters.flatMap (Chapter.events true) ∧
        (∀ error, quiet.result = .error error → chapters = []) ∧
        ∀ summary, quiet.result = .ok summary →
          Feature.collect files paths = .ok (chapters.map Chapter.path) ∧
          summary.features = chapters.map Chapter.report ∧
          verbose.printed.length =
            quiet.printed.length + (summary.scenarios.map ScenarioResult.stepsPassed).sum := by
  intro quiet verbose
  obtain ⟨chapters, result, final, habout, hrun, herror, hok⟩ :=
    exists_account ⟨session, registry, false⟩ network files paths state
  have hquiet : quiet = ⟨result, final, chapters.flatMap (Chapter.events false)⟩ := hrun false
  have hverbose : verbose = ⟨result, final, chapters.flatMap (Chapter.events true)⟩ := hrun true
  have htraffic : verbose.traffic = quiet.traffic := by
    rw [hquiet, hverbose]
    simp only [Trace.traffic, Event.traffic_flatMap, Chapter.traffic_events]
  have hsublist : quiet.events.Sublist verbose.events := by
    rw [hquiet, hverbose]
    exact List.Sublist.flatMap_right chapters fun chapter _ => chapter.events_sublist
  have hcount : verbose.printed.length = quiet.printed.length +
      ((RunResult.scenarios ⟨chapters.map Chapter.report⟩).map ScenarioResult.stepsPassed).sum := by
    rw [Trace.length_printed, Trace.length_printed, hquiet, hverbose]
    exact countP_chapters habout
  have hresult : quiet.result = result := by rw [hquiet]
  refine ⟨by rw [hquiet, hverbose], by rw [hquiet, hverbose], htraffic,
    Trace.calls_eq_of_traffic htraffic, Trace.printed_sublist hsublist, chapters, habout,
    by rw [hquiet], by rw [hverbose], ?_, ?_⟩
  · rw [hresult]
    exact herror
  · rw [hresult]
    intro summary hsummary
    obtain ⟨hcollect, rfl⟩ := hok summary hsummary
    exact ⟨hcollect, rfl, hcount⟩

end Execution

end ServiceHealth
