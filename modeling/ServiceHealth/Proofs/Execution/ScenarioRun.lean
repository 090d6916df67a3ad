import ServiceHealth.Execution.Scenario
import ServiceHealth.Proofs.Interaction.Traces

/-!
# What executing a scenario comes to

`ScenarioRun` says, without a loop, what becomes of a scenario: it cannot be
executed, or one of its lines is the first that cannot be resolved, or one of its
steps is the first that fails, or all of them pass.  Handlers are arbitrary, so a
handler that leaves an event whenever it is executed shows how often and in which
order that happens.

`executeScenario_run_eq_iff` states that executing a scenario does this and
nothing else, whatever the registry, the service and the lines are, and that the
report says which of the four it was.

* **Resolving.**  `resolveLines_eq_ok_iff` and `resolveLines_eq_error_iff` describe
  both answers of `resolveLines` by the lines before the first failure.
* **Executing.**  `executeSteps_run_of_stepsPass` moves the loop past steps that
  pass, and `stepsPass_or_fails` finds the first step that does not.
* **Reporting.**  `WellReported` spells out for each end whether the report says that
  the scenario passed, how many steps were started, which one failed and why.
-/

namespace ServiceHealth.Execution

open Feature (Line Scenario)
open Report (ScenarioResult)
open Step (Bound Conclusion Registry World)

variable {σ : Type}

/-! ## Resolving the lines -/

/-- A line resolves to a definition with its arguments. -/
def ResolvesTo (registry : Registry) (line : Line) (bound : Bound) : Prop :=
  registry.resolve line.kind line.keyword line.text = .ok bound

/-- The steps are the lines in order, each with what it resolves to. -/
def Resolves (registry : Registry) (lines : List Line) (steps : List (Line × Bound)) : Prop :=
  steps.map Prod.fst = lines ∧ ∀ step ∈ steps, ResolvesTo registry step.1 step.2

/-- The first line that does not resolve, with its error. -/
def FirstUnresolved (registry : Registry) (lines : List Line) (line : Line) (error : Error) :
    Prop :=
  ∃ before after, lines = before ++ line :: after ∧
    (∀ earlier ∈ before, ∃ bound, ResolvesTo registry earlier bound) ∧
    registry.resolve line.kind line.keyword line.text = .error error

theorem resolves_nil (registry : Registry) : Resolves registry [] [] :=
  ⟨rfl, by simp⟩

theorem resolves_cons {registry : Registry} {line : Line} {lines : List Line} {bound : Bound}
    {steps : List (Line × Bound)} (hline : ResolvesTo registry line bound)
    (hlines : Resolves registry lines steps) :
    Resolves registry (line :: lines) ((line, bound) :: steps) := by
  refine ⟨by rw [List.map_cons, hlines.1], ?_⟩
  intro step hstep
  rcases List.mem_cons.mp hstep with rfl | hstep
  · exact hline
  · exact hlines.2 step hstep

theorem length_of_resolves {registry : Registry} {lines : List Line}
    {steps : List (Line × Bound)} (h : Resolves registry lines steps) :
    steps.length = lines.length := by
  rw [← h.1, List.length_map]

/-- Lines resolve in at most one way. -/
theorem resolveLines_of_resolves {registry : Registry} {lines : List Line}
    {steps : List (Line × Bound)} (h : Resolves registry lines steps) :
    resolveLines registry lines = .ok steps := by
  obtain ⟨rfl, hsteps⟩ := h
  induction steps with
  | nil => rfl
  | cons step steps ih =>
      have hhead : registry.resolve step.1.kind step.1.keyword step.1.text = .ok step.2 :=
        hsteps step List.mem_cons_self
      have htail := ih fun other hother => hsteps other (List.mem_cons_of_mem _ hother)
      simp only [List.map_cons, resolveLines, hhead, htail]

theorem resolveLines_of_firstUnresolved {registry : Registry} {lines : List Line} {line : Line}
    {error : Error} (h : FirstUnresolved registry lines line error) :
    resolveLines registry lines = .error (line, error) := by
  obtain ⟨before, after, rfl, hbefore, hline⟩ := h
  induction before with
  | nil => simp only [List.nil_append, resolveLines, hline]
  | cons earlier before ih =>
      obtain ⟨bound, hbound⟩ := hbefore earlier List.mem_cons_self
      have hrest := ih fun other hother => hbefore other (List.mem_cons_of_mem _ hother)
      unfold ResolvesTo at hbound
      simp only [List.cons_append, resolveLines, hbound, hrest]

/-- Either all lines resolve, or one of them is the first that does not. -/
theorem resolves_or_firstUnresolved (registry : Registry) (lines : List Line) :
    (∃ steps, Resolves registry lines steps) ∨
      ∃ line error, FirstUnresolved registry lines line error := by
  induction lines with
  | nil => exact .inl ⟨[], resolves_nil registry⟩
  | cons line lines ih =>
      cases hline : registry.resolve line.kind line.keyword line.text with
      | error error => exact .inr ⟨line, error, [], lines, rfl, by simp, hline⟩
      | ok bound =>
          rcases ih with ⟨steps, hsteps⟩ | ⟨failing, error, before, after, heq, hbefore, hfailing⟩
          · exact .inl ⟨_, resolves_cons hline hsteps⟩
          · refine .inr ⟨failing, error, line :: before, after, by rw [heq]; rfl, ?_, hfailing⟩
            intro earlier hearlier
            rcases List.mem_cons.mp hearlier with rfl | hearlier
            · exact ⟨bound, hline⟩
            · exact hbefore earlier hearlier

theorem resolveLines_eq_ok_iff {registry : Registry} {lines : List Line}
    {steps : List (Line × Bound)} :
    resolveLines registry lines = .ok steps ↔ Resolves registry lines steps := by
  refine ⟨fun h => ?_, resolveLines_of_resolves⟩
  rcases resolves_or_firstUnresolved registry lines with ⟨others, hothers⟩ | ⟨line, error, hfirst⟩
  · rw [resolveLines_of_resolves hothers] at h
    injection h with heq
    exact heq ▸ hothers
  · rw [resolveLines_of_firstUnresolved hfirst] at h
    cases h

theorem resolveLines_eq_error_iff {registry : Registry} {lines : List Line} {line : Line}
    {error : Error} :
    resolveLines registry lines = .error (line, error) ↔
      FirstUnresolved registry lines line error := by
  refine ⟨fun h => ?_, resolveLines_of_firstUnresolved⟩
  rcases resolves_or_firstUnresolved registry lines with ⟨steps, hsteps⟩ | ⟨other, reason, hfirst⟩
  · rw [resolveLines_of_resolves hsteps] at h
    cases h
  · rw [resolveLines_of_firstUnresolved hfirst] at h
    injection h with heq
    obtain ⟨rfl, rfl⟩ := Prod.mk.injEq .. ▸ heq
    exact hfirst

/-! ## Lines in parts -/

section Parts

variable {registry : Registry}

theorem resolves_append_iff {first second : List Line} {steps : List (Line × Bound)} :
    Resolves registry (first ++ second) steps ↔
      ∃ before after, steps = before ++ after ∧ Resolves registry first before ∧
        Resolves registry second after := by
  constructor
  · rintro ⟨hlines, hsteps⟩
    obtain ⟨before, after, rfl, hbefore, hafter⟩ := List.map_eq_append_iff.mp hlines
    rw [List.forall_mem_append] at hsteps
    exact ⟨before, after, rfl, ⟨hbefore, hsteps.1⟩, ⟨hafter, hsteps.2⟩⟩
  · rintro ⟨before, after, rfl, hbefore, hafter⟩
    refine ⟨by rw [List.map_append, hbefore.1, hafter.1], ?_⟩
    rw [List.forall_mem_append]
    exact ⟨hbefore.2, hafter.2⟩

/-- Which steps there are does not depend on the order of the lines. -/
theorem mem_iff_of_resolves {lines : List Line} {steps : List (Line × Bound)}
    (h : Resolves registry lines steps) (step : Line × Bound) :
    step ∈ steps ↔ step.1 ∈ lines ∧ ResolvesTo registry step.1 step.2 := by
  constructor
  · intro hstep
    refine ⟨?_, h.2 step hstep⟩
    rw [← h.1]
    exact List.mem_map_of_mem hstep
  · rintro ⟨hline, hresolves⟩
    rw [← h.1] at hline
    obtain ⟨other, hother, heq⟩ := List.mem_map.mp hline
    -- a line resolves to one definition with one list of arguments
    have hsame : ResolvesTo registry step.1 other.2 := heq ▸ h.2 other hother
    have hbound : other.2 = step.2 := Except.ok.inj (hsame.symm.trans hresolves)
    have hpair : other = step := Prod.ext heq hbound
    rwa [← hpair]

/-- Lines resolve in one way. -/
theorem resolves_unique {lines : List Line} {steps others : List (Line × Bound)}
    (h : Resolves registry lines steps) (hother : Resolves registry lines others) :
    steps = others :=
  Except.ok.inj ((resolveLines_of_resolves h).symm.trans (resolveLines_of_resolves hother))

theorem exists_resolves {lines : List Line}
    (h : ∀ line ∈ lines, ∃ bound, ResolvesTo registry line bound) :
    ∃ steps, Resolves registry lines steps := by
  induction lines with
  | nil => exact ⟨[], resolves_nil registry⟩
  | cons line lines ih =>
      rw [List.forall_mem_cons] at h
      obtain ⟨bound, hbound⟩ := h.1
      obtain ⟨steps, hsteps⟩ := ih h.2
      exact ⟨_, resolves_cons hbound hsteps⟩

end Parts

/-! ## Executing the steps -/

/-- The events with which a step that passes is reported. -/
def Runner.passedEvents (runner : Runner) (line : Line) : List Event :=
  if runner.verbose then [.printed (.stepPassed line.label)] else []

/-- What becomes of a step whose handler is executed in a world. -/
def invoked (network : Network σ) (world : World) (state : σ) (bound : Bound) :
    Trace σ Conclusion :=
  (bound.definition.handler.invoke world bound.arguments).run network state

/-- The steps pass, one after another: the first handler starts from the given world
and network, every other one from what the handler before it leaves. -/
inductive StepsPass (runner : Runner) (network : Network σ) :
    World → σ → List (Line × Bound) → World → σ → List Event → Prop
  | nil (world : World) (state : σ) : StepsPass runner network world state [] world state []
  | cons {world next last : World} {state middle final : σ} {events others : List Event}
      {line : Line} {bound : Bound} {steps : List (Line × Bound)}
      (first : invoked network world state bound = ⟨⟨.ok (), next⟩, middle, events⟩)
      (rest : StepsPass runner network next middle steps last final others) :
      StepsPass runner network world state ((line, bound) :: steps) last final
        (events ++ runner.passedEvents line ++ others)

/-- What becomes of a scenario when the network is in some state. -/
inductive ScenarioRun (runner : Runner) (network : Network σ) (scenario : Scenario) (state : σ) :
    Trace σ ScenarioResult → Prop
  | unsupported {reason : String} (marked : scenario.unsupported = some reason) :
      ScenarioRun runner network scenario state
        ⟨failedResult scenario 0 none reason, state,
          [.printed (.scenario scenario.fullName), .printed (.unsupported reason)]⟩
  | unresolved {line : Line} {error : Error} (supported : scenario.unsupported = none)
      (first : FirstUnresolved runner.registry scenario.lines line error) :
      ScenarioRun runner network scenario state
        ⟨failedResult scenario 0 none error.message, state,
          [.printed (.scenario scenario.fullName),
            .printed (.unresolved line.number error.message)]⟩
  | failed {before after : List (Line × Bound)} {line : Line} {bound : Bound} {world left : World}
      {middle final : σ} {passedEvents events : List Event} {error : Error}
      (supported : scenario.unsupported = none)
      (resolved : Resolves runner.registry scenario.lines (before ++ (line, bound) :: after))
      (passed : StepsPass runner network (.fresh runner.session) state before world middle
        passedEvents)
      (failure : invoked network world middle bound = ⟨⟨.error error, left⟩, final, events⟩) :
      ScenarioRun runner network scenario state
        ⟨failedResult scenario (before.length + 1) (some line.label) error.message, final,
          .printed (.scenario scenario.fullName) :: (passedEvents ++ (events ++
            [.printed (.stepFailed line.label), .printed (.stepError error.message)]))⟩
  | passed {steps : List (Line × Bound)} {world : World} {final : σ} {events : List Event}
      (supported : scenario.unsupported = none)
      (resolved : Resolves runner.registry scenario.lines steps)
      (passed : StepsPass runner network (.fresh runner.session) state steps world final events) :
      ScenarioRun runner network scenario state
        ⟨passedResult scenario, final,
          .printed (.scenario scenario.fullName) :: (events ++ [.printed .scenarioPassed])⟩

variable {runner : Runner} {network : Network σ}

/-- Either all steps pass, or one of them fails and those before it pass. -/
theorem stepsPass_or_fails (runner : Runner) (network : Network σ) (world : World) (state : σ)
    (steps : List (Line × Bound)) :
    (∃ last final events, StepsPass runner network world state steps last final events) ∨
      ∃ before line bound after next middle passedEvents error left final events,
        steps = before ++ (line, bound) :: after ∧
        StepsPass runner network world state before next middle passedEvents ∧
        invoked network next middle bound = ⟨⟨.error error, left⟩, final, events⟩ := by
  induction steps generalizing world state with
  | nil => exact .inl ⟨world, state, [], .nil world state⟩
  | cons step steps ih =>
      obtain ⟨line, bound⟩ := step
      rcases hfirst : invoked network world state bound with ⟨⟨verdict, next⟩, middle, events⟩
      cases verdict with
      | error error =>
          exact .inr ⟨[], line, bound, steps, world, state, [], error, next, middle, events, rfl,
            .nil world state, hfirst⟩
      | ok value =>
          -- the rest starts from what the first step leaves
          rcases ih next middle with ⟨last, final, others, hrest⟩ |
            ⟨before, failing, fails, after, last, reached, others, error, left, final, failure, rfl,
              hrest, hfails⟩
          · exact .inl ⟨last, final, _, .cons hfirst hrest⟩
          · exact .inr ⟨(line, bound) :: before, failing, fails, after, last, reached, _, error,
              left, final, failure, rfl, .cons hfirst hrest, hfails⟩

theorem stepsPass_append_iff {first second : List (Line × Bound)} {world last : World}
    {state final : σ} {events : List Event} :
    StepsPass runner network world state (first ++ second) last final events ↔
      ∃ next middle earlier later, events = earlier ++ later ∧
        StepsPass runner network world state first next middle earlier ∧
        StepsPass runner network next middle second last final later := by
  constructor
  · intro h
    induction first generalizing world state events with
    | nil => exact ⟨world, state, [], events, rfl, .nil world state, h⟩
    | cons step first ih =>
        cases h with
        | @cons _ next _ _ middle _ here others line bound _ invoked rest =>
            obtain ⟨between, reached, earlier, later, rfl, hfirst, hsecond⟩ := ih rest
            refine ⟨between, reached, _, later, ?_, .cons invoked hfirst, hsecond⟩
            simp only [List.append_assoc]
  · rintro ⟨next, middle, earlier, later, rfl, hfirst, hsecond⟩
    induction hfirst with
    | nil world state => exact hsecond
    | cons invoked _ ih =>
        have hrest := ih hsecond
        rw [List.append_assoc]
        exact .cons invoked hrest

/-- The loop goes past steps that pass: it counts them, and their events come first. -/
theorem executeSteps_run_of_stepsPass {scenario : Scenario} {world last : World}
    {state final : σ} {before : List (Line × Bound)} {events : List Event}
    (h : StepsPass runner network world state before last final events) (completed : Nat)
    (after : List (Line × Bound)) :
    (runner.executeSteps scenario completed world (before ++ after)).run network state =
      (⟨(), final, events⟩ : Trace σ Unit).followedBy
        ((runner.executeSteps scenario (completed + before.length) last after).run network
          final) := by
  induction h generalizing completed with
  | nil world state => rfl
  | @cons world next last state middle final events others line bound steps first rest ih =>
      have hcount : completed + ((line, bound) :: steps).length = completed + 1 + steps.length := by
        rw [List.length_cons]
        omega
      rw [List.cons_append, Runner.executeSteps, Interaction.run_bind_of_run first, hcount]
      -- a step that passes is printed only by a verbose runner
      have hnext := ih (completed + 1)
      cases hverbose : runner.verbose with
      | true =>
          simp only [Runner.passedEvents, hverbose, if_true, Interaction.run_say_bind, hnext,
            Trace.followedBy, Trace.after, List.append_assoc, List.cons_append, List.nil_append]
      | false =>
          simp only [Runner.passedEvents, hverbose, Bool.false_eq_true, if_false, hnext,
            Trace.followedBy, List.append_assoc, List.nil_append]

/-! ## The whole scenario -/

theorem executeSteps_run_of_failure {scenario : Scenario} {world left : World} {state final : σ}
    {line : Line} {bound : Bound} {error : Error} {events : List Event}
    (failure : invoked network world state bound = ⟨⟨.error error, left⟩, final, events⟩)
    (completed : Nat) (after : List (Line × Bound)) :
    (runner.executeSteps scenario completed world ((line, bound) :: after)).run network state =
      ⟨failedResult scenario (completed + 1) (some line.label) error.message, final,
        events ++ [.printed (.stepFailed line.label), .printed (.stepError error.message)]⟩ := by
  rw [Runner.executeSteps, Interaction.run_bind_of_run failure]
  rfl

/-- Nothing else becomes of a scenario than what its execution does. -/
theorem executeScenario_run_of_scenarioRun {scenario : Scenario} {state : σ}
    {trace : Trace σ ScenarioResult} (h : ScenarioRun runner network scenario state trace) :
    (runner.executeScenario scenario).run network state = trace := by
  rw [Runner.executeScenario, Interaction.run_say_bind]
  cases h with
  | unsupported marked =>
      rw [marked]
      rfl
  | unresolved supported first =>
      rw [supported]
      simp only [resolveLines_eq_error_iff.mpr first]
      rfl
  | failed supported resolved passed failure =>
      rw [supported]
      simp only [resolveLines_eq_ok_iff.mpr resolved]
      rw [executeSteps_run_of_stepsPass passed, executeSteps_run_of_failure failure, Nat.zero_add]
      rfl
  | @passed steps world final events supported resolved passed =>
      have hloop : (runner.executeSteps scenario 0 (.fresh runner.session) (steps ++ [])).run
          network state = _ := executeSteps_run_of_stepsPass passed 0 []
      rw [List.append_nil] at hloop
      rw [supported]
      simp only [resolveLines_eq_ok_iff.mpr resolved]
      rw [hloop]
      rfl

/-- Something becomes of every scenario. -/
theorem exists_scenarioRun (runner : Runner) (network : Network σ) (scenario : Scenario)
    (state : σ) : ∃ trace, ScenarioRun runner network scenario state trace := by
  cases hmarked : scenario.unsupported with
  | some reason => exact ⟨_, .unsupported hmarked⟩
  | none =>
      cases hlines : resolveLines runner.registry scenario.lines with
      | error failure => exact ⟨_, .unresolved hmarked (resolveLines_eq_error_iff.mp hlines)⟩
      | ok steps =>
          have hresolved := resolveLines_eq_ok_iff.mp hlines
          rcases stepsPass_or_fails runner network (.fresh runner.session) state steps with
            ⟨last, final, events, hpass⟩ |
            ⟨before, line, bound, after, next, middle, _, error, left, final, events, rfl, hpass,
              hfails⟩
          · exact ⟨_, .passed hmarked hresolved hpass⟩
          · exact ⟨_, .failed hmarked hresolved hpass hfails⟩

theorem scenarioRun_run (runner : Runner) (network : Network σ) (scenario : Scenario) (state : σ) :
    ScenarioRun runner network scenario state
      ((runner.executeScenario scenario).run network state) := by
  obtain ⟨trace, htrace⟩ := exists_scenarioRun runner network scenario state
  rw [executeScenario_run_of_scenarioRun htrace]
  exact htrace

/-! ## The report -/

/-- The scenario passes, and this is the world that its steps leave. -/
def PassesWith (runner : Runner) (network : Network σ) (scenario : Scenario) (state : σ)
    (world : World) : Prop :=
  scenario.unsupported = none ∧ ∃ steps final events,
    Resolves runner.registry scenario.lines steps ∧
      StepsPass runner network (.fresh runner.session) state steps world final events

/-- So many steps pass, and the next one, which is that of this line, fails. -/
def FailsAt (runner : Runner) (network : Network σ) (scenario : Scenario) (state : σ)
    (earlier : Nat) (line : Line) (error : Error) : Prop :=
  scenario.unsupported = none ∧ ∃ before bound after world left middle final passed events,
    before.length = earlier ∧
      Resolves runner.registry scenario.lines (before ++ (line, bound) :: after) ∧
      StepsPass runner network (.fresh runner.session) state before world middle passed ∧
      invoked network world middle bound = ⟨⟨.error error, left⟩, final, events⟩

/-- An error stands in the report of a scenario exactly if the scenario failed, a step that failed
was started, and nothing was sent if no step was started. -/
structure WellFormed (scenario : Scenario) (state : σ) (trace : Trace σ ScenarioResult) :
    Prop where
  name : trace.result.name = scenario.fullName
  total : trace.result.stepsTotal = scenario.lines.length
  started_le : trace.result.stepsRun ≤ trace.result.stepsTotal
  passed_iff : trace.result.passed = true ↔ trace.result.error = none
  all_started : trace.result.passed = true →
    trace.result.stepsRun = trace.result.stepsTotal ∧ trace.result.failedStep = none
  failed_started : trace.result.failedStep ≠ none → 1 ≤ trace.result.stepsRun
  silent : trace.result.stepsRun = 0 → trace.calls = [] ∧ trace.state = state

/-- A report that a scenario failed when so many steps were started. -/
structure ReportsFailure (result : ScenarioResult) (started : Nat) (failedStep : Option String)
    (error : String) : Prop where
  passed : result.passed = false
  started : result.stepsRun = started
  failedStep : result.failedStep = failedStep
  error : result.error = some error

/-- A report that a scenario passed, all of its steps having been started. -/
structure ReportsSuccess (result : ScenarioResult) (scenario : Scenario) : Prop where
  passed : result.passed = true
  started : result.stepsRun = scenario.lines.length
  failedStep : result.failedStep = none
  error : result.error = none

/-- The report of a scenario says how the scenario ended. -/
structure WellReported (runner : Runner) (network : Network σ) (scenario : Scenario) (state : σ)
    (trace : Trace σ ScenarioResult) : Prop extends WellFormed scenario state trace where
  unsupported : ∀ reason, scenario.unsupported = some reason →
    ReportsFailure trace.result 0 none reason
  unresolved : scenario.unsupported = none → ∀ line error,
    FirstUnresolved runner.registry scenario.lines line error →
      ReportsFailure trace.result 0 none error.message
  failed : ∀ earlier line error, FailsAt runner network scenario state earlier line error →
    ReportsFailure trace.result (earlier + 1) (some (line.keyword ++ " " ++ line.text))
      error.message
  passed : ∀ world, PassesWith runner network scenario state world →
    ReportsSuccess trace.result scenario

theorem eq_of_stepsPass_nil {world last : World} {state final : σ} {events : List Event}
    (h : StepsPass runner network world state [] last final events) :
    events = [] ∧ final = state := by
  cases h
  exact ⟨rfl, rfl⟩

theorem wellFormed_of_scenarioRun {scenario : Scenario} {state : σ}
    {trace : Trace σ ScenarioResult} (h : ScenarioRun runner network scenario state trace) :
    WellFormed scenario state trace := by
  cases h with
  | unsupported marked =>
      exact ⟨rfl, rfl, Nat.zero_le _, by simp [failedResult], by simp [failedResult],
        by simp [failedResult], fun _ => ⟨rfl, rfl⟩⟩
  | unresolved supported first =>
      exact ⟨rfl, rfl, Nat.zero_le _, by simp [failedResult], by simp [failedResult],
        by simp [failedResult], fun _ => ⟨rfl, rfl⟩⟩
  | failed supported resolved passed failure =>
      have hlength := length_of_resolves resolved
      rw [List.length_append, List.length_cons] at hlength
      refine ⟨rfl, rfl, ?_, by simp [failedResult], by simp [failedResult],
        fun _ => Nat.succ_le_succ (Nat.zero_le _), fun hzero => absurd hzero (Nat.succ_ne_zero _)⟩
      simp only [failedResult]
      omega
  | @passed steps world final events supported resolved passed =>
      refine ⟨rfl, rfl, Nat.le_refl _, by simp [passedResult], by simp [passedResult],
        by simp [passedResult], ?_⟩
      intro hzero
      -- no step was started although all passed, so there was none
      have hlines : steps = [] := by
        rw [← List.length_eq_zero_iff, length_of_resolves resolved]
        exact hzero
      subst hlines
      obtain ⟨rfl, rfl⟩ := eq_of_stepsPass_nil passed
      exact ⟨rfl, rfl⟩

theorem wellReported_run (runner : Runner) (network : Network σ) (scenario : Scenario)
    (state : σ) :
    WellReported runner network scenario state
      ((runner.executeScenario scenario).run network state) where
  toWellFormed := wellFormed_of_scenarioRun (scenarioRun_run runner network scenario state)
  unsupported := by
    intro reason marked
    rw [executeScenario_run_of_scenarioRun (.unsupported marked)]
    exact ⟨rfl, rfl, rfl, rfl⟩
  unresolved := by
    intro supported line error first
    rw [executeScenario_run_of_scenarioRun (.unresolved supported first)]
    exact ⟨rfl, rfl, rfl, rfl⟩
  failed := by
    rintro earlier line error ⟨supported, before, bound, after, world, left, middle, final, passed,
      events, rfl, resolved, hpassed, failure⟩
    rw [executeScenario_run_of_scenarioRun (.failed supported resolved hpassed failure)]
    exact ⟨rfl, rfl, rfl, rfl⟩
  passed := by
    rintro world ⟨supported, steps, final, events, resolved, hpassed⟩
    rw [executeScenario_run_of_scenarioRun (.passed supported resolved hpassed)]
    exact ⟨rfl, rfl, rfl, rfl⟩

/-- A scenario that is reported as passed has passed. -/
theorem passed_iff_exists_passesWith (runner : Runner) (network : Network σ)
    (scenario : Scenario) (state : σ) :
    ((runner.executeScenario scenario).run network state).result.passed = true ↔
      ∃ world, PassesWith runner network scenario state world := by
  constructor
  · intro hpassed
    have hrun := scenarioRun_run runner network scenario state
    revert hpassed hrun
    generalize (runner.executeScenario scenario).run network state = trace
    intro hpassed hrun
    cases hrun with
    | unsupported marked => cases hpassed
    | unresolved supported first => cases hpassed
    | failed supported resolved passed failure => cases hpassed
    | passed supported resolved passed => exact ⟨_, supported, _, _, _, resolved, passed⟩
  · rintro ⟨world, supported, steps, final, events, resolved, passed⟩
    rw [executeScenario_run_of_scenarioRun (.passed supported resolved passed)]
    rfl

/-- Executing a scenario does what becomes of it, and nothing else; and its report says so. -/
theorem executeScenario_run_eq_iff (runner : Runner) (network : Network σ) (scenario : Scenario)
    (state : σ) :
    (∀ trace, (runner.executeScenario scenario).run network state = trace ↔
      ScenarioRun runner network scenario state trace) ∧
    WellReported runner network scenario state
      ((runner.executeScenario scenario).run network state) := by
  refine ⟨fun trace => ⟨?_, executeScenario_run_of_scenarioRun⟩,
    wellReported_run runner network scenario state⟩
  rintro rfl
  exact scenarioRun_run runner network scenario state

end ServiceHealth.Execution
