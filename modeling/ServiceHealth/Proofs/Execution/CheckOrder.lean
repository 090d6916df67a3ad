import ServiceHealth.Proofs.Execution.ScenarioRun
import ServiceHealth.Proofs.Step.Endings

/-!
# The order of checks

A check reads what its scenario has recorded and changes nothing, so checks that follow each
other all see the same records.  Whether all of them are satisfied then depends on which
checks there are, and neither on their order nor on how often one is repeated.

`checks_rearranged` compares two scenarios that differ in this way in the middle.

* **Before the checks** the two scenarios execute the same steps from the same start.
* **Among the checks** either all of them are satisfied, in both scenarios
  (`stepsPass_checks_iff`), or each scenario fails at its first one that is not
  (`fails_among_checks`).  This may be another one, but nothing is sent in the meantime.
* **After the checks** both go on with the records and the network that they had before
  them.
-/

namespace ServiceHealth.Execution

open Feature (Line Scenario)
open Report (ScenarioResult)
open Step (Bound Registry World)

variable {σ : Type} {registry : Registry} {runner : Runner} {network : Network σ}

/-! ## Lines that are put in another order -/

/-- What becomes of a list if it is put in another order, or an entry of it is repeated right
after itself, any number of times. -/
inductive Rearranged {α : Type} : List α → List α → Prop
  | reordered {entries others : List α} (perm : entries.Perm others) : Rearranged entries others
  | repeated (front : List α) (entry : α) (back : List α) :
      Rearranged (front ++ entry :: back) (front ++ entry :: entry :: back)
  | trans {entries others last : List α} (first : Rearranged entries others)
      (second : Rearranged others last) : Rearranged entries last

theorem Rearranged.mem_iff {α : Type} {entries others : List α} (h : Rearranged entries others)
    (entry : α) : entry ∈ entries ↔ entry ∈ others := by
  induction h with
  | reordered perm => exact perm.mem_iff
  | repeated front other back => simp
  | trans _ _ first second => exact first.trans second

/-! ## Checks, one after another -/

/-- The step is a check that is satisfied in a world. -/
def SatisfiedIn (world : World) (bound : Bound) : Prop :=
  ∃ verdict, bound.definition.handler = .check verdict ∧ verdict world bound.arguments = .ok ()

theorem invoked_of_satisfiedIn {world : World} {bound : Bound} (h : SatisfiedIn world bound)
    (network : Network σ) (state : σ) :
    invoked network world state bound = ⟨⟨.ok (), world⟩, state, []⟩ := by
  obtain ⟨verdict, hhandler, hverdict⟩ := h
  rw [invoked, hhandler, Step.Handler.invoke, hverdict]
  rfl

/-- A check that is not satisfied fails, and nothing happens. -/
theorem invoked_of_not_satisfiedIn {world : World} {bound : Bound}
    (hcheck : bound.definition.handler.IsCheck) (h : ¬ SatisfiedIn world bound)
    (network : Network σ) (state : σ) :
    ∃ error, invoked network world state bound = ⟨⟨.error error, world⟩, state, []⟩ := by
  obtain ⟨verdict, hhandler⟩ := hcheck
  cases hverdict : verdict world bound.arguments with
  | ok result => exact absurd ⟨verdict, hhandler, hverdict⟩ h
  | error error =>
      refine ⟨error, ?_⟩
      rw [invoked, hhandler, Step.Handler.invoke, hverdict]
      rfl

/-- The events with which checks that pass are reported. -/
def Runner.allPassedEvents (runner : Runner) (steps : List (Line × Bound)) : List Event :=
  steps.flatMap fun step => runner.passedEvents step.1

theorem traffic_allPassedEvents (runner : Runner) (steps : List (Line × Bound)) :
    Event.traffic (runner.allPassedEvents steps) = [] := by
  induction steps with
  | nil => rfl
  | cons step steps ih =>
      have hstep : Event.traffic (runner.passedEvents step.1) = [] := by
        unfold Runner.passedEvents
        split <;> rfl
      rw [Runner.allPassedEvents, List.flatMap_cons, Event.traffic_append, hstep,
        List.nil_append]
      exact ih

/-- Checks pass if each of them is satisfied by what was recorded before the first one. -/
theorem stepsPass_checks_iff {steps : List (Line × Bound)}
    (hchecks : ∀ step ∈ steps, step.2.definition.handler.IsCheck) {world last : World}
    {state final : σ} {events : List Event} :
    StepsPass runner network world state steps last final events ↔
      (∀ step ∈ steps, SatisfiedIn world step.2) ∧ last = world ∧ final = state ∧
        events = runner.allPassedEvents steps := by
  induction steps generalizing events with
  | nil =>
      constructor
      · intro h
        cases h
        exact ⟨by simp, rfl, rfl, rfl⟩
      · rintro ⟨-, rfl, rfl, rfl⟩
        exact .nil last final
  | cons step steps ih =>
      obtain ⟨line, bound⟩ := step
      rw [List.forall_mem_cons] at hchecks
      rw [List.forall_mem_cons]
      constructor
      · intro h
        cases h with
        | cons invoked rest =>
            have hsatisfied : SatisfiedIn world bound := by
              by_contra hnot
              obtain ⟨error, herror⟩ := invoked_of_not_satisfiedIn hchecks.1 hnot network state
              rw [herror] at invoked
              cases invoked
            rw [invoked_of_satisfiedIn hsatisfied] at invoked
            cases invoked
            obtain ⟨hsteps, rfl, rfl, rfl⟩ := (ih hchecks.2).mp rest
            exact ⟨⟨hsatisfied, hsteps⟩, rfl, rfl, rfl⟩
      · rintro ⟨⟨hsatisfied, hsteps⟩, rfl, rfl, rfl⟩
        have hinvoked := invoked_of_satisfiedIn hsatisfied network final
        exact .cons hinvoked ((ih hchecks.2).mpr ⟨hsteps, rfl, rfl, rfl⟩)

/-- If a check is not satisfied, one of them is the first to fail, and nothing has happened. -/
theorem fails_among_checks {steps : List (Line × Bound)}
    (hchecks : ∀ step ∈ steps, step.2.definition.handler.IsCheck) {world : World}
    {failing : Line × Bound} (hmem : failing ∈ steps) (hfails : ¬ SatisfiedIn world failing.2)
    (runner : Runner) (network : Network σ) (state : σ) :
    ∃ front line bound back error, steps = front ++ (line, bound) :: back ∧
      StepsPass runner network world state front world state (runner.allPassedEvents front) ∧
      invoked network world state bound = ⟨⟨.error error, world⟩, state, []⟩ := by
  rcases stepsPass_or_fails runner network world state steps with
    ⟨last, final, events, hpass⟩ |
    ⟨front, line, bound, back, next, middle, earlier, error, left, final, events, rfl, hpass,
      hfailure⟩
  · exact absurd (((stepsPass_checks_iff hchecks).mp hpass).1 failing hmem) hfails
  · rw [List.forall_mem_append, List.forall_mem_cons] at hchecks
    obtain ⟨-, rfl, rfl, rfl⟩ := (stepsPass_checks_iff hchecks.1).mp hpass
    have hnot : ¬ SatisfiedIn next bound := by
      intro hsatisfied
      rw [invoked_of_satisfiedIn hsatisfied] at hfailure
      cases hfailure
    obtain ⟨reason, hreason⟩ := invoked_of_not_satisfiedIn hchecks.2.1 hnot network middle
    exact ⟨front, line, bound, back, reason, rfl, hpass, hreason⟩

/-! ## Two scenarios -/

/-- The scenario fails at one of so many steps behind so many others. -/
def FailsAmong (trace : Trace σ ScenarioResult) (before count : Nat) : Prop :=
  trace.result.failedStep ≠ none ∧ before < trace.result.stepsRun ∧
    trace.result.stepsRun ≤ before + count

/-- Two runs of scenarios that have so many checks, and so many others in their place, behind
so many steps: both pass or both fail, and the same is sent. -/
structure AgreeBesides (before checks others : Nat) (first second : Trace σ ScenarioResult) :
    Prop where
  passed : second.result.passed = first.result.passed
  traffic : second.traffic = first.traffic
  calls : second.calls = first.calls
  state : second.state = first.state
  /-- If one of them fails because of a check, so does the other. -/
  among_iff : FailsAmong first before checks ↔ FailsAmong second before others
  /-- If they fail because of another step, or before the first one, they do so alike. -/
  elsewhere : ¬ FailsAmong first before checks →
    second.result.failedStep = first.result.failedStep ∧ second.result.error = first.result.error

variable {first second : Trace σ ScenarioResult} {before checks others : Nat}

theorem AgreeBesides.of_among (hpassed : second.result.passed = first.result.passed)
    (htraffic : second.traffic = first.traffic) (hstate : second.state = first.state)
    (hfirst : FailsAmong first before checks) (hsecond : FailsAmong second before others) :
    AgreeBesides before checks others first second where
  passed := hpassed
  traffic := htraffic
  calls := Trace.calls_eq_of_traffic htraffic
  state := hstate
  among_iff := ⟨fun _ => hsecond, fun _ => hfirst⟩
  elsewhere := fun hnot => absurd hfirst hnot

theorem AgreeBesides.of_elsewhere (hpassed : second.result.passed = first.result.passed)
    (htraffic : second.traffic = first.traffic) (hstate : second.state = first.state)
    (hstep : second.result.failedStep = first.result.failedStep)
    (herror : second.result.error = first.result.error)
    (hfirst : ¬ FailsAmong first before checks) (hsecond : ¬ FailsAmong second before others) :
    AgreeBesides before checks others first second where
  passed := hpassed
  traffic := htraffic
  calls := Trace.calls_eq_of_traffic htraffic
  state := hstate
  among_iff := ⟨fun h => absurd h hfirst, fun h => absurd h hsecond⟩
  elsewhere := fun _ => ⟨hstep, herror⟩

theorem not_failsAmong_of_le (h : first.result.stepsRun ≤ before) :
    ¬ FailsAmong first before checks :=
  fun hamong => absurd hamong.2.1 (Nat.not_lt.mpr h)

theorem not_failsAmong_of_lt (h : before + checks < first.result.stepsRun) :
    ¬ FailsAmong first before checks :=
  fun hamong => absurd hamong.2.2 (Nat.not_le.mpr h)

theorem not_failsAmong_of_none (h : first.result.failedStep = none) :
    ¬ FailsAmong first before checks :=
  fun hamong => hamong.1 h

section Steps

variable {scenario other : Scenario} {state : σ} {front checks others back : List (Line × Bound)}

/-- A scenario that fails because of a check has sent what the steps before the checks send. -/
theorem exists_scenarioRun_failing_among (hsupported : scenario.unsupported = none)
    (hresolved : Resolves runner.registry scenario.lines (front ++ checks ++ back))
    (hchecks : ∀ step ∈ checks, step.2.definition.handler.IsCheck) {world : World}
    {middle : σ} {events : List Event}
    (hfront : StepsPass runner network (.fresh runner.session) state front world middle events)
    (hfails : ∃ step ∈ checks, ¬ SatisfiedIn world step.2) :
    ∃ trace, ScenarioRun runner network scenario state trace ∧ trace.result.passed = false ∧
      trace.traffic = Event.traffic events ∧ trace.state = middle ∧
      FailsAmong trace front.length checks.length := by
  obtain ⟨failing, hmem, hnot⟩ := hfails
  obtain ⟨satisfied, line, bound, rest, error, rfl, hsatisfied, hfailure⟩ :=
    fails_among_checks hchecks hmem hnot runner network middle
  have hsplit : Resolves runner.registry scenario.lines
      ((front ++ satisfied) ++ (line, bound) :: (rest ++ back)) := by
    simpa only [List.append_assoc, List.cons_append] using hresolved
  have hpassed := stepsPass_append_iff.mpr ⟨_, _, _, _, rfl, hfront, hsatisfied⟩
  refine ⟨_, .failed hsupported hsplit hpassed hfailure, rfl, ?_, rfl, ?_⟩
  · simp [Trace.traffic, traffic_allPassedEvents]
  · refine ⟨Option.some_ne_none _, ?_⟩
    simp only [failedResult, List.length_append, List.length_cons]
    omega

/-- A scenario with checks passes if the steps before them pass, what is recorded then satisfies
each of the checks, and the steps behind them pass from there. -/
theorem passesWith_iff_of_checks
    (hresolved : Resolves runner.registry scenario.lines (front ++ checks ++ back))
    (hchecks : ∀ step ∈ checks, step.2.definition.handler.IsCheck) (network : Network σ)
    (state : σ) (world : World) :
    PassesWith runner network scenario state world ↔
      scenario.unsupported = none ∧ ∃ next middle earlier,
        StepsPass runner network (.fresh runner.session) state front next middle earlier ∧
          (∀ step ∈ checks, SatisfiedIn next step.2) ∧
          ∃ final later, StepsPass runner network next middle back world final later := by
  constructor
  · rintro ⟨hsupported, steps, final, events, hother, hpassed⟩
    obtain rfl := resolves_unique hresolved hother
    obtain ⟨last, reached, events, later, -, hmiddle, hback⟩ := stepsPass_append_iff.mp hpassed
    obtain ⟨next, middle, earlier, marks, -, hfront, hmarks⟩ := stepsPass_append_iff.mp hmiddle
    obtain ⟨hsatisfied, rfl, rfl, -⟩ := (stepsPass_checks_iff hchecks).mp hmarks
    exact ⟨hsupported, last, reached, earlier, hfront, hsatisfied, final, later, hback⟩
  · rintro ⟨hsupported, next, middle, earlier, hfront, hsatisfied, final, later, hback⟩
    have hmarks : StepsPass runner network next middle checks next middle
        (runner.allPassedEvents checks) :=
      (stepsPass_checks_iff hchecks).mpr ⟨hsatisfied, rfl, rfl, rfl⟩
    have hmiddle := stepsPass_append_iff.mpr ⟨_, _, _, _, rfl, hfront, hmarks⟩
    have hpassed := stepsPass_append_iff.mpr ⟨_, _, _, _, rfl, hmiddle, hback⟩
    exact ⟨hsupported, _, _, _, hresolved, hpassed⟩

variable (hsupported : scenario.unsupported = none) (hotherSupported : other.unsupported = none)
  (hresolved : Resolves runner.registry scenario.lines (front ++ checks ++ back))
  (hotherResolved : Resolves runner.registry other.lines (front ++ others ++ back))

include hsupported hotherSupported hresolved hotherResolved

/-- Scenarios that fail before their checks do so alike. -/
theorem exists_agreeing_runs_of_failure {passed rest : List (Line × Bound)} {line : Line}
    {bound : Bound} {world left : World} {middle final : σ} {earlier events : List Event}
    {error : Error} (hsplit : front = passed ++ (line, bound) :: rest)
    (hpassed : StepsPass runner network (.fresh runner.session) state passed world middle earlier)
    (hfailure : invoked network world middle bound = ⟨⟨.error error, left⟩, final, events⟩) :
    ∃ first second, ScenarioRun runner network scenario state first ∧
      ScenarioRun runner network other state second ∧
      AgreeBesides front.length checks.length others.length first second := by
  subst hsplit
  rw [List.append_assoc, List.append_assoc, List.cons_append] at hresolved hotherResolved
  refine ⟨_, _, .failed hsupported hresolved hpassed hfailure,
    .failed hotherSupported hotherResolved hpassed hfailure, ?_⟩
  have hlength : passed.length + 1 ≤ (passed ++ (line, bound) :: rest).length := by
    simp only [List.length_append, List.length_cons]
    omega
  exact .of_elsewhere rfl rfl rfl rfl rfl (not_failsAmong_of_le hlength)
    (not_failsAmong_of_le hlength)

/-- Scenarios whose checks are satisfied go on alike behind them. -/
theorem exists_agreeing_runs_of_satisfied {world : World} {middle : σ}
    {earlier marks otherMarks : List Event}
    (hchecks : StepsPass runner network (.fresh runner.session) state (front ++ checks) world middle
      (earlier ++ marks))
    (hothers : StepsPass runner network (.fresh runner.session) state (front ++ others) world middle
      (earlier ++ otherMarks))
    (hmarks : Event.traffic marks = []) (hotherMarks : Event.traffic otherMarks = []) :
    ∃ first second, ScenarioRun runner network scenario state first ∧
      ScenarioRun runner network other state second ∧
      AgreeBesides front.length checks.length others.length first second := by
  rcases stepsPass_or_fails runner network world middle back with
    ⟨last, final, events, hback⟩ |
    ⟨passed, line, bound, rest, last, reached, events, error, left, final, failing, rfl, hpassed,
      hfailure⟩
  · have hfirst := stepsPass_append_iff.mpr ⟨_, _, _, _, rfl, hchecks, hback⟩
    have hsecond := stepsPass_append_iff.mpr ⟨_, _, _, _, rfl, hothers, hback⟩
    refine ⟨_, _, .passed hsupported hresolved hfirst,
      .passed hotherSupported hotherResolved hsecond, ?_⟩
    refine .of_elsewhere rfl ?_ rfl rfl rfl (not_failsAmong_of_none rfl)
      (not_failsAmong_of_none rfl)
    simp [Trace.traffic, hmarks, hotherMarks]
  · rw [← List.append_assoc] at hresolved hotherResolved
    have hfirst := stepsPass_append_iff.mpr ⟨_, _, _, _, rfl, hchecks, hpassed⟩
    have hsecond := stepsPass_append_iff.mpr ⟨_, _, _, _, rfl, hothers, hpassed⟩
    refine ⟨_, _, .failed hsupported hresolved hfirst hfailure,
      .failed hotherSupported hotherResolved hsecond hfailure, ?_⟩
    refine .of_elsewhere rfl ?_ rfl rfl rfl (not_failsAmong_of_lt ?_) (not_failsAmong_of_lt ?_)
    · simp [Trace.traffic, hmarks, hotherMarks]
    · simp only [failedResult, List.length_append]
      omega
    · simp only [failedResult, List.length_append]
      omega

/-- Scenarios that have the same checks in the same place run alike. -/
theorem exists_agreeing_runs (hchecks : ∀ step ∈ checks, step.2.definition.handler.IsCheck)
    (hsame : ∀ step, step ∈ checks ↔ step ∈ others) (network : Network σ) (state : σ) :
    ∃ first second, ScenarioRun runner network scenario state first ∧
      ScenarioRun runner network other state second ∧
      AgreeBesides front.length checks.length others.length first second := by
  have hotherChecks : ∀ step ∈ others, step.2.definition.handler.IsCheck :=
    fun step hstep => hchecks step ((hsame step).mpr hstep)
  rcases stepsPass_or_fails runner network (.fresh runner.session) state front with
    ⟨world, middle, events, hfront⟩ |
    ⟨passed, line, bound, rest, world, middle, events, error, left, final, failing, hsplit,
      hpassed, hfailure⟩
  · by_cases hsatisfied : ∀ step ∈ checks, SatisfiedIn world step.2
    · have hotherSatisfied : ∀ step ∈ others, SatisfiedIn world step.2 :=
        fun step hstep => hsatisfied step ((hsame step).mpr hstep)
      have hfirst : StepsPass runner network world middle checks world middle
          (runner.allPassedEvents checks) :=
        (stepsPass_checks_iff hchecks).mpr ⟨hsatisfied, rfl, rfl, rfl⟩
      have hsecond : StepsPass runner network world middle others world middle
          (runner.allPassedEvents others) :=
        (stepsPass_checks_iff hotherChecks).mpr ⟨hotherSatisfied, rfl, rfl, rfl⟩
      exact exists_agreeing_runs_of_satisfied hsupported hotherSupported hresolved hotherResolved
        (stepsPass_append_iff.mpr ⟨_, _, _, _, rfl, hfront, hfirst⟩)
        (stepsPass_append_iff.mpr ⟨_, _, _, _, rfl, hfront, hsecond⟩)
        (traffic_allPassedEvents runner checks) (traffic_allPassedEvents runner others)
    · -- the check that is not satisfied is among the others too
      push Not at hsatisfied
      obtain ⟨failing, hmem, hnot⟩ := hsatisfied
      obtain ⟨first, hfirst, hpassed, htraffic, hstate, hamong⟩ :=
        exists_scenarioRun_failing_among hsupported hresolved hchecks hfront ⟨failing, hmem, hnot⟩
      obtain ⟨second, hsecond, hotherPassed, hotherTraffic, hotherState, hotherAmong⟩ :=
        exists_scenarioRun_failing_among hotherSupported hotherResolved hotherChecks hfront
          ⟨failing, (hsame failing).mp hmem, hnot⟩
      exact ⟨first, second, hfirst, hsecond,
        .of_among (hotherPassed.trans hpassed.symm) (hotherTraffic.trans htraffic.symm)
          (hotherState.trans hstate.symm) hamong hotherAmong⟩
  · exact exists_agreeing_runs_of_failure hsupported hotherSupported hresolved hotherResolved
      hsplit hpassed hfailure

end Steps

/-! ## Checks that are rearranged -/

/-- The scenario with these lines in place of its own. -/
def withLines (scenario : Scenario) (lines : List Line) : Scenario :=
  { scenario with lines := lines }

/-- Lines that are checks resolve to the same steps, whatever their order is. -/
theorem exists_same_steps {checks others : List Line} {steps : List (Line × Bound)}
    (hrearranged : Rearranged checks others) (hresolved : Resolves registry checks steps) :
    ∃ otherSteps, Resolves registry others otherSteps ∧
      ∀ step, step ∈ steps ↔ step ∈ otherSteps := by
  obtain ⟨otherSteps, hothers⟩ : ∃ otherSteps, Resolves registry others otherSteps := by
    apply exists_resolves
    intro line hline
    have hcheck : line ∈ checks := (hrearranged.mem_iff line).mpr hline
    rw [← hresolved.1] at hcheck
    obtain ⟨step, hstep, rfl⟩ := List.mem_map.mp hcheck
    exact ⟨step.2, hresolved.2 step hstep⟩
  refine ⟨otherSteps, hothers, ?_⟩
  intro step
  rw [mem_iff_of_resolves hresolved, mem_iff_of_resolves hothers, hrearranged.mem_iff]

theorem isCheck_of_resolves {checks : List Line} {steps : List (Line × Bound)}
    (hresolved : Resolves registry checks steps)
    (hchecks : ∀ line ∈ checks, ∃ bound, ResolvesTo registry line bound ∧
      bound.definition.handler.IsCheck) :
    ∀ step ∈ steps, step.2.definition.handler.IsCheck := by
  intro step hstep
  obtain ⟨hline, hresolves⟩ := (mem_iff_of_resolves hresolved step).mp hstep
  obtain ⟨bound, hbound, hcheck⟩ := hchecks step.1 hline
  have hsame : bound = step.2 := Except.ok.inj (hbound.symm.trans hresolves)
  rwa [← hsame]

/-- Scenarios that differ in their lines, and have the same checks in the same place, run alike,
also when they cannot be executed at all. -/
theorem agreeBesides_of_same_steps (scenario : Scenario) {lines others : List Line}
    {front checks otherChecks back : List (Line × Bound)}
    (hresolved : Resolves runner.registry lines (front ++ checks ++ back))
    (hotherResolved : Resolves runner.registry others (front ++ otherChecks ++ back))
    (hchecks : ∀ step ∈ checks, step.2.definition.handler.IsCheck)
    (hsame : ∀ step, step ∈ checks ↔ step ∈ otherChecks) (network : Network σ) (state : σ) :
    AgreeBesides front.length checks.length otherChecks.length
      ((runner.executeScenario (withLines scenario lines)).run network state)
      ((runner.executeScenario (withLines scenario others)).run network state) := by
  cases hmarked : scenario.unsupported with
  | none =>
      have hfirst : (withLines scenario lines).unsupported = none := hmarked
      have hsecond : (withLines scenario others).unsupported = none := hmarked
      obtain ⟨trace, other, htrace, hother, hagree⟩ :=
        exists_agreeing_runs hfirst hsecond hresolved hotherResolved hchecks hsame network state
      rw [executeScenario_run_of_scenarioRun htrace, executeScenario_run_of_scenarioRun hother]
      exact hagree
  | some reason =>
      have hfirst : ScenarioRun runner network (withLines scenario lines) state _ :=
        .unsupported hmarked
      have hsecond : ScenarioRun runner network (withLines scenario others) state _ :=
        .unsupported hmarked
      rw [executeScenario_run_of_scenarioRun hfirst, executeScenario_run_of_scenarioRun hsecond]
      exact .of_elsewhere rfl rfl rfl rfl rfl (not_failsAmong_of_none rfl)
        (not_failsAmong_of_none rfl)

/-- If checks that follow each other are put in another order, or one is repeated right after
itself, the scenario passes as before, sends the same, and leaves the same records if it passes.
If it fails because of one of them, it does so because of one of them as before. -/
theorem checks_rearranged (scenario : Scenario) {front checks others back : List Line}
    (hrearranged : Rearranged checks others)
    (hresolves : ∃ steps, Resolves runner.registry (front ++ checks ++ back) steps)
    (hchecks : ∀ line ∈ checks, ∃ bound, ResolvesTo runner.registry line bound ∧
      bound.definition.handler.IsCheck) (network : Network σ) (state : σ) :
    let first := withLines scenario (front ++ checks ++ back)
    let second := withLines scenario (front ++ others ++ back)
    AgreeBesides front.length checks.length others.length
        ((runner.executeScenario first).run network state)
        ((runner.executeScenario second).run network state) ∧
      (((runner.executeScenario first).run network state).result.passed = true ↔
        ∃ world, PassesWith runner network first state world) ∧
      ∀ world, PassesWith runner network first state world ↔
        PassesWith runner network second state world := by
  intro first second
  obtain ⟨steps, hsteps⟩ := hresolves
  obtain ⟨earlier, backSteps, rfl, hearlier, hback⟩ := resolves_append_iff.mp hsteps
  obtain ⟨frontSteps, checkSteps, rfl, hfront, hchecked⟩ := resolves_append_iff.mp hearlier
  obtain ⟨otherSteps, hothers, hsame⟩ := exists_same_steps hrearranged hchecked
  have hisCheck := isCheck_of_resolves hchecked hchecks
  have hotherIsCheck : ∀ step ∈ otherSteps, step.2.definition.handler.IsCheck :=
    fun step hstep => hisCheck step ((hsame step).mpr hstep)
  have hotherSteps : Resolves runner.registry second.lines
      (frontSteps ++ otherSteps ++ backSteps) :=
    resolves_append_iff.mpr ⟨_, _, rfl, resolves_append_iff.mpr ⟨_, _, rfl, hfront, hothers⟩, hback⟩
  refine ⟨?_, passed_iff_exists_passesWith runner network first state, ?_⟩
  · rw [← length_of_resolves hfront, ← length_of_resolves hchecked, ← length_of_resolves hothers]
    exact agreeBesides_of_same_steps scenario hsteps hotherSteps hisCheck hsame network state
  · intro world
    rw [passesWith_iff_of_checks hsteps hisCheck,
      passesWith_iff_of_checks hotherSteps hotherIsCheck]
    simp only [hsame]
    rfl

/-- Between two requests, two checks are put in the other order and one of them is repeated. -/
theorem checks_rearranged_of_two_checks :
    ∃ registry, Registry.standard = .ok registry ∧
      let runner : Runner := ⟨⟨{}⟩, registry, true⟩
      let network := Network.ofService (.counting fun _ => .ok ⟨200, [], []⟩)
      let get : Line := ⟨.event, "When", "I make a GET request to \"/ping\"", 3⟩
      let status : Line := ⟨.expectation, "Then", "the HTTP status should be 200", 4⟩
      let body : Line := ⟨.expectation, "And", "the response should not be empty", 5⟩
      let scenario : Scenario := ⟨"Ping", none, 2, [], none⟩
      Rearranged [status, body] [body, body, status] ∧
        (∃ steps, Resolves runner.registry ([get] ++ [status, body] ++ [get]) steps) ∧
        (∀ line ∈ [status, body], ∃ bound, ResolvesTo runner.registry line bound ∧
          bound.definition.handler.IsCheck) ∧
        AgreeBesides 1 2 3
          ((runner.executeScenario
            (withLines scenario ([get] ++ [status, body] ++ [get]))).run network 0)
          ((runner.executeScenario
            (withLines scenario ([get] ++ [body, body, status] ++ [get]))).run network 0) := by
  obtain ⟨registry, hstandard, hseparated⟩ := Step.standard_isSeparated
  refine ⟨registry, hstandard, ?_⟩
  intro runner network get status body scenario
  obtain ⟨ping, hping, -⟩ := Step.exists_ping hstandard hseparated
  obtain ⟨hasStatus, hstatus, hresolveStatus⟩ := Step.exists_resolve_of_argumentsIn? hstandard
    hseparated (List.mem_of_getElem? (show Step.standardSteps[7]? = some _ from rfl))
    (show Step.argumentsIn? "the HTTP status should be \x7bint\x7d"
      "the HTTP status should be 200" = some [.integer 200] by decide +kernel)
  obtain ⟨hasBody, hbody, hresolveBody⟩ := Step.exists_resolve_of_argumentsIn? hstandard
    hseparated (List.mem_of_getElem? (show Step.standardSteps[21]? = some _ from rfl))
    (show Step.argumentsIn? "the response should not be empty"
      "the response should not be empty" = some [] by decide +kernel)
  have hget : ResolvesTo registry get ping := hping "When"
  have hstatusLine : ResolvesTo registry status ⟨hasStatus, [.integer 200]⟩ := hresolveStatus "Then"
  have hbodyLine : ResolvesTo registry body ⟨hasBody, []⟩ := hresolveBody "And"
  have hrearranged : Rearranged [status, body] [body, body, status] :=
    .trans (.reordered (.swap body status [])) (.repeated [] body [status])
  have hresolves : ∃ steps, Resolves runner.registry ([get] ++ [status, body] ++ [get]) steps :=
    ⟨_, resolves_cons hget (resolves_cons hstatusLine (resolves_cons hbodyLine
      (resolves_cons hget (resolves_nil _))))⟩
  have hchecks : ∀ line ∈ [status, body], ∃ bound, ResolvesTo runner.registry line bound ∧
      bound.definition.handler.IsCheck := by
    rw [List.forall_mem_cons, List.forall_mem_singleton]
    exact ⟨⟨_, hstatusLine, _, hstatus.handler⟩, ⟨_, hbodyLine, _, hbody.handler⟩⟩
  exact ⟨hrearranged, hresolves, hchecks,
    (checks_rearranged scenario hrearranged hresolves hchecks network 0).1⟩

end ServiceHealth.Execution
