import ServiceHealth.Proofs.Error.Wording
import ServiceHealth.Proofs.Execution.ScenarioRun
import ServiceHealth.Proofs.Step.Binding
import ServiceHealth.Proofs.Step.Endings

/-!
# When an argument is refused

All lines of a scenario are resolved before the first of its steps is executed.  An integer that
cannot be read is noticed then, and nothing has happened yet.  Whether a number of requests is
negative and whether a number is a status is left to the steps: they notice it when it is their
turn, after everything that the steps before them have sent.

`executeScenario_argumentError_iff` states for the standard registry that a scenario fails because
of an argument in one of these two ways, and what is left of it in each.

* **Early.**  `RefusedEarly` lists what leaves a scenario unstarted.
* **Late.**  `RefusedLate` is about the first step that fails.  `afterAll_of_stepsPass` leads from
  the steps before it to the world in which it is invoked, and there `invoked_eq_stepArgument_iff`
  says what it refuses.
-/

namespace ServiceHealth

/-- A number of requests is not negative, and a number that stands for a status is one. -/
def Step.Demand.IsSound : Step.Demand → Prop
  | .together count _ => 0 ≤ count
  | .status expected => 100 ≤ expected ∧ expected ≤ 599
  | _ => True

theorem Step.Demand.Refuses.not_isSound {context : Step.Context} {demand : Step.Demand}
    {fault : ArgumentFault} (h : demand.Refuses context fault) : ¬ demand.IsSound := by
  cases h with
  | negativeCount hcount => exact Int.not_le.mpr hcount
  | notStatus hresponse hexpected => exact hexpected

namespace Execution

open Feature (Line Scenario)
open Report (ScenarioResult)
open Step (Bound Demand Registry Session Situation World)

variable {σ : Type} {runner : Runner} {network : Network σ} {scenario : Scenario} {state : σ}
  {trace : Trace σ ScenarioResult}

/-! ## Reports about arguments -/

/-- The scenario has failed, and its report is about an argument. -/
def HasArgumentError (trace : Trace σ ScenarioResult) : Prop :=
  ∃ text, trace.result.error = some text ∧ Error.IsArgumentError text

/-- No step was started and nothing was sent. -/
structure Unstarted (state : σ) (trace : Trace σ ScenarioResult) : Prop where
  stepsRun : trace.result.stepsRun = 0
  failedStep : trace.result.failedStep = none
  calls : trace.calls = []
  state : trace.state = state

/-- An argument is refused before anything is executed. -/
inductive RefusedEarly (runner : Runner) (scenario : Scenario) (state : σ) :
    Trace σ ScenarioResult → Prop
  /-- The scenario cannot be executed, and the reason reads like that. -/
  | marked {reason : String} (marked : scenario.unsupported = some reason)
      (wording : Error.IsArgumentError reason) :
      RefusedEarly runner scenario state
        ⟨failedResult scenario 0 none reason, state,
          [.printed (.scenario scenario.fullName), .printed (.unsupported reason)]⟩
  /-- An integer in the first line that does not resolve cannot be read. -/
  | unreadable {line : Line} {piece : String} (supported : scenario.unsupported = none)
      (first : FirstUnresolved runner.registry scenario.lines line
        (.stepArgument (.notInteger piece))) :
      RefusedEarly runner scenario state
        ⟨failedResult scenario 0 none (Error.stepArgument (.notInteger piece)).message, state,
          [.printed (.scenario scenario.fullName),
            .printed (.unresolved line.number (Error.stepArgument (.notInteger piece)).message)]⟩

/-- An argument is refused when it is the turn of its step: everything was resolved, the steps
before it have passed, and it adds nothing to what they have left. -/
inductive RefusedLate (runner : Runner) (network : Network σ) (scenario : Scenario) (state : σ) :
    Trace σ ScenarioResult → Prop
  | refused {before after : List (Line × Bound)} {line : Line} {bound : Bound} {world : World}
      {middle : σ} {events : List Event} {fault : ArgumentFault}
      (supported : scenario.unsupported = none)
      (resolved : Resolves runner.registry scenario.lines (before ++ (line, bound) :: after))
      (passed : StepsPass runner network (.fresh runner.session) state before world middle events)
      (refuses : bound.demand.Refuses world.context fault) :
      RefusedLate runner network scenario state
        ⟨failedResult scenario (before.length + 1) (some line.label)
            (Error.stepArgument fault).message, middle,
          .printed (.scenario scenario.fullName) :: (events ++
            [.printed (.stepFailed line.label),
              .printed (.stepError (Error.stepArgument fault).message)])⟩

/-! ## Early -/

theorem RefusedEarly.unstarted (h : RefusedEarly runner scenario state trace) :
    Unstarted state trace := by
  cases h with
  | marked marked wording => exact ⟨rfl, rfl, rfl, rfl⟩
  | unreadable supported first => exact ⟨rfl, rfl, rfl, rfl⟩

theorem RefusedEarly.hasArgumentError (h : RefusedEarly runner scenario state trace) :
    HasArgumentError trace := by
  cases h with
  | marked marked wording => exact ⟨_, rfl, wording⟩
  | unreadable supported first => exact ⟨_, rfl, Error.isArgumentError_message_iff.mpr ⟨_, rfl⟩⟩

theorem RefusedEarly.scenarioRun (h : RefusedEarly runner scenario state trace) :
    ScenarioRun runner network scenario state trace := by
  cases h with
  | marked marked wording => exact .unsupported marked
  | unreadable supported first => exact .unresolved supported first

/-- Lines that do not resolve for an argument have an integer that cannot be read. -/
theorem FirstUnresolved.eq_notInteger {registry : Registry} {lines : List Line} {line : Line}
    {fault : ArgumentFault} (h : FirstUnresolved registry lines line (.stepArgument fault)) :
    ∃ piece, fault = .notInteger piece := by
  obtain ⟨before, after, -, -, hresolve⟩ := h
  have hresolution : Step.Resolution _ (Text.trim line.keyword) (Text.trim line.text)
      (registry.resolve line.kind line.keyword line.text) := Step.resolution_resolve
  rw [hresolve] at hresolution
  cases hresolution with
  | unreadable only longest first => exact ⟨_, rfl⟩

/-! ## Late -/

theorem RefusedLate.hasArgumentError (h : RefusedLate runner network scenario state trace) :
    HasArgumentError trace := by
  cases h with
  | refused supported resolved passed refuses =>
      exact ⟨_, rfl, Error.isArgumentError_message_iff.mpr ⟨_, rfl⟩⟩

theorem RefusedLate.not_unstarted (h : RefusedLate runner network scenario state trace) :
    ¬ Unstarted state trace := by
  intro hunstarted
  cases h with
  | refused supported resolved passed refuses =>
      exact absurd hunstarted.stepsRun (Nat.succ_ne_zero _)

theorem RefusedLate.exists_not_isSound (h : RefusedLate runner network scenario state trace) :
    ∃ steps, Resolves runner.registry scenario.lines steps ∧
      ∃ step ∈ steps, ¬ step.2.demand.IsSound := by
  cases h with
  | refused supported resolved passed refuses =>
      exact ⟨_, resolved, _, List.mem_append_right _ List.mem_cons_self, refuses.not_isSound⟩

/-- Steps that pass lead from one situation to another. -/
theorem afterAll_of_stepsPass {world last : World} {state final : σ}
    {steps : List (Line × Bound)} {events : List Event}
    (h : StepsPass runner network world state steps last final events) :
    (⟨world, state⟩ : Situation σ).afterAll network (steps.map Prod.snd) = ⟨last, final⟩ := by
  induction h with
  | nil world state => rfl
  | @cons world next last state middle final events others line bound steps first rest ih =>
      have hafter : Situation.after network ⟨world, state⟩ bound = ⟨next, middle⟩ := by
        have hinvoke : Situation.invoke network ⟨world, state⟩ bound =
            ⟨⟨.ok (), next⟩, middle, events⟩ := first
        rw [Situation.after, hinvoke]
      rw [List.map_cons, Situation.afterAll, List.foldl_cons, hafter]
      exact ih

theorem binds_of_resolves {registry : Registry} {lines : List Line} {steps : List (Line × Bound)}
    (resolved : Resolves registry lines steps) {step : Line × Bound} (h : step ∈ steps) :
    registry.Binds step.2 :=
  ⟨_, _, _, resolved.2 step h⟩

section Standard

variable (hstandard : Registry.standard = .ok runner.registry)

include hstandard

theorem isSorted_of_stepsPass {steps : List (Line × Bound)} {world : World} {final : σ}
    {events : List Event} (hbinds : ∀ step ∈ steps, runner.registry.Binds step.2)
    (passed : StepsPass runner network (.fresh runner.session) state steps world final events) :
    world.context.IsSorted := by
  have hsteps : ∀ step ∈ steps.map Prod.snd, runner.registry.Binds step := by
    intro step hstep
    obtain ⟨pair, hpair, rfl⟩ := List.mem_map.mp hstep
    exact hbinds pair hpair
  have hall : ((Situation.fresh runner.session state).afterAll network
      (steps.map Prod.snd)).context.IsSorted :=
    Step.isSorted_afterAll hstandard network hsteps Step.isSorted_empty
  rw [Situation.fresh, afterAll_of_stepsPass passed] at hall
  exact hall

/-- A step that fails leaves everything as it was, and nothing has happened. -/
theorem invoke_eq_error_iff (situation : Situation σ) {bound : Bound}
    (hbinds : runner.registry.Binds bound) {error : Error} {left : World} {final : σ}
    {events : List Event} :
    situation.invoke network bound = ⟨⟨.error error, left⟩, final, events⟩ ↔
      (situation.invoke network bound).result.verdict = .error error ∧
        left = situation.toWorld ∧ final = situation.state ∧ events = [] := by
  constructor
  · intro hinvoke
    have hresult : (situation.invoke network bound).result.verdict = .error error := by
      rw [hinvoke]
    rw [Step.invoke_of_error hstandard hbinds hresult] at hinvoke
    cases hinvoke
    exact ⟨hresult, rfl, rfl, rfl⟩
  · rintro ⟨hresult, rfl, rfl, rfl⟩
    exact Step.invoke_of_error hstandard hbinds hresult

/-- After steps that pass, a step refuses an argument if and only if its demand does, and it leaves
nothing then. -/
theorem invoked_eq_stepArgument_iff {before after : List (Line × Bound)} {line : Line}
    {bound : Bound} {world left : World} {middle final : σ} {events others : List Event}
    {fault : ArgumentFault}
    (resolved : Resolves runner.registry scenario.lines (before ++ (line, bound) :: after))
    (passed : StepsPass runner network (.fresh runner.session) state before world middle events) :
    invoked network world middle bound =
        ⟨⟨.error (.stepArgument fault), left⟩, final, others⟩ ↔
      bound.demand.Refuses world.context fault ∧ left = world ∧ final = middle ∧ others = [] := by
  have hbound : runner.registry.Binds bound :=
    binds_of_resolves resolved (List.mem_append_right _ List.mem_cons_self)
  have hsorted : world.context.IsSorted :=
    isSorted_of_stepsPass hstandard
      (fun step hstep => binds_of_resolves resolved (List.mem_append_left _ hstep)) passed
  let situation : Situation σ := ⟨world, middle⟩
  have hrefuses : (situation.invoke network bound).result.verdict =
      .error (.stepArgument fault) ↔ bound.demand.Refuses world.context fault :=
    Step.invoke_eq_stepArgument_iff hstandard hbound hsorted
  rw [← hrefuses]
  exact invoke_eq_error_iff hstandard situation hbound

theorem RefusedLate.scenarioRun (h : RefusedLate runner network scenario state trace) :
    ScenarioRun runner network scenario state trace := by
  cases h with
  | refused supported resolved passed refuses =>
      have hinvoked := (invoked_eq_stepArgument_iff hstandard resolved passed).mpr
        ⟨refuses, rfl, rfl, rfl⟩
      exact .failed supported resolved passed hinvoked

/-- Whatever becomes of a scenario, a report about an argument has one of the two reasons. -/
theorem refused_of_scenarioRun (hrun : ScenarioRun runner network scenario state trace)
    (hargument : HasArgumentError trace) :
    RefusedEarly runner scenario state trace ∨ RefusedLate runner network scenario state trace := by
  obtain ⟨text, htext, hwording⟩ := hargument
  cases hrun with
  | unsupported marked =>
      obtain rfl := Option.some.inj htext
      exact .inl (.marked marked hwording)
  | unresolved supported first =>
      obtain rfl := Option.some.inj htext
      obtain ⟨fault, rfl⟩ := Error.isArgumentError_message_iff.mp hwording
      obtain ⟨piece, rfl⟩ := first.eq_notInteger
      exact .inl (.unreadable supported first)
  | failed supported resolved passed failure =>
      obtain rfl := Option.some.inj htext
      obtain ⟨fault, rfl⟩ := Error.isArgumentError_message_iff.mp hwording
      obtain ⟨hrefuses, -, rfl, rfl⟩ :=
        (invoked_eq_stepArgument_iff hstandard resolved passed).mp failure
      exact .inr (.refused supported resolved passed hrefuses)
  | passed supported resolved passed => cases htext

theorem RefusedLate.run_eq (h : RefusedLate runner network scenario state trace) :
    (runner.executeScenario scenario).run network state = trace :=
  executeScenario_run_of_scenarioRun (h.scenarioRun hstandard)

theorem refused_of_hasArgumentError (network : Network σ) (scenario : Scenario) (state : σ)
    (h : HasArgumentError ((runner.executeScenario scenario).run network state)) :
    RefusedEarly runner scenario state ((runner.executeScenario scenario).run network state) ∨
      RefusedLate runner network scenario state
        ((runner.executeScenario scenario).run network state) :=
  refused_of_scenarioRun hstandard (scenarioRun_run runner network scenario state) h

/-- Which reports about an argument there are. -/
theorem run_eq_and_hasArgumentError_iff :
    (runner.executeScenario scenario).run network state = trace ∧ HasArgumentError trace ↔
      RefusedEarly runner scenario state trace ∨
        RefusedLate runner network scenario state trace := by
  constructor
  · rintro ⟨rfl, hargument⟩
    exact refused_of_hasArgumentError hstandard network scenario state hargument
  · rintro (hearly | hlate)
    · exact ⟨executeScenario_run_of_scenarioRun hearly.scenarioRun, hearly.hasArgumentError⟩
    · exact ⟨hlate.run_eq hstandard, hlate.hasArgumentError⟩

theorem unstarted_iff_refusedEarly
    (h : HasArgumentError ((runner.executeScenario scenario).run network state)) :
    Unstarted state ((runner.executeScenario scenario).run network state) ↔
      RefusedEarly runner scenario state
        ((runner.executeScenario scenario).run network state) := by
  constructor
  · intro hunstarted
    rcases refused_of_hasArgumentError hstandard network scenario state h with hearly | hlate
    · exact hearly
    · exact absurd hunstarted hlate.not_unstarted
  · exact RefusedEarly.unstarted

theorem unstarted_of_forall_not_refusedLate
    (hnever : ∀ other, ¬ RefusedLate runner network scenario state other)
    (h : HasArgumentError ((runner.executeScenario scenario).run network state)) :
    Unstarted state ((runner.executeScenario scenario).run network state) := by
  rcases refused_of_hasArgumentError hstandard network scenario state h with hearly | hlate
  · exact hearly.unstarted
  · exact absurd hlate (hnever _)

/-- The report of a scenario is about an argument if one is refused early or late, and what is left
then is certain.  Nothing was started exactly if it was early; and it never is late if the lines
have no negative numbers of requests and no numbers that should be a status and are none. -/
theorem executeScenario_argumentError_iff (network : Network σ) (scenario : Scenario) (state : σ) :
    let trace := (runner.executeScenario scenario).run network state
    (∀ other, trace = other ∧ HasArgumentError other ↔
      RefusedEarly runner scenario state other ∨ RefusedLate runner network scenario state other) ∧
    (HasArgumentError trace →
      (Unstarted state trace ↔ RefusedEarly runner scenario state trace)) ∧
    ((HasArgumentError trace → Unstarted state trace) ↔
      ∀ other, ¬ RefusedLate runner network scenario state other) ∧
    ((∀ steps, Resolves runner.registry scenario.lines steps →
      ∀ step ∈ steps, step.2.demand.IsSound) → HasArgumentError trace → Unstarted state trace) := by
  intro trace
  refine ⟨?_, unstarted_iff_refusedEarly hstandard, ?_, ?_⟩
  · intro other
    exact run_eq_and_hasArgumentError_iff hstandard
  · constructor
    · intro hclaim other hother
      obtain rfl : trace = other := hother.run_eq hstandard
      exact hother.not_unstarted (hclaim hother.hasArgumentError)
    · exact unstarted_of_forall_not_refusedLate hstandard
  · intro hsound
    apply unstarted_of_forall_not_refusedLate hstandard
    intro other hother
    obtain ⟨steps, hsteps, step, hstep, hnot⟩ := hother.exists_not_isSound
    exact hnot (hsound steps hsteps step hstep)

end Standard

/-- A line that asks for a request. -/
def pingLine : Line :=
  ⟨.event, "When", "I make a GET request to \"/ping\"", 3⟩

/-- A line that asks for one health check less than none. -/
def negativeLine : Line :=
  ⟨.event, "When", "I make -1 concurrent health check requests", 4⟩

theorem exists_resolvesTo_negativeLine {registry : Registry}
    (hstandard : Registry.standard = .ok registry) (hseparated : registry.IsSeparated) :
    ∃ bound, ResolvesTo registry negativeLine bound ∧
      bound.demand = .together (-1) (Step.Standard.checkCall "application/json") := by
  obtain ⟨checks, hchecks, hresolve⟩ := Step.exists_resolve_of_argumentsIn? hstandard hseparated
    (List.mem_of_getElem? (show Step.standardSteps[19]? = some _ from rfl))
    (show Step.argumentsIn? "I make \x7bint\x7d concurrent health check requests"
      "I make -1 concurrent health check requests" = some [.integer (-1)] by decide +kernel)
  refine ⟨⟨checks, [.integer (-1)]⟩, hresolve "When", ?_⟩
  rw [Bound.demand, hchecks.kind, hchecks.source]
  rfl

/-- A scenario that starts with such a line is refused late. -/
theorem executeScenario_argumentError_iff_of_negativeLine :
    ∃ registry, Registry.standard = .ok registry ∧
      let network := Network.ofService (.counting fun call => .error (.broken call.url))
      let trace := ((⟨⟨{}⟩, registry, false⟩ : Runner).executeScenario
        ⟨"Burst", none, 2, [negativeLine], none⟩).run network 0
      HasArgumentError trace ∧ ¬ Unstarted 0 trace := by
  obtain ⟨registry, hstandard, hseparated⟩ := Step.standard_isSeparated
  obtain ⟨checks, hchecks, hdemand⟩ := exists_resolvesTo_negativeLine hstandard hseparated
  refine ⟨registry, hstandard, ?_⟩
  intro network trace
  let runner : Runner := ⟨⟨{}⟩, registry, false⟩
  let scenario : Scenario := ⟨"Burst", none, 2, [negativeLine], none⟩
  have hresolved : Resolves registry scenario.lines ([] ++ [(negativeLine, checks)]) :=
    resolves_cons hchecks (resolves_nil _)
  have hpassed : StepsPass runner network (.fresh runner.session) 0 [] (.fresh runner.session) 0
      [] := .nil _ _
  have hrefuses : checks.demand.Refuses (World.fresh runner.session).context
      (.negativeCount (-1)) := by
    rw [hdemand]
    exact .negativeCount (by decide)
  have hlate : RefusedLate runner network scenario 0 _ :=
    .refused rfl hresolved hpassed hrefuses
  obtain ⟨htrace, hargument⟩ : trace = _ ∧ HasArgumentError _ :=
    ((executeScenario_argumentError_iff hstandard network scenario 0).1 _).mpr (.inr hlate)
  rw [htrace]
  exact ⟨hargument, hlate.not_unstarted⟩

/-- When the second line is refused a request was sent, and that line is reported as the one that
failed. -/
theorem executeScenario_sends_before_refusal :
    ∃ registry, Registry.standard = .ok registry ∧
      let network := Network.ofService (.counting fun call => .error (.broken call.url))
      let scenario : Scenario := ⟨"Burst", none, 2, [pingLine, negativeLine], none⟩
      let trace := ((⟨⟨Settings.withHost {} "[::1]"⟩, registry, false⟩ : Runner).executeScenario
        scenario).run network 0
      trace.result = failedResult scenario 2
          (some "When I make -1 concurrent health check requests")
          "Invalid step argument: request count must be non-negative, got -1" ∧
        trace.calls.length = 1 := by
  obtain ⟨registry, hstandard, hseparated⟩ := Step.standard_isSeparated
  obtain ⟨checks, hchecks, hdemand⟩ := exists_resolvesTo_negativeLine hstandard hseparated
  obtain ⟨ping, hresolve, hsingle⟩ := Step.exists_ping hstandard hseparated
  refine ⟨registry, hstandard, ?_⟩
  intro network scenario trace
  let session : Session := ⟨Settings.withHost {} "[::1]"⟩
  let runner : Runner := ⟨session, registry, false⟩
  have hping : ResolvesTo registry pingLine ping := hresolve "When"
  have hresolved : Resolves registry scenario.lines
      ([(pingLine, ping)] ++ [(negativeLine, checks)]) :=
    resolves_cons hping (resolves_cons hchecks (resolves_nil _))
  obtain ⟨call, hbuild⟩ : ∃ call, session.client.build (Http.Request.get "/ping")
      session.client.timeoutSecs = .ok call :=
    Http.Client.exists_call_of_isSome (by decide +kernel)
  have hsent : invoked network (.fresh session) 0 ping = _ :=
    Step.invoke_of_single hstandard ⟨_, _, _, hping⟩ hsingle (.fresh session 0) hbuild
  have hpassed : StepsPass runner network (.fresh runner.session) 0 [(pingLine, ping)] _ _ _ :=
    .cons hsent (.nil _ _)
  have hrefuses : ∀ context, checks.demand.Refuses context (.negativeCount (-1)) := by
    intro context
    rw [hdemand]
    exact .negativeCount (by decide)
  have hlate : RefusedLate runner network scenario 0 _ :=
    .refused rfl hresolved hpassed (hrefuses _)
  have htrace : trace = _ := hlate.run_eq hstandard
  rw [htrace]
  exact ⟨rfl, rfl⟩

end Execution

end ServiceHealth
