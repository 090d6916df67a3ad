import ServiceHealth.Proofs.Http.FinalResponse
import ServiceHealth.Proofs.Step.Precedents
import ServiceHealth.Proofs.Step.Recall

/-!
# How the standard steps end

The placeholders of a pattern and the arguments that its handler takes are written in
different places.  For the standard steps they agree: a line that the standard registry
resolves never lacks an argument, and has none of the wrong sort.

`standard_step_ends` says with which errors a standard step may end after any other
standard steps.  An argument is refused for its value alone, and a step that fails has
not sent anything.
-/

namespace ServiceHealth.Step

open Http (Response)

variable {σ : Type} {registry : Registry} {network : Network σ} {session : Session}
  {situation : Situation σ}

/-- A step is refused for the value of an argument. -/
inductive Demand.Refuses (context : Context) : Demand → ArgumentFault → Prop
  | negativeCount {count : Int} {request : Http.Request} (hcount : count < 0) :
      Refuses context (.together count request) (.negativeCount count)
  /-- The status is looked at only if a response is recorded. -/
  | notStatus {expected : Int} {response : Response}
      (hresponse : context.get? responseKey = some (.outcome (.answered response)))
      (hexpected : ¬ (100 ≤ expected ∧ expected ≤ 599)) :
      Refuses context (.status expected) (.notStatus expected)

/-- The handler reads the context and does nothing else. -/
def Handler.IsCheck (handler : Handler) : Prop :=
  ∃ verdict, handler = .check verdict

/-- How a step ends that is invoked in a situation. -/
structure Ends (network : Network σ) (situation : Situation σ) (step : Bound) : Prop where
  /-- No argument is missing or of the wrong sort. -/
  agrees : ∀ index, ∀ fault ∈ [ArgumentFault.missing index, .notText index, .notNumber index],
    (situation.invoke network step).result.verdict ≠ .error (.stepArgument fault)
  refused_iff : ∀ fault,
    (situation.invoke network step).result.verdict = .error (.stepArgument fault) ↔
      step.demand.Refuses situation.context fault
  /-- A step fails for an argument, for what a check says, or because nothing is recorded. -/
  error : ∀ error, (situation.invoke network step).result.verdict = .error error →
    (∃ fault, error = .stepArgument fault) ∨ (∃ reason, error = .assertion reason) ∨
      ∃ key, error = .missingPrecedent key
  goesOn : ∀ error, (situation.invoke network step).result.verdict = .error error →
    error.endsRun = false
  /-- A step that fails has sent nothing, and leaves everything as it was. -/
  unsent : ∀ error, (situation.invoke network step).result.verdict = .error error →
    (situation.invoke network step).events = [] ∧ situation.after network step = situation
  check_iff : step.definition.handler.IsCheck ↔ step.definition.kind ≠ .event
  /-- A check sends nothing, whether it fails or not, and leaves everything as it was. -/
  check : step.definition.handler.IsCheck →
    (situation.invoke network step).events = [] ∧ situation.after network step = situation

/-! ## Steps that send nothing -/

/-- A step that only has a verdict. -/
theorem invoke_of_verdict {step : Bound} {verdict : Except Error Unit}
    (h : step.definition.handler.invoke situation.toWorld step.arguments =
      pure ⟨verdict, situation.toWorld⟩) :
    situation.invoke network step = ⟨⟨verdict, situation.toWorld⟩, situation.state, []⟩ := by
  rw [Situation.invoke, h]
  rfl

theorem quiet_of_invoke {step : Bound} {verdict : Except Error Unit}
    (h : situation.invoke network step = ⟨⟨verdict, situation.toWorld⟩, situation.state, []⟩) :
    (situation.invoke network step).events = [] ∧ situation.after network step = situation := by
  rw [Situation.after, h]
  exact ⟨rfl, rfl⟩

theorem quiet_of_isCheck {step : Bound} (hcheck : step.definition.handler.IsCheck) :
    (situation.invoke network step).events = [] ∧ situation.after network step = situation := by
  obtain ⟨verdict, hverdict⟩ := hcheck
  have hinvoke : step.definition.handler.invoke situation.toWorld step.arguments =
      pure ⟨verdict situation.toWorld step.arguments, situation.toWorld⟩ := by
    rw [hverdict, Handler.invoke]
  exact quiet_of_invoke (invoke_of_verdict hinvoke)

theorem invoke_of_error_verdict {step : Bound} {verdict : Except Error Unit}
    (h : step.definition.handler.invoke situation.toWorld step.arguments =
      pure ⟨verdict, situation.toWorld⟩)
    {error : Error} (herror : (situation.invoke network step).result.verdict = .error error) :
    situation.invoke network step =
      ⟨⟨.error error, situation.toWorld⟩, situation.state, []⟩ := by
  have hinvoke : situation.invoke network step = _ := invoke_of_verdict h
  rw [hinvoke] at herror
  rw [hinvoke, ← herror]

/-- What a step asks for is sent only if nothing can fail any more. -/
theorem invoke_of_error (hstandard : Registry.standard = .ok registry) {step : Bound}
    (hbinds : registry.Binds step) {error : Error}
    (herror : (situation.invoke network step).result.verdict = .error error) :
    situation.invoke network step =
      ⟨⟨.error error, situation.toWorld⟩, situation.state, []⟩ := by
  have hmeets := meets_of_binds hstandard hbinds
  generalize step.demand = demand at hmeets
  cases demand with
  | nothing => exact invoke_of_error_verdict (hmeets situation.toWorld) herror
  | single request =>
      rw [Situation.invoke, hmeets situation.toWorld, Standard.record,
        Interaction.run_bind] at herror
      cases herror
  | together count request =>
      have hinvoke := hmeets situation.toWorld
      by_cases hcount : 0 ≤ count
      · rw [if_pos hcount] at hinvoke
        rw [Situation.invoke, hinvoke, Standard.recordBatch, Interaction.run_bind] at herror
        cases herror
      · rw [if_neg hcount] at hinvoke
        exact invoke_of_error_verdict hinvoke herror
  | response =>
      obtain ⟨check, -, hinvoke⟩ := hmeets
      exact invoke_of_error_verdict (hinvoke situation.toWorld) herror
  | status expected =>
      obtain ⟨check, -, hinvoke⟩ := hmeets
      exact invoke_of_error_verdict (hinvoke situation.toWorld) herror
  | batch =>
      obtain ⟨check, -, hinvoke⟩ := hmeets
      exact invoke_of_error_verdict (hinvoke situation.toWorld) herror

/-! ## Steps that send one request -/

/-- A step that asks for one request sends the call that this becomes, and records what comes
back. -/
theorem invoke_of_single (hstandard : Registry.standard = .ok registry) {step : Bound}
    (hbinds : registry.Binds step) {request : Http.Request}
    (hdemand : step.demand = .single request) {call : Http.Call} (situation : Situation σ)
    (hbuild : situation.session.client.build request situation.session.client.timeoutSecs =
      .ok call) :
    situation.invoke network step =
      ⟨⟨.ok (), situation.recording responseKey (.outcome
          ((network.exchange situation.state call).1.outcome
            (situation.session.client.url request.path)))⟩,
        (network.exchange situation.state call).2, [.sent call]⟩ := by
  have hmeets := meets_of_binds hstandard hbinds
  rw [hdemand] at hmeets
  rw [Situation.invoke, hmeets situation.toWorld, Standard.record, Http.Client.request,
    Interaction.run_bind, Http.Client.run_requestWithin_of_ok hbuild]
  rfl

/-- A line that gives a path for a GET asks for this one request. -/
theorem exists_get_of_argumentsIn? (hstandard : Registry.standard = .ok registry)
    (hseparated : registry.IsSeparated) {text path : String}
    (h : argumentsIn? "I make a GET request to \x7bstring\x7d" text = some [.text path]) :
    ∃ step : Bound, (∀ keyword, registry.resolve .event keyword text = .ok step) ∧
      step.demand = .single (Http.Request.get path) := by
  obtain ⟨get, hget, hresolve⟩ := exists_resolve_of_argumentsIn? hstandard hseparated
    (List.mem_of_getElem? (show standardSteps[2]? = some _ from rfl)) h
  refine ⟨⟨get, [.text path]⟩, hresolve, ?_⟩
  rw [Bound.demand, hget.kind, hget.source]
  rfl

theorem exists_ping (hstandard : Registry.standard = .ok registry)
    (hseparated : registry.IsSeparated) :
    ∃ step : Bound,
      (∀ keyword, registry.resolve .event keyword "I make a GET request to \"/ping\"" = .ok step) ∧
        step.demand = .single (Http.Request.get "/ping") :=
  exists_get_of_argumentsIn? hstandard hseparated
    (show argumentsIn? "I make a GET request to \x7bstring\x7d"
      "I make a GET request to \"/ping\"" = some [.text "/ping"] by decide +kernel)

/-! ## Checks of the standard registry -/

theorem isCheck_iff_sort {handler : Handler} : handler.IsCheck ↔ handler.sort = "Check" := by
  cases handler with
  | check verdict => exact ⟨fun _ => rfl, fun _ => ⟨verdict, rfl⟩⟩
  | action perform =>
      constructor
      · rintro ⟨verdict, hverdict⟩
        cases hverdict
      · intro hsort
        have hdistinct : "Action" ≠ "Check" := by decide
        exact absurd hsort hdistinct

theorem sort_standardSteps :
    ∀ entry ∈ standardSteps, entry.2.2.sort = "Check" ↔ entry.1 ≠ .event := by
  decide +kernel

/-- The lines that are about events are those that send; all others are checked. -/
theorem isCheck_iff_of_binds (hstandard : Registry.standard = .ok registry) {step : Bound}
    (hbinds : registry.Binds step) :
    step.definition.handler.IsCheck ↔ step.definition.kind ≠ .event := by
  obtain ⟨kind, keyword, text, hresolve⟩ := hbinds
  obtain ⟨entry, hmem, hentry⟩ :=
    exists_standardStep_of_mem hstandard (mem_definitions_of_resolve hresolve)
  rw [isCheck_iff_sort, hentry.handler, hentry.kind]
  exact sort_standardSteps entry hmem

/-! ## Refused arguments -/

theorem latestResponse_eq_ok_iff {context : Context} {response : Response} :
    context.latestResponse = .ok response ↔
      context.get? responseKey = some (.outcome (.answered response)) :=
  Context.response_eq_ok_iff

theorem statusOf_eq_error {expected : Int} (h : ¬ (100 ≤ expected ∧ expected ≤ 599)) :
    statusOf expected = .error (.stepArgument (.notStatus expected)) := by
  rw [statusOf, if_neg h]

/-- A step of the standard registry refuses an argument if and only if its demand does. -/
theorem invoke_eq_stepArgument_iff (hstandard : Registry.standard = .ok registry) {step : Bound}
    (hbinds : registry.Binds step) (hsorted : situation.context.IsSorted)
    {fault : ArgumentFault} :
    (situation.invoke network step).result.verdict = .error (.stepArgument fault) ↔
      step.demand.Refuses situation.context fault := by
  constructor
  · intro herror
    have hfails := failsWith_of_invoke hstandard hbinds hsorted herror
    generalize step.demand = demand at hfails
    cases hfails with
    | notStatus hresponse hexpected =>
        exact .notStatus (latestResponse_eq_ok_iff.mp hresponse) hexpected
    | negativeCount hcount => exact .negativeCount hcount
  · intro hrefuses
    have hmeets := meets_of_binds hstandard hbinds
    generalize step.demand = demand at hmeets hrefuses
    unfold Situation.invoke
    cases hrefuses with
    | negativeCount hcount =>
        rw [hmeets situation.toWorld, if_neg (by omega)]
        rfl
    | notStatus hresponse hexpected =>
        obtain ⟨check, -, hinvoke⟩ := hmeets
        rw [hinvoke situation.toWorld, latestResponse_eq_ok_iff.mpr hresponse,
          statusOf_eq_error hexpected]
        rfl

/-! ## Every ending -/

theorem Demand.FailsWith.error {context : Context} {demand : Demand} {error : Error}
    (h : demand.FailsWith context error) :
    (∃ fault, error = .stepArgument fault) ∨ (∃ reason, error = .assertion reason) ∨
      ∃ key, error = .missingPrecedent key := by
  cases h with
  | missing hreads hnone => exact .inr (.inr ⟨_, rfl⟩)
  | assertion hreads hsome hreason => exact .inr (.inl ⟨_, rfl⟩)
  | notStatus hresponse hexpected => exact .inl ⟨_, rfl⟩
  | negativeCount hcount => exact .inl ⟨_, rfl⟩

/-- After any standard steps, the next one fails for the value of an argument, for what is
recorded or for what is not, and never for want of an argument; and the run goes on. -/
theorem standard_step_ends (hstandard : Registry.standard = .ok registry) (network : Network σ)
    (session : Session) (state : σ) (steps : List Bound)
    (hsteps : ∀ step ∈ steps, registry.Binds step) {step : Bound} (hbinds : registry.Binds step) :
    Ends network ((Situation.fresh session state).afterAll network steps) step := by
  have hsorted : ((Situation.fresh session state).afterAll network steps).context.IsSorted :=
    isSorted_afterAll hstandard network hsteps isSorted_empty
  refine ⟨?_, ?_, ?_, ?_, ?_, ?_, ?_⟩
  · -- a refusal is about a value, so it is none of these faults
    intro index fault hfault herror
    have hrefuses := (invoke_eq_stepArgument_iff hstandard hbinds hsorted).mp herror
    generalize step.demand = demand at hrefuses
    cases hrefuses with
    | negativeCount hcount => simp at hfault
    | notStatus hresponse hexpected => simp at hfault
  · exact fun fault => invoke_eq_stepArgument_iff hstandard hbinds hsorted
  · intro error herror
    exact (failsWith_of_invoke hstandard hbinds hsorted herror).error
  · intro error herror
    rcases (failsWith_of_invoke hstandard hbinds hsorted herror).error with
      ⟨fault, rfl⟩ | ⟨reason, rfl⟩ | ⟨key, rfl⟩
    · rfl
    · rfl
    · rfl
  · exact fun error herror => quiet_of_invoke (invoke_of_error hstandard hbinds herror)
  · exact isCheck_iff_of_binds hstandard hbinds
  · exact quiet_of_isCheck

/-- After a request, one health check less than none is refused. -/
theorem standard_step_ends_of_negative_count :
    ∃ registry get checks, Registry.standard = .ok registry ∧
      registry.Binds get ∧ registry.Binds checks ∧
      checks.demand = .together (-1) (Standard.checkCall "application/json") ∧
      let network := Network.ofService (.counting fun call => .error (.broken call.url))
      let session : Session := ⟨{}⟩
      let situation := (Situation.fresh session 0).afterAll network [get]
      Ends network situation checks ∧
        (situation.invoke network checks).result.verdict =
          .error (.stepArgument (.negativeCount (-1))) := by
  obtain ⟨registry, hstandard, hseparated⟩ := standard_isSeparated
  obtain ⟨get, hget, hbinds⟩ := exists_binds_of_argumentsIn? hstandard hseparated
    (List.mem_of_getElem? (show standardSteps[2]? = some _ from rfl))
    (show argumentsIn? "I make a GET request to \x7bstring\x7d"
      "I make a GET request to \"/ping\"" = some [.text "/ping"] by decide +kernel)
  obtain ⟨checks, hchecks, hbinds'⟩ := exists_binds_of_argumentsIn? hstandard hseparated
    (List.mem_of_getElem? (show standardSteps[19]? = some _ from rfl))
    (show argumentsIn? "I make \x7bint\x7d concurrent health check requests"
      "I make -1 concurrent health check requests" = some [.integer (-1)] by decide +kernel)
  have hdemand : Bound.demand ⟨checks, [.integer (-1)]⟩ =
      .together (-1) (Standard.checkCall "application/json") := by
    rw [Bound.demand, hchecks.kind, hchecks.source]
    rfl
  refine ⟨registry, _, _, hstandard, hbinds, hbinds', hdemand, ?_⟩
  intro network session situation
  have hends : Ends network situation ⟨checks, [.integer (-1)]⟩ := by
    refine standard_step_ends hstandard network session 0 _ ?_ hbinds'
    intro step hstep
    rw [List.mem_singleton.mp hstep]
    exact hbinds
  refine ⟨hends, (hends.refused_iff _).mpr ?_⟩
  rw [hdemand]
  exact .negativeCount (by decide)

end ServiceHealth.Step
