import ServiceHealth.Proofs.Interaction.Steadiness
import ServiceHealth.Proofs.Step.Ambiguity
import ServiceHealth.Proofs.Step.Records

/-!
# What the standard steps find recorded

A check of the standard registry reads the record that an earlier step of its scenario
has made.  `failsWith_of_invoke` lists the errors with which a standard step fails
where every record is of the sort that belongs under its key; a wrong sort is not among
them.  `standard_run_records` puts this together with what the steps record: it
describes the context after any run of standard steps, and how the next step finds it.
-/

namespace ServiceHealth.Step

open Http (Batch Outcome Response)

variable {σ : Type} {registry : Registry} {network : Network σ} {session : Session}
  {situation : Situation σ}

/-! ## Reading a record -/

/-- A verdict that reads what is recorded under a key: if there is nothing it says so, and
otherwise it is positive or a failed assertion. -/
def ReadsUnder {α : Type} (context : Context) (key : String) (verdict : Except Error α) : Prop :=
  (context.get? key = none ∧ verdict = .error (.missingPrecedent key)) ∨
    (context.get? key ≠ none ∧ Asserts verdict)

theorem readsUnder_latestResponse {context : Context} (h : context.IsSorted) :
    ReadsUnder context responseKey context.latestResponse := by
  unfold Context.latestResponse Context.response Context.outcome
  cases hget : context.get? responseKey with
  | none => exact .inl ⟨hget, rfl⟩
  | some record =>
      obtain ⟨outcome, rfl⟩ := h.response hget
      exact .inr ⟨by rw [hget]; exact Option.some_ne_none _, asserts_require outcome⟩

theorem readsUnder_latestBatch {context : Context} (h : context.IsSorted) :
    ReadsUnder context batchKey context.latestBatch := by
  unfold Context.latestBatch Context.batch
  cases hget : context.get? batchKey with
  | none => exact .inl ⟨hget, rfl⟩
  | some record =>
      obtain ⟨batch, rfl⟩ := h.batch hget
      exact .inr ⟨by rw [hget]; exact Option.some_ne_none _, .ok batch⟩

/-! ## The errors of a step -/

/-- The errors with which a step that asks for something may fail in a context. -/
inductive Demand.FailsWith (context : Context) : Demand → Error → Prop
  /-- Nothing is recorded under the key that is read. -/
  | missing {demand : Demand} {key : String} (hreads : demand.reads = some key)
      (hnone : context.get? key = none) : FailsWith context demand (.missingPrecedent key)
  /-- What is recorded is not as it should be. -/
  | assertion {demand : Demand} {key : String} {reason : Assertion}
      (hreads : demand.reads = some key) (hsome : context.get? key ≠ none)
      (hreason : ¬ reason.IsAboutRecord) : FailsWith context demand (.assertion reason)
  /-- There is a response, but no status to compare it with. -/
  | notStatus {expected : Int} {response : Response}
      (hresponse : context.latestResponse = .ok response)
      (hexpected : ¬ (100 ≤ expected ∧ expected ≤ 599)) :
      FailsWith context (.status expected) (.stepArgument (.notStatus expected))
  | negativeCount {count : Int} {request : Http.Request} (hcount : count < 0) :
      FailsWith context (.together count request) (.stepArgument (.negativeCount count))

theorem eq_of_statusOf {expected : Int} {error : Error} (h : statusOf expected = .error error) :
    ¬ (100 ≤ expected ∧ expected ≤ 599) ∧ error = .stepArgument (.notStatus expected) := by
  unfold statusOf at h
  by_cases hexpected : 100 ≤ expected ∧ expected ≤ 599
  · rw [if_pos hexpected] at h
    cases h
  · rw [if_neg hexpected] at h
    injection h with heq
    exact ⟨hexpected, heq.symm⟩

/-- A verdict fails where a record is read, or in what follows. -/
theorem ReadsUnder.failsWith {α : Type} {context : Context} {key : String}
    {verdict : Except Error α} (h : ReadsUnder context key verdict) {demand : Demand}
    (hreads : demand.reads = some key) {next : α → Except Error Unit} {error : Error}
    (herror : verdict >>= next = .error error)
    (hnext : ∀ value, verdict = .ok value → context.get? key ≠ none →
      next value = .error error → demand.FailsWith context error) :
    demand.FailsWith context error := by
  rcases h with ⟨hnone, rfl⟩ | ⟨hsome, hasserts⟩
  · injection herror with heq
    subst heq
    exact .missing hreads hnone
  · cases hasserts with
    | ok value => exact hnext value rfl hsome herror
    | fail reason hreason =>
        injection herror with heq
        subst heq
        exact .assertion hreads hsome hreason

/-- A step of the standard registry fails with nothing but what its demand allows. -/
theorem failsWith_of_invoke (hstandard : Registry.standard = .ok registry) {step : Bound}
    (hbinds : registry.Binds step) (hsorted : situation.context.IsSorted)
    {error : Error} (herror : (situation.invoke network step).result.verdict = .error error) :
    step.demand.FailsWith situation.context error := by
  have hmeets := meets_of_binds hstandard hbinds
  have hresponse := readsUnder_latestResponse hsorted
  have hbatch := readsUnder_latestBatch hsorted
  unfold Situation.invoke at herror
  generalize step.demand = demand at hmeets
  cases demand with
  | nothing =>
      rw [hmeets situation.toWorld] at herror
      cases herror
  | single request =>
      rw [hmeets situation.toWorld, Standard.record, Interaction.run_bind] at herror
      cases herror
  | together count request =>
      rw [hmeets situation.toWorld] at herror
      by_cases hcount : 0 ≤ count
      · rw [if_pos hcount, Standard.recordBatch, Interaction.run_bind] at herror
        cases herror
      · rw [if_neg hcount] at herror
        injection herror with heq
        subst heq
        exact .negativeCount (by omega)
  | response =>
      obtain ⟨check, hcheck, hinvoke⟩ := hmeets
      rw [hinvoke situation.toWorld] at herror
      refine hresponse.failsWith rfl herror fun response _ hsome hfails => ?_
      obtain ⟨reason, rfl, hreason⟩ := (hcheck response).error hfails
      exact .assertion rfl hsome hreason
  | status expected =>
      obtain ⟨check, hcheck, hinvoke⟩ := hmeets
      rw [hinvoke situation.toWorld] at herror
      refine hresponse.failsWith rfl herror
        fun response hlatest hsome hfails => ?_
      -- the status is looked at once there is a response
      cases hstatus : statusOf expected with
      | error fault =>
          obtain ⟨hexpected, rfl⟩ := eq_of_statusOf hstatus
          rw [hstatus] at hfails
          injection hfails with heq
          subst heq
          exact .notStatus hlatest hexpected
      | ok status =>
          rw [hstatus] at hfails
          obtain ⟨reason, rfl, hreason⟩ := (hcheck response status).error hfails
          exact .assertion rfl hsome hreason
  | batch =>
      obtain ⟨check, hcheck, hinvoke⟩ := hmeets
      rw [hinvoke situation.toWorld] at herror
      refine hbatch.failsWith rfl herror fun batch _ hsome hfails => ?_
      obtain ⟨reason, rfl, hreason⟩ := (hcheck batch).error hfails
      exact .assertion rfl hsome hreason

/-- A verdict that reads a record which is not there fails for that reason. -/
theorem ReadsUnder.missing {α : Type} {context : Context} {key : String}
    {verdict : Except Error α} (h : ReadsUnder context key verdict)
    (hnone : context.get? key = none) : verdict = .error (.missingPrecedent key) := by
  rcases h with ⟨-, hmissing⟩ | ⟨hsome, -⟩
  · exact hmissing
  · exact absurd hnone hsome

/-- A step of the standard registry misses a record if and only if it reads one that is
not there. -/
theorem invoke_eq_missingPrecedent_iff (hstandard : Registry.standard = .ok registry)
    {step : Bound} (hbinds : registry.Binds step) (hsorted : situation.context.IsSorted)
    {key : String} :
    (situation.invoke network step).result.verdict = .error (.missingPrecedent key) ↔
      step.demand.reads = some key ∧ situation.context.get? key = none := by
  constructor
  · intro herror
    have hfails := failsWith_of_invoke hstandard hbinds hsorted herror
    generalize step.demand = demand at hfails
    cases hfails with
    | missing hreads hnone => exact ⟨hreads, hnone⟩
  · rintro ⟨hreads, hnone⟩
    have hmeets := meets_of_binds hstandard hbinds
    unfold Situation.invoke
    generalize step.demand = demand at hmeets hreads
    cases demand with
    | response =>
        obtain ⟨check, -, hinvoke⟩ := hmeets
        obtain rfl := Option.some.inj hreads
        rw [hinvoke situation.toWorld,
          (readsUnder_latestResponse hsorted).missing hnone]
        rfl
    | status expected =>
        obtain ⟨check, -, hinvoke⟩ := hmeets
        obtain rfl := Option.some.inj hreads
        rw [hinvoke situation.toWorld,
          (readsUnder_latestResponse hsorted).missing hnone]
        rfl
    | batch =>
        obtain ⟨check, -, hinvoke⟩ := hmeets
        obtain rfl := Option.some.inj hreads
        rw [hinvoke situation.toWorld,
          (readsUnder_latestBatch hsorted).missing hnone]
        rfl
    | _ => cases hreads

/-! ## Lines of the standard registry -/

/-- The arguments that a line gives to a source, if that is a pattern which the line matches. -/
def argumentsIn? (source text : String) : Option Arguments :=
  (Pattern.read source).toOption.bind fun pattern =>
    (pattern.match? (Text.trim text)).bind fun pieces =>
      (Argument.ofPieces pattern.slots pieces).toOption

/-- A line of its kind that matches the source of a standard step resolves to its definition. -/
theorem exists_resolve_of_argumentsIn? {registry : Registry}
    (hstandard : Registry.standard = .ok registry) (hseparated : registry.IsSeparated)
    {entry : Kind × String × Handler} (hmem : entry ∈ standardSteps) {text : String}
    {arguments : Arguments} (harguments : argumentsIn? entry.2.1 text = some arguments) :
    ∃ definition, Registers entry definition ∧
      ∀ keyword, registry.resolve entry.1 keyword text = .ok ⟨definition, arguments⟩ := by
  obtain ⟨added, hadded, hdefinitions⟩ := definitions_of_addAll hstandard
  obtain ⟨definition, hdefinition, hentry⟩ := exists_definition_of_mem hadded hmem
  have hregistered : definition ∈ registry.definitions := by
    rw [hdefinitions]
    exact List.mem_append_right _ hdefinition
  rw [argumentsIn?, hentry.pattern] at harguments
  change (definition.pattern.match? (Text.trim text)).bind _ = some arguments at harguments
  obtain ⟨pieces, hpieces, hread⟩ := Option.bind_eq_some_iff.mp harguments
  have hof : definition.argumentsOf pieces = .ok arguments := by
    rw [Definition.argumentsOf]
    cases hall : Argument.ofPieces definition.pattern.slots pieces with
    | error error =>
        rw [hall] at hread
        cases hread
    | ok others =>
        rw [hall] at hread
        injection hread with heq
        rw [heq]
  refine ⟨definition, hentry, fun keyword => ?_⟩
  rw [← hentry.kind]
  exact resolve_of_match? hseparated hregistered hpieces hof keyword

/-- A line that matches the source of a standard step is bound to its definition. -/
theorem exists_binds_of_argumentsIn? {registry : Registry}
    (hstandard : Registry.standard = .ok registry) (hseparated : registry.IsSeparated)
    {entry : Kind × String × Handler} (hmem : entry ∈ standardSteps) {text : String}
    {arguments : Arguments} (harguments : argumentsIn? entry.2.1 text = some arguments) :
    ∃ definition, Registers entry definition ∧ registry.Binds ⟨definition, arguments⟩ := by
  obtain ⟨definition, hentry, hresolve⟩ :=
    exists_resolve_of_argumentsIn? hstandard hseparated hmem harguments
  exact ⟨definition, hentry, entry.1, "", text, hresolve ""⟩

/-! ## Runs of standard steps -/

theorem Demand.writes_eq_responseKey_iff {demand : Demand} :
    demand.writes = some responseKey ↔ ∃ request, demand = .single request := by
  constructor
  · intro hwrites
    cases demand with
    | single request => exact ⟨request, rfl⟩
    | together count request =>
        rw [writes] at hwrites
        split at hwrites
        · exact absurd (Option.some.inj hwrites).symm responseKey_ne_batchKey
        · cases hwrites
    | _ => cases hwrites
  · rintro ⟨request, rfl⟩
    rfl

theorem Demand.writes_eq_batchKey_iff {demand : Demand} :
    demand.writes = some batchKey ↔
      ∃ count request, demand = .together count request ∧ 0 ≤ count := by
  constructor
  · intro hwrites
    cases demand with
    | single request => exact absurd (Option.some.inj hwrites) responseKey_ne_batchKey
    | together count request =>
        by_cases hcount : 0 ≤ count
        · exact ⟨count, request, rfl, hcount⟩
        · rw [writes, if_neg hcount] at hwrites
          cases hwrites
    | _ => cases hwrites
  · rintro ⟨count, request, rfl, hcount⟩
    rw [writes, if_pos hcount]

/-- What is recorded when steps are over that were invoked one after another in a fresh world. -/
structure RunRecords (network : Network σ) (session : Session) (state : σ) (steps : List Bound)
    (context : Context) : Prop where
  /-- Nothing is recorded under another key. -/
  keys : ∀ entry ∈ context.records, entry.1 = responseKey ∨ entry.1 = batchKey
  /-- There is a response once a single request was sent. -/
  response_iff : context.contains responseKey = true ↔
    ∃ step ∈ steps, ∃ request, step.demand = .single request
  /-- It is what the last single request led to. -/
  response : ∀ before step later request, steps = before ++ step :: later →
    step.demand = .single request →
    (∀ other ∈ later, ∀ request, other.demand ≠ .single request) →
    context.get? responseKey = some (.outcome ((session.client.request request).run network
      ((Situation.fresh session state).afterAll network before).state).result)
  /-- There is a batch once copies of a request were sent, even if none. -/
  batch_iff : context.contains batchKey = true ↔
    ∃ step ∈ steps, ∃ count request, step.demand = .together count request ∧ 0 ≤ count
  /-- It is what the last copies led to, with an entry for each. -/
  batch : ∀ before step later count request, steps = before ++ step :: later →
    step.demand = .together count request → 0 ≤ count →
    (∀ other ∈ later, ∀ count request, other.demand = .together count request → count < 0) →
    ∃ batch, context.get? batchKey = some (.batch batch) ∧ (batch.size : Int) = count ∧
      batch = ((session.client.requestTogether count.toNat request
        session.settings.requests.concurrentTimeoutSecs).run network
          ((Situation.fresh session state).afterAll network before).state).result

theorem runRecords_afterAll (hstandard : Registry.standard = .ok registry) (network : Network σ)
    (session : Session) (state : σ) {steps : List Bound}
    (hsteps : ∀ step ∈ steps, registry.Binds step) :
    RunRecords network session state steps
      ((Situation.fresh session state).afterAll network steps).context where
  keys := by
    intro entry hentry
    have hfresh : (Situation.fresh session state).context.IsSorted := isSorted_empty
    have hbelongs := isSorted_afterAll hstandard network hsteps hfresh entry hentry
    cases hrecord : entry.2 with
    | outcome outcome =>
        rw [hrecord] at hbelongs
        exact .inl hbelongs
    | batch batch =>
        rw [hrecord] at hbelongs
        exact .inr hbelongs
  response_iff := by
    rw [contains_afterAll_iff hstandard network session state hsteps]
    simp only [Demand.writes_eq_responseKey_iff]
  response := by
    rintro before step later request rfl hdemand hlater
    apply get?_afterAll_of_latest hstandard hsteps
    · rw [hdemand, Demand.recorded, Situation.session_fresh]
    · intro other hother hwrites
      obtain ⟨request, hrequest⟩ := Demand.writes_eq_responseKey_iff.mp hwrites
      exact hlater other hother request hrequest
  batch_iff := by
    rw [contains_afterAll_iff hstandard network session state hsteps]
    simp only [Demand.writes_eq_batchKey_iff]
  batch := by
    rintro before step later count request rfl hdemand hcount hlater
    refine ⟨_, ?_, ?_, rfl⟩
    · apply get?_afterAll_of_latest hstandard hsteps
      · rw [hdemand, Demand.recorded, if_pos hcount, Situation.session_fresh]
      · intro other hother hwrites
        obtain ⟨count, request, hrequest, hcount⟩ := Demand.writes_eq_batchKey_iff.mp hwrites
        have hnegative := hlater other hother count request hrequest
        omega
    · rw [size_requestTogether]
      omega

/-- After any run of standard steps the session is what it was, and the context holds what
`RunRecords` says.  The next step never finds a record of the wrong sort, and it misses a record
if and only if it reads one that no step of the run has made. -/
theorem standard_run_records (hstandard : Registry.standard = .ok registry) (network : Network σ)
    (session : Session) (state : σ) (steps : List Bound)
    (hsteps : ∀ step ∈ steps, registry.Binds step) :
    let situation := (Situation.fresh session state).afterAll network steps
    situation.session = session ∧ RunRecords network session state steps situation.context ∧
      ∀ step, registry.Binds step →
        (∀ key, (situation.invoke network step).result.verdict ≠
          .error (.assertion (.holdsBatch key))) ∧
        (∀ key, (situation.invoke network step).result.verdict ≠
          .error (.assertion (.holdsResponse key))) ∧
        ∀ key,
          (situation.invoke network step).result.verdict = .error (.missingPrecedent key) ↔
            step.demand.reads = some key ∧
              ∀ earlier ∈ steps, earlier.demand.writes ≠ some key := by
  intro situation
  have hsorted : situation.context.IsSorted :=
    isSorted_afterAll hstandard network hsteps isSorted_empty
  refine ⟨session_afterAll hstandard hsteps _,
    runRecords_afterAll hstandard network session state hsteps, ?_⟩
  intro step hbinds
  refine ⟨?_, ?_, ?_⟩
  · intro key herror
    have hfails := failsWith_of_invoke hstandard hbinds hsorted herror
    generalize step.demand = demand at hfails
    cases hfails with
    | assertion _ _ hreason => exact hreason trivial
  · intro key herror
    have hfails := failsWith_of_invoke hstandard hbinds hsorted herror
    generalize step.demand = demand at hfails
    cases hfails with
    | assertion _ _ hreason => exact hreason trivial
  · intro key
    rw [invoke_eq_missingPrecedent_iff hstandard hbinds hsorted,
      get?_afterAll_eq_none_iff hstandard network session state hsteps]

/-- A single request and then two health checks at once, with a service that never answers. -/
theorem standard_run_records_of_two_lines :
    ∃ registry get checks, Registry.standard = .ok registry ∧
      registry.Binds get ∧ get.demand = .single (Http.Request.get "/ping") ∧
      registry.Binds checks ∧
      checks.demand = .together 2 (Standard.checkCall "application/json") ∧
      let network := Network.ofService (.counting fun call => .error (.broken call.url))
      let session : Session := ⟨{}⟩
      RunRecords network session 0 [get, checks]
        ((Situation.fresh session 0).afterAll network [get, checks]).context := by
  obtain ⟨registry, hstandard, hseparated⟩ := standard_isSeparated
  obtain ⟨get, hget, hbinds⟩ := exists_binds_of_argumentsIn? hstandard hseparated
    (List.mem_of_getElem? (show standardSteps[2]? = some _ from rfl))
    (show argumentsIn? "I make a GET request to \x7bstring\x7d"
      "I make a GET request to \"/ping\"" = some [.text "/ping"] by decide +kernel)
  obtain ⟨checks, hchecks, hbinds'⟩ := exists_binds_of_argumentsIn? hstandard hseparated
    (List.mem_of_getElem? (show standardSteps[19]? = some _ from rfl))
    (show argumentsIn? "I make \x7bint\x7d concurrent health check requests"
      "I make 2 concurrent health check requests" = some [.integer 2] by decide +kernel)
  refine ⟨registry, _, _, hstandard, hbinds, ?_, hbinds', ?_, ?_⟩
  · rw [Bound.demand, hget.kind, hget.source]
    rfl
  · rw [Bound.demand, hchecks.kind, hchecks.source]
    rfl
  · intro network session
    refine (standard_run_records hstandard network session 0 _ ?_).2.1
    intro step hstep
    rcases List.mem_pair.mp hstep with rfl | rfl
    · exact hbinds
    · exact hbinds'

end ServiceHealth.Step
