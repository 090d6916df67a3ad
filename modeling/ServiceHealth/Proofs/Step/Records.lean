import ServiceHealth.Proofs.Interaction.Traces
import ServiceHealth.Proofs.Order.Latest
import ServiceHealth.Proofs.Step.Demand

/-!
# What the standard steps record

Steps are invoked one after another, each in the situation that those before it leave:
the world of their scenario and the state of the network.  `world_after` says what one
standard step does to the world, and `get?_afterAll` what is recorded under a
key when a list of them is over: what the last step that writes under this key has
recorded, and nothing if there is none.
-/

namespace ServiceHealth.Step

open Http (Batch Client Outcome Request Response)
open Standard

variable {σ : Type}

/-! ## Situations -/

/-- Where a step is invoked: the world of its scenario, and the state of the network. -/
structure Situation (σ : Type) extends World where
  state : σ

namespace Situation

/-- Where the first step of a scenario is invoked. -/
def fresh (session : Session) (state : σ) : Situation σ :=
  ⟨World.fresh session, state⟩

@[simp] theorem session_fresh (session : Session) (state : σ) :
    (fresh session state).session = session := rfl

/-- What becomes of a step that is invoked. -/
def invoke (network : Network σ) (situation : Situation σ) (step : Bound) : Trace σ Conclusion :=
  (step.definition.handler.invoke situation.toWorld step.arguments).run network situation.state

/-- The situation after a step, whether it fails or not. -/
def after (network : Network σ) (situation : Situation σ) (step : Bound) : Situation σ :=
  let trace := situation.invoke network step
  ⟨trace.result.world, trace.state⟩

/-- The situation after steps that are invoked one after another, whether they fail or not. -/
def afterAll (network : Network σ) (situation : Situation σ) (steps : List Bound) : Situation σ :=
  steps.foldl (after network) situation

end Situation

/-! ## One step -/

namespace Demand

/-- The key whose record is read. -/
def reads : Demand → Option String
  | .response => some responseKey
  | .status _ => some responseKey
  | .batch => some batchKey
  | _ => none

/-- The key under which something is recorded. -/
def writes : Demand → Option String
  | .single _ => some responseKey
  | .together count _ => if 0 ≤ count then some batchKey else none
  | _ => none

/-- What is recorded in a state of the network, and under which key. -/
def recorded (network : Network σ) (session : Session) (state : σ) :
    Demand → Option (String × Record)
  | .single request =>
    some (responseKey, .outcome ((session.client.request request).run network state).result)
  | .together count request =>
    if 0 ≤ count then
      some (batchKey, .batch ((session.client.requestTogether count.toNat request
        session.settings.requests.concurrentTimeoutSecs).run network state).result)
    else none
  | _ => none

theorem fst_recorded (network : Network σ) (session : Session) (state : σ) (demand : Demand) :
    (demand.recorded network session state).map Prod.fst = demand.writes := by
  cases demand with
  | together count request =>
      by_cases hcount : 0 ≤ count
      · simp only [recorded, writes, if_pos hcount, Option.map_some]
      · simp only [recorded, writes, if_neg hcount, Option.map_none]
  | _ => rfl

end Demand

/-- The context with something recorded, if there is something. -/
def Context.record (context : Context) : Option (String × Record) → Context
  | some (key, record) => context.set key record
  | none => context

variable {registry : Registry} {network : Network σ} {session : Session} {situation : Situation σ}

/-- A step that only has a verdict leaves the world as it is. -/
theorem world_after_of_verdict {step : Bound} {verdict : Except Error Unit}
    (h : step.definition.handler.invoke situation.toWorld step.arguments =
      pure ⟨verdict, situation.toWorld⟩) :
    (situation.after network step).toWorld = situation.toWorld := by
  unfold Situation.after Situation.invoke
  rw [h]
  rfl

/-- A step of the standard registry records what it asks for, and changes nothing else. -/
theorem world_after (hstandard : Registry.standard = .ok registry) {step : Bound}
    (hbinds : registry.Binds step) (situation : Situation σ) :
    (situation.after network step).toWorld =
      ⟨situation.session, situation.context.record
        (step.demand.recorded network situation.session situation.state)⟩ := by
  have hmeets := meets_of_binds hstandard hbinds
  generalize step.demand = demand at hmeets
  cases demand with
  | nothing => exact world_after_of_verdict (hmeets situation.toWorld)
  | single request =>
      unfold Situation.after Situation.invoke
      rw [hmeets situation.toWorld, record, Interaction.run_bind]
      rfl
  | together count request =>
      unfold Situation.after Situation.invoke
      rw [hmeets situation.toWorld, Demand.recorded]
      by_cases hcount : 0 ≤ count
      · rw [if_pos hcount, if_pos hcount, recordBatch, Interaction.run_bind]
        rfl
      · -- a negative count is refused before anything is sent
        rw [if_neg hcount, if_neg hcount]
        rfl
  | response =>
      obtain ⟨check, -, hinvoke⟩ := hmeets
      exact world_after_of_verdict (hinvoke situation.toWorld)
  | status expected =>
      obtain ⟨check, -, hinvoke⟩ := hmeets
      exact world_after_of_verdict (hinvoke situation.toWorld)
  | batch =>
      obtain ⟨check, -, hinvoke⟩ := hmeets
      exact world_after_of_verdict (hinvoke situation.toWorld)

theorem context_after (hstandard : Registry.standard = .ok registry) {step : Bound}
    (hbinds : registry.Binds step) (situation : Situation σ) :
    (situation.after network step).context = situation.context.record
      (step.demand.recorded network situation.session situation.state) := by
  rw [world_after hstandard hbinds]

/-! ## All steps -/

theorem Context.get?_record_self (context : Context) (key : String) (record : Record) :
    (context.record (some (key, record))).get? key = some record :=
  context.get?_set_self key record

theorem Context.get?_record_of_ne {recorded : Option (String × Record)} {key : String}
    (h : recorded.map Prod.fst ≠ some key) (context : Context) :
    (context.record recorded).get? key = context.get? key := by
  cases recorded with
  | none => rfl
  | some entry =>
      apply Context.get?_set_of_ne
      intro heq
      exact h (by rw [heq, Option.map_some])

section Run

variable (hstandard : Registry.standard = .ok registry)

include hstandard

/-- The standard steps keep to the session of their run. -/
theorem session_afterAll {steps : List Bound} (hsteps : ∀ step ∈ steps, registry.Binds step)
    (situation : Situation σ) :
    (situation.afterAll network steps).session = situation.session := by
  induction steps generalizing situation with
  | nil => rfl
  | cons step steps ih =>
      rw [List.forall_mem_cons] at hsteps
      calc (situation.afterAll network (step :: steps)).session
        _ = (situation.after network step).session := ih hsteps.2 _
        _ = situation.session := by rw [world_after hstandard hsteps.1]

theorem get?_after_of_ne {step : Bound} (hbinds : registry.Binds step) {key : String}
    (hkey : step.demand.writes ≠ some key) (situation : Situation σ) :
    (situation.after network step).context.get? key = situation.context.get? key := by
  rw [context_after hstandard hbinds]
  apply Context.get?_record_of_ne
  rwa [Demand.fst_recorded]

/-- Steps that do not write under a key leave what is recorded there. -/
theorem get?_afterAll_of_ne {steps : List Bound} (hsteps : ∀ step ∈ steps, registry.Binds step)
    {key : String} (hkey : ∀ step ∈ steps, step.demand.writes ≠ some key)
    (situation : Situation σ) :
    (situation.afterAll network steps).context.get? key = situation.context.get? key := by
  induction steps generalizing situation with
  | nil => rfl
  | cons step steps ih =>
      rw [List.forall_mem_cons] at hsteps hkey
      calc (situation.afterAll network (step :: steps)).context.get? key
        _ = (situation.after network step).context.get? key := ih hsteps.2 hkey.2 _
        _ = situation.context.get? key := get?_after_of_ne hstandard hsteps.1 hkey.1 situation

/-- The last step that writes under a key leaves its record there. -/
theorem get?_afterAll_of_latest {before later : List Bound} {step : Bound}
    (hsteps : ∀ other ∈ before ++ step :: later, registry.Binds other) {key : String}
    {record : Record} {situation : Situation σ}
    (hrecorded : step.demand.recorded network situation.session
      (situation.afterAll network before).state = some (key, record))
    (hlater : ∀ other ∈ later, other.demand.writes ≠ some key) :
    (situation.afterAll network (before ++ step :: later)).context.get? key = some record := by
  obtain ⟨hbefore, hstep, hrest⟩ : (∀ other ∈ before, registry.Binds other) ∧
      registry.Binds step ∧ ∀ other ∈ later, registry.Binds other := by
    simpa only [List.forall_mem_append, List.forall_mem_cons] using hsteps
  rw [Situation.afterAll, List.foldl_append, List.foldl_cons]
  calc _ = ((situation.afterAll network before).after network step).context.get? key :=
        get?_afterAll_of_ne hstandard hrest hlater _
    _ = some record := by
        rw [context_after hstandard hstep, session_afterAll hstandard hbefore, hrecorded,
          Context.get?_record_self]

end Run

/-- Something is recorded under a key if and only if some step writes under it. -/
theorem contains_afterAll_iff (hstandard : Registry.standard = .ok registry)
    (network : Network σ) (session : Session) (state : σ) {steps : List Bound}
    (hsteps : ∀ step ∈ steps, registry.Binds step) (key : String) :
    ((Situation.fresh session state).afterAll network steps).context.contains key = true ↔
      ∃ step ∈ steps, step.demand.writes = some key := by
  constructor
  · intro hcontains
    by_contra hnone
    have hkey : ∀ step ∈ steps, step.demand.writes ≠ some key := by
      simpa only [not_exists, not_and] using hnone
    rw [Context.contains, get?_afterAll_of_ne hstandard hsteps hkey] at hcontains
    cases hcontains
  · intro hsome
    -- the last step that writes decides
    obtain ⟨step, before, later, rfl, hwrites, hlater⟩ := exists_isLatest_iff.mpr hsome
    rw [← Demand.fst_recorded network session
      ((Situation.fresh session state).afterAll network before).state] at hwrites
    obtain ⟨⟨_, record⟩, hrecorded, rfl⟩ := Option.map_eq_some_iff.mp hwrites
    rw [Context.contains, get?_afterAll_of_latest hstandard hsteps hrecorded hlater]
    rfl

theorem get?_afterAll_eq_none_iff (hstandard : Registry.standard = .ok registry)
    (network : Network σ) (session : Session) (state : σ) {steps : List Bound}
    (hsteps : ∀ step ∈ steps, registry.Binds step) (key : String) :
    ((Situation.fresh session state).afterAll network steps).context.get? key = none ↔
      ∀ step ∈ steps, step.demand.writes ≠ some key := by
  have hcontains := contains_afterAll_iff hstandard network session state hsteps key
  rw [← Option.not_isSome_iff_eq_none]
  rw [Context.contains] at hcontains
  rw [hcontains]
  simp only [not_exists, not_and]

/-! ## The sort of what is recorded -/

/-- An outcome is recorded as a response, and a batch as a batch. -/
def BelongsUnder (key : String) : Record → Prop
  | .outcome _ => key = responseKey
  | .batch _ => key = batchKey

/-- Everything in the context is recorded under the key for its sort. -/
def Context.IsSorted (context : Context) : Prop :=
  ∀ entry ∈ context.records, BelongsUnder entry.1 entry.2

theorem isSorted_empty : Context.empty.IsSorted := by
  intro entry hentry
  cases hentry

theorem Demand.belongsUnder_of_recorded {demand : Demand} {state : σ} {entry : String × Record}
    (h : demand.recorded network session state = some entry) : BelongsUnder entry.1 entry.2 := by
  cases demand with
  | single request =>
      injection h with heq
      subst heq
      exact rfl
  | together count request =>
      rw [recorded] at h
      split at h
      · injection h with heq
        subst heq
        exact rfl
      · cases h
  | _ => cases h

theorem Context.IsSorted.record {context : Context} (h : context.IsSorted)
    {recorded : Option (String × Record)}
    (hrecorded : ∀ entry, recorded = some entry → BelongsUnder entry.1 entry.2) :
    (context.record recorded).IsSorted := by
  cases recorded with
  | none => exact h
  | some new =>
      intro entry hentry
      rcases List.mem_cons.mp hentry with rfl | hold
      · exact hrecorded _ rfl
      · exact h entry (List.mem_filter.mp hold).1

theorem isSorted_afterAll (hstandard : Registry.standard = .ok registry) (network : Network σ)
    {steps : List Bound} (hsteps : ∀ step ∈ steps, registry.Binds step)
    (h : situation.context.IsSorted) :
    (situation.afterAll network steps).context.IsSorted := by
  induction steps generalizing situation with
  | nil => exact h
  | cons step steps ih =>
      rw [List.forall_mem_cons] at hsteps
      apply ih hsteps.2
      rw [context_after hstandard hsteps.1]
      exact h.record fun entry hentry => Demand.belongsUnder_of_recorded hentry

theorem Context.IsSorted.get? {context : Context} (h : context.IsSorted) {key : String}
    {record : Record} (hget : context.get? key = some record) : BelongsUnder key record := by
  obtain ⟨before, after, hrecords, -⟩ := List.lookup_eq_some_iff.mp hget
  exact h (key, record) (by rw [hrecords]; simp)

theorem responseKey_ne_batchKey : responseKey ≠ batchKey := by
  decide

/-- What is recorded as a response is an outcome. -/
theorem Context.IsSorted.response {context : Context} (h : context.IsSorted) {record : Record}
    (hget : context.get? responseKey = some record) : ∃ outcome, record = .outcome outcome := by
  have hbelongs := h.get? hget
  cases record with
  | outcome outcome => exact ⟨outcome, rfl⟩
  | batch batch => exact absurd hbelongs responseKey_ne_batchKey

/-- What is recorded as a batch is a batch. -/
theorem Context.IsSorted.batch {context : Context} (h : context.IsSorted) {record : Record}
    (hget : context.get? batchKey = some record) : ∃ batch, record = .batch batch := by
  have hbelongs := h.get? hget
  cases record with
  | outcome outcome => exact absurd hbelongs.symm responseKey_ne_batchKey
  | batch batch => exact ⟨batch, rfl⟩

/-! ## The size of a batch -/

/-- The order of completion leaves out no delivery and repeats none. -/
theorem length_inOrder {count : Nat} (completion : Completion count) :
    completion.inOrder.length = count := by
  rw [Completion.inOrder, List.length_map, completion.order_perm.length_eq, List.length_finRange]

/-- A batch has an outcome for every copy that was sent. -/
theorem size_requestTogether (network : Network σ) (state : σ) (client : Client) (count : Nat)
    (request : Request) (timeoutSecs : Nat) :
    ((client.requestTogether count request timeoutSecs).run network state).result.size =
      count := by
  unfold Client.requestTogether
  cases client.build request timeoutSecs with
  | error failure => exact List.length_replicate
  | ok call =>
      change (List.map _ _).length = count
      rw [List.length_map]
      exact length_inOrder _

end ServiceHealth.Step
