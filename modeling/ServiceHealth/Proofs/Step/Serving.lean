import ServiceHealth.Proofs.Check.Entries
import ServiceHealth.Proofs.Step.Precedents

/-!
# Lines about a batch and lines about its entries

A line about the last batch holds if a check accepts every entry, and so does a line
about the last response with each entry recorded in turn, if it makes the same check.
The two lines about serving do not make the same one: the line about a response wants
status 200 and a body that reports serving, the line about a batch only the latter.

`standard_serving_lines` says what follows.  The line about a batch agrees with the one
about the JSON of a response; only together with the line that all requests succeed does
it agree with the line about a serving response.
-/

namespace ServiceHealth.Step

open Http (Batch Outcome Response)
open Standard

variable {σ : Type} {registry : Registry} {network : Network σ} {situation : Situation σ}

/-! ## Lines that hold -/

/-- The situation where something was recorded last. -/
def Situation.withRecord (situation : Situation σ) (key : String) (record : Record) :
    Situation σ :=
  ⟨situation.recording key record, situation.state⟩

/-- The line is bound to a step that succeeds in this situation. -/
def Registry.Passes (registry : Registry) (network : Network σ) (situation : Situation σ)
    (line : String) : Prop :=
  ∃ step, registry.resolve .expectation "Then" line = .ok step ∧
    (situation.invoke network step).result.verdict = .ok ()

/-- A standard line without placeholders holds exactly if its check does. -/
theorem passes_iff_of_verdict (hstandard : Registry.standard = .ok registry)
    (hseparated : registry.IsSeparated) {line : String}
    {verdict : World → Arguments → Except Error Unit}
    (hmem : (.expectation, line, .check verdict) ∈ standardSteps)
    (hline : argumentsIn? line line = some []) :
    registry.Passes network situation line ↔ verdict situation.toWorld [] = .ok () := by
  obtain ⟨definition, hentry, hresolve⟩ :=
    exists_resolve_of_argumentsIn? hstandard hseparated hmem hline
  have hinvoke : (situation.invoke network ⟨definition, []⟩).result.verdict =
      verdict situation.toWorld [] := by
    rw [Situation.invoke, hentry.handler]
    rfl
  constructor
  · rintro ⟨step, hstep, hresult⟩
    obtain rfl := Except.ok.inj ((hresolve "Then").symm.trans hstep)
    rwa [hinvoke] at hresult
  · intro hverdict
    exact ⟨_, hresolve "Then", hinvoke.trans hverdict⟩

theorem require_bind_eq_ok_iff {outcome : Outcome} {check : Response → Except Error Unit} :
    (outcome.require >>= check) = .ok () ↔ Check.Accepts check outcome := by
  rw [← Check.entry_eq_ok_iff]
  cases outcome with
  | answered response => rfl
  | failed failure =>
      constructor
      · intro h
        cases h
      · intro h
        cases h

/-- A line about the last response holds where the outcome of a request was recorded exactly if
this is a response that the check of the line accepts. -/
theorem passes_ofResponse_iff (hstandard : Registry.standard = .ok registry)
    (hseparated : registry.IsSeparated) {line : String} {check : Response → Except Error Unit}
    (hmem : (.expectation, line, ofResponse check) ∈ standardSteps)
    (hline : argumentsIn? line line = some []) {outcome : Outcome} :
    registry.Passes network (situation.withRecord responseKey (.outcome outcome)) line ↔
      Check.Accepts check outcome := by
  have hlatest : (situation.withRecord responseKey (.outcome outcome)).context.latestResponse =
      outcome.require := by
    rw [Situation.withRecord, World.recording, Context.latestResponse, Context.response,
      Context.outcome, Context.get?_set_self]
    rfl
  rw [passes_iff_of_verdict hstandard hseparated hmem hline, hlatest, require_bind_eq_ok_iff]

/-- A line about the last batch holds where a batch was recorded exactly if the check of the line
accepts this batch. -/
theorem passes_ofBatch_iff (hstandard : Registry.standard = .ok registry)
    (hseparated : registry.IsSeparated) {line : String} {check : Batch → Except Error Unit}
    (hmem : (.expectation, line, ofBatch check) ∈ standardSteps)
    (hline : argumentsIn? line line = some []) {batch : Batch} :
    registry.Passes network (situation.withRecord batchKey (.batch batch)) line ↔
      check batch = .ok () := by
  have hlatest : (situation.withRecord batchKey (.batch batch)).context.latestBatch =
      .ok batch := by
    rw [Situation.withRecord, World.recording, Context.latestBatch, Context.batch,
      Context.get?_set_self]
  rw [passes_iff_of_verdict hstandard hseparated hmem hline, hlatest]
  rfl

/-! ## The lines about serving -/

theorem passes_everyServing_iff (hstandard : Registry.standard = .ok registry)
    (hseparated : registry.IsSeparated) {batch : Batch} :
    registry.Passes network (situation.withRecord batchKey (.batch batch))
        "all responses should indicate SERVING status" ↔
      batch.outcomes ≠ [] ∧ ∀ outcome ∈ batch.outcomes,
        Check.Accepts (fun response => Check.reportsStatus response Check.servingStatus)
          outcome := by
  rw [passes_ofBatch_iff hstandard hseparated
      (List.mem_of_getElem? (show standardSteps[25]? = some _ from rfl)) (by decide +kernel),
    Check.every_eq_ok_iff]

theorem passes_everySucceeded_iff (hstandard : Registry.standard = .ok registry)
    (hseparated : registry.IsSeparated) {batch : Batch} :
    registry.Passes network (situation.withRecord batchKey (.batch batch))
        "all requests should succeed" ↔
      batch.outcomes ≠ [] ∧ ∀ outcome ∈ batch.outcomes,
        Check.Accepts (fun response => Check.hasStatus response 200) outcome := by
  rw [passes_ofBatch_iff hstandard hseparated
      (List.mem_of_getElem? (show standardSteps[13]? = some _ from rfl)) (by decide +kernel),
    Check.everySucceeded, Check.every_eq_ok_iff]

theorem passes_containsServing_iff (hstandard : Registry.standard = .ok registry)
    (hseparated : registry.IsSeparated) {outcome : Outcome} :
    registry.Passes network (situation.withRecord responseKey (.outcome outcome))
        "the JSON response should contain SERVING_STATUS_SERVING" ↔
      Check.Accepts (fun response => Check.reportsStatus response Check.servingStatus) outcome :=
  passes_ofResponse_iff hstandard hseparated
    (List.mem_of_getElem? (show standardSteps[22]? = some _ from rfl)) (by decide +kernel)

theorem passes_serving_iff (hstandard : Registry.standard = .ok registry)
    (hseparated : registry.IsSeparated) {outcome : Outcome} :
    registry.Passes network (situation.withRecord responseKey (.outcome outcome))
        "the response should indicate SERVING status" ↔
      Check.Accepts (fun response => Check.hasStatus response 200) outcome ∧
        Check.Accepts (fun response => Check.reportsStatus response Check.servingStatus)
          outcome := by
  rw [passes_ofResponse_iff hstandard hseparated
    (List.mem_of_getElem? (show standardSteps[20]? = some _ from rfl)) (by decide +kernel)]
  exact Check.accepts_bind_iff

/-- The line that all responses indicate serving holds for a batch exactly if it has entries and
the JSON of each of them contains the serving status.  Each entry indicates serving by itself
exactly if in addition all requests succeed.  So the lines about a serving batch and a serving
response agree unless the first holds for a batch that has a response with another status than
200. -/
theorem standard_serving_lines (network : Network σ) (situation : Situation σ)
    (batch : Batch) :
    ∃ registry, Registry.standard = .ok registry ∧
      let holds := registry.Passes network
      let together := situation.withRecord batchKey (.batch batch)
      let alone := fun outcome => situation.withRecord responseKey (.outcome outcome)
      (holds together "all responses should indicate SERVING status" ↔
        batch.outcomes ≠ [] ∧ ∀ outcome ∈ batch.outcomes,
          holds (alone outcome) "the JSON response should contain SERVING_STATUS_SERVING") ∧
      (batch.outcomes ≠ [] ∧ (∀ outcome ∈ batch.outcomes,
          holds (alone outcome) "the response should indicate SERVING status") ↔
        holds together "all responses should indicate SERVING status" ∧
          holds together "all requests should succeed") ∧
      ((holds together "all responses should indicate SERVING status" ↔
          batch.outcomes ≠ [] ∧ ∀ outcome ∈ batch.outcomes,
            holds (alone outcome) "the response should indicate SERVING status") ↔
        (holds together "all responses should indicate SERVING status" →
          ∀ response, .answered response ∈ batch.outcomes → response.status = 200)) := by
  obtain ⟨registry, hstandard, hseparated⟩ := standard_isSeparated
  refine ⟨registry, hstandard, ?_⟩
  intro holds together alone
  simp only [holds, together, alone, passes_everyServing_iff hstandard hseparated,
    passes_everySucceeded_iff hstandard hseparated,
    passes_containsServing_iff hstandard hseparated, passes_serving_iff hstandard hseparated]
  -- the first two lines make the same check, so nothing is left to show about them
  refine ⟨trivial, Check.forall_accepts_and_iff, ?_⟩
  rw [Check.forall_accepts_and_iff]
  constructor
  · intro hagree hreports
    exact (Check.forall_accepts_hasStatus_iff hreports).mp (hagree.mp hreports).2
  · intro hstatus
    constructor
    · intro hreports
      exact ⟨hreports, (Check.forall_accepts_hasStatus_iff hreports).mpr (hstatus hreports)⟩
    · exact And.left

/-- A response with status 500 that reports serving. -/
def servingFailure : Response :=
  ⟨500, [], Text.Utf8.encode "\x7b\"status\":\"SERVING_STATUS_SERVING\"\x7d"⟩

theorem reportsStatus_servingFailure :
    Check.reportsStatus servingFailure Check.servingStatus = .ok () := by
  have hcomputed : (Check.reportsStatus servingFailure Check.servingStatus).isOk = true := by
    decide +kernel
  cases hreports : Check.reportsStatus servingFailure Check.servingStatus with
  | ok value => rfl
  | error error =>
      rw [hreports] at hcomputed
      cases hcomputed

/-- All responses of a batch may indicate serving while its only entry does not. -/
theorem standard_serving_lines_disagree :
    ∃ registry, Registry.standard = .ok registry ∧
      ∃ (network : Network Nat) (situation : Situation Nat) (batch : Batch),
        batch.outcomes = [.answered servingFailure] ∧
        registry.Passes network (situation.withRecord batchKey (.batch batch))
          "all responses should indicate SERVING status" ∧
        ¬ registry.Passes network
          (situation.withRecord responseKey (.outcome (.answered servingFailure)))
          "the response should indicate SERVING status" := by
  obtain ⟨registry, hstandard, hseparated⟩ := standard_isSeparated
  refine ⟨registry, hstandard, Network.ofService (.counting fun call => .error (.broken call.url)),
    Situation.fresh ⟨{}⟩ 0, ⟨[.answered servingFailure]⟩, rfl, ?_, ?_⟩
  · rw [passes_everyServing_iff hstandard hseparated]
    refine ⟨List.cons_ne_nil _ _, ?_⟩
    intro outcome hmem
    obtain rfl := List.mem_singleton.mp hmem
    exact ⟨servingFailure, rfl, reportsStatus_servingFailure⟩
  · rw [passes_serving_iff hstandard hseparated]
    rintro ⟨⟨response, heq, hstatus⟩, -⟩
    injection heq with heq
    subst heq
    cases Check.hasStatus_eq_ok_iff.mp hstatus

end ServiceHealth.Step
