import ServiceHealth.Proofs.Error.Sequence
import ServiceHealth.Proofs.Order.Latest
import ServiceHealth.Step.Context

/-!
# What a context gives back

Records are made in a context one after another, under any keys and some of them in place of
others.  `Holds` describes the context by what was recorded, in its order: under every key stands
what was recorded last under it.  One more record keeps this (`Holds.set`), and so do any number of
them (`Holds.setAll`).

An outcome, a response or a batch under a key is read off what stands there.  For each of them two
lemmas say when it is read and with which error it is not; a response is an outcome first.
`setAll_recalls` puts both parts together.
-/

namespace ServiceHealth.Step

open Http (Batch Outcome Response)

variable {context first second : Context} {made : List (String × Record)} {key : String}
variable {error : Error}

/-! ## Records made one after another -/

/-- The context after records were made one after another, each under its key. -/
def Context.setAll (context : Context) (entries : List (String × Record)) : Context :=
  entries.foldl (fun context entry => context.set entry.1 entry.2) context

/-- Of all that was recorded under the key, this came last. -/
def RecordedLast (made : List (String × Record)) (key : String) (record : Record) : Prop :=
  IsLatest (fun entry => entry.1 = key) made (key, record)

/-- Nothing was recorded under the key. -/
def NeverRecorded (made : List (String × Record)) (key : String) : Prop :=
  ∀ entry ∈ made, entry.1 ≠ key

theorem exists_recordedLast_iff :
    (∃ record, RecordedLast made key record) ↔ ∃ entry ∈ made, entry.1 = key := by
  rw [← exists_isLatest_iff]
  constructor
  · rintro ⟨record, hlast⟩
    exact ⟨(key, record), hlast⟩
  · rintro ⟨⟨other, record⟩, hlast⟩
    obtain rfl : other = key := hlast.property
    exact ⟨record, hlast⟩

/-- Under every key stands what was recorded last under it. -/
def Context.Holds (context : Context) (made : List (String × Record)) : Prop :=
  ∀ key record, context.get? key = some record ↔ RecordedLast made key record

theorem holds_empty : Context.empty.Holds [] := by
  intro key record
  exact iff_of_false (Option.some_ne_none record).symm not_isLatest_nil

/-- One more record comes last under its key, and leaves the other keys as they were. -/
theorem Context.Holds.set (h : context.Holds made) (entry : String × Record) :
    (context.set entry.1 entry.2).Holds (made ++ [entry]) := by
  intro key record
  have hlast : RecordedLast (made ++ [entry]) key record ↔
      entry.1 = key ∧ (key, record) = entry ∨ entry.1 ≠ key ∧ RecordedLast made key record :=
    isLatest_concat_iff
  rw [hlast]
  by_cases hkey : entry.1 = key
  · obtain ⟨other, latest⟩ := entry
    obtain rfl : other = key := hkey
    have hsame : latest = record ↔ (other, record) = (other, latest) := by simp [eq_comm]
    rw [get?_set_self, Option.some.injEq, hsame]
    simp
  · rw [get?_set_of_ne (Ne.symm hkey), h key record]
    simp [hkey]

theorem Context.Holds.setAll (h : context.Holds made) (entries : List (String × Record)) :
    (context.setAll entries).Holds (made ++ entries) := by
  induction entries generalizing context made with
  | nil =>
      rw [List.append_nil]
      exact h
  | cons entry entries ih =>
      rw [List.append_cons]
      exact ih (h.set entry)

theorem holds_setAll (made : List (String × Record)) : (Context.empty.setAll made).Holds made :=
  holds_empty.setAll made

theorem Context.Holds.get?_eq_none_iff (h : context.Holds made) :
    context.get? key = none ↔ NeverRecorded made key := by
  rw [Option.eq_none_iff_forall_ne_some]
  simp only [ne_eq, h key, ← not_exists, exists_recordedLast_iff]
  push Not
  rfl

theorem Context.Holds.contains_iff (h : context.Holds made) :
    context.contains key = true ↔ ∃ entry ∈ made, entry.1 = key := by
  rw [Context.contains, Option.isSome_iff_exists, ← exists_recordedLast_iff]
  exact exists_congr (h key)

/-! ## Reading what stands under a key -/

theorem require_eq_ok_iff {outcome : Outcome} {response : Response} :
    outcome.require = .ok response ↔ outcome = .answered response := by
  cases outcome with
  | answered other => simp [Outcome.require]
  | failed failure => simp [Outcome.require, Error.fail]

theorem require_eq_error_iff {outcome : Outcome} :
    outcome.require = .error error ↔
      ∃ failure, outcome = .failed failure ∧ error = .assertion (.noResponse failure) := by
  cases outcome with
  | answered response => simp [Outcome.require]
  | failed failure => simp [Outcome.require, Error.fail, eq_comm]

namespace Context

theorem outcome_eq_ok_iff {outcome : Outcome} :
    context.outcome key = .ok outcome ↔ context.get? key = some (.outcome outcome) := by
  rw [Context.outcome]
  cases context.get? key with
  | none => simp
  | some record => cases record <;> simp [Error.fail]

theorem outcome_eq_error_iff :
    context.outcome key = .error error ↔
      context.get? key = none ∧ error = .missingPrecedent key ∨
        (∃ batch, context.get? key = some (.batch batch)) ∧
          error = .assertion (.holdsBatch key) := by
  rw [Context.outcome]
  cases context.get? key with
  | none => simp [eq_comm]
  | some record => cases record <;> simp [Error.fail, eq_comm]

theorem response_eq_ok_iff {response : Response} :
    context.response key = .ok response ↔
      context.get? key = some (.outcome (.answered response)) := by
  calc context.response key = .ok response
    _ ↔ ∃ outcome, context.outcome key = .ok outcome ∧ outcome.require = .ok response :=
        bind_eq_ok_iff
    _ ↔ ∃ outcome, context.get? key = some (.outcome outcome) ∧ outcome = .answered response := by
        simp only [outcome_eq_ok_iff, require_eq_ok_iff]
    _ ↔ context.get? key = some (.outcome (.answered response)) := exists_eq_right

theorem response_eq_error_iff :
    context.response key = .error error ↔
      context.get? key = none ∧ error = .missingPrecedent key ∨
        (∃ batch, context.get? key = some (.batch batch)) ∧
          error = .assertion (.holdsBatch key) ∨
        ∃ failure, context.get? key = some (.outcome (.failed failure)) ∧
          error = .assertion (.noResponse failure) := by
  -- there is an outcome, but it is a failure
  have hfailed : (∃ outcome, context.outcome key = .ok outcome ∧ outcome.require = .error error) ↔
      ∃ failure, context.get? key = some (.outcome (.failed failure)) ∧
        error = .assertion (.noResponse failure) := by
    simp only [outcome_eq_ok_iff, require_eq_error_iff]
    constructor
    · rintro ⟨outcome, hget, failure, rfl, herror⟩
      exact ⟨failure, hget, herror⟩
    · rintro ⟨failure, hget, herror⟩
      exact ⟨.failed failure, hget, failure, rfl, herror⟩
  rw [Context.response, bind_eq_error_iff, hfailed, outcome_eq_error_iff, or_assoc]

theorem batch_eq_ok_iff {batch : Batch} :
    context.batch key = .ok batch ↔ context.get? key = some (.batch batch) := by
  rw [Context.batch]
  cases context.get? key with
  | none => simp
  | some record => cases record <;> simp [Error.fail]

theorem batch_eq_error_iff :
    context.batch key = .error error ↔
      context.get? key = none ∧ error = .missingPrecedent key ∨
        (∃ outcome, context.get? key = some (.outcome outcome)) ∧
          error = .assertion (.holdsResponse key) := by
  rw [Context.batch]
  cases context.get? key with
  | none => simp [eq_comm]
  | some record => cases record <;> simp [Error.fail, eq_comm]

end Context

/-- Two contexts give the same answers about a key. -/
structure ReadsAlike (key : String) (first second : Context) : Prop where
  get? : first.get? key = second.get? key
  contains : first.contains key = second.contains key
  outcome : first.outcome key = second.outcome key
  response : first.response key = second.response key
  batch : first.batch key = second.batch key

/-- Everything about a key is read off what stands under it. -/
theorem readsAlike_of_get? (h : first.get? key = second.get? key) :
    ReadsAlike key first second where
  get? := h
  contains := by rw [Context.contains, h, Context.contains]
  outcome := by rw [Context.outcome, h, Context.outcome]
  response := by rw [Context.response, Context.response, Context.outcome, h, Context.outcome]
  batch := by rw [Context.batch, h, Context.batch]

/-! ## After any records -/

/-- What a context gives back under a key, by what was recorded. -/
structure Recalls (made : List (String × Record)) (key : String) (context : Context) : Prop where
  /-- What was recorded last under the key stands there. -/
  get?_iff : ∀ record, context.get? key = some record ↔ RecordedLast made key record
  contains_iff : context.contains key = true ↔ ∃ entry ∈ made, entry.1 = key
  outcome_ok_iff : ∀ outcome,
    context.outcome key = .ok outcome ↔ RecordedLast made key (.outcome outcome)
  /-- There is no outcome where nothing was recorded, and where a batch came last. -/
  outcome_error_iff : ∀ error, context.outcome key = .error error ↔
    NeverRecorded made key ∧ error = .missingPrecedent key ∨
      (∃ batch, RecordedLast made key (.batch batch)) ∧ error = .assertion (.holdsBatch key)
  response_ok_iff : ∀ response,
    context.response key = .ok response ↔ RecordedLast made key (.outcome (.answered response))
  /-- There is no response either where a request that has failed came last. -/
  response_error_iff : ∀ error, context.response key = .error error ↔
    NeverRecorded made key ∧ error = .missingPrecedent key ∨
      (∃ batch, RecordedLast made key (.batch batch)) ∧ error = .assertion (.holdsBatch key) ∨
      ∃ failure, RecordedLast made key (.outcome (.failed failure)) ∧
        error = .assertion (.noResponse failure)
  batch_ok_iff : ∀ batch, context.batch key = .ok batch ↔ RecordedLast made key (.batch batch)
  batch_error_iff : ∀ error, context.batch key = .error error ↔
    NeverRecorded made key ∧ error = .missingPrecedent key ∨
      (∃ outcome, RecordedLast made key (.outcome outcome)) ∧
        error = .assertion (.holdsResponse key)

theorem Context.Holds.recalls (h : context.Holds made) (key : String) :
    Recalls made key context where
  get?_iff := h key
  contains_iff := h.contains_iff
  outcome_ok_iff outcome := by rw [outcome_eq_ok_iff, h key]
  outcome_error_iff error := by simp only [outcome_eq_error_iff, h.get?_eq_none_iff, h key]
  response_ok_iff response := by rw [response_eq_ok_iff, h key]
  response_error_iff error := by simp only [response_eq_error_iff, h.get?_eq_none_iff, h key]
  batch_ok_iff batch := by rw [batch_eq_ok_iff, h key]
  batch_error_iff error := by simp only [batch_eq_error_iff, h.get?_eq_none_iff, h key]

/-- What was recorded under other keys might as well be left out. -/
theorem get?_setAll_filter (made : List (String × Record)) (key : String) :
    (Context.empty.setAll (made.filter fun entry => entry.1 == key)).get? key =
      (Context.empty.setAll made).get? key := by
  have hkept : ∀ entry : String × Record, entry.1 = key → (entry.1 == key) = true :=
    fun entry hkey => beq_iff_eq.mpr hkey
  apply Option.ext
  intro record
  calc (Context.empty.setAll (made.filter fun entry => entry.1 == key)).get? key = some record
    _ ↔ RecordedLast (made.filter fun entry => entry.1 == key) key record :=
        holds_setAll _ key record
    _ ↔ RecordedLast made key record := isLatest_filter_iff hkept
    _ ↔ (Context.empty.setAll made).get? key = some record := (holds_setAll made key record).symm

/-- After any records, made one after another in a context that was empty, a key gives back what was
recorded last under it: as it is, as an outcome, as a response and as a batch.  It is missing
exactly if nothing was recorded under the key, and it is refused exactly if it is of the other
sort or, for a response, a failure.  What was recorded under other keys does not matter. -/
theorem setAll_recalls (made : List (String × Record)) (key : String) :
    Recalls made key (Context.empty.setAll made) ∧
      ReadsAlike key (Context.empty.setAll (made.filter fun entry => entry.1 == key))
        (Context.empty.setAll made) :=
  ⟨(holds_setAll made).recalls key, readsAlike_of_get? (get?_setAll_filter made key)⟩

/-- A batch in place of an outcome is no response. -/
example (outcome : Outcome) (batch : Batch) :
    (Context.empty.setAll [("key", .outcome outcome), ("other", .outcome outcome),
      ("key", .batch batch)]).response "key" = .error (.assertion (.holdsBatch "key")) := by
  rfl

end ServiceHealth.Step
