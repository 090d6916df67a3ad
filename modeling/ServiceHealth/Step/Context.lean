import ServiceHealth.Http.Batch

/-!
# What a scenario has recorded

The steps of a scenario share a context.  A step that sends records what came
back under a key, in place of what was there; a check reads it again.
-/

namespace ServiceHealth.Step

open Http (Batch Outcome Response)

/-- What is recorded under a key. -/
inductive Record where
  | outcome (outcome : Outcome)
  | batch (batch : Batch)

/-- The key of the outcome of a single request. -/
def responseKey : String := "response"

/-- The key of the outcomes of a concurrent batch. -/
def batchKey : String := "concurrent_results"

/-- The records of a scenario, each key once. -/
structure Context where
  records : List (String × Record)

namespace Context

/-- The context of a scenario that has not started. -/
def empty : Context := ⟨[]⟩

/-- Records something under a key, in place of what was there. -/
def set (context : Context) (key : String) (record : Record) : Context :=
  ⟨(key, record) :: context.records.filter fun entry => entry.1 != key⟩

/-- What is recorded under a key. -/
def get? (context : Context) (key : String) : Option Record :=
  context.records.lookup key

/-- Something is recorded under a key. -/
def contains (context : Context) (key : String) : Bool :=
  (context.get? key).isSome

/-- A key reads back what was recorded last under it. -/
@[simp] theorem get?_set_self (context : Context) (key : String) (record : Record) :
    (context.set key record).get? key = some record := by
  simp [get?, set]

/-- Recording under a key does not touch the other keys. -/
theorem get?_set_of_ne {key other : String} (hne : other ≠ key) (context : Context)
    (record : Record) : (context.set key record).get? other = context.get? other := by
  have hlookup : ∀ records : List (String × Record),
      (records.filter fun entry => entry.1 != key).lookup other = records.lookup other := by
    intro records
    induction records with
    | nil => rfl
    | cons entry records ih =>
      by_cases hkey : entry.1 = key
      · have hother : (other == entry.1) = false := by
          simpa [hkey] using hne
        rw [List.filter_cons_of_neg (by simp [hkey]), ih, List.lookup_cons, hother]
      · rw [List.filter_cons_of_pos (by simpa using hkey), List.lookup_cons, List.lookup_cons, ih]
  have hother : (other == key) = false := by simpa using hne
  unfold get? set
  rw [List.lookup_cons, hother]
  exact hlookup context.records

/-- The outcome recorded under a key. -/
def outcome (context : Context) (key : String) : Except Error Outcome :=
  match context.get? key with
  | some (.outcome outcome) => .ok outcome
  | some (.batch _) => Error.fail (.holdsBatch key)
  | none => .error (.missingPrecedent key)

/-- The response recorded under a key. -/
def response (context : Context) (key : String) : Except Error Response := do
  let outcome ← context.outcome key
  outcome.require

/-- The batch recorded under a key. -/
def batch (context : Context) (key : String) : Except Error Batch :=
  match context.get? key with
  | some (.batch batch) => .ok batch
  | some (.outcome _) => Error.fail (.holdsResponse key)
  | none => .error (.missingPrecedent key)

/-- The response of the last single request. -/
def latestResponse (context : Context) : Except Error Response :=
  context.response responseKey

/-- The batch of the last concurrent requests. -/
def latestBatch (context : Context) : Except Error Batch :=
  context.batch batchKey

end Context

end ServiceHealth.Step
