import ServiceHealth.Http.Response

/-!
# Concurrent batches

The outcomes of one request that was sent several times at once, in the order in
which the answers came in.
-/

namespace ServiceHealth.Http

/-- The outcomes of a concurrent batch in the order of completion. -/
structure Batch where
  outcomes : List Outcome

namespace Batch

/-- How many entries the batch has. -/
def size (batch : Batch) : Nat :=
  batch.outcomes.length

/-- The batch has no entry. -/
def isEmpty (batch : Batch) : Bool :=
  batch.outcomes.isEmpty

/-- How many entries have no response. -/
def unanswered (batch : Batch) : Nat :=
  (batch.outcomes.filter fun outcome => outcome.failure?.isSome).length

end Batch

end ServiceHealth.Http
