import ServiceHealth.Check.DatabaseBlock
import ServiceHealth.Http.Batch

/-!
# Checks of a batch

A check of a batch applies one check of a response to every entry.  It fails once,
with the number of entries that fail and the reason of the first of them.
-/

namespace ServiceHealth.Check

open Http (Batch Outcome Response)

/-- The verdict on one entry of a batch: an entry without a response fails. -/
def entry (check : Response → Except Error Unit) : Outcome → Except Error Unit
  | .answered response => check response
  | .failed failure => Error.fail (.entryWithoutResponse failure)

/-- The reason for which an entry fails, without the heading of a failed check. -/
def reasonOf : Error → String
  | .assertion reason => reason.message
  | error => error.message

/-- The entries that fail, as their index and their reason. -/
def failures (check : Response → Except Error Unit) (outcomes : List Outcome) :
    List (Nat × String) :=
  outcomes.zipIdx.filterMap fun (outcome, index) =>
    match entry check outcome with
    | .ok () => none
    | .error error => some (index, reasonOf error)

/-- There are entries, and every entry has a response that the check accepts. -/
def every (batch : Batch) (check : Response → Except Error Unit) : Except Error Unit :=
  if batch.isEmpty then Error.fail .noResults
  else
    match failures check batch.outcomes with
    | [] => .ok ()
    | (first, reason) :: others =>
      Error.fail (.batch (others.length + 1) batch.size first reason)

/-- Every entry is a response with status 200. -/
def everySucceeded (batch : Batch) : Except Error Unit :=
  every batch fun response => hasStatus response 200

/-- Every entry reports this status in its body. -/
def everyReportsStatus (batch : Batch) (expected : String) : Except Error Unit :=
  every batch fun response => reportsStatus response expected

/-- Every entry has complete, consistent statistics within the capacity of the pool. -/
def everyPoolIsSound (batch : Batch) : Except Error Unit :=
  every batch poolIsSound

end ServiceHealth.Check
