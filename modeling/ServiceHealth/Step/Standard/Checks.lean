import ServiceHealth.Check.Every
import ServiceHealth.Step.Registry

/-!
# The checks of the standard steps

A check looks at the response or at the batch that its scenario has recorded
last.  A record that is not there is noticed before anything else.
-/

namespace ServiceHealth.Step.Standard

open Http (Batch Response)

/-- A check of the last response. -/
def ofResponse (check : Response → Except Error Unit) : Handler :=
  .check fun world _ => do
    let response ← world.context.latestResponse
    check response

/-- A check of the last response against the text that is the argument. -/
def ofResponseText (check : Response → String → Except Error Unit) : Handler :=
  .check fun world arguments => do
    let response ← world.context.latestResponse
    let expected ← arguments.text 0
    check response expected

/-- A check of the last response against the status that is the argument. -/
def ofResponseStatus (check : Response → Nat → Except Error Unit) : Handler :=
  .check fun world arguments => do
    let response ← world.context.latestResponse
    let expected ← arguments.status 0
    check response expected

/-- A check of the last batch. -/
def ofBatch (check : Batch → Except Error Unit) : Handler :=
  .check fun world _ => do
    let batch ← world.context.latestBatch
    check batch

/-- Nothing is checked: a run starts only when the service is ready. -/
def assumeRunning : Handler :=
  .check fun _ _ => .ok ()

/-- Only that a port is named is checked: requests go to the configured one. -/
def assumePort : Handler :=
  .check fun _ arguments => (arguments.integer 0).map fun _ => ()

/-- A member of the last response has a value; both are arguments. -/
def memberIs : Handler :=
  .check fun world arguments => do
    let response ← world.context.latestResponse
    let field ← arguments.text 0
    let expected ← arguments.text 1
    Check.hasMember response field expected

/-- Every entry of the last batch reports the status that is the argument. -/
def everyStatusIs : Handler :=
  .check fun world arguments => do
    let batch ← world.context.latestBatch
    let expected ← arguments.text 0
    Check.everyReportsStatus batch expected

/-- Every entry of the last batch reports serving. -/
def everyServing : Handler :=
  ofBatch fun batch => Check.every batch fun response =>
    Check.reportsStatus response Check.servingStatus

end ServiceHealth.Step.Standard
