import ServiceHealth.Step.Registry

/-!
# The actions of the standard steps

Each action sends one request, or copies of one at once, and records what comes
back under the key for responses or the key for batches.
-/

namespace ServiceHealth.Step.Standard

open Http (Request)

/-- The service that answers health checks. -/
def healthService : String := "health.v1.HealthService"

/-- The method of the health check. -/
def checkMethod : String := "Check"

/-- A method that the service does not have. -/
def unknownMethod : String := "NonExistentMethod"

/-- Sends a request and records its outcome. -/
def record (world : World) (request : Request) : Interaction Conclusion := do
  let outcome ← world.session.client.request request
  return ⟨.ok (), world.recording responseKey (.outcome outcome)⟩

/-- Sends copies of a request at once and records their outcomes. -/
def recordBatch (world : World) (count : Nat) (request : Request) : Interaction Conclusion := do
  let timeout := world.session.settings.requests.concurrentTimeoutSecs
  let batch ← world.session.client.requestTogether count request timeout
  return ⟨.ok (), world.recording batchKey (.batch batch)⟩

/-- A health check with this content type. -/
def checkCall (contentType : String) : Request :=
  (Request.unary healthService checkMethod).withField "Content-Type" contentType

/-- An action that sends one request, which its arguments determine. -/
def sends (request : Arguments → Except Error Request) : Handler :=
  .action fun world arguments =>
    match request arguments with
    | .error error => pure ⟨.error error, world⟩
    | .ok request => record world request

/-- An action that sends copies of a request, which its arguments determine with their number. -/
def sendsBatch (requests : Arguments → Except Error (Nat × Request)) : Handler :=
  .action fun world arguments =>
    match requests arguments with
    | .error error => pure ⟨.error error, world⟩
    | .ok (count, request) => recordBatch world count request

/-- A GET of the path that is the first argument. -/
def sendGet : Handler :=
  sends fun arguments => do
    let path ← arguments.text 0
    return Request.get path

/-- A POST to the first argument, with the content type and the body that are the next two. -/
def sendPost : Handler :=
  sends fun arguments => do
    let path ← arguments.text 0
    let body ← arguments.text 2
    let contentType ← arguments.text 1
    return (Request.post path body).withField "Content-Type" contentType

/-- As many GETs as the first argument says, of the path that is the second one. -/
def sendGets : Handler :=
  sendsBatch fun arguments => do
    let count ← arguments.count 0
    let path ← arguments.text 1
    return (count, Request.get path)

/-- A health check. -/
def callCheck : Handler :=
  sends fun _ => .ok (checkCall "application/json")

/-- A health check that declares its message as plain text. -/
def callCheckAsText : Handler :=
  sends fun _ => .ok (checkCall "text/plain")

/-- A call of a method that the service does not have. -/
def callUnknown : Handler :=
  sends fun _ =>
    .ok ((Request.unary healthService unknownMethod).withField "Content-Type" "application/json")

/-- As many health checks as the argument says. -/
def callChecks : Handler :=
  sendsBatch fun arguments => do
    let count ← arguments.count 0
    return (count, checkCall "application/json")

end ServiceHealth.Step.Standard
