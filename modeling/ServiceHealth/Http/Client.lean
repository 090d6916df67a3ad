import ServiceHealth.Interaction
import ServiceHealth.Settings.Basic

/-!
# The client

A client knows the address of the service and sends requests there.  A request
that cannot be built is an outcome too: nothing is sent, and the failure names
the first header field that is not allowed, or an address that is none or to which
no request can be sent.
-/

namespace ServiceHealth.Http

/-- A sender of requests to one service. -/
structure Client where
  address : String
  timeoutSecs : Nat
  deriving DecidableEq, Repr

namespace Client

/-- The client for the configured service. -/
def ofSettings (settings : Settings) : Client :=
  ⟨settings.address, settings.requests.timeoutSecs⟩

/-- The address of a path, which gets a slash in front if it has none. -/
def url (client : Client) (path : String) : String :=
  if path.toList.head? = some '/' then client.address ++ path else client.address ++ "/" ++ path

/-- The call that a request becomes, or the failure to build it. -/
def build (client : Client) (request : Request) (timeoutSecs : Nat) :
    Except TransportFailure Call :=
  let address := client.url request.path
  match request.sentFields with
  | .error error => .error ⟨.other, address, error.message⟩
  | .ok fields =>
    match Url.read? address with
    | none => .error ⟨.other, address, "builder error"⟩
    | some url =>
      let authorization := (url.credentials.bind Credentials.decode?).map fun (user, password) =>
        authorizationOf user password
      let url := url.withoutCredentials
      if url.isSendable then
        .ok ⟨request.method, url, authorization, fields, request.body, timeoutSecs⟩
      else .error ⟨.other, address, "builder error for url (" ++ url.text ++ ")"⟩

/-- Sends a request with a time limit of its own. -/
def requestWithin (client : Client) (request : Request) (timeoutSecs : Nat) :
    Interaction Outcome :=
  match client.build request timeoutSecs with
  | .error failure => pure (.failed failure)
  | .ok call => do
    let delivery ← Interaction.deliver call
    return delivery.outcome (client.url request.path)

/-- Sends a request with the time limit of the settings. -/
def request (client : Client) (request : Request) : Interaction Outcome :=
  client.requestWithin request client.timeoutSecs

/-- Sends copies of a request at once and waits for all of them. -/
def requestTogether (client : Client) (count : Nat) (request : Request) (timeoutSecs : Nat) :
    Interaction Batch :=
  match client.build request timeoutSecs with
  | .error failure => pure ⟨List.replicate count (.failed failure)⟩
  | .ok call => do
    let deliveries ← Interaction.deliverTogether count call
    return ⟨deliveries.map (Delivery.outcome (client.url request.path))⟩

end Client

end ServiceHealth.Http
