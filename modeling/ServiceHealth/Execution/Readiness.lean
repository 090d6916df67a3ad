import ServiceHealth.Step.Registry

/-!
# Waiting for the service

Before a run the service is probed until it answers 200, up to the configured
number of attempts (at least once), with a pause between two probes.  When the
last probe fails too the run cannot start.
-/

namespace ServiceHealth.Execution

open Http (Client Outcome Request)
open Settings (Readiness)
open Step (Session)

/-- The service is ready: where it was probed, and at which attempt it answered. -/
structure Ready where
  url : String
  attempts : Nat
  deriving DecidableEq, Repr

/-- How many probes are allowed. -/
def allowedAttempts (readiness : Readiness) : Nat :=
  max 1 readiness.maxAttempts

/-- The probe. -/
def probe (client : Client) (readiness : Readiness) : Interaction Outcome :=
  client.requestWithin (Request.get readiness.path) readiness.probeTimeoutSecs

/-- Why a probe does not show that the service is ready; nothing if it does. -/
def shortcoming? : Outcome → Option String
  | .answered response => if response.status = 200 then none else some s!"status {response.status}"
  | .failed failure => some (failure.kind.name ++ ": " ++ failure.message)

/-- Goes on after a probe: the service is ready, or its shortcoming decides. -/
def judge (client : Client) (readiness : Readiness) (attempts : Nat) (outcome : Outcome)
    (otherwise : (reason : String) → Interaction (Except Error Ready)) :
    Interaction (Except Error Ready) :=
  match shortcoming? outcome with
  | none => return .ok ⟨client.url readiness.path, attempts⟩
  | some reason => otherwise reason

/-- Probes when some attempts are over and some more, besides this one, are left. -/
def probeFrom (client : Client) (port : Settings.Port) (readiness : Readiness) :
    (left completed : Nat) → Interaction (Except Error Ready)
  | 0, completed => do
    let outcome ← probe client readiness
    judge client readiness (completed + 1) outcome fun reason =>
      return .error
        (.serverNotReady (client.url readiness.path) port.number (completed + 1) reason)
  | left + 1, completed => do
    let outcome ← probe client readiness
    judge client readiness (completed + 1) outcome fun _ => do
      Interaction.wait readiness.retryDelayMillis
      probeFrom client port readiness left (completed + 1)

/-- Waits until the service is ready. -/
def probeUntilReady (client : Client) (port : Settings.Port) (readiness : Readiness) :
    Interaction (Except Error Ready) :=
  probeFrom client port readiness (allowedAttempts readiness - 1) 0

/-- Waits until the service of a session is ready. -/
def ready (session : Session) : Interaction (Except Error Ready) :=
  probeUntilReady session.client session.settings.server.port session.settings.readiness

end ServiceHealth.Execution
