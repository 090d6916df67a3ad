import ServiceHealth.Check.Status
import ServiceHealth.Check.Timestamp

/-!
# Checks of the members of the body

A check that reads the body fails first if the body is not JSON, next if it is not
an object, and then with the member that is absent or has the wrong value.
-/

namespace ServiceHealth.Check

open Http (Response)

/-- The status that a serving health check reports. -/
def servingStatus : String := "SERVING_STATUS_SERVING"

/-- A monitoring response has fewer bytes than this. -/
def monitoringByteLimit : Nat := 1000

/-- A monitoring response has at most this many fields. -/
def monitoringFieldLimit : Nat := 3

/-- The members of the body, which has to be a JSON object. -/
def bodyMembers (response : Response) : Except Error Json.Members := do
  let value ← response.json
  match value.members? with
  | some members => .ok members
  | none => Error.fail (.notObject value.kind)

/-- The member of the body with this name. -/
def bodyMember (response : Response) (field : String) : Except Error Json := do
  let body ← bodyMembers response
  match body.get? field with
  | some value => .ok value
  | none => Error.fail (.noField field)

/-- The status that the body reports is this text. -/
def reportsStatus (response : Response) (expected : String) : Except Error Unit := do
  let actual ← bodyMember response "status"
  if actual.text? = some expected then .ok () else Error.fail (.statusField expected actual)

/-- The response is a 200 that reports serving. -/
def reportsServing (response : Response) : Except Error Unit := do
  hasStatus response 200
  reportsStatus response servingStatus

/-- How a value is compared with an expected text: a text by its content, any other
value as JSON. -/
def comparedText : Json → String
  | .text value => value
  | value => value.write

/-- The member of the body with this name has this value. -/
def hasMember (response : Response) (field expected : String) : Except Error Unit := do
  let actual ← bodyMember response field
  if comparedText actual = expected then .ok ()
  else Error.fail (.fieldValue field expected actual)

/-- The body has a timestamp. -/
def hasTimestamp (response : Response) : Except Error Unit := do
  let value ← bodyMember response "timestamp"
  match value.text? with
  | some text => hasTimestampForm text
  | none => Error.fail (.timestampKind value.kind)

/-- The response is cheap enough to be polled often, and reports a status. -/
def suitsMonitoring (response : Response) : Except Error Unit := do
  if monitoringByteLimit ≤ response.body.length then
    Error.fail (.tooLarge monitoringByteLimit response.body.length)
  let body ← bodyMembers response
  if monitoringFieldLimit < body.length then
    Error.fail (.tooManyFields monitoringFieldLimit body.length)
  if body.contains "status" then .ok () else Error.fail .noMonitoringStatus

end ServiceHealth.Check
