import ServiceHealth.Decimal.Notation
import ServiceHealth.Http.Transport
import ServiceHealth.Json.Writer

/-!
# Reasons why a check fails

Every way in which a check of a response, of a batch of responses or of what a
scenario has recorded can fail, and the wording of each.
-/

namespace ServiceHealth

/-- Why a check failed. -/
inductive Assertion where
  /-- There is no response to check, because the request failed below HTTP. -/
  | noResponse (failure : Http.TransportFailure)
  /-- The body is not a JSON text. -/
  | notJson
  /-- The body is JSON, but not an object. -/
  | notObject (actual : Json.Kind)
  /-- The body has no member of this name. -/
  | noField (field : String)
  | statusCode (expected actual : Nat)
  | statusCodeNot (unexpected actual : Nat)
  | notRejected (expected actual : Nat)
  /-- The request was answered with 200 and this text, shortened. -/
  | notFailed (excerpt : String)
  | emptyBody
  | statusField (expected : String) (actual : Json)
  | fieldValue (field expected : String) (actual : Json)
  | contentType (expected actual : String)
  | timestampKind (actual : Json.Kind)
  | timestampEmpty
  | timestampForm (actual : String)
  | tooLarge (limit actual : Nat)
  | tooManyFields (limit actual : Nat)
  | noMonitoringStatus
  | databaseKind (actual : Json.Kind)
  /-- The database object has no member of this name. -/
  | noDatabaseField (field : String)
  | databaseMessageKind (actual : Json.Kind)
  | databaseStatus (expected : String) (actual : Json)
  | statsKind (actual : Json.Kind)
  /-- The statistics have no member of this name. -/
  | noStat (field : String)
  | statKind (field : String) (actual : Json.Kind)
  | openNotSum (opened inUse idle : Float)
  | negativeStat (field : String) (actual : Float)
  | negativeWait (actual : Float)
  /-- The capacity of the pool is not positive. -/
  | noCapacity (maximum : Float)
  | overCapacity (opened maximum : Float)
  /-- The statistic of the capacity, looked at for itself, is not positive. -/
  | noMaximum (maximum : Float)
  /-- The batch has no entries. -/
  | noResults
  /-- An entry of a batch has no response. -/
  | entryWithoutResponse (failure : Http.TransportFailure)
  /-- Some entries of a batch fail; the first of them stands at this index. -/
  | batch (failed total first : Nat) (reason : String)
  | holdsBatch (key : String)
  | holdsResponse (key : String)
  /-- A reason in the words of a check from outside this library. -/
  | stated (reason : String)

/-- A JSON value inside a message: a text in single quotes, anything else as JSON. -/
def Json.display : Json → String
  | .text value => "'" ++ value ++ "'"
  | value => value.write

/-- A reason in words. -/
def Assertion.message : Assertion → String
  | .noResponse failure => "No response received: request failed with " ++ failure.describe
  | .notJson => "Response is not valid JSON: the body is not exactly one JSON value"
  | .notObject actual => "Expected a JSON object, got " ++ actual.name
  | .noField field => "Response does not contain '" ++ field ++ "' field"
  | .statusCode expected actual => s!"Expected status code {expected}, got {actual}"
  | .statusCodeNot unexpected actual =>
    s!"Expected status code other than {unexpected}, got {actual}"
  | .notRejected expected actual =>
    s!"Expected status {expected} for rejected request, got {actual}"
  | .notFailed excerpt =>
    "Expected the request to fail, but it succeeded with status 200: " ++ excerpt
  | .emptyBody => "Response body is empty"
  | .statusField expected actual =>
    "Expected status '" ++ expected ++ "', got " ++ actual.display
  | .fieldValue field expected actual =>
    "Expected " ++ field ++ " '" ++ expected ++ "', got " ++ actual.display
  | .contentType expected actual =>
    "Expected content type to contain '" ++ expected ++ "', got '" ++ actual ++ "'"
  | .timestampKind actual => "Timestamp should be a string, got " ++ actual.name
  | .timestampEmpty => "Timestamp should not be empty"
  | .timestampForm actual =>
    "Timestamp should be in ISO 8601 format (YYYY-MM-DDTHH:MM:SSZ), got: " ++ actual
  | .tooLarge limit actual =>
    s!"Response should be lightweight for monitoring (< {limit} bytes), got {actual} bytes"
  | .tooManyFields limit actual =>
    s!"Monitoring response should have at most {limit} fields, got {actual} fields"
  | .noMonitoringStatus => "Monitoring response should contain 'status' field"
  | .databaseKind actual => "Database field should be an object, got " ++ actual.name
  | .noDatabaseField field => "Database info does not contain '" ++ field ++ "' field"
  | .databaseMessageKind actual => "Database message should be a string, got " ++ actual.name
  | .databaseStatus expected actual =>
    "Expected database status to be '" ++ expected ++ "', got " ++ actual.display
  | .statsKind actual => "Stats field should be an object, got " ++ actual.name
  | .noStat field => "Stats does not contain '" ++ field ++ "' field"
  | .statKind field actual => "Stat '" ++ field ++ "' should be a number, got " ++ actual.name
  | .openNotSum opened inUse idle =>
    "Open connections (" ++ Decimal.plain opened ++ ") should equal in_use (" ++
      Decimal.plain inUse ++ ") + idle (" ++ Decimal.plain idle ++ ")"
  | .negativeStat field actual =>
    field ++ " should be non-negative, got " ++ Decimal.plain actual
  | .negativeWait actual => "Wait duration should be non-negative, got " ++ Decimal.plain actual
  | .noCapacity maximum =>
    "Max open connections should be greater than 0, got " ++ Decimal.plain maximum
  | .overCapacity opened maximum =>
    "Open connections (" ++ Decimal.plain opened ++
      ") should not exceed max open connections (" ++ Decimal.plain maximum ++ ")"
  | .noMaximum maximum =>
    "max_open_connections should be greater than 0, got " ++ Decimal.plain maximum
  | .noResults => "No concurrent results found"
  | .entryWithoutResponse failure => "Request failed with error: " ++ failure.describe
  | .batch failed total first reason =>
    s!"{failed} of {total} concurrent requests failed; first failure (completion #{first}): " ++
      reason
  | .holdsBatch key =>
    "Context key '" ++ key ++ "' holds a concurrent batch, not a single response"
  | .holdsResponse key =>
    "Context key '" ++ key ++ "' holds a single response, not a concurrent batch"
  | .stated reason => reason

end ServiceHealth
