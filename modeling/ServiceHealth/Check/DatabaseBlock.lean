import ServiceHealth.Check.Members
import ServiceHealth.Pool.Statistics

/-!
# Checks of the database block

A health response may carry an object `database` with a `status`, a `message` and
an object `stats` of the statistics of the connection pool.  The checks read
nothing else of the response.
-/

namespace ServiceHealth.Check

open Http (Response)
open Pool (Stats nonNegative stat usageNames withinCapacity)

/-- The status of a healthy database. -/
def healthyStatus : String := "healthy"

/-! ## The block and its statistics -/

/-- The members of the database object. -/
def databaseMembers (response : Response) : Except Error Json.Members := do
  let database ← bodyMember response "database"
  match database.members? with
  | some members => .ok members
  | none => Error.fail (.databaseKind database.kind)

/-- The member of the database object with this name. -/
def databaseMember (database : Json.Members) (field : String) : Except Error Json :=
  match database.get? field with
  | some value => .ok value
  | none => Error.fail (.noDatabaseField field)

/-- The members of the statistics object. -/
def poolMembers (response : Response) : Except Error Json.Members := do
  let database ← databaseMembers response
  let stats ← databaseMember database "stats"
  match stats.members? with
  | some members => .ok members
  | none => Error.fail (.statsKind stats.kind)

/-- The database object has a status and a message, which is a text. -/
def describesDatabase (response : Response) : Except Error Unit := do
  let database ← databaseMembers response
  let _ ← databaseMember database "status"
  let message ← databaseMember database "message"
  match message.text? with
  | some _ => .ok ()
  | none => Error.fail (.databaseMessageKind message.kind)

/-- The status of the database is this text. -/
def reportsDatabaseStatus (response : Response) (expected : String) : Except Error Unit := do
  let database ← databaseMembers response
  let actual ← databaseMember database "status"
  if actual.text? = some expected then .ok () else Error.fail (.databaseStatus expected actual)

/-- The eight statistics of the response. -/
def poolStats (response : Response) : Except Error Stats := do
  let stats ← poolMembers response
  Stats.ofMembers stats

/-- The database object has a status, a message and all statistics. -/
def describesDatabaseAndPool (response : Response) : Except Error Unit := do
  describesDatabase response
  let _ ← poolStats response

/-- The statistics are complete and consistent. -/
def poolIsConsistent (response : Response) : Except Error Unit := do
  let stats ← poolStats response
  stats.consistent

/-- The statistics are complete, consistent and within the capacity of the pool. -/
def poolIsSound (response : Response) : Except Error Unit := do
  let stats ← poolStats response
  stats.consistent
  withinCapacity stats.maxOpenConnections stats.openConnections

/-- The database is healthy and its pool within capacity. -/
def databaseIsHealthy (response : Response) : Except Error Unit := do
  reportsDatabaseStatus response healthyStatus
  let stats ← poolMembers response
  let maximum ← stat stats "max_open_connections"
  let opened ← stat stats "open_connections"
  withinCapacity maximum opened

/-- The capacity of the pool is present and positive. -/
def poolHasRoom (response : Response) : Except Error Unit := do
  let stats ← poolMembers response
  let maximum ← stat stats "max_open_connections"
  if maximum ≤ 0 then Error.fail (.noMaximum maximum) else .ok ()

/-- The statistics of current use are present and not negative. -/
def poolReportsUse (response : Response) : Except Error Unit := do
  let stats ← poolMembers response
  usageNames.forM fun name => do
    let value ← stat stats name
    nonNegative name value

end ServiceHealth.Check
