import ServiceHealth.Error.Basic

/-!
# Statistics of a connection pool

A service reports eight statistics of its pool of database connections.  They are
consistent if the open connections are those in use and the idle ones and nothing
is negative, and they keep within the capacity of the pool if no more connections
are open than it has room for.
-/

namespace ServiceHealth.Pool

/-- The names of the statistics of a connection pool, in the order in which they are read. -/
def statNames : List String :=
  ["max_open_connections", "open_connections", "in_use", "idle", "wait_count", "wait_duration",
    "max_idle_closed", "max_lifetime_closed"]

/-- The statistics that describe the current use of a pool. -/
def usageNames : List String :=
  ["open_connections", "in_use", "idle"]

/-- The statistics of a connection pool. -/
structure Stats where
  maxOpenConnections : Float
  openConnections : Float
  inUse : Float
  idle : Float
  waitCount : Float
  waitDuration : Float
  maxIdleClosed : Float
  maxLifetimeClosed : Float

/-- One statistic as a double. -/
def stat (stats : Json.Members) (name : String) : Except Error Float :=
  match stats.get? name with
  | none => Error.fail (.noStat name)
  | some value =>
    match value.double? with
    | some number => .ok number
    | none => Error.fail (.statKind name value.kind)

/-- A statistic is not negative. -/
def nonNegative (name : String) (value : Float) : Except Error Unit :=
  if value < 0 then Error.fail (.negativeStat name value) else .ok ()

namespace Stats

/-- Reads the eight statistics; the first one that is absent or not a number stops. -/
def ofMembers (stats : Json.Members) : Except Error Stats := do
  let maxOpenConnections ← stat stats "max_open_connections"
  let openConnections ← stat stats "open_connections"
  let inUse ← stat stats "in_use"
  let idle ← stat stats "idle"
  let waitCount ← stat stats "wait_count"
  let waitDuration ← stat stats "wait_duration"
  let maxIdleClosed ← stat stats "max_idle_closed"
  let maxLifetimeClosed ← stat stats "max_lifetime_closed"
  return ⟨maxOpenConnections, openConnections, inUse, idle, waitCount, waitDuration, maxIdleClosed,
    maxLifetimeClosed⟩

/-- The eight statistics in the order of their names. -/
def values (stats : Stats) : List Float :=
  [stats.maxOpenConnections, stats.openConnections, stats.inUse, stats.idle, stats.waitCount,
    stats.waitDuration, stats.maxIdleClosed, stats.maxLifetimeClosed]

/-- The statistics that must not be negative, apart from the time waited, in the
order in which they are checked. -/
def counters (stats : Stats) : List (String × Float) :=
  [("open_connections", stats.openConnections), ("in_use", stats.inUse), ("idle", stats.idle),
    ("wait_count", stats.waitCount), ("max_idle_closed", stats.maxIdleClosed),
    ("max_lifetime_closed", stats.maxLifetimeClosed)]

/-- The open connections are those in use and the idle ones, and nothing is negative. -/
def consistent (stats : Stats) : Except Error Unit := do
  if stats.openConnections != stats.inUse + stats.idle then
    Error.fail (.openNotSum stats.openConnections stats.inUse stats.idle)
  stats.counters.forM fun (name, value) => nonNegative name value
  if stats.waitDuration < 0 then Error.fail (.negativeWait stats.waitDuration) else .ok ()

end Stats

/-- A pool has room for a connection, and not more of them are open than it has room for. -/
def withinCapacity (maximum opened : Float) : Except Error Unit :=
  if maximum ≤ 0 then Error.fail (.noCapacity maximum)
  else if maximum < opened then Error.fail (.overCapacity opened maximum)
  else .ok ()

end ServiceHealth.Pool
