import ServiceHealth.Settings.Port

/-!
# Settings of a run

Where the service is, how long to wait for it, and how long a request may take.
-/

namespace ServiceHealth

namespace Settings

/-- The port of a service that is not configured otherwise. -/
def standardPort : Port := ⟨8080, by decide⟩

/-- Where the service is. -/
structure Server where
  host : String := "localhost"
  port : Port := standardPort
  deriving DecidableEq, Repr

/-- How to find out that the service is ready. -/
structure Readiness where
  path : String := "/ping"
  maxAttempts : Nat := 5
  retryDelayMillis : Nat := 1000
  probeTimeoutSecs : Nat := 2
  deriving DecidableEq, Repr

/-- How long a request may take, alone or in a concurrent batch. -/
structure Requests where
  timeoutSecs : Nat := 2
  concurrentTimeoutSecs : Nat := 5
  deriving DecidableEq, Repr

end Settings

/-- The settings of a run. -/
structure Settings where
  server : Settings.Server := {}
  readiness : Settings.Readiness := {}
  requests : Settings.Requests := {}
  deriving DecidableEq, Repr

namespace Settings

/-- The address of the service, without a slash at the end. -/
def address (settings : Settings) : String :=
  "http://" ++ settings.server.host ++ s!":{settings.server.port.number}"

/-- The settings with another host. -/
def withHost (settings : Settings) (host : String) : Settings :=
  ⟨⟨host, settings.server.port⟩, settings.readiness, settings.requests⟩

/-- The settings with another port. -/
def withPort (settings : Settings) (port : Port) : Settings :=
  ⟨⟨settings.server.host, port⟩, settings.readiness, settings.requests⟩

end Settings

end ServiceHealth
