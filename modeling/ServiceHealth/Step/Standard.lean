import ServiceHealth.Step.Standard.Actions
import ServiceHealth.Step.Standard.Checks

/-!
# The standard registry

The steps that every run knows, in the order in which they are listed: those for
plain requests, for calls of the health service, for the database block, and for
monitoring.
-/

namespace ServiceHealth.Step

open Standard

/-- Steps for plain requests. -/
def plainSteps : List (Kind × String × Handler) :=
  [(.precondition, "the server is running", assumeRunning),
    (.precondition, "the server is running on port \x7bint\x7d", assumePort),
    (.event, "I make a GET request to \x7bstring\x7d", sendGet),
    (.event,
      "I make a POST request to \x7bstring\x7d with content type \x7bstring\x7d and body \x7bstring\x7d",
      sendPost),
    (.event, "I make \x7bint\x7d concurrent requests to \x7bstring\x7d", sendGets),
    (.event, "I make \x7bint\x7d concurrent GET requests to \x7bstring\x7d", sendGets),
    (.expectation, "the HTTP response status should be \x7bint\x7d",
      ofResponseStatus Check.hasStatus),
    (.expectation, "the HTTP status should be \x7bint\x7d", ofResponseStatus Check.hasStatus),
    (.expectation, "the response status should not be \x7bint\x7d",
      ofResponseStatus Check.hasOtherStatus),
    (.expectation, "the JSON response should contain status \x7bstring\x7d",
      ofResponseText Check.reportsStatus),
    (.expectation, "the response should contain status \x7bstring\x7d",
      ofResponseText Check.reportsStatus),
    (.expectation, "the response should contain field \x7bstring\x7d with value \x7bstring\x7d",
      memberIs),
    (.expectation, "the content type should be \x7bstring\x7d", ofResponseText Check.declares),
    (.expectation, "all requests should succeed", ofBatch Check.everySucceeded),
    (.expectation, "all responses should contain status \x7bstring\x7d", everyStatusIs)]

/-- Steps for calls of the health service. -/
def callSteps : List (Kind × String × Handler) :=
  [(.event, "I make a health check request using Connect-Go client", callCheck),
    (.event, "I make a health check request using HTTP/JSON", callCheck),
    (.event, "I make a health check request with invalid content type", callCheckAsText),
    (.event, "I make a request to a non-existent endpoint", callUnknown),
    (.event, "I make \x7bint\x7d concurrent health check requests", callChecks),
    (.expectation, "the response should indicate SERVING status", ofResponse Check.reportsServing),
    (.expectation, "the response should not be empty", ofResponse Check.hasBody),
    (.expectation, "the JSON response should contain SERVING_STATUS_SERVING",
      ofResponse fun response => Check.reportsStatus response Check.servingStatus),
    (.expectation, "the server should reject the request", ofResponse Check.refusesMediaType),
    (.expectation, "the request should fail", ofResponse Check.isUnsuccessful),
    (.expectation, "all responses should indicate SERVING status", everyServing),
    (.expectation, "the response should contain proper Connect-Go headers",
      ofResponse Check.declaresJson)]

/-- Steps for the database block. -/
def databaseSteps : List (Kind × String × Handler) :=
  [(.expectation, "the JSON response should contain database information",
      ofResponse Check.describesDatabase),
    (.expectation, "the JSON response should contain connection statistics",
      ofResponse Check.describesDatabaseAndPool),
    (.expectation, "the JSON response should contain a timestamp field",
      ofResponse Check.hasTimestamp),
    (.expectation, "the database connection pool should be healthy",
      ofResponse Check.databaseIsHealthy),
    (.expectation, "the connection statistics should be valid",
      ofResponse Check.poolIsConsistent),
    (.expectation, "the connection statistics should include max_open_connections",
      ofResponse Check.poolHasRoom),
    (.expectation, "the connection statistics should include current usage metrics",
      ofResponse Check.poolReportsUse),
    (.expectation, "the database status should be \x7bstring\x7d",
      ofResponseText Check.reportsDatabaseStatus),
    (.expectation, "all database health requests should succeed", ofBatch Check.everySucceeded),
    (.expectation, "all responses should contain valid connection statistics",
      ofBatch Check.everyPoolIsSound)]

/-- Steps for monitoring. -/
def monitoringSteps : List (Kind × String × Handler) :=
  [(.expectation, "the response should be lightweight for monitoring",
      ofResponse Check.suitsMonitoring)]

/-- The steps that every run knows. -/
def standardSteps : List (Kind × String × Handler) :=
  plainSteps ++ callSteps ++ databaseSteps ++ monitoringSteps

/-- The registry of the standard steps. -/
def Registry.standard : Except Error Registry :=
  Registry.empty.addAll standardSteps

end ServiceHealth.Step
