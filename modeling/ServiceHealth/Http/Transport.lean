/-!
# Transport failures

A request that gets no complete response fails below HTTP.  The failure keeps
the requested address and a message, and is classified coarsely: the time for
the request ran out, no connection was made, the body could not be read, or
anything else.
-/

namespace ServiceHealth.Http

/-- The coarse class of a transport failure. -/
inductive TransportKind where
  | timeout
  | connect
  | body
  | other
  deriving DecidableEq, Repr

/-- A class of failures as a message names it. -/
def TransportKind.name : TransportKind → String
  | .timeout => "timeout"
  | .connect => "connect"
  | .body => "body"
  | .other => "other"

/-- A request that failed below HTTP. -/
structure TransportFailure where
  kind : TransportKind
  url : String
  message : String
  deriving DecidableEq, Repr

/-- The failure as one line of text. -/
def TransportFailure.describe (failure : TransportFailure) : String :=
  failure.kind.name ++ " error on " ++ failure.url ++ ": " ++ failure.message

end ServiceHealth.Http
