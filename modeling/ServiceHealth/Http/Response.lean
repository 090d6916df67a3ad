import ServiceHealth.Http.Header
import ServiceHealth.Json.Reader

/-!
# Responses and outcomes

A request has exactly one outcome: the service answered, with whatever status,
or the request failed below HTTP.
-/

namespace ServiceHealth.Http

/-- A response captured in full. -/
structure Response where
  status : Nat
  fields : ResponseFields
  body : List UInt8

namespace Response

/-- The first value of a header field, if it is printable text. -/
def header? (response : Response) (name : String) : Option String :=
  response.fields.text? name

/-- The body as text, with replacement characters for invalid parts. -/
def bodyText (response : Response) : String :=
  Text.Utf8.decodeLossy response.body

/-- The body as JSON; a body that is none is a failed check.  What a parser would report about
such a body is not modelled: the failure has one wording for all of them. -/
def json (response : Response) : Except Error Json :=
  match Json.read? response.body with
  | some value => .ok value
  | none => Error.fail .notJson

end Response

/-- What became of a request. -/
inductive Outcome where
  | answered (response : Response)
  | failed (failure : TransportFailure)

namespace Outcome

/-- The response, if the service answered. -/
def response? : Outcome → Option Response
  | .answered response => some response
  | .failed _ => none

/-- The failure, if the service did not answer. -/
def failure? : Outcome → Option TransportFailure
  | .answered _ => none
  | .failed failure => some failure

/-- The response; a failure below HTTP is a failed check. -/
def require : Outcome → Except Error Response
  | .answered response => .ok response
  | .failed failure => Error.fail (.noResponse failure)

end Outcome

end ServiceHealth.Http
