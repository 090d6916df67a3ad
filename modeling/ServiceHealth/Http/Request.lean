import ServiceHealth.Http.Header
import ServiceHealth.Http.Response
import ServiceHealth.Http.Url
import ServiceHealth.Text.Base64

/-!
# Requests

A request is described without the address of the service.  When it is sent it
becomes a call: an address, header fields in which every name stands once, and a
body.  What the network delivers for a call is a response or a fault.
-/

namespace ServiceHealth.Http

/-- The content type that a body gets when the request names none. -/
def defaultContentType : String := "application/json"

/-- The name of the header field for the content type. -/
def contentTypeName : String := "content-type"

/-- What is to be asked, independent of where. -/
structure Request where
  method : String
  path : String
  fields : List (String × String) := []
  body : Option String := none
  deriving DecidableEq, Repr

namespace Request

/-- A GET without a body. -/
def get (path : String) : Request :=
  ⟨"GET", path, [], none⟩

/-- A POST with a body. -/
def post (path body : String) : Request :=
  ⟨"POST", path, [], some body⟩

/-- A unary call of a method of a service with an empty message. -/
def unary (service method : String) : Request :=
  post ("/" ++ service ++ "/" ++ method) "\x7b\x7d"

/-- The request with one more header field. -/
def withField (request : Request) (name value : String) : Request :=
  ⟨request.method, request.path, request.fields ++ [(name, value)], request.body⟩

/-- The request names a content type, in whatever case. -/
def namesContentType (request : Request) : Bool :=
  request.fields.any fun field => lowerCase field.1 == contentTypeName

/-- The header fields with which the request is sent: the listed ones, and the
default content type for a body without one. -/
def sentFields (request : Request) : Except Error RequestFields := do
  let fields ← RequestFields.ofList? request.fields
  if request.body.isSome && !request.namesContentType then
    return fields.set contentTypeName defaultContentType
  else return fields

end Request

/-- A request as it goes out. -/
structure Call where
  method : String
  url : Url
  /-- Who asks, if the address says so. -/
  authorization : Option String
  fields : RequestFields
  body : Option String
  timeoutSecs : Nat
  deriving DecidableEq, Repr

/-- How credentials are sent. -/
def authorizationOf (user : String) (password : Option String) : String :=
  "Basic " ++ String.ofList (Text.base64 (Text.Utf8.encode (user ++ ":" ++ password.getD "")))

/-- What goes wrong with a call: of which class it is, and how it is worded. -/
structure Fault where
  kind : TransportKind
  message : String
  deriving DecidableEq, Repr

namespace Fault

/-- The wording of a fault before the head of the answer has come. -/
def sending (url : Url) : String :=
  "error sending request for url (" ++ url.text ++ ")"

/-- No connection is made. -/
def refused (url : Url) : Fault :=
  ⟨.connect, sending url⟩

/-- The time for the request runs out before there is an answer. -/
def timedOut (url : Url) : Fault :=
  ⟨.timeout, sending url⟩

/-- The connection ends without an answer, or the answer is not HTTP. -/
def broken (url : Url) : Fault :=
  ⟨.other, sending url⟩

/-- The wording of a fault behind the head of the answer. -/
def decoding : String :=
  "error decoding response body"

/-- The body ends before its announced length. -/
def truncated : Fault :=
  ⟨.body, decoding⟩

/-- The time for the request runs out while the body is read. -/
def stalled : Fault :=
  ⟨.timeout, decoding⟩

/-- One redirect after another is answered with a further one. -/
def redirects (url : Url) : Fault :=
  ⟨.other, "error following redirect for url (" ++ url.withoutFragment.text ++ ")"⟩

/-- An address to which no request can be sent. -/
def unsendable (address : String) : Fault :=
  ⟨.other, "builder error for url (" ++ address ++ ")"⟩

end Fault

/-- What the network delivers for a call. -/
inductive Delivery where
  | answered (response : Response)
  | failed (fault : Fault)

/-- The outcome of a request to this address, given what was delivered for it. -/
def Delivery.outcome (url : String) : Delivery → Outcome
  | .answered response => .answered response
  | .failed fault => .failed ⟨fault.kind, url, fault.message⟩

end ServiceHealth.Http
