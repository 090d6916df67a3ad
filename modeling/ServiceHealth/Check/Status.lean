import ServiceHealth.Http.Response

/-!
# Checks of the status and the content type

These checks look at what a response says before its body is read, and at whether
it has a body at all.  Each fails with the expected value and the actual one.
-/

namespace ServiceHealth.Check

open Http (Response)

/-- The media type of JSON bodies. -/
def jsonMediaType : String := "application/json"

/-- The status of a refused content type. -/
def unsupportedMediaType : Nat := 415

/-- How many characters of a body a message quotes. -/
def excerptLength : Nat := 200

/-! ## Status and size -/

/-- The status is the expected one. -/
def hasStatus (response : Response) (expected : Nat) : Except Error Unit :=
  if response.status = expected then .ok ()
  else Error.fail (.statusCode expected response.status)

/-- The status is any but this one. -/
def hasOtherStatus (response : Response) (unexpected : Nat) : Except Error Unit :=
  if response.status = unexpected then Error.fail (.statusCodeNot unexpected response.status)
  else .ok ()

/-- The service refused the content type of the request. -/
def refusesMediaType (response : Response) : Except Error Unit :=
  if response.status = unsupportedMediaType then .ok ()
  else Error.fail (.notRejected unsupportedMediaType response.status)

/-- At most so many characters of a text, with three points if some were left out. -/
def excerpt (limit : Nat) (text : String) : String :=
  let kept := text.toList.take limit
  if (text.toList.drop limit).isEmpty then text else String.ofList (kept ++ ['.', '.', '.'])

/-- The request was not answered with 200. -/
def isUnsuccessful (response : Response) : Except Error Unit :=
  if response.status = 200 then Error.fail (.notFailed (excerpt excerptLength response.bodyText))
  else .ok ()

/-- There is a body. -/
def hasBody (response : Response) : Except Error Unit :=
  if response.body.isEmpty then Error.fail .emptyBody else .ok ()

/-! ## Content type -/

/-- The characters occur in the text, one after another without a gap. -/
def occursIn (part : List Char) : List Char → Bool
  | [] => part.isEmpty
  | c :: rest => part.isPrefixOf (c :: rest) || occursIn part rest

/-- The content type contains this text; parameters may follow it. -/
def declares (response : Response) (expected : String) : Except Error Unit :=
  let actual := (response.header? "content-type").getD ""
  if occursIn expected.toList actual.toList then .ok ()
  else Error.fail (.contentType expected actual)

/-- The content type declares JSON. -/
def declaresJson (response : Response) : Except Error Unit :=
  declares response jsonMediaType

end ServiceHealth.Check
