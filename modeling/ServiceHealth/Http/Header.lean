import ServiceHealth.Error.Basic
import ServiceHealth.Text.Utf8

/-!
# Header fields

A header name is one or more token characters and is compared without regard to
ASCII case, so it is kept in lower case.  A header value may hold tabs and every
byte from 32 up except 127.  The fields of a request have each name once, where
the last value given wins; the fields of a response may repeat a name.
-/

namespace ServiceHealth.Http

/-- A text with its ASCII letters in lower case. -/
def lowerCase (text : String) : String :=
  String.ofList (text.toList.map Char.toLower)

/-- The marks that may stand in a header name, beside letters and digits. -/
def tokenMarks : List Char :=
  ['!', '#', '$', '%', '&', '\'', '*', '+', '-', '.', '^', '_', Char.ofNat 0x60, '|', '~']

/-- The characters of a header name. -/
def isTokenChar (c : Char) : Bool :=
  c.isAlphanum || tokenMarks.contains c

/-- The text is a header name. -/
def isHeaderName (name : String) : Bool :=
  !name.isEmpty && name.toList.all isTokenChar

/-- The byte may stand in a header value. -/
def isValueByte (byte : UInt8) : Bool :=
  byte == 9 || (32 ≤ byte && byte != 127)

/-- The text is a header value. -/
def isHeaderValue (value : String) : Bool :=
  (Text.Utf8.encode value).all isValueByte

/-! ## Fields of a request -/

/-- The header fields of a request: names in lower case, each of them once. -/
abbrev RequestFields := List (String × String)

namespace RequestFields

/-- The value of a field, whatever the case of the name. -/
def get? (fields : RequestFields) (name : String) : Option String :=
  fields.lookup (lowerCase name)

/-- Sets a field, in place of every earlier value under the same name. -/
def set (fields : RequestFields) (name value : String) : RequestFields :=
  fields.filter (fun field => field.1 != lowerCase name) ++ [(lowerCase name, value)]

/-- Sets the listed fields one after another; the first name or value that is
not allowed stops, a name before its value. -/
def ofList? (listed : List (String × String)) : Except Error RequestFields :=
  listed.foldlM (fun fields (name, value) =>
    if !isHeaderName name then .error (.stepArgument (.headerName name))
    else if !isHeaderValue value then .error (.stepArgument (.headerValue value))
    else .ok (fields.set name value)) []

end RequestFields

/-! ## Fields of a response -/

/-- The header fields of a response in the order received, names in lower case. -/
abbrev ResponseFields := List (String × List UInt8)

namespace ResponseFields

/-- The response fields with these names and texts. -/
def ofList (listed : List (String × String)) : ResponseFields :=
  listed.map fun (name, value) => (lowerCase name, Text.Utf8.encode value)

/-- The text of a value: it has one if every byte is a tab or printable ASCII. -/
def textOf? (value : List UInt8) : Option String :=
  if value.all fun byte => byte == 9 || (32 ≤ byte && byte < 127) then
    some (String.ofList (value.map fun byte => Char.ofNat byte.toNat))
  else none

/-- The first value of a field as text, whatever the case of the name. -/
def text? (fields : ResponseFields) (name : String) : Option String :=
  (fields.lookup (lowerCase name)).bind textOf?

end ResponseFields

end ServiceHealth.Http
