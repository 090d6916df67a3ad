import ServiceHealth.Decimal.Notation
import ServiceHealth.Json.Value

/-!
# Writing JSON compactly

No blanks are written.  A text escapes the quote, the backslash and the control
characters below U+0020, the latter by a letter where there is one and by four
lower-case hexadecimal digits otherwise.
-/

namespace ServiceHealth.Json

/-- A number as JSON writes it. -/
def Number.write : Number → String
  | .integer value => toString value
  | .double value => Decimal.json value

/-- The hexadecimal digits of a control character. -/
def controlDigits (n : Nat) : List Char :=
  [if n < 16 then '0' else '1', Nat.digitChar (n % 16)]

/-- A character inside a written text. -/
def writeChar (c : Char) : List Char :=
  if c = '"' then ['\\', '"']
  else if c = '\\' then ['\\', '\\']
  else if 0x20 ≤ c.toNat then [c]
  else if c.toNat = 8 then ['\\', 'b']
  else if c.toNat = 9 then ['\\', 't']
  else if c.toNat = 10 then ['\\', 'n']
  else if c.toNat = 12 then ['\\', 'f']
  else if c.toNat = 13 then ['\\', 'r']
  else ['\\', 'u', '0', '0'] ++ controlDigits c.toNat

/-- A text with its quotes. -/
def writeText (text : String) : String :=
  String.ofList ('"' :: (text.toList.flatMap writeChar ++ ['"']))

mutual

/-- A value in its compact form. -/
def write : Json → String
  | .null => "null"
  | .bool true => "true"
  | .bool false => "false"
  | .number value => value.write
  | .text value => writeText value
  | .array items => "[" ++ ",".intercalate (writeItems items) ++ "]"
  | .object members => "\x7b" ++ ",".intercalate (writeMembers members) ++ "\x7d"

/-- The items of an array, each in its compact form. -/
def writeItems : List Json → List String
  | [] => []
  | item :: rest => write item :: writeItems rest

/-- The members of an object, each with its name in front. -/
def writeMembers : List (String × Json) → List String
  | [] => []
  | (name, value) :: rest => (writeText name ++ ":" ++ write value) :: writeMembers rest

end

end ServiceHealth.Json
