import ServiceHealth.Json.Token
import ServiceHealth.Text.Utf8

/-!
# Reading a JSON text

The tokens of a text are read from left to right with a stack of the arrays and
objects that are still open.  A text is one value with nothing but blanks around
it; at most 127 arrays and objects may be open at the same time, and of several
members with one name the last one counts.
-/

namespace ServiceHealth.Json

/-- An array or object that is still open: what has been read of it so far. -/
inductive Frame where
  /-- The items read, last one first. -/
  | array (items : List Json)
  /-- The members read, and the name of the one whose value comes next. -/
  | object (members : Members) (name : String)

/-- What may come next. -/
inductive Expecting where
  | value
  /-- The first item of the array just opened, or its end. -/
  | firstItem
  /-- The first name of the object just opened, or its end. -/
  | firstName
  /-- The next name in an object with these members. -/
  | name (members : Members)
  /-- The colon after this name in an object with these members. -/
  | colon (members : Members) (name : String)
  /-- What follows a complete value: a comma or the end of what is open, or nothing. -/
  | afterValue (value : Json)

/-- A position in a text: the open arrays and objects, innermost first, and what may come next. -/
structure Position where
  frames : List Frame
  next : Expecting

/-- How many arrays and objects may be open at the same time. -/
def maxDepth : Nat := 127

/-- Opens an array or an object. -/
def Position.enter (frames : List Frame) (frame : Frame) (next : Expecting) : Option Position :=
  if frames.length < maxDepth then some ⟨frame :: frames, next⟩ else none

/-- Reads a token where a value may start. -/
def Position.startValue (frames : List Frame) : Token → Option Position
  | .value json => some ⟨frames, .afterValue json⟩
  | .text value => some ⟨frames, .afterValue (.text value)⟩
  | .openArray => enter frames (.array []) .firstItem
  | .openObject => enter frames (.object [] "") .firstName
  | _ => none

/-- Reads one token. -/
def Position.step (position : Position) (token : Token) : Option Position :=
  match position.next, position.frames, token with
  | .value, frames, token => startValue frames token
  | .firstItem, .array items :: frames, .closeArray => some ⟨frames, .afterValue (.array items)⟩
  | .firstItem, frames, token => startValue frames token
  | .firstName, .object members _ :: frames, .closeObject =>
    some ⟨frames, .afterValue (.object members)⟩
  | .firstName, .object members _ :: frames, .text name => some ⟨frames, .colon members name⟩
  | .name members, frames, .text name => some ⟨frames, .colon members name⟩
  | .colon members name, frames, .colon => some ⟨.object members name :: frames, .value⟩
  | .afterValue value, .array items :: frames, .comma =>
    some ⟨.array (value :: items) :: frames, .value⟩
  | .afterValue value, .array items :: frames, .closeArray =>
    some ⟨frames, .afterValue (.array (value :: items).reverse)⟩
  | .afterValue value, .object members name :: frames, .comma =>
    some ⟨frames, .name (members.insert name value)⟩
  | .afterValue value, .object members name :: frames, .closeObject =>
    some ⟨frames, .afterValue (.object (members.insert name value))⟩
  | _, _, _ => none

/-- The value that tokens write. -/
def ofTokens? (tokens : List Token) : Option Json :=
  match tokens.foldlM Position.step ⟨[], .value⟩ with
  | some ⟨[], .afterValue value⟩ => some value
  | _ => none

/-- The value of a JSON text, given as bytes in UTF-8; nothing if they are not one JSON text. -/
def read? (bytes : List UInt8) : Option Json :=
  (Text.Utf8.decodeChars? bytes).bind fun cs => (tokens? cs).bind ofTokens?

end ServiceHealth.Json
