import ServiceHealth.Http.Request
import ServiceHealth.Text.Hexadecimal

/-!
# Calls and responses as bytes

A call goes out as a head of lines and a body.  A response comes in the same form;
its head says where its body ends: after a number of bytes, after the last of its
chunks, or with the connection.  A response is read from all the bytes that have
come so far, so reading can be tried again whenever more have come.
-/

namespace ServiceHealth.Http

/-! ## Calls -/

/-- The user agent of a call that names none. -/
def defaultUserAgent : String := "health-e2e/0.1.0"

/-- The header fields that a call gets if it does not have them. -/
def Call.defaultFields (call : Call) : List (String × String) :=
  [("accept", "*/*"), ("user-agent", defaultUserAgent), ("host", call.url.authority)] ++
    (call.authorization.map fun value => ("authorization", value)).toList ++
    (call.body.map fun body => ("content-length", toString (Text.Utf8.encode body).length)).toList

/-- The header fields of a call as it goes out. -/
def Call.allFields (call : Call) : List (String × String) :=
  call.fields ++ call.defaultFields.filter fun field => (call.fields.get? field.1).isNone

/-- A call as text. -/
def Call.wire (call : Call) : String :=
  call.method ++ " " ++ call.url.target ++ " HTTP/1.1\r\n" ++
    String.join (call.allFields.map fun (name, value) => name ++ ": " ++ value ++ "\r\n") ++
    "\r\n" ++ call.body.getD ""

/-! ## The head of a response -/

/-- A line of bytes as characters. -/
def lineChars (line : List UInt8) : List Char :=
  line.map fun byte => Char.ofNat byte.toNat

/-- The first line, without its end, and what follows it; nothing if the line has not ended. -/
def takeLine? : List UInt8 → Option (List UInt8 × List UInt8)
  | [] => none
  | 10 :: rest => some ([], rest)
  | 13 :: 10 :: rest => some ([], rest)
  | byte :: rest => (takeLine? rest).map fun (line, rest) => (byte :: line, rest)

/-- The lines up to an empty one, and what follows it; nothing if there is no empty line yet. -/
def takeHead? (limit : Nat) (bytes : List UInt8) : Option (List (List UInt8) × List UInt8) :=
  match limit with
  | 0 => none
  | limit + 1 => do
    let (line, rest) ← takeLine? bytes
    if line.isEmpty then return ([], rest)
    else
      let (lines, rest) ← takeHead? limit rest
      return (line :: lines, rest)

/-- The status in the first line of a response. -/
def readStatus? (line : List UInt8) : Option Nat :=
  let cs := lineChars line
  if "HTTP/1.".toList.isPrefixOf cs then
    match cs.drop 7 with
    | version :: ' ' :: rest =>
      if Text.isAsciiDigit version ∧ (rest.drop 3).head?.all (· == ' ') then
        (Text.numeral? (rest.take 3)).filter (100 ≤ ·)
      else none
    | _ => none
  else none

/-- The bytes that are blank around a header value. -/
def isPadding (byte : UInt8) : Bool :=
  byte == 32 || byte == 9

/-- A header field. -/
def readField? (line : List UInt8) : Option (String × List UInt8) :=
  let name := line.takeWhile (· != 58)
  let value := (line.drop (name.length + 1)).dropWhile isPadding
  let value := (value.reverse.dropWhile isPadding).reverse
  let name := String.ofList (lineChars name)
  if name.length < line.length ∧ isHeaderName name ∧ value.all isValueByte then
    some (lowerCase name, value)
  else none

/-- The head of a response. -/
structure Head where
  status : Nat
  fields : ResponseFields

/-- The head that lines write. -/
def readHead? : (lines : List (List UInt8)) → Option Head
  | [] => none
  | first :: others => do
    let status ← readStatus? first
    let fields ← others.mapM readField?
    return ⟨status, fields⟩

/-- What has come of a head. -/
inductive HeadPart where
  | complete (head : Head) (rest : List UInt8)
  | incomplete
  | malformed

/-- The bytes can be the start of a response. -/
def startsResponse (bytes : List UInt8) : Bool :=
  let mark := Text.Utf8.encode "HTTP/1."
  mark.isPrefixOf bytes || bytes.isPrefixOf mark

/-- Reads the head of a response.  An answer before the final one is skipped. -/
def takeFinalHead (limit : Nat) (bytes : List UInt8) : HeadPart :=
  match limit with
  | 0 => .malformed
  | limit + 1 =>
    if !startsResponse bytes then .malformed
    else
      match takeHead? (bytes.length + 1) bytes with
      | none => .incomplete
      | some (lines, rest) =>
        match readHead? lines with
        | none => .malformed
        | some head =>
          if head.status < 200 ∧ head.status ≠ 101 then takeFinalHead limit rest
          else .complete head rest

/-! ## The body of a response -/

/-- Where a body ends. -/
inductive Framing where
  | size (bytes : Nat)
  | chunked
  | untilClosed
  deriving DecidableEq, Repr

/-- Where the body of a response ends; nothing if its head contradicts itself. -/
def framing? (method : String) (status : Nat) (fields : ResponseFields) : Option Framing :=
  if method = "HEAD" ∨ status < 200 ∨ status = 204 ∨ status = 304 then some (.size 0)
  else
    match fields.lookup "transfer-encoding" with
    | some coding =>
      if lowerCase (String.ofList (lineChars coding)) = "chunked" then some .chunked
      else some .untilClosed
    | none =>
      match fields.filter fun field => field.1 == "content-length" with
      | [] => some .untilClosed
      | (_, size) :: others =>
        if others.all fun field => field.2 == size then
          (Text.numeral? (lineChars size)).map .size
        else none

/-- What has come of a body. -/
inductive BodyPart where
  | complete (body : List UInt8)
  | incomplete
  | malformed
  deriving DecidableEq, Repr

/-- Reads chunks up to the empty one and the lines after it, behind what was read before. -/
def readChunks (limit : Nat) (before bytes : List UInt8) : BodyPart :=
  match limit with
  | 0 => .incomplete
  | limit + 1 =>
    match takeLine? bytes with
    | none => .incomplete
    | some (line, rest) =>
      match Text.hexNumber? ((lineChars line).takeWhile fun c => c != ';' && c != ' ') with
      | none => .malformed
      | some 0 =>
        if (takeHead? (rest.length + 1) rest).isSome then .complete before else .incomplete
      | some size =>
        let chunk := rest.take size
        if chunk.length < size then .incomplete
        else
          match takeLine? (rest.drop size) with
          | none => .incomplete
          | some ([], rest) => readChunks limit (before ++ chunk) rest
          | some _ => .malformed

/-- The body in the bytes after a head, once the connection has ended or before. -/
def readBody (framing : Framing) (ended : Bool) (bytes : List UInt8) : BodyPart :=
  match framing with
  | .size size => if size ≤ bytes.length then .complete (bytes.take size) else .incomplete
  | .chunked => readChunks (bytes.length + 1) [] bytes
  | .untilClosed => if ended then .complete bytes else .incomplete

/-! ## Responses -/

/-- The head in the bytes that have come so far, if it is complete. -/
def headIn? (bytes : List UInt8) : Option Head :=
  match takeFinalHead (bytes.length + 1) bytes with
  | .complete head _ => some head
  | _ => none

/-- What the bytes that have come so far amount to: a response, a fault, or nothing yet. -/
def received? (url : Url) (method : String) (ended : Bool) (bytes : List UInt8) :
    Option (Except Fault Response) :=
  match takeFinalHead (bytes.length + 1) bytes with
  | .malformed => some (.error (.broken url))
  | .incomplete => if ended then some (.error (.broken url)) else none
  | .complete head rest =>
    match framing? method head.status head.fields with
    | none => some (.error (.broken url))
    | some framing =>
      match readBody framing ended rest with
      | .complete body => some (.ok ⟨head.status, head.fields, body⟩)
      | .malformed => some (.error .truncated)
      | .incomplete => if ended then some (.error .truncated) else none

end ServiceHealth.Http
