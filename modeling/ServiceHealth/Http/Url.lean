import ServiceHealth.Http.Host

/-!
# Addresses of requests

An address is an `http` or `https` URL.  Before a request is sent the URL is normalised:
blanks around it and line ends inside it are dropped, the host gets its one
written form, the default port is left out, `.` and `..` segments of the path are
resolved, and characters that may not stand where they are get percent-encoded as
UTF-8.  The fragment is kept but not asked for.  A relative reference is resolved
against the address of the response that carries it, and may stand for an address
of another scheme, to which no request is sent.
-/

namespace ServiceHealth.Http

/-- A user name and a password in a URL, both already encoded; one of them is there. -/
structure Credentials where
  user : List Char
  password : Option (List Char)
  deriving DecidableEq, Repr

/-- The schemes of addresses to which requests are sent. -/
inductive Scheme where
  | http
  | https
  deriving DecidableEq, Repr

/-- A scheme as it is written. -/
def Scheme.name : Scheme → String
  | .http => "http"
  | .https => "https"

/-- The port of a scheme that is not written. -/
def Scheme.defaultPort : Scheme → Nat
  | .http => 80
  | .https => 443

/-- A normalised address to which requests are sent. -/
structure Url where
  scheme : Scheme
  credentials : Option Credentials
  host : String
  /-- The port, unless it is the default one. -/
  port : Option Nat
  /-- The segments of the path, already encoded; there is at least one. -/
  path : List (List Char)
  /-- The query without its question mark, already encoded. -/
  query : Option (List Char)
  /-- The fragment without its number sign, already encoded. -/
  fragment : Option (List Char)
  deriving DecidableEq, Repr

/-! ## Credentials -/

namespace Credentials

/-- The credentials as they stand before the host. -/
def text (credentials : Credentials) : List Char :=
  let password := match credentials.password with
    | none => []
    | some password => ':' :: password
  credentials.user ++ password ++ ['@']

/-- The user name and the password, if the user name is a text and one of the two
can be read; a password that is no text counts as none. -/
def decode? (credentials : Credentials) : Option (String × Option String) := do
  let user ← Text.Utf8.decode? (Percent.decode credentials.user)
  let password := credentials.password.bind fun cs => Text.Utf8.decode? (Percent.decode cs)
  if user.isEmpty && password.isNone then none else return (user, password)

end Credentials

namespace Url

/-! ## Writing -/

/-- The path and query as they are asked for. -/
def target (url : Url) : String :=
  let path := url.path.flatMap fun segment => '/' :: segment
  let query := match url.query with
    | none => []
    | some query => '?' :: query
  String.ofList (path ++ query)

/-- The port, whether it is written or not. -/
def portNumber (url : Url) : Nat :=
  url.port.getD url.scheme.defaultPort

/-- The host, with the port if that is not the default one. -/
def authority (url : Url) : String :=
  match url.port with
  | none => url.host
  | some port => url.host ++ s!":{port}"

/-- The address as text. -/
def text (url : Url) : String :=
  let credentials := match url.credentials with
    | none => []
    | some credentials => credentials.text
  let fragment := match url.fragment with
    | none => []
    | some fragment => '#' :: fragment
  url.scheme.name ++ "://" ++ String.ofList credentials ++ url.authority ++ url.target ++
    String.ofList fragment

/-- The address without its credentials if they can be read. -/
def withoutCredentials (url : Url) : Url :=
  if (url.credentials.bind Credentials.decode?).isSome then { url with credentials := none }
  else url

/-- The address without its fragment. -/
def withoutFragment (url : Url) : Url :=
  { url with fragment := none }

/-- The most bytes of an address to which a request can be sent. -/
def maxSize : Nat := 65534

/-- The marks that may be in a host but not in a request. -/
def hostMarks : List Char :=
  ['"', Char.ofNat 0x60, '\x7b', '\x7d']

/-- A request can be sent to the address. -/
def isSendable (url : Url) : Bool :=
  url.host.toList.all (!hostMarks.contains ·) && url.text.utf8ByteSize ≤ maxSize

/-! ## Marks -/

/-- What is encoded in a fragment. -/
def fragmentMarks : List Char :=
  [' ', '"', '<', '>', Char.ofNat 0x60]

/-- What is encoded in a segment of a path. -/
def pathMarks : List Char :=
  fragmentMarks ++ ['#', '?', '\x7b', '\x7d']

/-- What is encoded in credentials. -/
def credentialMarks : List Char :=
  pathMarks ++ ['/', ':', ';', '=', '@', '[', '\\', ']', '^', '|']

/-- What is encoded in a query. -/
def queryMarks : List Char :=
  [' ', '"', '#', '<', '>', '\'']

/-! ## Reading -/

/-- The character is dropped wherever it stands in a URL. -/
def isLineMark (c : Char) : Bool :=
  c == '\t' || c == '\n' || c == '\r'

/-- The text without control characters and blanks at its ends and without tabs and line ends. -/
def cleaned (cs : List Char) : List Char :=
  let trimmed := ((cs.dropWhile (·.toNat ≤ 32)).reverse.dropWhile (·.toNat ≤ 32)).reverse
  trimmed.filter fun c => !isLineMark c

/-- The character separates segments. -/
def isSlash (c : Char) : Bool :=
  c == '/' || c == '\\'

/-- The segment stands for the directory itself. -/
def isSingleDot (segment : List Char) : Bool :=
  let lower := segment.map Char.toLower
  lower == ['.'] || lower == ['%', '2', 'e']

/-- The segment stands for the directory above. -/
def isDoubleDot (segment : List Char) : Bool :=
  let lower := segment.map Char.toLower
  lower == ['.', '.'] || lower == ['.', '%', '2', 'e'] || lower == ['%', '2', 'e', '.'] ||
    lower == ['%', '2', 'e', '%', '2', 'e']

/-- The segment names a drive, which is never left for the directory above. -/
def isDrive : List Char → Bool
  | [letter, mark] => letter.isAlpha && (mark == ':' || mark == '|')
  | _ => false

/-- The segments of the directory above, where segments come last one first. -/
def above : List (List Char) → List (List Char)
  | [] => []
  | segment :: before => if isDrive segment then segment :: before else before

/-- Splits a path at its slashes; there is always one part. -/
def splitSegments : List Char → List (List Char)
  | [] => [[]]
  | c :: rest =>
    if isSlash c then [] :: splitSegments rest
    else
      match splitSegments rest with
      | [] => [[c]]
      | part :: parts => (c :: part) :: parts

/-- Appends segments to those that are there, which come last one first, and
resolves the dot segments; one at the end leaves an empty segment. -/
def appendSegments (reversed : List (List Char)) : List (List Char) → List (List Char)
  | [] => reversed
  | segment :: rest =>
    if isDoubleDot segment then
      if rest.isEmpty then [] :: above reversed else appendSegments (above reversed) rest
    else if isSingleDot segment then
      if rest.isEmpty then [] :: reversed else appendSegments reversed rest
    else appendSegments (Percent.encode pathMarks segment :: reversed) rest

/-- The path reached from these segments by a relative path. -/
def extendPath (base : List (List Char)) (relative : List Char) : List (List Char) :=
  (appendSegments base.reverse (splitSegments relative)).reverse

/-- The text before the first of these marks, and the text after it if there is one. -/
def splitAtMark (mark : Char) (cs : List Char) : List Char × Option (List Char) :=
  let before := cs.takeWhile (· ≠ mark)
  match cs.drop before.length with
  | [] => (before, none)
  | _ :: after => (before, some after)

/-- What follows the authority of a URL. -/
structure Rest where
  path : List Char
  query : Option (List Char)
  fragment : Option (List Char)

/-- The path, which is not encoded yet, the query and the fragment. -/
def splitRest (cs : List Char) : Rest :=
  let (beforeFragment, fragment) := splitAtMark '#' cs
  let (path, query) := splitAtMark '?' beforeFragment
  ⟨path, query.map (Percent.encode queryMarks), fragment.map (Percent.encode fragmentMarks)⟩

/-- The port written after a colon; nothing is written for the default one. -/
def readPort? (scheme : Scheme) (digits : List Char) : Option (Option Nat) :=
  if digits.isEmpty then some none
  else
    match Text.numeral? digits with
    | none => none
    | some port =>
      if 65535 < port then none else some (if port = scheme.defaultPort then none else some port)

/-- The credentials before the host, if there are any. -/
def readCredentials? (cs : List Char) : Option Credentials :=
  let (user, password) := splitAtMark ':' cs
  let password := password.filter (!·.isEmpty)
  if user.isEmpty && password.isNone then none
  else
    some ⟨Percent.encode credentialMarks user, password.map (Percent.encode credentialMarks)⟩

/-- The credentials, the host and the port of an authority. -/
def readAuthority? (scheme : Scheme) (cs : List Char) :
    Option (Option Credentials × String × Option Nat) := do
  let place := (cs.reverse.takeWhile (· ≠ '@')).reverse
  let credentials := readCredentials? (cs.take (cs.length - place.length)).dropLast
  let inBrackets := place.takeWhile (· ≠ ']')
  let hostLength :=
    if place.head? = some '[' then min (inBrackets.length + 1) place.length
    else (place.takeWhile (· ≠ ':')).length
  let host ← Host.normalise? (place.take hostLength)
  match place.drop hostLength with
  | [] => some (credentials, host, none)
  | ':' :: digits => (readPort? scheme digits).map fun port => (credentials, host, port)
  | _ => none

/-- The address whose authority starts here. -/
def readFromAuthority? (scheme : Scheme) (cs : List Char) : Option Url := do
  let authority := cs.takeWhile fun c => !(isSlash c || c == '?' || c == '#')
  let (credentials, host, port) ← readAuthority? scheme authority
  let rest := splitRest (cs.drop authority.length)
  let relative := if rest.path.head?.any isSlash then rest.path.drop 1 else rest.path
  return ⟨scheme, credentials, host, port, extendPath [] relative, rest.query, rest.fragment⟩

/-- The scheme that a text starts with, in lower case, and the rest behind its colon. -/
def splitScheme? (cs : List Char) : Option (List Char × List Char) :=
  let scheme := cs.takeWhile fun c => c.isAlphanum || c == '+' || c == '-' || c == '.'
  match cs.drop scheme.length with
  | ':' :: rest =>
    if scheme.head?.any Char.isAlpha then some (scheme.map Char.toLower, rest) else none
  | _ => none

/-- The scheme with this name, if requests are sent to its addresses. -/
def schemeNamed? (name : List Char) : Option Scheme :=
  [Scheme.http, .https].find? fun scheme => scheme.name.toList == name

/-- The address that an absolute URL writes. -/
def read? (text : String) : Option Url := do
  let (name, rest) ← splitScheme? (cleaned text.toList)
  let scheme ← schemeNamed? name
  readFromAuthority? scheme (rest.dropWhile isSlash)

/-- The text starts with two slashes, of either kind. -/
def startsAuthority (cs : List Char) : Bool :=
  (cs.take 2).length == 2 && (cs.take 2).all isSlash

/-- The address that a reference without a scheme stands for. -/
def resolveRelative? (base : Url) (cs : List Char) : Option Url :=
  if startsAuthority cs then readFromAuthority? base.scheme (cs.dropWhile isSlash)
  else
    let rest := splitRest cs
    let url := { base with query := rest.query, fragment := rest.fragment }
    if rest.path.isEmpty then some { url with query := rest.query.or base.query }
    else if rest.path.head?.any isSlash then
      some { url with path := extendPath [] (rest.path.drop 1) }
    else some { url with path := extendPath base.path.dropLast rest.path }

/-- What a reference stands for. -/
inductive Destination where
  | address (url : Url)
  /-- An address of another scheme, as a text. -/
  | foreign (text : String)
  deriving DecidableEq, Repr

/-- The rest of an address of another scheme says where to send a request: to a place after two
slashes, or to one that is no path. -/
def namesPlace (rest : List Char) : Bool :=
  let isEnd c := c == '/' || c == '?' || c == '#'
  match rest with
  | '/' :: '/' :: place => place.head?.any fun c => !isEnd c
  | _ => !rest.isEmpty && rest.all fun c => !isEnd c && c != ':'

/-- What a reference stands for beside the address it was found at.  The scheme of this
address says nothing if no two slashes are behind it.  An address of another scheme is not
taken apart, and only made a text of the characters that may stand in one. -/
def resolve? (base : Url) (reference : String) : Option Destination :=
  let cs := cleaned reference.toList
  match splitScheme? cs with
  | none => (base.resolveRelative? cs).map .address
  | some (name, rest) =>
    match schemeNamed? name with
    | some scheme =>
      if scheme = base.scheme then (base.resolveRelative? rest).map .address
      else (readFromAuthority? scheme (rest.dropWhile isSlash)).map .address
    | none =>
      if namesPlace rest then
        some (.foreign (String.ofList (name ++ ':' :: Percent.encode [' '] rest)))
      else none

end Url

end ServiceHealth.Http
