import ServiceHealth.DomainName.Lookup
import ServiceHealth.Http.Percent

/-!
# Hosts of a URL

A host is an IPv6 address in brackets, an IPv4 address, or a domain.  Each is
brought to one written form: an IPv6 address in lower-case groups with its
longest run of zero groups left out, an IPv4 address as four decimal numbers
(its parts may have been written in octal or hexadecimal, or be fewer than
four), and a domain as it is looked up, in ASCII.
-/

namespace ServiceHealth.Http.Host

/-! ## IPv4 -/

/-- A part of an IPv4 address: hexadecimal after `0x`, octal after `0`, decimal otherwise. -/
def ipv4Part? : List Char → Option Nat
  | [] => none
  | '0' :: 'x' :: digits => Text.inBase? 16 digits
  | '0' :: 'X' :: digits => Text.inBase? 16 digits
  | '0' :: digits => Text.inBase? 8 digits
  | digits => Text.inBase? 10 digits

/-- The parts of a host between points, without an empty one at the end. -/
def pointParts (cs : List Char) : List (List Char) :=
  let parts := cs.splitOn '.'
  match parts.getLast? with
  | some [] => if 1 < parts.length then parts.dropLast else parts
  | _ => parts

/-- The last part of the host is a number, so that the host has to be an IPv4 address. -/
def endsInNumber (cs : List Char) : Bool :=
  match (pointParts cs).getLast? with
  | none => false
  | some [] => false
  | some last =>
    last.all Text.isAsciiDigit ||
      ((last.take 2 == ['0', 'x'] || last.take 2 == ['0', 'X']) && (ipv4Part? last).isSome)

/-- The address written by one to four parts, of which the last fills what is left. -/
def ipv4Value? (cs : List Char) : Option Nat := do
  let parts := pointParts cs
  if 4 < parts.length then none
  else
    let numbers ← parts.mapM ipv4Part?
    let last ← numbers.getLast?
    let leading := numbers.dropLast
    if leading.any (255 < ·) ∨ Nat.pow 256 (5 - numbers.length) ≤ last then none
    else
      return leading.zipIdx.foldl (fun total (n, i) => total + n * Nat.pow 256 (3 - i)) last

/-- The four bytes of an address with points between them. -/
def ipv4Text (address : Nat) : String :=
  s!"{address / 16777216 % 256}.{address / 65536 % 256}.{address / 256 % 256}.{address % 256}"

/-! ## IPv6 -/

/-- The groups written between colons; the last part may be an IPv4 address, which
makes two groups. -/
def ipv6Groups? (cs : List Char) : Option (List Nat) :=
  if cs.isEmpty then some []
  else
    let parts := cs.splitOn ':'
    let group? (part : List Char) : Option Nat :=
      if part.isEmpty ∨ 4 < part.length then none else Text.inBase? 16 part
    let last := parts.getLast?.getD []
    if last.contains '.' then do
      let leading ← parts.dropLast.mapM group?
      let bytes ← (last.splitOn '.').mapM fun part => do
        let n ← Text.numeral? part
        if n < 256 ∧ (part.length = 1 ∨ part.head? ≠ some '0') then some n else none
      match bytes with
      | [a, b, c, d] => return leading ++ [a * 256 + b, c * 256 + d]
      | _ => none
    else parts.mapM group?

/-- The text before and after the first two colons in a row. -/
def splitGap : List Char → Option (List Char × List Char)
  | [] => none
  | ':' :: ':' :: rest => some ([], rest)
  | c :: rest => (splitGap rest).map fun (before, after) => (c :: before, after)

/-- The eight groups of an IPv6 address. -/
def ipv6? (cs : List Char) : Option (List Nat) :=
  match splitGap cs with
  | none => do
    let groups ← ipv6Groups? cs
    if groups.length = 8 then some groups else none
  | some (before, after) => do
    let leading ← ipv6Groups? before
    let trailing ← ipv6Groups? after
    if leading.length + trailing.length < 8 ∧ ¬ before.contains '.' then
      return leading ++ List.replicate (8 - leading.length - trailing.length) 0 ++ trailing
    else none

/-- How many zero groups a list starts with. -/
def zeroRun (groups : List Nat) : Nat :=
  (groups.takeWhile (· == 0)).length

/-- The first of the longest runs of at least two zero groups: where it starts and how
long it is. -/
def longestZeroRun (groups : List Nat) : Option (Nat × Nat) :=
  (List.range groups.length).foldl (fun best start =>
    let run := zeroRun (groups.drop start)
    if run < 2 then best
    else
      match best with
      | some (_, length) => if length < run then some (start, run) else best
      | none => some (start, run)) none

/-- Groups in hexadecimal with colons between them. -/
def groupsText (groups : List Nat) : String :=
  ":".intercalate (groups.map fun group => String.ofList (Nat.toDigits 16 group))

/-- An IPv6 address with its longest run of zero groups left out. -/
def ipv6Text (groups : List Nat) : String :=
  match longestZeroRun groups with
  | none => groupsText groups
  | some (start, length) =>
    groupsText (groups.take start) ++ "::" ++ groupsText (groups.drop (start + length))

/-! ## Reading a host -/

/-- The written form of a host, or nothing if it is none. -/
def normalise? (cs : List Char) : Option String :=
  match cs with
  | '[' :: rest =>
    match rest.getLast? with
    | some ']' => (ipv6? rest.dropLast).map fun groups => "[" ++ ipv6Text groups ++ "]"
    | _ => none
  | cs =>
    match DomainName.ascii? (Text.Utf8.decodeLossy (Percent.decode cs)).toList with
    | none => none
    | some domain =>
      if domain.isEmpty then none
      else if endsInNumber domain then (ipv4Value? domain).map ipv4Text
      else some (String.ofList domain)

end ServiceHealth.Http.Host
