import ServiceHealth.Toml.Quoted
import ServiceHealth.Toml.Scalar

/-!
# Reading a TOML document

A document is read line by line: a line holds a header, a key with a value, or
nothing, and may end in a comment.  Values in brackets may go over several lines,
those in braces may not.
-/

namespace ServiceHealth.Toml

/-- How deeply values may be nested, and how many parts a key may have, at most. -/
def maxNesting : Nat := 79

/-- The text after blanks within a line. -/
def skipBlanks (cs : List Char) : List Char :=
  cs.dropWhile isWithinLine

/-- The text after a comment, if one starts here; its characters have to be allowed. -/
def skipComment? : List Char → Option (List Char)
  | '#' :: rest =>
    let after := rest.dropWhile isTextChar
    if after.isEmpty ∨ (afterLineEnd? after).isSome then some after else none
  | cs => some cs

/-- The text after blanks, comments and line ends, as they may stand between brackets. -/
def skipBetween? (limit : Nat) (cs : List Char) : Option (List Char) :=
  match limit with
  | 0 => some cs
  | limit + 1 => do
    let cs ← skipComment? (skipBlanks cs)
    match afterLineEnd? cs with
    | some rest => skipBetween? limit rest
    | none => return cs

/-- The text after the end of a line: blanks and a comment may stand before it. -/
def endLine? (cs : List Char) : Option (List Char) := do
  let cs ← skipComment? (skipBlanks cs)
  if cs.isEmpty then return [] else afterLineEnd? cs

/-! ## Keys -/

/-- The characters of a key without quotes. -/
def isBareKeyChar (c : Char) : Bool :=
  c.isAlphanum || c == '_' || c == '-'

/-- One part of a key. -/
def readKeyPart? (cs : List Char) : Option (String × List Char) :=
  match cs with
  | '"' :: rest => readQuoted? '"' false rest
  | '\'' :: rest => readQuoted? '\'' false rest
  | cs =>
    let name := cs.takeWhile isBareKeyChar
    if name.isEmpty then none else some (String.ofList name, cs.drop name.length)

/-- The parts of a key, with blanks around the points between them. -/
def readKeyParts? (limit : Nat) (cs : List Char) : Option (List String × List Char) :=
  match limit with
  | 0 => none
  | limit + 1 => do
    let (part, rest) ← readKeyPart? (skipBlanks cs)
    match skipBlanks rest with
    | '.' :: rest =>
      let (parts, rest) ← readKeyParts? limit rest
      return (part :: parts, rest)
    | rest => return ([part], rest)

/-- A key as the parts before the last one, and the last one. -/
def readKey? (cs : List Char) : Option ((List String × String) × List Char) := do
  let (parts, rest) ← readKeyParts? maxNesting cs
  let last ← parts.getLast?
  return ((parts.dropLast, last), rest)

/-! ## Values -/

mutual

/-- A value. -/
def readValue? (limit depth : Nat) (cs : List Char) : Option (Toml × List Char) :=
  match limit, depth, cs with
  | _, _, '"' :: rest =>
    (readQuoted? '"' true rest).map fun (content, rest) => (.text content, rest)
  | _, _, '\'' :: rest =>
    (readQuoted? '\'' true rest).map fun (content, rest) => (.text content, rest)
  | limit + 1, depth + 1, '[' :: rest => do
    let (items, rest) ← readItems? limit depth rest
    return (.array items, rest)
  | limit + 1, depth + 1, '\x7b' :: rest => do
    match skipBlanks rest with
    | '\x7d' :: rest => return (.table .inline [], rest)
    | rest =>
      let (entries, rest) ← readInline? limit depth [] rest
      return (.table .inline entries, rest)
  | _, _, cs => readScalar? cs

/-- The items of an array up to its closing bracket; a comma may follow the last one. -/
def readItems? (limit depth : Nat) (cs : List Char) : Option (List Toml × List Char) :=
  match limit with
  | 0 => none
  | limit + 1 => do
    let cs ← skipBetween? (cs.length + 1) cs
    match cs with
    | ']' :: rest => return ([], rest)
    | cs =>
      let (item, rest) ← readValue? limit depth cs
      let rest ← skipBetween? (rest.length + 1) rest
      match rest with
      | ',' :: rest =>
        let (items, rest) ← readItems? limit depth rest
        return (item :: items, rest)
      | ']' :: rest => return ([item], rest)
      | _ => none

/-- The entries of an inline table up to its closing brace, after those read so far. -/
def readInline? (limit depth : Nat) (entries : Entries) (cs : List Char) :
    Option (Entries × List Char) :=
  match limit with
  | 0 => none
  | limit + 1 => do
    let ((path, key), rest) ← readKey? cs
    match rest with
    | '=' :: rest =>
      let (value, rest) ← readValue? limit depth (skipBlanks rest)
      let entries ← addAt path key value .inline entries
      match skipBlanks rest with
      | ',' :: rest => readInline? limit depth entries rest
      | '\x7d' :: rest => return (entries, rest)
      | _ => none
    | _ => none

end

/-! ## Lines -/

/-- A document as read so far: its entries, and the table that the last header opened. -/
structure Progress where
  entries : Entries
  current : List String

/-- Reads a header after its first bracket. -/
def readHeader? (progress : Progress) (cs : List Char) : Option (Progress × List Char) :=
  match cs with
  | '[' :: rest => do
    let ((path, key), rest) ← readKey? rest
    match rest with
    | ']' :: ']' :: rest =>
      let entries ← openTables path key progress.entries
      return (⟨entries, path ++ [key]⟩, rest)
    | _ => none
  | cs => do
    let ((path, key), rest) ← readKey? cs
    match rest with
    | ']' :: rest =>
      let entries ← openTable path key progress.entries
      return (⟨entries, path ++ [key]⟩, rest)
    | _ => none

/-- Reads a key with its value into the current table. -/
def readEntry? (progress : Progress) (cs : List Char) : Option (Progress × List Char) := do
  let ((path, key), rest) ← readKey? cs
  match rest with
  | '=' :: rest =>
    let rest := skipBlanks rest
    let (value, rest) ← readValue? (2 * rest.length + 2) maxNesting rest
    let entries ←
      change false progress.current (fun origin inner => addAt path key value origin inner) .header
        progress.entries
    return (⟨entries, progress.current⟩, rest)
  | _ => none

/-- Reads the lines of a document. -/
def readDocument (limit : Nat) (progress : Progress) (cs : List Char) : Option Progress :=
  match limit, skipBlanks cs with
  | _, [] => some progress
  | 0, _ => none
  | limit + 1, '[' :: rest => do
    let (progress, rest) ← readHeader? progress rest
    let rest ← endLine? rest
    readDocument limit progress rest
  | limit + 1, c :: rest =>
    if c = '#' ∨ c = '\n' ∨ c = '\r' then do
      let rest ← endLine? (c :: rest)
      readDocument limit progress rest
    else do
      let (progress, rest) ← readEntry? progress (c :: rest)
      let rest ← endLine? rest
      readDocument limit progress rest

/-- The entries of a document; nothing if the text is none.  A byte order mark may stand first. -/
def read? (text : String) : Option Entries :=
  let cs := text.toList
  let cs := if cs.head? = some (Char.ofNat 0xFEFF) then cs.drop 1 else cs
  (readDocument (cs.length + 1) ⟨[], []⟩ cs).map Progress.entries

end ServiceHealth.Toml
