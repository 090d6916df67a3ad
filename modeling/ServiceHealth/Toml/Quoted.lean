import ServiceHealth.Text.Hexadecimal

/-!
# Quoted texts of TOML

A basic text stands in double quotes and has escapes, a literal one in single
quotes and has none.  Either may be written in three quotes and then go over
several lines: a line end right after the opening quotes is dropped, a line end
is always one line feed, and up to two quotes may stand before the closing ones.
No control character but the tab may stand in a text.
-/

namespace ServiceHealth.Toml

/-- The character may stand in a text or a comment. -/
def isTextChar (c : Char) : Bool :=
  c == '\t' || (32 ≤ c.toNat && c.toNat != 127)

/-- The rest of a text after a line end at its start. -/
def afterLineEnd? : List Char → Option (List Char)
  | '\n' :: rest => some rest
  | '\r' :: '\n' :: rest => some rest
  | _ => none

/-- The character is a blank within a line. -/
def isWithinLine (c : Char) : Bool :=
  c == ' ' || c == '\t'

/-- The rest of a text after blanks and line ends. -/
def skipLines (limit : Nat) (cs : List Char) : List Char :=
  match limit with
  | 0 => cs
  | limit + 1 =>
    match afterLineEnd? cs, cs with
    | some rest, _ => skipLines limit rest
    | none, c :: rest => if isWithinLine c then skipLines limit rest else cs
    | none, [] => []

/-- The character written by so many hexadecimal digits, if there is one. -/
def codePoint? (count : Nat) (cs : List Char) : Option (Char × List Char) := do
  if cs.length < count then none
  else
    let n ← Text.inBase? 16 (cs.take count)
    if n < 0xD800 ∨ (0xE000 ≤ n ∧ n < 0x110000) then some (Char.ofNat n, cs.drop count) else none

/-- The character that stands after a backslash. -/
def escape? : List Char → Option (Char × List Char)
  | [] => none
  | c :: rest =>
    if c = 'u' then codePoint? 4 rest
    else if c = 'U' then codePoint? 8 rest
    else if c = 'b' then some (Char.ofNat 8, rest)
    else if c = 't' then some ('\t', rest)
    else if c = 'n' then some ('\n', rest)
    else if c = 'f' then some (Char.ofNat 12, rest)
    else if c = 'r' then some ('\r', rest)
    else if c = '"' ∨ c = '\\' then some (c, rest)
    else none

/-- The content of a text on one line up to its closing quote. -/
def readLine? (quote : Char) (limit : Nat) (cs : List Char) : Option (List Char × List Char) :=
  match limit, cs with
  | limit + 1, c :: rest =>
    if c = quote then some ([], rest)
    else if c = '\\' ∧ quote = '"' then do
      let (escaped, rest) ← escape? rest
      let (content, rest) ← readLine? quote limit rest
      return (escaped :: content, rest)
    else if isTextChar c then do
      let (content, rest) ← readLine? quote limit rest
      return (c :: content, rest)
    else none
  | _, _ => none

/-- The text after an escaped line end: blanks, a line end, and all blanks and line ends
after it. -/
def afterEscapedLineEnd? (limit : Nat) (cs : List Char) : Option (List Char) :=
  (afterLineEnd? (cs.dropWhile isWithinLine)).map (skipLines limit)

/-- The content of a text over several lines up to its three closing quotes. -/
def readLines? (quote : Char) (limit : Nat) (cs : List Char) : Option (List Char × List Char) :=
  match limit, cs with
  | limit + 1, c :: rest =>
    if c = quote then
      let quotes := ((c :: rest).takeWhile (· == quote)).length
      if 3 ≤ quotes then
        let kept := min (quotes - 3) 2
        some (List.replicate kept quote, (c :: rest).drop (kept + 3))
      else do
        let (content, rest) ← readLines? quote limit rest
        return (c :: content, rest)
    else if c = '\\' ∧ quote = '"' then
      match afterEscapedLineEnd? limit rest with
      | some rest => readLines? quote limit rest
      | none => do
        let (escaped, rest) ← escape? rest
        let (content, rest) ← readLines? quote limit rest
        return (escaped :: content, rest)
    else
      match afterLineEnd? (c :: rest) with
      | some rest => do
        let (content, rest) ← readLines? quote limit rest
        return ('\n' :: content, rest)
      | none =>
        if isTextChar c then do
          let (content, rest) ← readLines? quote limit rest
          return (c :: content, rest)
        else none
  | _, _ => none

/-- The text that a quote starts. -/
def readQuoted? (quote : Char) (multiline : Bool) (cs : List Char) :
    Option (String × List Char) := do
  let (content, rest) ←
    if multiline ∧ (cs.take 2).length = 2 ∧ (cs.take 2).all (· == quote) then
      let body := cs.drop 2
      let body := (afterLineEnd? body).getD body
      readLines? quote (body.length + 1) body
    else readLine? quote (cs.length + 1) cs
  return (String.ofList content, rest)

end ServiceHealth.Toml
