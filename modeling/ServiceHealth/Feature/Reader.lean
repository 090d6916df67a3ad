/-!
# Readers

A reader tries to read something at a place of a text.  It matches and says where
the text goes on, or it does not match and the next alternative may be tried, or
it finds that the whole text is invalid, whatever else could match.
-/

namespace ServiceHealth.Feature

/-- A place in a text: what is left of it, and the number of the current line. -/
structure Cursor where
  rest : List Char
  line : Nat
  deriving DecidableEq, Repr

/-- The start of a text. -/
def Cursor.start (text : List Char) : Cursor :=
  ⟨text, 1⟩

/-- The place after some characters that were read. -/
def Cursor.after (cursor : Cursor) (read : List Char) : Cursor :=
  ⟨cursor.rest.drop read.length, cursor.line + read.count '\n'⟩

/-- What a reader finds. -/
inductive Reply (α : Type) where
  | matched (value : α) (next : Cursor)
  | noMatch
  | invalid

/-- A reader of something. -/
def Reader (α : Type) : Type :=
  Cursor → Reply α

namespace Reader

variable {α β : Type}

instance : Monad Reader where
  pure value := fun cursor => .matched value cursor
  bind reader next := fun cursor =>
    match reader cursor with
    | .matched value cursor => next value cursor
    | .noMatch => .noMatch
    | .invalid => .invalid

/-- Never matches. -/
def refuse : Reader α :=
  fun _ => .noMatch

/-- Makes the whole text invalid. -/
def abort : Reader α :=
  fun _ => .invalid

/-- Tries a second reader at the same place if the first does not match. -/
def orElse (first second : Reader α) : Reader α := fun cursor =>
  match first cursor with
  | .noMatch => second cursor
  | reply => reply

instance : OrElse (Reader α) where
  orElse first second := first.orElse (second ())

/-- Reads something if it is there. -/
def optional (reader : Reader α) : Reader (Option α) :=
  (do let value ← reader; return some value) <|> pure none

/-- Matches, without reading, where a reader does not match. -/
def absent (reader : Reader α) : Reader Unit := fun cursor =>
  match reader cursor with
  | .matched _ _ => .noMatch
  | .noMatch => .matched () cursor
  | .invalid => .invalid

/-- Reads something as often as it is there, at most once for each character of a text. -/
def repeated (reader : Reader α) : (limit : List Char) → Reader (List α)
  | [] => pure []
  | _ :: limit =>
    (do
      let value ← reader
      let values ← repeated reader limit
      return value :: values) <|> pure []

/-- Reads something as often as it is there.  A reader that reads at least one
character whenever it matches cannot reach the limit, which is one character
longer than what is left. -/
def many (reader : Reader α) : Reader (List α) := fun cursor =>
  reader.repeated ('\n' :: cursor.rest) cursor

/-- Reads things with separators between them, once or more often. -/
def separated1 (item : Reader α) (separator : Reader β) : Reader (List α) := do
  let value ← item
  let values ← many (do let _ ← separator; item)
  return value :: values

/-- Reads things with separators between them, as many as there are. -/
def separated (item : Reader α) (separator : Reader β) : Reader (List α) :=
  item.separated1 separator <|> pure []

/-- The number of the current line. -/
def lineNumber : Reader Nat := fun cursor =>
  .matched cursor.line cursor

/-- The longest run, possibly empty, of characters of a class. -/
def run (accepts : Char → Bool) : Reader (List Char) := fun cursor =>
  let read := cursor.rest.takeWhile accepts
  .matched read (cursor.after read)

/-- The longest run of at least one character of a class. -/
def run1 (accepts : Char → Bool) : Reader (List Char) := do
  let read ← run accepts
  if read.isEmpty then refuse else return read

/-- Exactly this text. -/
def exactly (text : String) : Reader Unit := fun cursor =>
  if text.toList.isPrefixOf cursor.rest then .matched () (cursor.after text.toList) else .noMatch

/-- Any character. -/
def anyChar : Reader Char := fun cursor =>
  match cursor.rest with
  | [] => .noMatch
  | c :: _ => .matched c (cursor.after [c])

/-- The end of the text. -/
def finish : Reader Unit := fun cursor =>
  if cursor.rest.isEmpty then .matched () cursor else .noMatch

end Reader

end ServiceHealth.Feature
