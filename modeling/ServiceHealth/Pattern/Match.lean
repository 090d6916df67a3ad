import ServiceHealth.Pattern.Basic
import ServiceHealth.Text.Numeral

/-!
# Matching a line against a pattern

A line matches a pattern as a whole: the literals stand for themselves, a text
placeholder for anything in double quotes without a double quote inside, and an
integer placeholder for an optional minus sign and one or more decimal digits of
any script.  Where a line can be divided in several ways, earlier placeholders
take as much as possible.

`pieces?` says what the placeholders take.  It may try the same tail of the line
again and again, so a line is matched by columns instead: a column has one entry
for every tail of the line, and the column of a pattern is made from the column of
the pattern without its first placeholder.  `pieceColumn_eq` says that the entries
are what `pieces?` finds.
-/

namespace ServiceHealth.Pattern

variable {α β : Type}

/-! ## What the placeholders take -/

/-- The rest of a line after a literal. -/
def dropLiteral? : (literal line : List Char) → Option (List Char)
  | [], line => some line
  | _ :: _, [] => none
  | l :: literal, c :: line => if l = c then dropLiteral? literal line else none

/-- As many digits at the start of a line, at least one, as leave a rest for which
something is found. -/
def digitsThen? (next : List Char → Option α) : List Char → Option (List Char × α)
  | [] => none
  | c :: line =>
    if Text.isDecimalDigit c then
      match digitsThen? next line with
      | some (digits, found) => some (c :: digits, found)
      | none => (next line).map fun found => ([c], found)
    else none

/-- An optional minus sign and digits at the start of a line, and what is found for the rest. -/
def integerThen? (next : List Char → Option α) : List Char → Option (List Char × α)
  | '-' :: line => (digitsThen? next line).map fun (digits, found) => ('-' :: digits, found)
  | line => digitsThen? next line

/-- The characters before the first double quote, and what is found for the rest after it. -/
def insideThen? (next : List Char → Option α) : List Char → Option (List Char × α)
  | [] => none
  | '"' :: line => (next line).map fun found => ([], found)
  | c :: line => (insideThen? next line).map fun (inside, found) => (c :: inside, found)

/-- The inside of a quoted text at the start of a line, and what is found for the rest. -/
def textThen? (next : List Char → Option α) : List Char → Option (List Char × α)
  | '"' :: line => insideThen? next line
  | _ => none

/-- The piece that a placeholder takes, and what is found for the rest. -/
def slotThen? : Slot → (next : List Char → Option α) → List Char → Option (List Char × α)
  | .text => textThen?
  | .integer => integerThen?

/-- The pieces of a line that the placeholders take, a text without its quotes. -/
def pieces? : List (Slot × List Char) → List Char → Option (List (List Char))
  | [], line => if line.isEmpty then some [] else none
  | (slot, literal) :: parts, line =>
    (slotThen? slot (fun rest => (dropLiteral? literal rest).bind (pieces? parts)) line).map
      fun (piece, pieces) => piece :: pieces

/-! ## Columns -/

/-- What a function gives for every tail of a line, from the whole line to the empty one. -/
def column (find : List Char → α) : (line : List Char) → List α
  | [] => [find []]
  | c :: line => find (c :: line) :: column find line

/-- The first entry of a column. -/
def top? (entries : List (Option α)) : Option α :=
  entries.head?.join

/-- The column of `digitsThen?` from the column of what is found for the rest. -/
def digitColumn (next : List (Option α)) : List Char → List (Option (List Char × α))
  | [] => [none]
  | c :: line =>
    let below := digitColumn next.tail line
    let entry :=
      if Text.isDecimalDigit c then
        match top? below with
        | some (digits, found) => some (c :: digits, found)
        | none => (top? next.tail).map fun found => ([c], found)
      else none
    entry :: below

/-- The column of `integerThen?` from the column of `digitsThen?`. -/
def signColumn (digits : List (Option (List Char × α))) :
    List Char → List (Option (List Char × α))
  | [] => digits
  | c :: line =>
    let entry :=
      if c = '-' then (top? digits.tail).map fun (digits, found) => ('-' :: digits, found)
      else top? digits
    entry :: signColumn digits.tail line

/-- The column of `insideThen?` from the column of what is found for the rest. -/
def insideColumn (next : List (Option α)) : List Char → List (Option (List Char × α))
  | [] => [none]
  | c :: line =>
    let below := insideColumn next.tail line
    let entry :=
      if c = '"' then (top? next.tail).map fun found => ([], found)
      else (top? below).map fun (inside, found) => (c :: inside, found)
    entry :: below

/-- The column of `textThen?` from the column of `insideThen?`. -/
def quoteColumn (inside : List (Option (List Char × α))) :
    List Char → List (Option (List Char × α))
  | [] => [none]
  | c :: line =>
    (if c = '"' then top? inside.tail else none) :: quoteColumn inside.tail line

/-- The column of `slotThen?` from the column of what is found for the rest. -/
def slotColumn (slot : Slot) (next : List (Option α)) (line : List Char) :
    List (Option (List Char × α)) :=
  match slot with
  | .text => quoteColumn (insideColumn next line) line
  | .integer => signColumn (digitColumn next line) line

/-- The column of what is found after a literal, from the column of what is found. -/
def literalColumn (literal : List Char) (next : List (Option α)) :
    List Char → List (Option α)
  | [] => [if literal.isEmpty then top? next else none]
  | c :: line =>
    (if literal.isPrefixOf (c :: line) then top? (next.drop literal.length) else none) ::
      literalColumn literal next.tail line

/-- The column of `pieces?`. -/
def pieceColumn : List (Slot × List Char) → (line : List Char) →
    List (Option (List (List Char)))
  | [], line => column (fun tail => if tail.isEmpty then some [] else none) line
  | (slot, literal) :: parts, line =>
    (slotColumn slot (literalColumn literal (pieceColumn parts line) line) line).map
      fun entry => entry.map fun (piece, pieces) => piece :: pieces

/-- The pieces of a line that the placeholders of a pattern take, if it matches. -/
def match? (pattern : Pattern) (line : String) : Option (List (List Char)) :=
  (dropLiteral? pattern.opening line.toList).bind fun rest =>
    top? (pieceColumn pattern.parts rest)

/-- The line matches the pattern. -/
def accepts (pattern : Pattern) (line : String) : Bool :=
  (pattern.match? line).isSome

/-! ## Columns agree with the functions -/

@[simp] theorem column_nil (find : List Char → α) : column find [] = [find []] := rfl

@[simp] theorem column_cons (find : List Char → α) (c : Char) (line : List Char) :
    column find (c :: line) = find (c :: line) :: column find line := rfl

theorem map_column (f : α → β) (find : List Char → α) (line : List Char) :
    (column find line).map f = column (fun tail => f (find tail)) line := by
  induction line with
  | nil => rfl
  | cons c line ih => simp [ih]

@[simp] theorem top?_column (find : List Char → Option α) (line : List Char) :
    top? (column find line) = find line := by
  cases line <;> simp [top?]

theorem top?_drop_column (find : List Char → Option α) (literal line : List Char) :
    (if literal.isPrefixOf line then top? ((column find line).drop literal.length) else none) =
      (dropLiteral? literal line).bind find := by
  induction literal generalizing line with
  | nil => simp [dropLiteral?]
  | cons l literal ih =>
    cases line with
    | nil => simp [dropLiteral?]
    | cons c line =>
      by_cases same : l = c
      · subst same
        simpa [dropLiteral?] using ih line
      · simp [dropLiteral?, same]

theorem literalColumn_column (literal : List Char) (find : List Char → Option α)
    (line : List Char) :
    literalColumn literal (column find line) line =
      column (fun tail => (dropLiteral? literal tail).bind find) line := by
  induction line with
  | nil =>
    cases literal <;> simp [literalColumn, dropLiteral?, top?]
  | cons c line ih =>
    have first := top?_drop_column find literal (c :: line)
    rw [column_cons] at first
    simp only [literalColumn, column_cons, List.tail_cons, ih, first]

theorem digitColumn_column (find : List Char → Option α) (line : List Char) :
    digitColumn (column find line) line = column (digitsThen? find) line := by
  induction line with
  | nil => rfl
  | cons c line ih => simp [digitColumn, digitsThen?, ih]

theorem signColumn_column (find : List Char → Option α) (line : List Char) :
    signColumn (column (digitsThen? find) line) line = column (integerThen? find) line := by
  induction line with
  | nil => rfl
  | cons c line ih =>
    by_cases minus : c = '-'
    · subst minus
      simp [signColumn, integerThen?, ih]
    · have unsigned : integerThen? find (c :: line) = digitsThen? find (c :: line) := by
        unfold integerThen?
        split <;> simp_all
      simp [signColumn, minus, unsigned, ih, top?]

theorem insideColumn_column (find : List Char → Option α) (line : List Char) :
    insideColumn (column find line) line = column (insideThen? find) line := by
  induction line with
  | nil => rfl
  | cons c line ih =>
    by_cases quote : c = '"'
    · subst quote
      simp [insideColumn, insideThen?, ih]
    · have more : insideThen? find (c :: line) =
          (insideThen? find line).map fun (inside, found) => (c :: inside, found) := by
        rw [insideThen?.eq_def]
        split <;> simp_all
      simp [insideColumn, quote, more, ih]

theorem quoteColumn_column (find : List Char → Option α) (line : List Char) :
    quoteColumn (column (insideThen? find) line) line = column (textThen? find) line := by
  induction line with
  | nil => rfl
  | cons c line ih =>
    by_cases quote : c = '"'
    · subst quote
      simp [quoteColumn, textThen?, ih]
    · have none : textThen? find (c :: line) = none := by
        unfold textThen?
        split <;> simp_all
      simp [quoteColumn, quote, none, ih]

theorem slotColumn_column (slot : Slot) (find : List Char → Option α) (line : List Char) :
    slotColumn slot (column find line) line = column (slotThen? slot find) line := by
  cases slot with
  | text => simp only [slotColumn, slotThen?, insideColumn_column, quoteColumn_column]
  | integer => simp only [slotColumn, slotThen?, digitColumn_column, signColumn_column]

/-- Every entry of a column of pieces is what `pieces?` finds for that tail. -/
theorem pieceColumn_eq (parts : List (Slot × List Char)) (line : List Char) :
    pieceColumn parts line = column (pieces? parts) line := by
  induction parts with
  | nil => rfl
  | cons part parts ih =>
    rw [pieceColumn, ih, literalColumn_column, slotColumn_column, map_column]
    rfl

/-- A pattern matches with the pieces that are found after its opening literal. -/
theorem match?_eq (pattern : Pattern) (line : String) :
    pattern.match? line =
      (dropLiteral? pattern.opening line.toList).bind (pieces? pattern.parts) := by
  simp [match?, pieceColumn_eq]

end ServiceHealth.Pattern
