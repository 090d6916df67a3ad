import ServiceHealth.Text.Hexadecimal

/-!
# Tables of code points

A property of characters is listed as a table: runs of consecutive code points in
hexadecimal, `first-last` or one alone, with blanks or line ends between them.  A
table of replacements has the code points that stand for a run after a `>`, with
`+` between them.
-/

namespace ServiceHealth.Text

/-- A run of consecutive code points. -/
structure Run where
  first : Nat
  last : Nat
  deriving DecidableEq, Repr

/-- The run has the code point of this character. -/
def Run.holds (run : Run) (c : Char) : Bool :=
  run.first ≤ c.toNat && c.toNat ≤ run.last

/-- A run and the code points that are given for it. -/
structure Entry where
  run : Run
  codePoints : List Nat
  deriving DecidableEq, Repr

/-- The number that hexadecimal digits write; a character that is no digit counts as zero. -/
def tableNumber (digits : List Char) : Nat :=
  digits.foldl (fun n c => 16 * n + (hexDigit? c).getD 0) 0

/-- The words of a table. -/
def tableWords (table : String) : List (List Char) :=
  ((table.toList.map fun c => if isLineFeed c then ' ' else c).splitOn ' ').filter (!·.isEmpty)
where
  /-- The character ends a line. -/
  isLineFeed (c : Char) : Bool := c == '\n'

/-- The run that a word of a table writes. -/
def readRun (word : List Char) : Run :=
  let first := word.takeWhile (· != '-')
  match word.drop first.length with
  | [] => ⟨tableNumber first, tableNumber first⟩
  | _ :: last => ⟨tableNumber first, tableNumber last⟩

/-- The runs of a table. -/
def readRuns (table : String) : List Run :=
  (tableWords table).map readRun

/-- The entry that a word of a table writes. -/
def readEntry (word : List Char) : Entry :=
  let run := word.takeWhile (· != '>')
  ⟨readRun run, ((word.drop (run.length + 1)).splitOn '+').map tableNumber⟩

/-- The entries of a table. -/
def readEntries (table : String) : List Entry :=
  (tableWords table).map readEntry

/-- One of the runs has the code point of this character. -/
def inRuns (runs : List Run) (c : Char) : Bool :=
  runs.any (·.holds c)

/-- What is given for the run of this character. -/
def given? (entries : List Entry) (c : Char) : Option Entry :=
  entries.find? (·.run.holds c)

end ServiceHealth.Text
