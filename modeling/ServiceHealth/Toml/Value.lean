/-!
# TOML values and tables

A document is a table whose members are values, tables and arrays of tables.  A
table remembers how it came about, because that decides what may still be added:
a table with a header of its own is defined once, one that only headers below it
imply may get a header later, one made by dotted keys may be extended by dotted
keys alone, and an inline table is complete where it is written.
-/

namespace ServiceHealth

/-- How a table came about. -/
inductive Toml.Origin where
  /-- A header names it, or it is the document. -/
  | header
  /-- A header names a table below it. -/
  | implied
  /-- A dotted key passes through it. -/
  | dotted
  /-- It is written in braces. -/
  | inline
  deriving DecidableEq, Repr

/-- A TOML value.  Of a number with a fraction, a date or a time only its presence is kept. -/
inductive Toml where
  | text (value : String)
  | integer (value : Int)
  | float
  | bool (value : Bool)
  | date
  | array (items : List Toml)
  | table (origin : Toml.Origin) (entries : List (String × Toml))
  /-- The tables of an array of tables, last one first. -/
  | tables (reversed : List Toml)

namespace Toml

/-- The entries of a table, in the order in which they were written. -/
abbrev Entries := List (String × Toml)

/-- The value of a key. -/
def Entries.get? (entries : Entries) (key : String) : Option Toml :=
  entries.lookup key

/-- Puts a value under a key, in the place of the old one or at the end. -/
def Entries.put (entries : Entries) (key : String) (value : Toml) : Entries :=
  match entries with
  | [] => [(key, value)]
  | (k, old) :: rest =>
    if k = key then (k, value) :: rest else (k, old) :: Entries.put rest key value

/-- Changes the table that a path leads to from a table.  Tables on the way that
are not there yet are made, by dotted keys or by implication; a dotted path may
not pass through a table that has a header, and no path through a value. -/
def change (byDots : Bool) (path : List String) (edit : Origin → Entries → Option Entries)
    (origin : Origin) (entries : Entries) : Option Entries :=
  match path with
  | [] => edit origin entries
  | key :: path =>
    match entries.get? key with
    | none => do
      let made := if byDots then Origin.dotted else Origin.implied
      let inner ← change byDots path edit made []
      return entries.put key (.table made inner)
    | some (.table .inline _) => none
    | some (.table .header inner) =>
      if byDots then none
      else do
        let inner ← change byDots path edit .header inner
        return entries.put key (.table .header inner)
    | some (.table madeBy inner) => do
      let inner ← change byDots path edit madeBy inner
      return entries.put key (.table madeBy inner)
    | some (.tables (.table madeBy inner :: earlier)) => do
      let inner ← change byDots path edit madeBy inner
      return entries.put key (.tables (.table madeBy inner :: earlier))
    | some _ => none

/-- Adds a value under a dotted key to a table. -/
def addAt (path : List String) (key : String) (value : Toml) (origin : Origin)
    (entries : Entries) : Option Entries :=
  change true path (fun reached inner =>
    if (reached = .dotted) = path.isEmpty then none
    else
      match inner.get? key with
      | some _ => none
      | none => some (inner ++ [(key, value)])) origin entries

/-- Opens the table that a header names. -/
def openTable (path : List String) (key : String) (document : Entries) : Option Entries :=
  change false path (fun _ inner =>
    match inner.get? key with
    | none => some (inner ++ [(key, .table .header [])])
    | some (.table .implied below) => some (inner.put key (.table .header below))
    | some _ => none) .header document

/-- Opens a further table of the array of tables that a header names. -/
def openTables (path : List String) (key : String) (document : Entries) : Option Entries :=
  change false path (fun _ inner =>
    match inner.get? key with
    | none => some (inner ++ [(key, .tables [.table .header []])])
    | some (.tables earlier) => some (inner.put key (.tables (.table .header [] :: earlier)))
    | some _ => none) .header document

end Toml

end ServiceHealth
