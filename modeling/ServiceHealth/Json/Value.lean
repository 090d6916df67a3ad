/-!
# JSON values

A JSON number is an integer when it fits in 64 bits, signed or unsigned, and a
double otherwise.  The members of an object are kept in ascending order of their
names with each name once, so two objects with the same members are the same
value whatever order they were written in.
-/

namespace ServiceHealth

/-- A number of a JSON text. -/
inductive Json.Number where
  | integer (value : Int)
  | double (value : Float)

/-- A JSON value. -/
inductive Json where
  | null
  | bool (value : Bool)
  | number (value : Json.Number)
  | text (value : String)
  | array (items : List Json)
  | object (members : List (String × Json))

namespace Json

/-- The double nearest to an integer. -/
def Number.ofInteger (value : Int) : Float :=
  let magnitude := Float.ofScientific value.natAbs false 0
  if value < 0 then -magnitude else magnitude

/-- A number as a double. -/
def Number.toDouble : Number → Float
  | .integer value => Number.ofInteger value
  | .double value => value

/-- The members of an object, by name. -/
abbrev Members := List (String × Json)

/-- The sorts of JSON values. -/
inductive Kind where
  | null
  | boolean
  | number
  | string
  | array
  | object
  deriving DecidableEq, Repr

/-- The sort of a value. -/
def kind : Json → Kind
  | .null => .null
  | .bool _ => .boolean
  | .number _ => .number
  | .text _ => .string
  | .array _ => .array
  | .object _ => .object

/-- A sort of values as a message names it. -/
def Kind.name : Kind → String
  | .null => "null"
  | .boolean => "a boolean"
  | .number => "a number"
  | .string => "a string"
  | .array => "an array"
  | .object => "an object"

/-- The members of an object; nothing for any other value. -/
def members? : Json → Option Members
  | .object members => some members
  | _ => none

/-- The content of a text; nothing for any other value. -/
def text? : Json → Option String
  | .text value => some value
  | _ => none

/-- The double of a number; nothing for any other value. -/
def double? : Json → Option Float
  | .number value => some value.toDouble
  | _ => none

/-! ## Members of an object -/

namespace Members

/-- The value stored under a name. -/
def get? (members : Members) (name : String) : Option Json :=
  match members with
  | [] => none
  | (key, value) :: rest => if key = name then some value else get? rest name

/-- Stores a value under a name, replacing what was there, and keeps the names ascending. -/
def insert (members : Members) (name : String) (value : Json) : Members :=
  match members with
  | [] => [(name, value)]
  | (key, old) :: rest =>
    if name = key then (name, value) :: rest
    else if name < key then (name, value) :: (key, old) :: rest
    else (key, old) :: insert rest name value

/-- Some member has this name. -/
def contains (members : Members) (name : String) : Bool :=
  (members.get? name).isSome

theorem get?_insert_self (members : Members) (name : String) (value : Json) :
    (members.insert name value).get? name = some value := by
  induction members with
  | nil => simp [insert, get?]
  | cons member rest ih =>
    obtain ⟨key, old⟩ := member
    simp only [insert]
    split
    · simp [get?]
    · split
      · simp [get?]
      · rename_i hne _
        simp [get?, Ne.symm hne, ih]

theorem get?_insert_of_ne (members : Members) {name other : String} (value : Json)
    (h : other ≠ name) : (members.insert name value).get? other = members.get? other := by
  induction members with
  | nil => simp [insert, get?, Ne.symm h]
  | cons member rest ih =>
    obtain ⟨key, old⟩ := member
    simp only [insert]
    split
    · rename_i heq
      subst heq
      simp [get?, Ne.symm h]
    · split
      · simp [get?, Ne.symm h]
      · simp [get?, ih]

end Members

end Json

end ServiceHealth
