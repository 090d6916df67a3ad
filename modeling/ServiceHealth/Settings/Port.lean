import ServiceHealth.Error.Basic
import ServiceHealth.Text.Blank
import ServiceHealth.Text.Numeral

/-!
# Ports

A port is a number below `2 ^ 16`.  The environment gives one as a numeral with an
optional plus sign, with blanks around it and a comment after `#`.
-/

namespace ServiceHealth.Settings

/-- A port number. -/
structure Port where
  number : Nat
  number_lt : number < 65536 := by decide
  deriving DecidableEq, Repr

namespace Port

/-- The port with this number, if there is one. -/
def ofNat? (n : Nat) : Option Port :=
  if h : n < 65536 then some ⟨n, h⟩ else none

/-- The number written by a numeral with an optional plus sign, if it is a port. -/
def ofNumeral? (cs : List Char) : Option Port :=
  match cs with
  | '+' :: digits => (Text.numeral? digits).bind ofNat?
  | digits => (Text.numeral? digits).bind ofNat?

/-- The part of a raw value that has to be a port: what stands before a comment, without
blanks around it. -/
def significant (raw : String) : List Char :=
  Text.trimChars (raw.toList.takeWhile (· ≠ '#'))

/-- The port that a raw value of the environment gives. -/
def ofRaw (raw : String) : Except Error Port :=
  let value := significant raw
  if value.isEmpty then .error (.setup (.portEmpty raw))
  else
    match ofNumeral? value with
    | some port => .ok port
    | none => .error (.setup (.portInvalid (String.ofList value) raw))

end Port

end ServiceHealth.Settings
