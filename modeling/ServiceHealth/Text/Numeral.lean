import ServiceHealth.Text.DecimalDigit

/-!
# Numerals

Whole numbers written with ASCII digits, with any number of leading zeros.
-/

namespace ServiceHealth.Text

/-- The value of an ASCII digit. -/
def digitValue (c : Char) : Nat :=
  c.toNat - '0'.toNat

/-- The number that a sequence of digits writes. -/
def digitsValue (digits : List Char) : Nat :=
  digits.foldl (fun n c => n * 10 + digitValue c) 0

/-- The number written by a text of one or more ASCII digits and nothing else. -/
def numeral? (cs : List Char) : Option Nat :=
  if cs ≠ [] ∧ cs.all isAsciiDigit then some (digitsValue cs) else none

/-- The number written by a numeral with an optional minus sign. -/
def signedNumeral? : List Char → Option Int
  | '-' :: rest => (numeral? rest).map fun n => -(n : Int)
  | cs => (numeral? cs).map fun n => (n : Int)

end ServiceHealth.Text
