import ServiceHealth.Text.Numeral

/-!
# Digits beyond nine

The letters from `a` to `f`, in either case, go on after the ten ASCII digits, so
that numbers can be written in every base up to sixteen.
-/

namespace ServiceHealth.Text

/-- The value of a hexadecimal digit. -/
def hexDigit? (c : Char) : Option Nat :=
  if isAsciiDigit c then some (digitValue c)
  else if 'a' ≤ c ∧ c ≤ 'f' then some (c.toNat - 'a'.toNat + 10)
  else if 'A' ≤ c ∧ c ≤ 'F' then some (c.toNat - 'A'.toNat + 10)
  else none

/-- The number written by these digits in a base of at most sixteen; none at all write zero. -/
def inBase? (base : Nat) (digits : List Char) : Option Nat :=
  digits.foldlM (fun n c => do
    let d ← hexDigit? c
    if d < base then some (n * base + d) else none) 0

/-- The number written by one or more hexadecimal digits and nothing else. -/
def hexNumber? (cs : List Char) : Option Nat :=
  if cs.isEmpty then none else inBase? 16 cs

end ServiceHealth.Text
