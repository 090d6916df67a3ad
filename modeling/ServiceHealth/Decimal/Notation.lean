import ServiceHealth.Decimal.Shortest

/-!
# Two notations for doubles

Reports write a double positionally, however large or small it is, and an
integral one without a point.  JSON writes one positionally from `1e-5` up to
`1e16`, always with a point, and elsewhere as one leading digit with a signed
exponent.  Both write the fewest digits that identify the double; they differ in
the choice between two equally near candidates.
-/

namespace ServiceHealth.Decimal

/-- The decimal digits of a number without zeros at the end, and how many zeros were dropped. -/
def significantDigits (n : Nat) : List Char × Nat :=
  let reversed := (Nat.toDigits 10 n).reverse
  ((reversed.dropWhile (· == '0')).reverse, (reversed.takeWhile (· == '0')).length)

/-- A decimal as significant digits and the exponent of the last of them. -/
def Scaled.parts (d : Scaled) : List Char × Int :=
  let (digits, zeros) := significantDigits d.digits
  (digits, d.exponent + zeros)

/-- Digits written positionally, where `exponent` is the place of the last one. -/
def positional (digits : List Char) (exponent : Int) : List Char :=
  if 0 ≤ exponent then digits ++ List.replicate exponent.toNat '0'
  else
    let places := (-exponent).toNat
    if places < digits.length then
      digits.take (digits.length - places) ++ '.' :: digits.drop (digits.length - places)
    else '0' :: '.' :: (List.replicate (places - digits.length) '0' ++ digits)

/-- Digits written as one leading digit, a fraction and a signed exponent. -/
def scientific (digits : List Char) (exponent : Int) : List Char :=
  let leading := exponent + digits.length - 1
  let mark := if leading < 0 then ['e', '-'] else ['e', '+']
  match digits with
  | [] => ['0']
  | [d] => d :: (mark ++ Nat.toDigits 10 leading.natAbs)
  | d :: fraction => d :: '.' :: (fraction ++ mark ++ Nat.toDigits 10 leading.natAbs)

/-- The digits of a finite double that is not zero, without its sign. -/
def shortestParts (tie : Tie) (x : Float) : List Char × Int :=
  ((Magnitude.ofBits x.toBits.toNat).shortest tie).parts

/-- The sign bit of a double is set. -/
def isNegative (x : Float) : Bool :=
  Nat.pow 2 63 ≤ x.toBits.toNat

/-- A text with a minus sign in front if the double has one. -/
def withSign (x : Float) (digits : List Char) : String :=
  String.ofList (if isNegative x then '-' :: digits else digits)

/-- A double as a report writes it: positionally and with no point if it is
integral; a tie goes upward. -/
def plain (x : Float) : String :=
  if x.isNaN then "NaN"
  else if x.isInf then withSign x ['i', 'n', 'f']
  else if x == 0 then withSign x ['0']
  else
    let (digits, exponent) := shortestParts .upward x
    withSign x (positional digits exponent)

/-- A finite double as JSON writes it; a tie goes to the even digit. -/
def json (x : Float) : String :=
  if x == 0 then withSign x ['0', '.', '0']
  else
    let (digits, exponent) := shortestParts .toEven x
    let leading := exponent + digits.length - 1
    if -5 ≤ leading ∧ leading < 16 then
      let written := positional digits exponent
      withSign x (if 0 ≤ exponent then written ++ ['.', '0'] else written)
    else withSign x (scientific digits exponent)

end ServiceHealth.Decimal
