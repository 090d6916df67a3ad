import ServiceHealth.Text.Numeral
import ServiceHealth.Toml.Value

/-!
# Numbers, dates and words of TOML

A scalar that is not a text is written without blanks, apart from a date and a
time of day, which one blank may separate.  So such a scalar is read from the run
of the characters that can occur in one, and has to use up all of it.
-/

namespace ServiceHealth.Toml

/-- The characters that occur in numbers, dates and words. -/
def isScalarChar (c : Char) : Bool :=
  c.isAlphanum || c == '+' || c == '-' || c == '_' || c == '.' || c == ':'

/-- Digits of a base with single underscores between them, without the underscores. -/
def plainDigits? (isDigit : Char → Bool) : List Char → Option (List Char)
  | [] => none
  | [c] => if isDigit c then some [c] else none
  | c :: '_' :: rest => if isDigit c then (plainDigits? isDigit rest).map (c :: ·) else none
  | c :: rest => if isDigit c then (plainDigits? isDigit rest).map (c :: ·) else none

/-- The value of a digit in a base of up to sixteen. -/
def digitOf (c : Char) : Nat :=
  if Text.isAsciiDigit c then Text.digitValue c else c.toLower.toNat - 'a'.toNat + 10

/-- The number written by digits of a base. -/
def valueIn (base : Nat) (digits : List Char) : Nat :=
  digits.foldl (fun n c => n * base + digitOf c) 0

/-- The character is a digit of the base. -/
def isDigitOf (base : Nat) (c : Char) : Bool :=
  (Text.isAsciiDigit c || ('a' ≤ c && c ≤ 'f') || ('A' ≤ c && c ≤ 'F')) && digitOf c < base

/-- The integers that a document may hold. -/
def inRange (n : Int) : Option Int :=
  if -9223372036854775808 ≤ n ∧ n ≤ 9223372036854775807 then some n else none

/-- A sign and what follows it. -/
def splitSign : List Char → Bool × List Char
  | '-' :: rest => (true, rest)
  | '+' :: rest => (false, rest)
  | cs => (false, cs)

/-- The digits of a decimal number without its sign: no zero stands before another digit. -/
def decimalDigits? (cs : List Char) : Option (List Char) :=
  match cs with
  | '0' :: _ :: _ => none
  | _ => plainDigits? Text.isAsciiDigit cs

/-- An integer: decimal with an optional sign, or hexadecimal, octal or binary without one. -/
def integer? (cs : List Char) : Option Int :=
  match cs with
  | '0' :: 'x' :: digits => based 16 digits
  | '0' :: 'o' :: digits => based 8 digits
  | '0' :: 'b' :: digits => based 2 digits
  | cs => do
    let (negative, magnitude) := splitSign cs
    let digits ← decimalDigits? magnitude
    let n : Int := Text.digitsValue digits
    inRange (if negative then -n else n)
where
  /-- An integer of a base other than ten. -/
  based (base : Nat) (digits : List Char) : Option Int :=
    (plainDigits? (isDigitOf base) digits).bind fun digits => inRange (valueIn base digits)

/-- The digits of an exponent with its sign, without the letter. -/
def exponent? (cs : List Char) : Option Int := do
  let (negative, digits) := splitSign cs
  let digits ← plainDigits? Text.isAsciiDigit digits
  let n : Int := Text.digitsValue digits
  return if negative then -n else n

/-- The parts of a number around its exponent letter. -/
def splitExponent (cs : List Char) : List Char × Option (List Char) :=
  let mantissa := cs.takeWhile fun c => c != 'e' && c != 'E'
  match cs.drop mantissa.length with
  | [] => (mantissa, none)
  | _ :: exponent => (mantissa, some exponent)

/-- The digits of a mantissa before and after its point. -/
def mantissa? (cs : List Char) : Option (List Char × Option (List Char)) := do
  let whole := cs.takeWhile (· ≠ '.')
  let wholeDigits ← decimalDigits? whole
  match cs.drop whole.length with
  | [] => return (wholeDigits, none)
  | _ :: fraction =>
    let fractionDigits ← plainDigits? Text.isAsciiDigit fraction
    return (wholeDigits, some fractionDigits)

/-- A positive decimal with these digits and this exponent is too large for a double. -/
def exceedsDoubles (digits : List Char) (exponent : Int) : Bool :=
  let significant := digits.dropWhile (· == '0')
  let leading := exponent + significant.length
  if significant.isEmpty || leading < 309 then false
  else if 309 < leading then true
  else
    let n := Text.digitsValue significant
    (if 0 ≤ exponent then Float.ofScientific n false exponent.toNat
      else Float.ofScientific n true exponent.natAbs).isInf

/-- A number with a fraction or an exponent, or one of the words for infinity and no number. -/
def isFloat (cs : List Char) : Bool :=
  let (negative, magnitude) := splitSign cs
  if magnitude == ['i', 'n', 'f'] || magnitude == ['n', 'a', 'n'] then true
  else
    let (mantissa, exponent) := splitExponent magnitude
    match mantissa? mantissa, exponent.map exponent? with
    | none, _ => false
    | some (_, none), none => false
    | some _, some none => false
    | some (whole, fraction), exponent =>
      let fraction := fraction.getD []
      let shift := (exponent.bind id).getD 0 - fraction.length
      negative || !exceedsDoubles (whole ++ fraction) shift

/-! ## Dates and times -/

/-- A number of exactly so many digits at the start of a text. -/
def fixedNumber? (count : Nat) (cs : List Char) : Option (Nat × List Char) := do
  if cs.length < count then none
  else
    let n ← Text.numeral? (cs.take count)
    return (n, cs.drop count)

/-- The rest of a text after a mark. -/
def dropMark? (mark : Char) : List Char → Option (List Char)
  | [] => none
  | c :: rest => if c = mark then some rest else none

/-- The year has a 29th of February. -/
def isLeapYear (year : Nat) : Bool :=
  year % 4 = 0 && (year % 100 ≠ 0 || year % 400 = 0)

/-- The days of a month. -/
def daysIn (year month : Nat) : Nat :=
  if month = 2 then (if isLeapYear year then 29 else 28)
  else if month = 4 ∨ month = 6 ∨ month = 9 ∨ month = 11 then 30
  else 31

/-- The text after a date. -/
def afterDate? (cs : List Char) : Option (List Char) := do
  let (year, cs) ← fixedNumber? 4 cs
  let cs ← dropMark? '-' cs
  let (month, cs) ← fixedNumber? 2 cs
  let cs ← dropMark? '-' cs
  let (day, cs) ← fixedNumber? 2 cs
  if 1 ≤ month ∧ month ≤ 12 ∧ 1 ≤ day ∧ day ≤ daysIn year month then some cs else none

/-- The text after a time of day. -/
def afterTime? (cs : List Char) : Option (List Char) := do
  let (hour, cs) ← fixedNumber? 2 cs
  let cs ← dropMark? ':' cs
  let (minute, cs) ← fixedNumber? 2 cs
  let cs ← dropMark? ':' cs
  let (second, cs) ← fixedNumber? 2 cs
  if hour ≤ 23 ∧ minute ≤ 59 ∧ second ≤ 60 then
    match cs with
    | '.' :: fraction =>
      let digits := fraction.takeWhile Text.isAsciiDigit
      if digits.isEmpty then none else some (fraction.drop digits.length)
    | cs => some cs
  else none

/-- The whole text is an offset from UTC, or empty. -/
def isOffset : List Char → Bool
  | [] => true
  | ['Z'] => true
  | ['z'] => true
  | sign :: rest =>
    (sign == '+' || sign == '-') &&
      (do
        let (hour, cs) ← fixedNumber? 2 rest
        let cs ← dropMark? ':' cs
        let (minute, cs) ← fixedNumber? 2 cs
        if hour ≤ 23 ∧ minute ≤ 59 ∧ cs = [] then some () else none).isSome

/-- The whole text is a time of day with an optional offset. -/
def isTimeWithOffset (cs : List Char) : Bool :=
  ((afterTime? cs).map isOffset).getD false

/-- The whole text is a date, a time of day, or both. -/
def isDate (cs : List Char) : Bool :=
  afterTime? cs == some [] ||
    match afterDate? cs with
    | none => false
    | some [] => true
    | some (separator :: time) =>
      (separator == 'T' || separator == 't') && isTimeWithOffset time

/-- The scalar that is written by a run of characters. -/
def scalar? (cs : List Char) : Option Toml :=
  if cs = ['t', 'r', 'u', 'e'] then some (.bool true)
  else if cs = ['f', 'a', 'l', 's', 'e'] then some (.bool false)
  else if isDate cs then some .date
  else if isFloat cs then some .float
  else (integer? cs).map .integer

/-- The scalar at the start of a text.  After a date, a blank and the start of a
time of day continue the scalar. -/
def readScalar? (cs : List Char) : Option (Toml × List Char) := do
  let (run, rest) := cs.span isScalarChar
  match afterDate? run, rest with
  | some [], ' ' :: after =>
    let time := after.takeWhile isScalarChar
    let startsTime := match fixedNumber? 2 time with
      | some (_, ':' :: _) => true
      | _ => false
    if startsTime then
      if isTimeWithOffset time then some (.date, after.drop time.length) else none
    else some (.date, rest)
  | _, _ =>
    let value ← scalar? run
    return (value, rest)

end ServiceHealth.Toml
