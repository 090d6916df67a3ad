import ServiceHealth.Text.Numeral

/-!
# The ASCII form of a label

A label with characters beyond ASCII is written in ASCII: first its ASCII
characters and a hyphen, if there are any, and then where the others stand among
them.  They are put in one by one, in the order of their code points; each is
written as the number of steps on the way to it, where one step goes to the next
place of the label or, after the last place, to the next code point.  A number is
written with digits in base 36, the least one first, and a digit below a threshold
is the last one; the thresholds follow a bias that adapts to the size of the
numbers before.
-/

namespace ServiceHealth.DomainName

/-! ## Digits -/

/-- The digit of a value below 36. -/
def digitOf (value : Nat) : Char :=
  if value < 26 then Char.ofNat ('a'.toNat + value) else Char.ofNat ('0'.toNat + (value - 26))

/-- The value of a digit. -/
def digitValue? (c : Char) : Option Nat :=
  if 'a' ≤ c ∧ c ≤ 'z' then some (c.toNat - 'a'.toNat)
  else if 'A' ≤ c ∧ c ≤ 'Z' then some (c.toNat - 'A'.toNat)
  else if Text.isAsciiDigit c then some (Text.digitValue c + 26)
  else none

/-- The threshold of the digit at a place, where places count in steps of 36. -/
def threshold (place bias : Nat) : Nat :=
  if place ≤ bias then 1 else if bias + 26 ≤ place then 26 else place - bias

theorem threshold_pos (place bias : Nat) : 0 < threshold place bias := by
  unfold threshold
  split
  · omega
  · split <;> omega

/-- Divides a number down to the range of the bias; `steps` counts 36 for each division. -/
def shrink (number steps : Nat) : Nat × Nat :=
  if 455 < number then shrink (number / 35) (steps + 36) else (number, steps)
termination_by number

/-- The bias after a number was written or read, by which a label got so many characters. -/
def adaptedBias (number count : Nat) (isFirst : Bool) : Nat :=
  let number := if isFirst then number / 700 else number / 2
  let (number, steps) := shrink (number + number / count) 0
  steps + 36 * number / (number + 38)

/-! ## Writing -/

/-- A number as digits. -/
def writeNumber (bias place number : Nat) : List Char :=
  if number < threshold place bias then [digitOf number]
  else
    let rest := number - threshold place bias
    let base := 36 - threshold place bias
    digitOf (threshold place bias + rest % base) :: writeNumber bias (place + 36) (rest / base)
termination_by number
decreasing_by
  have positive := threshold_pos place bias
  have smaller := Nat.div_le_self (number - threshold place bias) (36 - threshold place bias)
  omega

/-- What has been written of a label: the digits, the steps since the last number,
the bias, and how many characters are in place. -/
structure Writing where
  digits : List Char
  steps : Nat
  bias : Nat
  placed : Nat

/-- Goes past a character of the label while the characters with one code point are put in. -/
def Writing.pass (basic codePoint : Nat) (writing : Writing) (c : Nat) : Writing :=
  if c < codePoint then { writing with steps := writing.steps + 1 }
  else if c = codePoint then
    ⟨writing.digits ++ writeNumber writing.bias 36 writing.steps, 0,
      adaptedBias writing.steps (writing.placed + 1) (writing.placed == basic),
      writing.placed + 1⟩
  else writing

/-- Puts in the characters with one code point after all that are smaller than `next`. -/
def Writing.put (label : List Nat) (basic : Nat) (state : Writing × Nat) (codePoint : Nat) :
    Writing × Nat :=
  let (writing, next) := state
  let steps := writing.steps + (codePoint - next) * (writing.placed + 1)
  let writing := label.foldl (Writing.pass basic codePoint) { writing with steps }
  ({ writing with steps := writing.steps + 1 }, codePoint + 1)

/-- The numbers in ascending order and each once. -/
def ascending (numbers : List Nat) : List Nat :=
  (numbers.mergeSort (· ≤ ·)).foldr (fun n sorted =>
    if sorted.head? = some n then sorted else n :: sorted) []

/-- The ASCII form of a label, without the mark in front. -/
def encode (label : List Char) : List Char :=
  let codePoints := label.map Char.toNat
  let basic := label.filter (·.toNat < 128)
  let others := ascending (codePoints.filter (128 ≤ ·))
  let start : Writing := ⟨[], 0, 72, basic.length⟩
  let written := (others.foldl (Writing.put codePoints basic.length) (start, 128)).1
  (if basic.isEmpty then [] else basic ++ ['-']) ++ written.digits

/-! ## Reading -/

/-- Reads a number whose digits up to here make `number`; the next digit counts `weight`. -/
def readNumber? (bias place weight number : Nat) : List Char → Option (Nat × List Char)
  | [] => none
  | c :: rest =>
    match digitValue? c with
    | none => none
    | some digit =>
      let number := number + digit * weight
      if digit < threshold place bias then some (number, rest)
      else readNumber? bias (place + 36) (weight * (36 - threshold place bias)) number rest

theorem length_readNumber?_lt {bias place weight number result : Nat} {digits rest : List Char}
    (h : readNumber? bias place weight number digits = some (result, rest)) :
    rest.length < digits.length := by
  induction digits generalizing place weight number with
  | nil => simp [readNumber?] at h
  | cons c digits ih =>
    simp only [readNumber?] at h
    split at h
    · simp at h
    · split at h
      · simp only [Option.some.injEq, Prod.mk.injEq] at h
        simp [h.2]
      · have := ih h
        simp only [List.length_cons]
        omega

/-- What has been read of a label: its characters, the last code point, the place
after it, and the bias. -/
structure Reading where
  label : List Char
  codePoint : Nat
  place : Nat
  bias : Nat

/-- Puts in the character that is so many steps away, if there is one. -/
def Reading.put? (reading : Reading) (number : Nat) : Option Reading :=
  let count := reading.label.length + 1
  let steps := reading.place + number
  let codePoint := reading.codePoint + steps / count
  if h : codePoint.isValidChar then
    some ⟨reading.label.insertIdx (steps % count) (Char.ofNatAux codePoint h), codePoint,
      steps % count + 1, adaptedBias number count (reading.place == 0)⟩
  else none

/-- Puts in the characters that the rest of the digits writes. -/
def Reading.putAll? (reading : Reading) (digits : List Char) : Option (List Char) :=
  match digits with
  | [] => some reading.label
  | c :: digits =>
    match _read : readNumber? reading.bias 36 1 0 (c :: digits) with
    | none => none
    | some (number, rest) => (reading.put? number).bind (·.putAll? rest)
termination_by digits.length
decreasing_by exact length_readNumber?_lt _read

/-- The label with this ASCII form, which stands without the mark in front. -/
def decode? (cs : List Char) : Option (List Char) :=
  let digits := (cs.reverse.takeWhile (· ≠ '-')).reverse
  let basic := cs.take (cs.length - digits.length)
  if basic = ['-'] then none else Reading.putAll? ⟨basic.dropLast, 128, 0, 72⟩ digits

end ServiceHealth.DomainName
