import Mathlib.Data.List.Induction
import Mathlib.Data.Nat.Digits.Defs
import ServiceHealth.Text.Numeral

/-!
# The numbers that numerals write

A numeral is one or more ASCII digits, and with a minus sign in front it is negative.
What it writes is its exact value in positional notation, however many zeros it begins
with; `signedNumeral?_eq_some_iff` says that this is the number that is read.  Every
number has a numeral, its decimal form (`writes_decimal`).
-/

namespace ServiceHealth.Text

/-- One or more ASCII digits. -/
def IsNumeral (digits : List Char) : Prop :=
  digits ≠ [] ∧ ∀ c ∈ digits, isAsciiDigit c = true

/-- The value of digits in positional notation. -/
def positionalValue (digits : List Char) : Nat :=
  Nat.ofDigits 10 (digits.reverse.map digitValue)

/-- A numeral, with a minus sign in front or without one, writes this number. -/
inductive Writes : List Char → Int → Prop
  | unsigned {digits : List Char} (numeral : IsNumeral digits) :
      Writes digits (positionalValue digits)
  | negative {digits : List Char} (numeral : IsNumeral digits) :
      Writes ('-' :: digits) (-(positionalValue digits : Int))

theorem digitsValue_append_singleton (digits : List Char) (c : Char) :
    digitsValue (digits ++ [c]) = digitsValue digits * 10 + digitValue c := by
  rw [digitsValue, List.foldl_append]
  rfl

theorem positionalValue_append_singleton (digits : List Char) (c : Char) :
    positionalValue (digits ++ [c]) = digitValue c + 10 * positionalValue digits := by
  rw [positionalValue, List.reverse_append, List.reverse_singleton, List.singleton_append,
    List.map_cons, Nat.ofDigits_cons, positionalValue]

/-- The digits are read from the left, and each is worth ten times the next. -/
theorem digitsValue_eq_positionalValue (digits : List Char) :
    digitsValue digits = positionalValue digits := by
  induction digits using List.reverseRecOn with
  | nil => rfl
  | append_singleton digits c ih =>
      rw [digitsValue_append_singleton, positionalValue_append_singleton, ih]
      omega

theorem numeral?_eq_some_iff {cs : List Char} {n : Nat} :
    numeral? cs = some n ↔ IsNumeral cs ∧ n = positionalValue cs := by
  unfold numeral?
  by_cases h : cs ≠ [] ∧ cs.all isAsciiDigit = true
  · have hnumeral : IsNumeral cs := ⟨h.1, List.all_eq_true.mp h.2⟩
    rw [if_pos h, Option.some.injEq, digitsValue_eq_positionalValue, eq_comm]
    exact ⟨fun hn => ⟨hnumeral, hn⟩, And.right⟩
  · rw [if_neg h]
    constructor
    · intro hnone
      cases hnone
    · rintro ⟨hnumeral, -⟩
      exact absurd ⟨hnumeral.1, List.all_eq_true.mpr hnumeral.2⟩ h

/-! ## A minus sign in front -/

theorem signedNumeral?_minus (digits : List Char) :
    signedNumeral? ('-' :: digits) = (numeral? digits).map fun n : Nat => -(n : Int) := by
  rw [signedNumeral?]
  cases numeral? digits <;> rfl

theorem signedNumeral?_of_ne_minus {cs : List Char} (h : cs.head? ≠ some '-') :
    signedNumeral? cs = (numeral? cs).map fun n : Nat => (n : Int) := by
  rw [signedNumeral?.eq_def]
  split
  · exact absurd rfl h
  · cases numeral? cs <;> rfl

theorem IsNumeral.head?_ne_minus {digits : List Char} (h : IsNumeral digits) :
    digits.head? ≠ some '-' := by
  intro hhead
  have hminus : isAsciiDigit '-' = true := h.2 '-' (List.mem_of_mem_head? hhead)
  exact absurd hminus (by decide)

/-- The number that is read is the one that is written. -/
theorem signedNumeral?_eq_some_iff {cs : List Char} {n : Int} :
    signedNumeral? cs = some n ↔ Writes cs n := by
  constructor
  · intro h
    by_cases hminus : cs.head? = some '-'
    · obtain ⟨digits, rfl⟩ := List.head?_eq_some_iff.mp hminus
      rw [signedNumeral?_minus] at h
      obtain ⟨value, hvalue, rfl⟩ := Option.map_eq_some_iff.mp h
      obtain ⟨hnumeral, rfl⟩ := numeral?_eq_some_iff.mp hvalue
      exact .negative hnumeral
    · rw [signedNumeral?_of_ne_minus hminus] at h
      obtain ⟨value, hvalue, rfl⟩ := Option.map_eq_some_iff.mp h
      obtain ⟨hnumeral, rfl⟩ := numeral?_eq_some_iff.mp hvalue
      exact .unsigned hnumeral
  · intro h
    cases h with
    | unsigned hnumeral =>
        rw [signedNumeral?_of_ne_minus hnumeral.head?_ne_minus,
          numeral?_eq_some_iff.mpr ⟨hnumeral, rfl⟩, Option.map_some]
    | negative hnumeral =>
        rw [signedNumeral?_minus, numeral?_eq_some_iff.mpr ⟨hnumeral, rfl⟩, Option.map_some]

/-! ## The decimal form of a number -/

/-- A number in decimal digits, with a minus sign in front if it is negative. -/
def decimal (n : Int) : List Char :=
  (toString n).toList

theorem isNumeral_toDigits (n : Nat) : IsNumeral (Nat.toDigits 10 n) := by
  refine ⟨Nat.toDigits_ne_nil, ?_⟩
  intro c hc
  have hdigit : c.isDigit = true :=
    Nat.isDigit_of_mem_toDigits (by decide) (by decide) hc
  rw [Char.isDigit, Bool.and_eq_true] at hdigit
  rw [isAsciiDigit, Bool.and_eq_true]
  exact hdigit

theorem positionalValue_toDigits (n : Nat) : positionalValue (Nat.toDigits 10 n) = n := by
  have hstep : ∀ digits : List Char, digitsValue digits = Nat.ofDigitChars 10 digits 0 := by
    intro digits
    rw [digitsValue, Nat.ofDigitChars_eq_foldl]
    congr 1
    funext value c
    rw [digitValue, Nat.mul_comm]
  rw [← digitsValue_eq_positionalValue, hstep]
  exact Nat.ofDigitChars_toDigits (by decide) (by decide)

theorem decimal_natCast (n : Nat) : decimal (n : Int) = Nat.toDigits 10 n := by
  rw [decimal, Int.toString_eq_repr]
  exact Nat.toList_repr

theorem decimal_negSucc (n : Nat) : decimal (Int.negSucc n) = '-' :: Nat.toDigits 10 (n + 1) := by
  rw [decimal, Int.toString_eq_repr, Int.repr, String.toList_append, Nat.toList_repr]
  rfl

/-- The decimal form of a number writes it. -/
theorem writes_decimal (n : Int) : Writes (decimal n) n := by
  cases n with
  | ofNat n =>
      have hwrites := Writes.unsigned (isNumeral_toDigits n)
      rw [positionalValue_toDigits] at hwrites
      rw [Int.ofNat_eq_natCast, decimal_natCast]
      exact hwrites
  | negSucc n =>
      have hwrites := Writes.negative (isNumeral_toDigits (n + 1))
      rw [positionalValue_toDigits] at hwrites
      rw [decimal_negSucc, Int.negSucc_eq]
      exact hwrites

end ServiceHealth.Text
