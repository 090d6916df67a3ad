import ServiceHealth.Json.Value
import ServiceHealth.Text.Hexadecimal

/-!
# The tokens of a JSON text

A JSON text is a sequence of tokens with blanks between them: six marks, three
words, texts and numbers.  A text may escape any UTF-16 unit, but surrogates
only in pairs, and holds no raw control character.

A number that does not fit in 64 bits, or has a fraction or an exponent, is read
into a double in three steps: the leading digits that fit in 64 bits form the
significand and further ones are dropped, the significand is rounded to a
double, and that is multiplied or divided by a power of ten.  A number above the
range of doubles is no token.
-/

namespace ServiceHealth.Json

/-- A token of a JSON text. -/
inductive Token where
  | openArray
  | closeArray
  | openObject
  | closeObject
  | comma
  | colon
  | value (json : Json)
  | text (value : String)

/-! ## Numbers -/

namespace Number

/-- Appends digits to a significand while it stays below `2 ^ 64`, and returns the
digits left over. -/
def absorb (significand : Nat) : List Char → Nat × List Char
  | [] => (significand, [])
  | c :: rest =>
    let extended := significand * 10 + Text.digitValue c
    if extended < Nat.pow 2 64 then absorb extended rest else (significand, c :: rest)

/-- The double nearest to a power of ten. -/
def powerOfTen (exponent : Nat) : Float :=
  Float.ofScientific 1 false exponent

/-- A significand times a power of ten, rounded at every step; nothing if it exceeds the doubles. -/
def scale? (significand : Nat) (exponent : Int) : Option Float :=
  let start := Float.ofScientific significand false 0
  if 0 ≤ exponent then
    if exponent ≤ 308 then
      let scaled := start * powerOfTen exponent.toNat
      if scaled.isInf then none else some scaled
    else if significand = 0 then some start
    else none
  else if -308 ≤ exponent then some (start / powerOfTen exponent.natAbs)
  else if -616 ≤ exponent then
    some (start / powerOfTen 308 / powerOfTen (exponent.natAbs - 308))
  else some 0

/-- The double of a number with these digits before and after the point and this exponent. -/
def double? (negative : Bool) (whole fraction : List Char) (exponent : Int) : Option Number :=
  let (leading, dropped) := absorb 0 whole
  let (significand, unread) := absorb leading fraction
  let places : Int := dropped.length - (fraction.length - unread.length : Nat)
  (scale? significand (exponent + places)).map fun magnitude =>
    .double (if negative then -magnitude else magnitude)

/-- The number written by these digits alone: an integer if it fits in 64 bits.
A negative zero is a double. -/
def whole? (negative : Bool) (digits : List Char) : Option Number :=
  let magnitude := Text.digitsValue digits
  if negative then
    if 0 < magnitude ∧ magnitude ≤ Nat.pow 2 63 then some (.integer (-magnitude))
    else double? negative digits [] 0
  else if magnitude < Nat.pow 2 64 then some (.integer magnitude)
  else double? negative digits [] 0

/-- The digits after a point; a point without a digit after it is refused. -/
def fraction? : List Char → Option (Option (List Char) × List Char)
  | '.' :: rest =>
    match rest.span Text.isAsciiDigit with
    | ([], _) => none
    | (digits, rest) => some (some digits, rest)
  | rest => some (none, rest)

/-- A signed number of at least one digit. -/
def signedDigits? (cs : List Char) : Option (Int × List Char) :=
  let (negative, cs) :=
    match cs with
    | '-' :: rest => (true, rest)
    | '+' :: rest => (false, rest)
    | rest => (false, rest)
  match cs.span Text.isAsciiDigit with
  | ([], _) => none
  | (digits, rest) =>
    let magnitude : Int := Text.digitsValue digits
    some (if negative then -magnitude else magnitude, rest)

/-- The exponent after an `e`; an `e` without a digit after it is refused. -/
def exponent? : List Char → Option (Option Int × List Char)
  | 'e' :: rest => (signedDigits? rest).map fun (n, rest) => (some n, rest)
  | 'E' :: rest => (signedDigits? rest).map fun (n, rest) => (some n, rest)
  | rest => some (none, rest)

/-- The number at the start of a text, where a sign has been read already.  A
zero in front of further digits is refused. -/
def scanMagnitude? (negative : Bool) (cs : List Char) : Option (Number × List Char) := do
  let (whole, rest) := cs.span Text.isAsciiDigit
  match whole with
  | [] => none
  | '0' :: _ :: _ => none
  | _ =>
    let (fraction, rest) ← fraction? rest
    let (exponent, rest) ← exponent? rest
    let written ←
      match fraction, exponent with
      | none, none => whole? negative whole
      | fraction, exponent => double? negative whole (fraction.getD []) (exponent.getD 0)
    return (written, rest)

end Number

/-! ## Texts -/

/-- The UTF-16 unit written by four hexadecimal digits. -/
def unit? : List Char → Option (Nat × List Char)
  | a :: b :: c :: d :: rest => do
    let a ← Text.hexDigit? a
    let b ← Text.hexDigit? b
    let c ← Text.hexDigit? c
    let d ← Text.hexDigit? d
    return (((a * 16 + b) * 16 + c) * 16 + d, rest)
  | _ => none

/-- The rest of a text after a word, if it starts with the word. -/
def dropWord? : List Char → List Char → Option (List Char)
  | [], cs => some cs
  | _ :: _, [] => none
  | w :: word, c :: cs => if w = c then dropWord? word cs else none

/-- The character that an escaped unit starts: a leading surrogate needs an
escaped trailing one right after it, and a trailing surrogate starts none. -/
def escapedUnit? (cs : List Char) : Option (Char × List Char) := do
  let (unit, rest) ← unit? cs
  if unit < 0xD800 ∨ 0xE000 ≤ unit then return (Char.ofNat unit, rest)
  else if 0xDC00 ≤ unit then none
  else
    let rest ← dropWord? ['\\', 'u'] rest
    let (trailing, rest) ← unit? rest
    if 0xDC00 ≤ trailing ∧ trailing < 0xE000 then
      return (Char.ofNat (0x10000 + (unit - 0xD800) * 0x400 + (trailing - 0xDC00)), rest)
    else none

/-- The character that one letter after a backslash stands for. -/
def letterEscape? (c : Char) : Option Char :=
  if c = '"' ∨ c = '\\' ∨ c = '/' then some c
  else if c = 'b' then some (Char.ofNat 8)
  else if c = 'f' then some (Char.ofNat 12)
  else if c = 'n' then some '\n'
  else if c = 'r' then some '\r'
  else if c = 't' then some '\t'
  else none

/-- The character that stands after a backslash. -/
def escape? : List Char → Option (Char × List Char)
  | [] => none
  | c :: rest =>
    if c = 'u' then escapedUnit? rest else (letterEscape? c).map fun escaped => (escaped, rest)

theorem length_unit?_le {cs rest : List Char} {n : Nat} (h : unit? cs = some (n, rest)) :
    rest.length ≤ cs.length := by
  unfold unit? at h
  split at h
  · simp only [bind, Option.bind_eq_some_iff, pure, Option.some.injEq, Prod.mk.injEq] at h
    obtain ⟨_, _, _, _, _, _, _, _, _, rfl⟩ := h
    simp only [List.length_cons]
    omega
  · cases h

theorem length_dropWord?_le {word cs rest : List Char} (h : dropWord? word cs = some rest) :
    rest.length ≤ cs.length := by
  induction word generalizing cs with
  | nil => cases h; exact Nat.le_refl _
  | cons w word ih =>
    cases cs with
    | nil => cases h
    | cons c cs =>
      simp only [dropWord?] at h
      split at h
      · exact Nat.le_succ_of_le (ih h)
      · cases h

theorem length_escapedUnit?_le {cs rest : List Char} {c : Char}
    (h : escapedUnit? cs = some (c, rest)) : rest.length ≤ cs.length := by
  unfold escapedUnit? at h
  simp only [bind, Option.bind_eq_some_iff, Prod.exists] at h
  obtain ⟨unit, after, hunit, h⟩ := h
  have hafter := length_unit?_le hunit
  by_cases hplain : unit < 0xD800 ∨ 0xE000 ≤ unit
  · simp only [if_pos hplain, pure, Option.some.injEq, Prod.mk.injEq] at h
    obtain ⟨_, rfl⟩ := h
    exact hafter
  · rw [if_neg hplain] at h
    by_cases htrails : 0xDC00 ≤ unit
    · rw [if_pos htrails] at h
      cases h
    · rw [if_neg htrails] at h
      simp only [Option.bind_eq_some_iff, Prod.exists] at h
      obtain ⟨marked, hmarked, trailing, last, htrailing, h⟩ := h
      have hmark := length_dropWord?_le hmarked
      have hlast := length_unit?_le htrailing
      by_cases hpair : 0xDC00 ≤ trailing ∧ trailing < 0xE000
      · simp only [if_pos hpair, pure, Option.some.injEq, Prod.mk.injEq] at h
        obtain ⟨_, rfl⟩ := h
        omega
      · rw [if_neg hpair] at h
        cases h

theorem length_escape?_le {cs rest : List Char} {c : Char} (h : escape? cs = some (c, rest)) :
    rest.length ≤ cs.length := by
  unfold escape? at h
  split at h
  · cases h
  · split at h
    · exact Nat.le_succ_of_le (length_escapedUnit?_le h)
    · simp only [Option.map_eq_some_iff, Prod.mk.injEq] at h
      obtain ⟨_, _, _, rfl⟩ := h
      simp

/-- The content of a text up to its closing quote, where the opening one has been read. -/
def scanText? (cs : List Char) : Option (List Char × List Char) :=
  match cs with
  | [] => none
  | '"' :: rest => some ([], rest)
  | '\\' :: rest =>
    match h : escape? rest with
    | none => none
    | some (c, after) =>
      have := length_escape?_le h
      (scanText? after).map fun (content, rest) => (c :: content, rest)
  | c :: rest =>
    if c.toNat < 0x20 then none
    else (scanText? rest).map fun (content, rest) => (c :: content, rest)
termination_by cs.length

/-! ## Tokens -/

/-- The characters that may stand between tokens. -/
def isSpace (c : Char) : Bool :=
  c == ' ' || c == '\t' || c == '\n' || c == '\r'

/-- The token at the start of a text. -/
def scanToken? : List Char → Option (Token × List Char)
  | [] => none
  | '[' :: rest => some (.openArray, rest)
  | ']' :: rest => some (.closeArray, rest)
  | '\x7b' :: rest => some (.openObject, rest)
  | '\x7d' :: rest => some (.closeObject, rest)
  | ',' :: rest => some (.comma, rest)
  | ':' :: rest => some (.colon, rest)
  | '"' :: rest => (scanText? rest).map fun (content, rest) => (.text (String.ofList content), rest)
  | 'n' :: rest => (dropWord? ['u', 'l', 'l'] rest).map fun rest => (.value .null, rest)
  | 't' :: rest => (dropWord? ['r', 'u', 'e'] rest).map fun rest => (.value (.bool true), rest)
  | 'f' :: rest =>
    (dropWord? ['a', 'l', 's', 'e'] rest).map fun rest => (.value (.bool false), rest)
  | '-' :: rest =>
    (Number.scanMagnitude? true rest).map fun (n, rest) => (.value (.number n), rest)
  | cs =>
    (Number.scanMagnitude? false cs).map fun (n, rest) => (.value (.number n), rest)

/-- The tokens of at most `limit` characters; every token takes at least one of them. -/
def scanTokens? (limit : Nat) (cs : List Char) : Option (List Token) :=
  match limit, cs.dropWhile isSpace with
  | _, [] => some []
  | 0, _ :: _ => none
  | limit + 1, cs => do
    let (token, rest) ← scanToken? cs
    let tokens ← scanTokens? limit rest
    return token :: tokens

/-- The tokens of a text, or nothing if some part of it is none. -/
def tokens? (cs : List Char) : Option (List Token) :=
  scanTokens? cs.length cs

end ServiceHealth.Json
