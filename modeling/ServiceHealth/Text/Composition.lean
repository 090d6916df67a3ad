import ServiceHealth.Text.CompositionTable

/-!
# Composed characters

The same text can be written with a letter and a mark after it, or with one
character for both, and marks of different classes may stand in any order.  The
composed form of a text is the one spelling chosen among these: every character is
decomposed, the marks after a letter are put in the order of their classes, and
then each letter is composed with the marks after it as far as possible.
-/

namespace ServiceHealth.Text

/-- The combining class of a character; zero for one that is not attached to another. -/
def combiningClass (c : Char) : Nat :=
  ((combiningClassRuns.find? fun entry => inRuns entry.2 c).map Prod.fst).getD 0

/-! ## Decomposition -/

/-- The two characters that a composed one stands for, if it is listed. -/
def listedPair? (c : Char) : Option (Char × Char) :=
  (pairEntries.find? fun entry => entry.codePoints.getLast? == some c.toNat).map fun entry =>
    (Char.ofNat entry.run.first, Char.ofNat (entry.codePoints.headD 0))

/-- The letters of a syllable of Hangul. -/
def syllableLetters? (c : Char) : Option (List Char) :=
  if 0xAC00 ≤ c.toNat ∧ c.toNat < 0xAC00 + 11172 then
    let index := c.toNat - 0xAC00
    let lead := Char.ofNat (0x1100 + index / 588)
    let vowel := Char.ofNat (0x1161 + index % 588 / 28)
    if index % 28 = 0 then some [lead, vowel]
    else some [lead, vowel, Char.ofNat (0x11A7 + index % 28)]
  else none

/-- The characters that one stands for, given that pairs are nested no deeper than the limit. -/
def decomposeChar (limit : Nat) (c : Char) : List Char :=
  match limit with
  | 0 => [c]
  | limit + 1 =>
    match syllableLetters? c, listedPair? c with
    | some letters, _ => letters
    | none, some (first, second) => decomposeChar limit first ++ [second]
    | none, none => [c]

/-- No listed pair is nested deeper. -/
def maxPairDepth : Nat := 4

/-- Puts a character behind a text that comes last character first: a mark goes
before the marks at the end whose class is greater. -/
def placeMark (c : Char) : List Char → List Char
  | [] => [c]
  | last :: before =>
    if combiningClass c ≠ 0 ∧ combiningClass c < combiningClass last then
      last :: placeMark c before
    else c :: last :: before

/-- A text decomposed, with its marks in order. -/
def decomposed (cs : List Char) : List Char :=
  ((cs.flatMap (decomposeChar maxPairDepth)).foldl (fun placed c => placeMark c placed) []).reverse

/-! ## Composition -/

/-- The syllable of Hangul that a character and the letter after it make. -/
def syllable? (first second : Char) : Option Char :=
  if 0x1100 ≤ first.toNat ∧ first.toNat < 0x1113 ∧
      0x1161 ≤ second.toNat ∧ second.toNat < 0x1176 then
    some (Char.ofNat (0xAC00 + (first.toNat - 0x1100) * 588 + (second.toNat - 0x1161) * 28))
  else if 0xAC00 ≤ first.toNat ∧ first.toNat < 0xAC00 + 11172 ∧
      (first.toNat - 0xAC00) % 28 = 0 ∧ 0x11A7 < second.toNat ∧ second.toNat < 0x11C3 then
    some (Char.ofNat (first.toNat + (second.toNat - 0x11A7)))
  else none

/-- The character that two compose to. -/
def pair? (first second : Char) : Option Char :=
  (syllable? first second).or <|
    (pairEntries.find? fun entry =>
      entry.run.first == first.toNat && entry.codePoints.head? == some second.toNat).bind
      fun entry => entry.codePoints.getLast?.map Char.ofNat

/-- A text on the way to its composed form, in parts that come last character
first: what is finished, the last letter, and what stands after it. -/
structure Composing where
  finished : List Char
  letter : Option Char
  marks : List Char

/-- The text without the division into parts, last character first. -/
def Composing.reversed (text : Composing) : List Char :=
  text.marks ++ text.letter.toList ++ text.finished

/-- Puts the next character behind a text.  It composes with the last letter unless
something between them belongs to that letter as closely as the character does. -/
def Composing.push (text : Composing) (c : Char) : Composing :=
  let isFree := text.marks.head?.all fun last =>
    combiningClass last < combiningClass c
  match if isFree then text.letter.bind (pair? · c) else none with
  | some composed => ⟨text.finished, some composed, text.marks⟩
  | none =>
    if combiningClass c = 0 then ⟨text.reversed, some c, []⟩
    else ⟨text.finished, text.letter, c :: text.marks⟩

/-- The composed form of a text. -/
def composed (cs : List Char) : List Char :=
  ((decomposed cs).foldl Composing.push ⟨[], none, []⟩).reversed.reverse

end ServiceHealth.Text
