import ServiceHealth.DomainName.AsciiForm
import ServiceHealth.DomainName.Mapping
import ServiceHealth.Text.Direction
import ServiceHealth.Text.Joining
import ServiceHealth.Text.Mark

/-!
# Labels of a domain name

A domain name consists of labels with points between them.  A label is looked up in
ASCII; it may be written with other characters too, or with the ASCII form that
stands for them after `xn--`.  It must not start with a mark, the two invisible
joiners may stand only where they change the shape of a letter, and in a name that
has characters written from the right to the left every label must have one
direction from its first character to its last.
-/

namespace ServiceHealth.DomainName

/-- A label: its characters, and how it is looked up. -/
structure Label where
  chars : List Char
  ascii : List Char
  deriving DecidableEq, Repr

/-! ## Joiners -/

/-- The invisible character that keeps the letters around it apart. -/
def separator : Char := Char.ofNat 0x200C

/-- The invisible character that joins the letters around it. -/
def joiner : Char := Char.ofNat 0x200D

/-- The combining class of the signs that mute the vowel of a letter. -/
def muteClass : Nat := 9

/-- The first letter beyond transparent marks has this property. -/
def meets (property : Char → Bool) (cs : List Char) : Bool :=
  (cs.dropWhile fun c => !property c && Text.isTransparent c).head?.any property

/-- Every joiner stands where it may, in a text that goes on after some characters,
which come last one first. -/
def areJoinersFit (before : List Char) : List Char → Bool
  | [] => true
  | c :: rest =>
    let follows := before.head?.any fun last => Text.combiningClass last == muteClass
    let parts := meets Text.joinsAfter before && meets Text.joinsBefore rest
    (if c == joiner then follows else c != separator || follows || parts) &&
      areJoinersFit (c :: before) rest

/-! ## Directions -/

/-- The character makes its domain name one with two directions. -/
def turnsAround (c : Char) : Bool :=
  [.rightToLeft, .arabicDigit].contains (Text.direction c)

/-- The directions in a text without the marks at its end. -/
def directions (cs : List Char) : List Text.Direction :=
  ((cs.map Text.direction).reverse.dropWhile (· == .nonspacing)).reverse

/-- The label is written from the left to the right. -/
def isLeftToRight (directions : List Text.Direction) : Bool :=
  directions.head? == some .leftToRight &&
    directions.all ([.leftToRight, .europeanDigit, .nonspacing, .neutral].contains ·) &&
    directions.getLast?.any ([.leftToRight, .europeanDigit].contains ·)

/-- The label is written from the right to the left, and its digits are of one sort. -/
def isRightToLeft (directions : List Text.Direction) : Bool :=
  directions.head? == some .rightToLeft &&
    directions.all
      ([.rightToLeft, .europeanDigit, .arabicDigit, .nonspacing, .neutral].contains ·) &&
    directions.getLast?.any ([.rightToLeft, .europeanDigit, .arabicDigit].contains ·) &&
    !(directions.contains .europeanDigit && directions.contains .arabicDigit)

/-- The label has one direction. -/
def Label.hasDirection (label : Label) : Bool :=
  let directions := directions label.chars
  label.chars.isEmpty || isLeftToRight directions || isRightToLeft directions

/-! ## Reading -/

/-- What stands before the ASCII form of a label. -/
def formMark : List Char := ['x', 'n', '-', '-']

/-- The most characters of a label that is written in its ASCII form. -/
def maxEncodedLength : Nat := 1000

/-- The most characters of an ASCII form that is read. -/
def maxDecodedLength : Nat := 2000

/-- The characters may stand in this order in a label. -/
def isWellFormed (cs : List Char) : Bool :=
  !cs.head?.any Text.isMark && areJoinersFit [] cs

/-- The label that an ASCII form stands for; only the form that the label would get
is read, so the label has a character beyond ASCII. -/
def Label.ofForm? (form : List Char) : Option Label :=
  if form.isEmpty ∨ form.getLast? = some '-' ∨ maxDecodedLength < form.length then none
  else do
    let chars ← decode? form
    if Text.composed chars = chars ∧ chars.all isKept ∧ ¬ formMark.isPrefixOf chars ∧
        isWellFormed chars then
      return ⟨chars, formMark ++ form⟩
    else none

/-- The label that these characters write after they were mapped. -/
def Label.read? (cs : List Char) : Option Label :=
  let isAscii := cs.all (·.toNat < 128)
  if formMark.isPrefixOf cs then
    if isAscii then Label.ofForm? (cs.drop formMark.length) else none
  else if isAscii then some ⟨cs, cs⟩
  else if isWellFormed cs ∧ cs.length ≤ maxEncodedLength then
    some ⟨cs, formMark ++ encode cs⟩
  else none

end ServiceHealth.DomainName
