/-!
# Blank characters and trimming

A character is *blank* when it has the Unicode property White_Space: twenty-five
code points, among them the line ends, the no-break space and the ideographic
space, but not the zero-width space or the byte order mark.  Trimming drops the
blank characters at both ends of a text and keeps everything between them.
-/

namespace ServiceHealth.Text

/-- The code point has the property White_Space. -/
def isBlank (c : Char) : Bool :=
  let n := c.toNat
  (9 ≤ n && n ≤ 13) || n == 32 || n == 0x85 || n == 0xA0 || n == 0x1680 ||
    (0x2000 ≤ n && n ≤ 0x200A) || n == 0x2028 || n == 0x2029 || n == 0x202F ||
    n == 0x205F || n == 0x3000

/-- The characters without the blank ones in front. -/
def dropBlank (cs : List Char) : List Char :=
  cs.dropWhile isBlank

/-- The characters without the blank ones at the end. -/
def dropBlankEnd (cs : List Char) : List Char :=
  (dropBlank cs.reverse).reverse

/-- The characters without the blank ones at either end. -/
def trimChars (cs : List Char) : List Char :=
  dropBlankEnd (dropBlank cs)

/-- The text without the blank characters at either end. -/
def trim (text : String) : String :=
  String.ofList (trimChars text.toList)

/-! ## What trimming leaves -/

theorem dropBlank_eq_self {cs : List Char} (h : ∀ c, cs.head? = some c → isBlank c = false) :
    dropBlank cs = cs := by
  cases cs with
  | nil => rfl
  | cons c rest => simp [dropBlank, h c rfl]

theorem head?_dropBlank {cs : List Char} {c : Char} (h : (dropBlank cs).head? = some c) :
    isBlank c = false := by
  have := List.head?_dropWhile_not isBlank cs
  simp only [dropBlank] at h
  rw [h] at this
  simpa using this

end ServiceHealth.Text
