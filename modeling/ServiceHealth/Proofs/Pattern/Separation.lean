import ServiceHealth.Proofs.Pattern.Division

/-!
# Patterns that no line matches together

Two patterns are compared without a line, token by token: a character of a literal
or a whole placeholder.  `areApart` is a test on the tokens of two patterns, and
`not_spells_of_areApart` states that it is right: no line matches both.  The test
does not find every such pair.  It goes past a placeholder that both patterns have
at the same place only if both take the same there from every line, which for an
integer means that no digit can follow it (`closes`); what is left of a line is then
a function of the line (`leftAfter_eq`).
-/

namespace ServiceHealth.Pattern

/-- A character of a literal, or a placeholder. -/
inductive Token where
  | char (c : Char)
  | slot (slot : Slot)
  deriving DecidableEq

/-- The tokens of placeholders, each with the literal after it. -/
def partTokens : List (Slot × List Char) → List Token
  | [] => []
  | (slot, literal) :: parts => .slot slot :: (literal.map .char ++ partTokens parts)

/-- The tokens of a pattern. -/
def tokens (pattern : Pattern) : List Token :=
  pattern.opening.map .char ++ partTokens pattern.parts

/-- The tokens stand for the characters of a line, in order. -/
inductive Spells : List Token → List Char → Prop
  | nil : Spells [] []
  | char {c : Char} {others : List Token} {line : List Char} (rest : Spells others line) :
      Spells (.char c :: others) (c :: line)
  | slot {slot : Slot} {piece written line : List Char} {others : List Token}
      (taken : Takes slot piece written) (rest : Spells others line) :
      Spells (.slot slot :: others) (written ++ line)

theorem Spells.literal {others : List Token} {line : List Char} (h : Spells others line)
    (literal : List Char) : Spells (literal.map .char ++ others) (literal ++ line) := by
  induction literal with
  | nil => exact h
  | cons c literal ih => exact .char ih

theorem spells_of_partsDivide {parts : List (Slot × List Char)} {pieces : List (List Char)}
    {line : List Char} (h : PartsDivide parts pieces line) : Spells (partTokens parts) line := by
  induction h with
  | nil => exact .nil
  | cons taken _ ih => exact .slot taken (ih.literal _)

theorem spells_of_divides {pattern : Pattern} {pieces : List (List Char)} {line : List Char}
    (h : pattern.Divides pieces line) : Spells pattern.tokens line := by
  obtain ⟨rest, rfl, hparts⟩ := h
  exact (spells_of_partsDivide hparts).literal pattern.opening

/-! ## The test -/

/-- A token can stand for a text that starts with this character. -/
def Token.starts : Token → Char → Bool
  | .char c, d => c == d
  | .slot .text, d => d == '"'
  | .slot .integer, d => d == '-' || Text.isDecimalDigit d

/-- Tokens after a placeholder, such that it is clear where it ends: after an integer no digit
can follow. -/
def closes : Slot → List Token → Bool
  | .text, _ => true
  | .integer, [] => true
  | .integer, .char c :: _ => !Text.isDecimalDigit c
  | .integer, .slot .text :: _ => true
  | .integer, .slot .integer :: _ => false

/-- A test whether no line is spelled by both. -/
def areApart : List Token → List Token → Bool
  | [], [] => false
  | [], _ :: _ => true
  | _ :: _, [] => true
  | .char c :: first, .char d :: second => c != d || areApart first second
  | .char c :: _, .slot slot :: _ => !Token.starts (.slot slot) c
  | .slot slot :: _, .char c :: _ => !Token.starts (.slot slot) c
  | .slot slot :: first, .slot other :: second =>
    slot != other || (closes slot first && closes slot second && areApart first second)

theorem areApart_self (tokens : List Token) : areApart tokens tokens = false := by
  induction tokens with
  | nil => rfl
  | cons token tokens ih =>
      cases token with
      | char c => simp [areApart, ih]
      | slot slot => simp [areApart, ih]

/-! ## The test is right -/

/-- What is left of a line after a placeholder, if it is clear where the placeholder ends. -/
def leftAfter : Slot → List Char → List Char
  | .text, line => (line.tail.dropWhile (· ≠ '"')).tail
  | .integer, '-' :: line => line.dropWhile Text.isDecimalDigit
  | .integer, line => line.dropWhile Text.isDecimalDigit

theorem starts_of_takes {slot : Slot} {piece written : List Char} (h : Takes slot piece written) :
    ∃ c rest, written = c :: rest ∧ Token.starts (.slot slot) c = true := by
  cases h with
  | text unquoted => exact ⟨'"', _, rfl, rfl⟩
  | unsigned digits_spec =>
      obtain ⟨c, cs, rfl, hc⟩ := digits_spec.exists_cons
      exact ⟨c, cs, rfl, by rw [Token.starts, hc, Bool.or_true]⟩
  | negative digits_spec => exact ⟨'-', _, rfl, rfl⟩

theorem starts_of_spells {token : Token} {others : List Token} {line : List Char}
    (h : Spells (token :: others) line) :
    ∃ c rest, line = c :: rest ∧ token.starts c = true := by
  cases h with
  | char rest => exact ⟨_, _, rfl, by simp [Token.starts]⟩
  | slot taken rest =>
      obtain ⟨c, cs, rfl, hstarts⟩ := starts_of_takes taken
      exact ⟨c, _, rfl, hstarts⟩

/-- Nothing starts both a text and an integer. -/
theorem eq_of_starts {slot other : Slot} {c : Char} (h : Token.starts (.slot slot) c = true)
    (hother : Token.starts (.slot other) c = true) : slot = other := by
  have hquote : ¬ Token.starts (.slot .integer) '"' = true := by decide
  cases slot <;> cases other
  · rfl
  · obtain rfl : c = '"' := by simpa [Token.starts] using h
    exact absurd hother hquote
  · obtain rfl : c = '"' := by simpa [Token.starts] using hother
    exact absurd h hquote
  · rfl

/-- No digit comes first in what follows an integer that is closed. -/
theorem head_of_closes {others : List Token} {line : List Char}
    (hcloses : closes .integer others = true) (h : Spells others line) :
    ∀ c ∈ line.head?, Text.isDecimalDigit c = false := by
  intro c hc
  cases others with
  | nil =>
      cases h
      cases hc
  | cons token others =>
      obtain ⟨d, rest, rfl, hstarts⟩ := starts_of_spells h
      obtain rfl : d = c := by simpa using hc
      cases token with
      | char e =>
          obtain rfl : e = d := by simpa [Token.starts] using hstarts
          simpa [closes] using hcloses
      | slot slot =>
          cases slot with
          | text =>
              obtain rfl : d = '"' := by simpa [Token.starts] using hstarts
              decide
          | integer => cases hcloses

theorem dropWhile_digits {digits line : List Char} (hdigits : IsDigits digits)
    (hline : ∀ c ∈ line.head?, Text.isDecimalDigit c = false) :
    (digits ++ line).dropWhile Text.isDecimalDigit = line := by
  rw [List.dropWhile_append_of_pos hdigits.2]
  cases line with
  | nil => rfl
  | cons c line => rw [List.dropWhile_cons_of_neg (by simp [hline c rfl])]

/-- What is left of a line after a placeholder that is closed depends on the line alone. -/
theorem leftAfter_eq {slot : Slot} {piece written line : List Char} {others : List Token}
    (taken : Takes slot piece written) (hcloses : closes slot others = true)
    (h : Spells others line) : leftAfter slot (written ++ line) = line := by
  cases taken with
  | text unquoted =>
      have hrest : (piece ++ ['"'] ++ line).dropWhile (· ≠ '"') = '"' :: line := by
        rw [List.append_assoc, List.singleton_append]
        exact Text.dropWhile_ne_append_cons unquoted line
      rw [List.cons_append, leftAfter, List.tail_cons, hrest, List.tail_cons]
  | unsigned digits_spec =>
      have hdrop := dropWhile_digits digits_spec (head_of_closes hcloses h)
      obtain ⟨c, cs, rfl, hc⟩ := digits_spec.exists_cons
      rw [leftAfter.eq_def]
      split
      · rename_i heq
        cases heq
      · rename_i heq
        injection heq with heq
        exact absurd heq (ne_minus_of_isDecimalDigit hc)
      · exact hdrop
  | negative digits_spec =>
      rw [List.cons_append, leftAfter]
      exact dropWhile_digits digits_spec (head_of_closes hcloses h)

theorem not_spells_of_areApart {first second : List Token} {line : List Char}
    (hapart : areApart first second = true) (hfirst : Spells first line) :
    ¬ Spells second line := by
  intro hsecond
  induction first, second using areApart.induct generalizing line with
  | case1 => cases hapart
  | case2 token second =>
      obtain ⟨c, rest, rfl, -⟩ := starts_of_spells hsecond
      cases hfirst
  | case3 token first =>
      obtain ⟨c, rest, rfl, -⟩ := starts_of_spells hfirst
      cases hsecond
  | case4 c first d second ih =>
      cases hfirst with
      | char hrest =>
          cases hsecond with
          | char hother =>
              have hbelow : areApart first second = true := by simpa [areApart] using hapart
              exact ih hbelow hrest hother
  | case5 c first slot second =>
      obtain ⟨d, rest, rfl, hstarts⟩ := starts_of_spells hsecond
      cases hfirst
      rw [areApart, hstarts] at hapart
      cases hapart
  | case6 slot first c second =>
      obtain ⟨d, rest, rfl, hstarts⟩ := starts_of_spells hfirst
      cases hsecond
      rw [areApart, hstarts] at hapart
      cases hapart
  | case7 slot first other second ih =>
      -- the placeholders start with the same character, so they are of one kind
      obtain ⟨c, rest, hline, hstarts⟩ := starts_of_spells hfirst
      obtain ⟨d, rest', hline', hstarts'⟩ := starts_of_spells hsecond
      obtain rfl : d = c := by
        rw [hline] at hline'
        injection hline' with hhead
        exact hhead.symm
      obtain rfl := eq_of_starts hstarts hstarts'
      simp only [areApart, bne_self_eq_false, Bool.false_or, Bool.and_eq_true] at hapart
      obtain ⟨⟨hcloses, hcloses'⟩, hbelow⟩ := hapart
      cases hfirst with
      | @slot _ piece written after _ taken hrest =>
          generalize hwhole : written ++ after = line at hsecond
          cases hsecond with
          | @slot _ piece' written' after' _ taken' hrest' =>
              -- both placeholders leave the same rest of the line
              have hleft := leftAfter_eq taken hcloses hrest
              rw [hwhole, leftAfter_eq taken' hcloses' hrest'] at hleft
              subst hleft
              exact ih hbelow hrest hrest'

/-- A line does not match two patterns that are apart. -/
theorem not_accepts_of_areApart {first second : Pattern} {line : String}
    (hapart : areApart first.tokens second.tokens = true) (hfirst : first.accepts line = true) :
    second.accepts line = false := by
  obtain ⟨pieces, hpieces⟩ := accepts_iff.mp hfirst
  rw [Bool.eq_false_iff]
  intro hsecond
  obtain ⟨others, hothers⟩ := accepts_iff.mp hsecond
  exact not_spells_of_areApart hapart (spells_of_divides hpieces) (spells_of_divides hothers)

end ServiceHealth.Pattern
