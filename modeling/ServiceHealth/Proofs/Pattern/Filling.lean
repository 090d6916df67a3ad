import Mathlib.Data.List.Forall2
import ServiceHealth.Proofs.Pattern.Separation

/-!
# Patterns with texts in their places

A pattern is filled when texts take the places of its placeholders, from left to
right.  Its source is the pattern filled with the placeholders in braces, and a line
that is divided is the pattern filled with what the placeholders take.

Which texts a line is filled with may not be clear from the line, since digits next to
an integer may belong to it or not.  In a delimited pattern neither a digit nor another
integer comes next after an integer.  Then a line is divided in one way at most
(`eq_of_divides`).
-/

namespace ServiceHealth.Pattern

/-! ## Filling -/

/-- A placeholder as a source writes it. -/
def Slot.braced (slot : Slot) : List Char :=
  '\x7b' :: (slot.name ++ ['\x7d'])

/-- Texts in the places of placeholders, each with the literal after it. -/
def fillParts : List (Slot × List Char) → (texts : List (List Char)) → List Char
  | (_, literal) :: parts, text :: texts => text ++ (literal ++ fillParts parts texts)
  | _, _ => []

/-- The pattern with texts in the places of its placeholders. -/
def filled (pattern : Pattern) (texts : List (List Char)) : List Char :=
  pattern.opening ++ fillParts pattern.parts texts

theorem writeParts_eq_fillParts (parts : List (Slot × List Char)) :
    writeParts parts = fillParts parts (parts.map fun part => part.1.braced) := by
  induction parts with
  | nil => rfl
  | cons part parts ih =>
      obtain ⟨slot, literal⟩ := part
      rw [writeParts, List.map_cons, fillParts, ih, Slot.braced, List.cons_append,
        List.append_assoc, List.singleton_append]

/-- A pattern is written with its placeholders in braces. -/
theorem written_eq_filled (pattern : Pattern) :
    pattern.written = pattern.filled (pattern.slots.map Slot.braced) := by
  rw [written, writeParts_eq_fillParts, filled, slots, List.map_map]
  rfl

theorem partsDivide_fillParts {α : Type} {piece written : α → List Char}
    {parts : List (Slot × List Char)} {values : List α}
    (h : List.Forall₂ (fun part value => Takes part.1 (piece value) (written value)) parts
      values) :
    PartsDivide parts (values.map piece) (fillParts parts (values.map written)) := by
  induction h with
  | nil => exact .nil
  | cons taken _ ih => exact .cons taken ih

/-- A pattern that is filled with what its placeholders may take is divided in this way. -/
theorem divides_filled {α : Type} {piece written : α → List Char} {pattern : Pattern}
    {values : List α}
    (h : List.Forall₂ (fun slot value => Takes slot (piece value) (written value))
      pattern.slots values) :
    pattern.Divides (values.map piece) (pattern.filled (values.map written)) := by
  rw [slots, List.forall₂_map_left_iff] at h
  exact ⟨_, rfl, partsDivide_fillParts h⟩

/-! ## Delimited patterns -/

/-- It is clear where each of these placeholders ends: no integer is followed by a digit or by
another integer. -/
def areDelimited : List (Slot × List Char) → Bool
  | [] => true
  | (slot, literal) :: parts =>
    closes slot (literal.map .char ++ partTokens parts) && areDelimited parts

/-- It is clear where each placeholder of the pattern ends. -/
def IsDelimited (pattern : Pattern) : Prop :=
  areDelimited pattern.parts = true

instance (pattern : Pattern) : Decidable pattern.IsDelimited :=
  inferInstanceAs (Decidable (_ = true))

/-- A placeholder writes only one piece in the same way. -/
theorem Takes.piece_unique {slot : Slot} {piece other written : List Char}
    (h : Takes slot piece written) (hother : Takes slot other written) : other = piece := by
  cases h with
  | text unquoted =>
      generalize hwritten : '"' :: (piece ++ ['"']) = written at hother
      cases hother with
      | text unquoted' =>
          injection hwritten with _ hinside
          exact (List.append_cancel_right hinside).symm
  | unsigned digits_spec =>
      cases hother with
      | unsigned digits_spec' => rfl
      | negative digits_spec' => rfl
  | negative digits_spec =>
      cases hother with
      | unsigned digits_spec' => rfl
      | negative digits_spec' => rfl

theorem eq_of_partsDivide {parts : List (Slot × List Char)} {pieces others : List (List Char)}
    {line : List Char} (hdelimited : areDelimited parts = true)
    (h : PartsDivide parts pieces line) (hothers : PartsDivide parts others line) :
    others = pieces := by
  induction h generalizing others with
  | nil =>
      cases hothers
      rfl
  | @cons slot literal piece written rest parts pieces taken hrest ih =>
      rw [areDelimited, Bool.and_eq_true] at hdelimited
      obtain ⟨hcloses, hbelow⟩ := hdelimited
      generalize hline : written ++ (literal ++ rest) = line at hothers
      cases hothers with
      | @cons _ _ other written' rest' _ others taken' hrest' =>
          have hleft := leftAfter_eq taken hcloses ((spells_of_partsDivide hrest).literal literal)
          have hleft' :=
            leftAfter_eq taken' hcloses ((spells_of_partsDivide hrest').literal literal)
          -- what is left after the placeholder is the same, hence so is what it takes
          have hafter : literal ++ rest = literal ++ rest' := by
            rw [← hleft, hline, hleft']
          have hsame : rest = rest' := List.append_cancel_left hafter
          subst hsame
          have hwritten : written = written' := List.append_cancel_right hline
          subst hwritten
          rw [taken.piece_unique taken', ih hbelow hrest']

/-- A delimited pattern divides a line in one way at most. -/
theorem eq_of_divides {pattern : Pattern} (hdelimited : pattern.IsDelimited)
    {pieces others : List (List Char)} {line : List Char} (h : pattern.Divides pieces line)
    (hothers : pattern.Divides others line) : others = pieces := by
  obtain ⟨rest, rfl, hparts⟩ := h
  obtain ⟨rest', hline, hparts'⟩ := hothers
  have hsame : rest = rest' := List.append_cancel_left hline
  subst hsame
  exact eq_of_partsDivide hdelimited hparts hparts'

end ServiceHealth.Pattern
