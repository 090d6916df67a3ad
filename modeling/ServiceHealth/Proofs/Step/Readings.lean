import Mathlib.Data.List.Forall2
import ServiceHealth.Proofs.Error.Sequence
import ServiceHealth.Proofs.Text.Numerals
import ServiceHealth.Step.Arguments

/-!
# The arguments that pieces give

A text piece is an argument as it is, and an integer piece is one if it is a numeral
whose value fits in 64 bits.  The pieces of a line are read from the left: either each
of them gives its argument (`ofPieces_eq_ok_iff`), or the first that gives none is
named (`ofPieces_eq_error_iff`).
-/

namespace ServiceHealth.Step

open Pattern (Slot)

/-- The argument that a piece gives for its placeholder. -/
inductive Argument.IsGivenBy : Slot × List Char → Argument → Prop
  | text (piece : List Char) : IsGivenBy (.text, piece) (.text (String.ofList piece))
  | integer {piece : List Char} {value : Int} (writes : Text.Writes piece value)
      (least : -2 ^ 63 ≤ value) (greatest : value ≤ 2 ^ 63 - 1) :
      IsGivenBy (.integer, piece) (.integer value)

namespace Argument

/-- An integer piece that gives no argument. -/
def IsUnreadable (piece : List Char) : Prop :=
  ∀ argument, ¬ IsGivenBy (.integer, piece) argument

/-- The first of several pieces that gives no argument. -/
def IsFirstUnreadable (pairs : List (Slot × List Char)) (piece : List Char) : Prop :=
  ∃ before after, pairs = before ++ (.integer, piece) :: after ∧
    (∀ earlier ∈ before, ∃ argument, IsGivenBy earlier argument) ∧ IsUnreadable piece

/-! ## One piece -/

theorem integer?_eq_some_iff {piece : List Char} {value : Int} :
    integer? piece = some value ↔
      Text.Writes piece value ∧ -2 ^ 63 ≤ value ∧ value ≤ 2 ^ 63 - 1 := by
  rw [integer?, ← Text.signedNumeral?_eq_some_iff]
  cases hsigned : Text.signedNumeral? piece with
  | none => simp
  | some written =>
      dsimp only
      by_cases hfits : minInteger ≤ written ∧ written ≤ maxInteger
      · rw [if_pos hfits, Option.some.injEq]
        constructor
        · rintro rfl
          exact ⟨rfl, hfits⟩
        · exact And.left
      · rw [if_neg hfits, Option.some.injEq]
        constructor
        · intro hnone
          cases hnone
        · rintro ⟨rfl, hvalue⟩
          exact absurd hvalue hfits

theorem ofPiece_eq_ok_iff {slot : Slot} {piece : List Char} {argument : Argument} :
    ofPiece slot piece = .ok argument ↔ IsGivenBy (slot, piece) argument := by
  cases slot with
  | text =>
      rw [ofPiece, Except.ok.injEq]
      constructor
      · rintro rfl
        exact .text piece
      · rintro ⟨⟩
        rfl
  | integer =>
      rw [ofPiece]
      cases hinteger : integer? piece with
      | some value =>
          obtain ⟨hwrites, hleast, hgreatest⟩ := integer?_eq_some_iff.mp hinteger
          rw [Except.ok.injEq]
          constructor
          · rintro rfl
            exact .integer hwrites hleast hgreatest
          · intro hgiven
            cases hgiven with
            | integer hwrites hleast hgreatest =>
                have hother := integer?_eq_some_iff.mpr ⟨hwrites, hleast, hgreatest⟩
                rw [hinteger, Option.some.injEq] at hother
                rw [hother]
      | none =>
          constructor
          · intro h
            cases h
          · intro hgiven
            cases hgiven with
            | integer hwrites hleast hgreatest =>
                have hsome := integer?_eq_some_iff.mpr ⟨hwrites, hleast, hgreatest⟩
                rw [hinteger] at hsome
                cases hsome

/-- Only an integer piece can be unreadable, and then it is named. -/
theorem ofPiece_eq_error_iff {slot : Slot} {piece : List Char} {error : Error} :
    ofPiece slot piece = .error error ↔
      slot = .integer ∧ IsUnreadable piece ∧
        error = .stepArgument (.notInteger (String.ofList piece)) := by
  cases slot with
  | text => simp [ofPiece]
  | integer =>
      cases hpiece : ofPiece .integer piece with
      | ok argument =>
          have hgiven := ofPiece_eq_ok_iff.mp hpiece
          constructor
          · intro h
            cases h
          · rintro ⟨-, hunreadable, -⟩
            exact absurd hgiven (hunreadable argument)
      | error reason =>
          have hunreadable : IsUnreadable piece := by
            intro argument hgiven
            rw [ofPiece_eq_ok_iff.mpr hgiven] at hpiece
            cases hpiece
          have hreason : reason = .stepArgument (.notInteger (String.ofList piece)) := by
            rw [ofPiece] at hpiece
            split at hpiece
            · cases hpiece
            · injection hpiece with heq
              exact heq.symm
          rw [Except.error.injEq, hreason, eq_comm]
          exact ⟨fun heq => ⟨rfl, hunreadable, heq⟩, fun h => h.2.2⟩

/-! ## All pieces -/

theorem ofPieces_eq_ok_iff {slots : List Slot} {pieces : List (List Char)}
    {arguments : List Argument} :
    ofPieces slots pieces = .ok arguments ↔
      List.Forall₂ IsGivenBy (slots.zip pieces) arguments := by
  induction slots generalizing pieces arguments with
  | nil => simp [ofPieces, eq_comm]
  | cons slot slots ih =>
      cases pieces with
      | nil => simp [ofPieces, eq_comm]
      | cons piece pieces =>
          rw [ofPieces, bind_eq_ok_iff, List.zip_cons_cons, List.forall₂_cons_left_iff]
          simp only [ofPiece_eq_ok_iff, bind_eq_ok_iff, ih]
          constructor
          · rintro ⟨argument, hfirst, others, hrest, heq⟩
            exact ⟨argument, others, hfirst, hrest, (Except.ok.inj heq).symm⟩
          · rintro ⟨argument, others, hfirst, hrest, rfl⟩
            exact ⟨argument, hfirst, others, hrest, rfl⟩

theorem isFirstUnreadable_cons_iff {pair : Slot × List Char} {pairs : List (Slot × List Char)}
    {piece : List Char} :
    IsFirstUnreadable (pair :: pairs) piece ↔
      (pair = (.integer, piece) ∧ IsUnreadable piece) ∨
        ((∃ argument, IsGivenBy pair argument) ∧ IsFirstUnreadable pairs piece) := by
  constructor
  · rintro ⟨before, after, hpairs, hbefore, hpiece⟩
    cases before with
    | nil =>
        injection hpairs with hpair
        exact .inl ⟨hpair, hpiece⟩
    | cons first before =>
        injection hpairs with hpair hrest
        rw [List.forall_mem_cons] at hbefore
        exact .inr ⟨hpair ▸ hbefore.1, before, after, hrest, hbefore.2, hpiece⟩
  · rintro (⟨rfl, hpiece⟩ | ⟨hpair, before, after, rfl, hbefore, hpiece⟩)
    · exact ⟨[], pairs, rfl, by simp, hpiece⟩
    · exact ⟨pair :: before, after, rfl, List.forall_mem_cons.mpr ⟨hpair, hbefore⟩, hpiece⟩

theorem ofPieces_eq_error_iff {slots : List Slot} {pieces : List (List Char)} {error : Error} :
    ofPieces slots pieces = .error error ↔
      ∃ piece, IsFirstUnreadable (slots.zip pieces) piece ∧
        error = .stepArgument (.notInteger (String.ofList piece)) := by
  induction slots generalizing pieces with
  | nil => simp [ofPieces, IsFirstUnreadable]
  | cons slot slots ih =>
      cases pieces with
      | nil => simp [ofPieces, IsFirstUnreadable]
      | cons piece pieces =>
          rw [ofPieces, bind_eq_error_iff, List.zip_cons_cons]
          simp only [ofPiece_eq_error_iff, ofPiece_eq_ok_iff, bind_eq_error_iff, ih,
            isFirstUnreadable_cons_iff]
          constructor
          · rintro (⟨rfl, hpiece, rfl⟩ | ⟨argument, hgiven, hrest⟩)
            · exact ⟨piece, .inl ⟨rfl, hpiece⟩, rfl⟩
            · rcases hrest with ⟨later, hlater, rfl⟩ | ⟨others, -, hok⟩
              · exact ⟨later, .inr ⟨⟨argument, hgiven⟩, hlater⟩, rfl⟩
              · cases hok
          · rintro ⟨unreadable, ⟨hpair, hunreadable⟩ | ⟨⟨argument, hgiven⟩, hlater⟩, rfl⟩
            · injection hpair with hslot hpiece
              subst hpiece
              exact .inl ⟨hslot, hunreadable, rfl⟩
            · exact .inr ⟨argument, hgiven, .inl ⟨unreadable, hlater, rfl⟩⟩

end Argument
end ServiceHealth.Step
