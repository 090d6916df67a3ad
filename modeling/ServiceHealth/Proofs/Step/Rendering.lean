import ServiceHealth.Proofs.Pattern.Filling
import ServiceHealth.Proofs.Step.Binding

/-!
# Lines that are written from arguments

A line is written from a pattern and arguments by putting a text in double quotes, or
the decimal form of an integer, in the place of each placeholder.  If the pattern is
delimited the arguments can be read back: `resolve_rendered` states that the line
resolves to the definition of the pattern with these arguments, unless another
definition matches it too.
-/

namespace ServiceHealth.Step

open Pattern (Slot Takes)

/-! ## What an argument writes -/

/-- An argument that a line can write in the place of a placeholder. -/
inductive Argument.IsWritable : Slot → Argument → Prop
  | text {value : String} (unquoted : '"' ∉ value.toList) : IsWritable .text (.text value)
  | integer {value : Int} (least : -2 ^ 63 ≤ value) (greatest : value ≤ 2 ^ 63 - 1) :
      IsWritable .integer (.integer value)

namespace Argument

/-- The piece that a placeholder takes where the argument is written. -/
def piece : Argument → List Char
  | .text value => value.toList
  | .integer value => Text.decimal value

/-- What a line has in the place of a placeholder: a text in double quotes, an integer in
decimal form. -/
def rendered : Argument → List Char
  | .text value => '"' :: (value.toList ++ ['"'])
  | .integer value => Text.decimal value

theorem isDigits_of_isNumeral {digits : List Char} (h : Text.IsNumeral digits) :
    Pattern.IsDigits digits :=
  ⟨h.1, fun c hc => Text.isDecimalDigit_of_isAsciiDigit (h.2 c hc)⟩

/-- An integer placeholder takes every numeral. -/
theorem takes_of_writes {digits : List Char} {value : Int} (h : Text.Writes digits value) :
    Takes .integer digits digits := by
  cases h with
  | unsigned numeral => exact .unsigned (isDigits_of_isNumeral numeral)
  | negative numeral => exact .negative (isDigits_of_isNumeral numeral)

theorem takes_of_isWritable {slot : Slot} {argument : Argument} (h : IsWritable slot argument) :
    Takes slot argument.piece argument.rendered := by
  cases h with
  | text unquoted => exact .text unquoted
  | integer least greatest => exact takes_of_writes (Text.writes_decimal _)

theorem isGivenBy_of_isWritable {slot : Slot} {argument : Argument}
    (h : IsWritable slot argument) : IsGivenBy (slot, argument.piece) argument := by
  cases h with
  | @text value unquoted =>
      have hgiven := IsGivenBy.text value.toList
      rw [String.ofList_toList] at hgiven
      exact hgiven
  | integer least greatest => exact .integer (Text.writes_decimal _) least greatest

/-- The pieces of arguments that can be written give these arguments. -/
theorem areGivenBy_of_areWritable {slots : List Slot} {arguments : List Argument}
    (h : List.Forall₂ IsWritable slots arguments) :
    List.Forall₂ IsGivenBy (slots.zip (arguments.map piece)) arguments := by
  induction h with
  | nil => exact .nil
  | cons hwritable _ ih => exact .cons (isGivenBy_of_isWritable hwritable) ih

end Argument

/-! ## Reading the arguments back -/

/-- The line that a definition's pattern and arguments write. -/
def Definition.render (definition : Definition) (arguments : Arguments) : String :=
  String.ofList (definition.pattern.filled (arguments.map Argument.rendered))

/-- The pieces of the arguments are the only division of a line that is written from them. -/
theorem longestDivision_render {definition : Definition} {arguments : Arguments}
    (hdelimited : definition.pattern.IsDelimited)
    (hwritable : List.Forall₂ Argument.IsWritable definition.pattern.slots arguments) :
    LongestDivision definition.pattern (arguments.map Argument.piece)
      (definition.render arguments) := by
  have hdivides : definition.pattern.Divides (arguments.map Argument.piece)
      (definition.pattern.filled (arguments.map Argument.rendered)) :=
    Pattern.divides_filled (hwritable.imp fun _ _ => Argument.takes_of_isWritable)
  rw [LongestDivision, Definition.render, String.toList_ofList]
  exact ⟨hdivides, fun others hothers => .inl (Pattern.eq_of_divides hdelimited hdivides hothers)⟩

/-- A definition that matches is the only one if no other definition does. -/
theorem matching_eq_singleton {registry : Registry} {before after : List Definition}
    {definition : Definition} {text : String}
    (hsplit : registry.definitions = before ++ definition :: after)
    (hmatches : definition.Matches definition.kind text)
    (hothers : ∀ other ∈ before ++ after, ¬ other.Matches definition.kind text) :
    registry.matching definition.kind text = [definition] := by
  have hnone : ∀ part : List Definition, (∀ other ∈ part, other ∈ before ++ after) →
      part.filter (fun other => decide (other.Matches definition.kind text)) = [] := by
    intro part hpart
    rw [List.filter_eq_nil_iff]
    intro other hother
    simpa using hothers other (hpart other hother)
  have hbefore := hnone before fun other => List.mem_append_left after
  have hafter := hnone after fun other => List.mem_append_right before
  have hkept : decide (definition.Matches definition.kind text) = true :=
    decide_eq_true hmatches
  rw [Registry.matching, hsplit, List.filter_append, List.filter_cons, hkept, hbefore, hafter]
  rfl

/-- What is written from arguments is read back.  In a pattern whose source is accepted the
arguments take the places of the braced placeholders; if no integer is followed by a digit or by
another integer, a line that is written so, without blanks at its ends, resolves to the definition
with exactly these arguments, provided that no other definition of the kind matches it. -/
theorem resolve_rendered {source : String} {definition : Definition}
    (hread : Pattern.read source = .ok definition.pattern)
    (hdelimited : definition.pattern.IsDelimited) {arguments : Arguments}
    (hwritable : List.Forall₂ Argument.IsWritable definition.pattern.slots arguments)
    (htrimmed : Text.IsCore (definition.render arguments).toList
      (definition.render arguments).toList)
    {registry : Registry} {before after : List Definition}
    (hsplit : registry.definitions = before ++ definition :: after)
    (hothers : ∀ other ∈ before ++ after,
      ¬ other.Matches definition.kind (definition.render arguments))
    (keyword : String) :
    source.toList = definition.pattern.filled (definition.pattern.slots.map Slot.braced) ∧
      registry.resolve definition.kind keyword (definition.render arguments) =
        .ok ⟨definition, arguments⟩ := by
  constructor
  · rw [(Pattern.read_eq_ok_iff.mp hread).2.1]
    exact Pattern.written_eq_filled definition.pattern
  · have hlongest := longestDivision_render hdelimited hwritable
    have honly : registry.matching definition.kind (definition.render arguments) = [definition] :=
      matching_eq_singleton hsplit ⟨rfl, _, hlongest.1⟩ hothers
    have hgiven := Argument.areGivenBy_of_areWritable hwritable
    have htrim : Text.trim (definition.render arguments) = definition.render arguments :=
      trim_eq_of_isCore htrimmed
    apply resolve_of_resolution
    rw [htrim, honly]
    exact .bound rfl hlongest hgiven

/-- The least integer and a text with braces and a line end are read back, although there are
definitions with the same words and with the same pattern. -/
theorem resolve_rendered_of_least_integer :
    let counted : Definition := ⟨.event, ⟨"I send \x7bint\x7d of \x7bstring\x7d", "I send ".toList,
      [(.integer, " of ".toList), (.text, [])]⟩, .check fun _ _ => .ok ()⟩
    let other : Definition := ⟨.event, ⟨"I send \x7bint\x7d", "I send ".toList,
      [(.integer, [])]⟩, .check fun _ _ => .ok ()⟩
    let registry : Registry :=
      ⟨[other, ⟨.expectation, counted.pattern, counted.handler⟩, counted]⟩
    let arguments : Arguments := [.integer (-9223372036854775808), .text "\x7bint\x7d\n(.*)"]
    counted.render arguments = "I send -9223372036854775808 of \"\x7bint\x7d\n(.*)\"" ∧
      counted.pattern.IsDelimited ∧
      List.Forall₂ Argument.IsWritable counted.pattern.slots arguments ∧
      registry.resolve .event "When" "I send -9223372036854775808 of \"\x7bint\x7d\n(.*)\"" =
        .ok ⟨counted, arguments⟩ := by
  intro counted other registry arguments
  have hread : Pattern.read "I send \x7bint\x7d of \x7bstring\x7d" = .ok counted.pattern :=
    Pattern.read_eq_ok_iff.mpr ⟨rfl, by decide, by decide⟩
  have hline : counted.render arguments =
      "I send -9223372036854775808 of \"\x7bint\x7d\n(.*)\"" := by
    decide +kernel
  have hdelimited : counted.pattern.IsDelimited := by decide
  have hwritable : List.Forall₂ Argument.IsWritable counted.pattern.slots arguments :=
    .cons (.integer (by decide) (by decide)) (.cons (.text (by decide)) .nil)
  have htrimmed : Text.IsCore (counted.render arguments).toList
      (counted.render arguments).toList := by
    rw [hline]
    exact Text.isCore_iff.mpr (by decide +kernel)
  have hsplit : registry.definitions =
      [other, ⟨.expectation, counted.pattern, counted.handler⟩] ++ counted :: [] := rfl
  have hothers : ∀ definition ∈
      [other, ⟨.expectation, counted.pattern, counted.handler⟩] ++ [],
      ¬ definition.Matches counted.kind (counted.render arguments) := by
    rw [hline]
    decide +kernel
  have hresolve :=
    (resolve_rendered hread hdelimited hwritable htrimmed hsplit hothers "When").2
  rw [hline] at hresolve
  exact ⟨hline, hdelimited, hwritable, hresolve⟩

end ServiceHealth.Step
