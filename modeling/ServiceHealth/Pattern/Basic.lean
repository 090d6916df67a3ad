import ServiceHealth.Error.Basic

/-!
# Step patterns

A pattern is literal text with placeholders for texts, which a line writes in
double quotes, and for integers.  Read from left to right it is a literal,
followed by placeholders each with the literal after it; every opening brace has
to start a placeholder, and a closing brace elsewhere is literal.
-/

namespace ServiceHealth

/-- What a placeholder stands for. -/
inductive Pattern.Slot where
  | text
  | integer
  deriving DecidableEq, Repr

/-- A pattern: its source, the literal before the first placeholder, and the
placeholders, each with the literal that follows it. -/
structure Pattern where
  source : String
  opening : List Char
  parts : List (Pattern.Slot × List Char)
  deriving DecidableEq, Repr

namespace Pattern

/-- The placeholder with this name. -/
def Slot.ofName? (name : List Char) : Option Slot :=
  if name = ['s', 't', 'r', 'i', 'n', 'g'] then some .text
  else if name = ['i', 'n', 't'] then some .integer
  else none

/-- The placeholders of a pattern in order. -/
def slots (pattern : Pattern) : List Slot :=
  pattern.parts.map Prod.fst

/-- Reads the rest of a pattern: a literal and the placeholders after it. -/
def readParts (source : String) (cs : List Char) :
    Except Error (List Char × List (Slot × List Char)) :=
  match _hopen : cs.dropWhile (· ≠ '\x7b') with
  | [] => .ok (cs, [])
  | _ :: inside =>
    match _hclose : inside.dropWhile (· ≠ '\x7d') with
    | [] => .error (.setup (.unclosedPlaceholder source))
    | _ :: rest =>
      let name := inside.takeWhile (· ≠ '\x7d')
      match Slot.ofName? name with
      | none => .error (.setup (.unknownPlaceholder (String.ofList name) source))
      | some slot =>
        match readParts source rest with
        | .error error => .error error
        | .ok (literal, parts) => .ok (cs.takeWhile (· ≠ '\x7b'), (slot, literal) :: parts)
termination_by cs.length
decreasing_by
  have hinside := (List.dropWhile_suffix (· ≠ '\x7b') (l := cs)).length_le
  have hrest := (List.dropWhile_suffix (· ≠ '\x7d') (l := inside)).length_le
  rw [_hopen] at hinside
  rw [_hclose] at hrest
  simp only [List.length_cons] at hinside hrest
  omega

/-- The pattern that a source writes. -/
def read (source : String) : Except Error Pattern :=
  (readParts source source.toList).map fun (opening, parts) => ⟨source, opening, parts⟩

end Pattern

end ServiceHealth
