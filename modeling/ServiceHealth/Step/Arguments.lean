import ServiceHealth.Error.Basic
import ServiceHealth.Pattern.Match

/-!
# Arguments of a step

The pieces that the placeholders of a pattern take become typed arguments.  An
integer has to be written in ASCII digits and to fit in 64 bits.
-/

namespace ServiceHealth.Step

/-- An argument of a step. -/
inductive Argument where
  | text (value : String)
  | integer (value : Int)
  deriving DecidableEq, Repr

/-- The least and the greatest integer argument. -/
def minInteger : Int := -9223372036854775808

@[inherit_doc minInteger]
def maxInteger : Int := 9223372036854775807

/-- The integer that a piece writes, if it fits. -/
def integer? (piece : List Char) : Option Int :=
  match Text.signedNumeral? piece with
  | some n => if minInteger ≤ n ∧ n ≤ maxInteger then some n else none
  | none => none

/-- The argument that a piece gives for a placeholder. -/
def Argument.ofPiece (slot : Pattern.Slot) (piece : List Char) : Except Error Argument :=
  match slot with
  | .text => .ok (.text (String.ofList piece))
  | .integer =>
    match integer? piece with
    | some n => .ok (.integer n)
    | none => .error (.stepArgument (.notInteger (String.ofList piece)))

/-- The arguments that pieces give for placeholders; the first that cannot be read stops. -/
def Argument.ofPieces : List Pattern.Slot → List (List Char) → Except Error (List Argument)
  | slot :: slots, piece :: pieces => do
    let argument ← Argument.ofPiece slot piece
    let arguments ← Argument.ofPieces slots pieces
    return argument :: arguments
  | _, _ => .ok []

/-- The arguments of a step in the order of its placeholders. -/
abbrev Arguments := List Argument

namespace Arguments

/-- An argument that has to be a text. -/
def text (arguments : Arguments) (index : Nat) : Except Error String :=
  match arguments[index]? with
  | some (.text value) => .ok value
  | some (.integer _) => .error (.stepArgument (.notText index))
  | none => .error (.stepArgument (.missing index))

/-- An argument that has to be an integer. -/
def integer (arguments : Arguments) (index : Nat) : Except Error Int :=
  match arguments[index]? with
  | some (.integer value) => .ok value
  | some (.text _) => .error (.stepArgument (.notNumber index))
  | none => .error (.stepArgument (.missing index))

/-- An argument that has to be a number of requests. -/
def count (arguments : Arguments) (index : Nat) : Except Error Nat := do
  let n ← arguments.integer index
  if 0 ≤ n then return n.toNat else .error (.stepArgument (.negativeCount n))

/-- An argument that has to be a status code. -/
def status (arguments : Arguments) (index : Nat) : Except Error Nat := do
  let n ← arguments.integer index
  if 100 ≤ n ∧ n ≤ 599 then return n.toNat else .error (.stepArgument (.notStatus n))

end Arguments

end ServiceHealth.Step
