/-!
# Kinds of steps

A step sets up a precondition, is an event, or states an expectation.  Scenarios
write the three as `Given`, `When` and `Then`.
-/

namespace ServiceHealth.Step

/-- The three kinds of steps. -/
inductive Kind where
  | precondition
  | event
  | expectation
  deriving DecidableEq, Repr

/-- A kind as scenarios write it. -/
def Kind.name : Kind → String
  | .precondition => "Given"
  | .event => "When"
  | .expectation => "Then"

/-- All kinds, in the order in which a scenario uses them. -/
def Kind.all : List Kind :=
  [.precondition, .event, .expectation]

end ServiceHealth.Step
