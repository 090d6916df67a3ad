import ServiceHealth.Step.Kind
import ServiceHealth.Text.Blank

/-!
# Scenarios and features

A scenario is a list of lines to execute, with the lines of the backgrounds that
apply to it in front.  A feature is the scenarios of one file.
-/

namespace ServiceHealth.Feature

/-- One line of a scenario. -/
structure Line where
  kind : Step.Kind
  keyword : String
  text : String
  number : Nat
  deriving DecidableEq, Repr

namespace Line

/-- A line whose keyword and text lose the blanks around them. -/
def trimmed (kind : Step.Kind) (keyword text : String) (number : Nat) : Line :=
  ⟨kind, Text.trim keyword, Text.trim text, number⟩

/-- The keyword and the text, as a report names the line. -/
def label (line : Line) : String :=
  line.keyword ++ " " ++ line.text

end Line

/-- A scenario as it is executed. -/
structure Scenario where
  name : String
  rule : Option String
  number : Nat
  lines : List Line
  /-- Why the scenario cannot be executed, if it cannot. -/
  unsupported : Option String
  deriving DecidableEq, Repr

/-- The name of a scenario, after the name of its rule. -/
def Scenario.fullName (scenario : Scenario) : String :=
  match scenario.rule with
  | some rule => rule ++ " / " ++ scenario.name
  | none => scenario.name

end ServiceHealth.Feature

namespace ServiceHealth

/-- The scenarios of one file. -/
structure Feature where
  name : String
  path : Option String
  scenarios : List Feature.Scenario
  deriving DecidableEq, Repr

end ServiceHealth
