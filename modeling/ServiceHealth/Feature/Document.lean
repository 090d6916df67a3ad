import ServiceHealth.Feature.Basic

/-!
# Documents

A document is the tree of a feature file: a feature may have a background, has
scenarios, and after them rules, which have a background and scenarios of their
own.  A feature is made from a document by writing out the backgrounds: the steps
of the feature's background, then those of the rule's, then those of the scenario.
The scenarios of a feature are in the order in which they are in the file.
-/

namespace ServiceHealth.Feature

namespace Document

/-- A step as it is written. -/
structure Step where
  kind : Step.Kind
  keyword : String
  text : String
  number : Nat
  deriving DecidableEq, Repr

/-- Which keyword a scenario is written with. -/
inductive Form where
  | example_
  | outline
  deriving DecidableEq, Repr

/-- A scenario as it is written. -/
structure Scenario where
  form : Form
  name : String
  number : Nat
  steps : List Document.Step
  /-- How many lists of examples follow the steps. -/
  examples : Nat
  deriving DecidableEq, Repr

/-- A rule as it is written. -/
structure Rule where
  name : String
  /-- The steps of its background, if it has one. -/
  background : List Document.Step
  scenarios : List Document.Scenario
  deriving DecidableEq, Repr

end Document

/-- The tree of a feature file. -/
structure Document where
  name : String
  /-- The steps of the background, if there is one. -/
  background : List Document.Step
  scenarios : List Document.Scenario
  rules : List Document.Rule
  deriving DecidableEq, Repr

namespace Document

/-- The line of a step. -/
def Step.line (step : Document.Step) : Line :=
  Line.trimmed step.kind step.keyword step.text step.number

/-- The lines of steps. -/
def linesOf (steps : List Document.Step) : List Line :=
  steps.map Step.line

/-- Why a scenario with examples is not executed. -/
def outlineReason : String :=
  "Scenario outlines with Examples are not supported"

/-- A scenario with the lines of the backgrounds that apply to it. -/
def Scenario.withBackground (scenario : Document.Scenario) (rule : Option String)
    (background : List Line) : Feature.Scenario where
  name := scenario.name
  rule := rule
  number := scenario.number
  lines := background ++ linesOf scenario.steps
  unsupported := if scenario.examples = 0 then none else some outlineReason

/-- The scenarios outside of rules. -/
def ownScenarios (document : Document) : List Feature.Scenario :=
  document.scenarios.map fun scenario =>
    scenario.withBackground none (linesOf document.background)

/-- The scenarios of a rule. -/
def ruleScenarios (document : Document) (rule : Document.Rule) : List Feature.Scenario :=
  rule.scenarios.map fun scenario =>
    scenario.withBackground (some rule.name)
      (linesOf document.background ++ linesOf rule.background)

/-- All scenarios, in the order of the tree. -/
def allScenarios (document : Document) : List Feature.Scenario :=
  document.ownScenarios ++ document.rules.flatMap document.ruleScenarios

/-- Scenarios in the order of their lines; those of the same line keep their order. -/
def inFileOrder (scenarios : List Feature.Scenario) : List Feature.Scenario :=
  scenarios.mergeSort fun first second => decide (first.number ≤ second.number)

/-- The feature of a document. -/
def toFeature (document : Document) (path : Option String) : Feature where
  name := document.name
  path := path
  scenarios := inFileOrder document.allScenarios

end Document

end ServiceHealth.Feature
