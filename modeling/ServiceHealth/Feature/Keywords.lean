/-!
# The keywords of feature files

A feature file is written in a language: English, or the one that its first
comment names.  A language gives every construct a list of keywords; where one
keyword begins with another, the order of the list decides.
-/

namespace ServiceHealth.Feature

/-- The keywords of a language. -/
structure Keywords where
  feature : List String
  background : List String
  rule : List String
  example_ : List String
  outline : List String
  examples : List String
  precondition : List String
  event : List String
  expectation : List String
  /-- A step of the same kind as the step before it. -/
  conjunction : List String
  /-- Likewise, in contrast to the step before it. -/
  contrast : List String
  deriving DecidableEq, Repr

namespace Keywords

/-- The English keywords. -/
def english : Keywords where
  feature := ["Feature", "Business Need", "Ability"]
  background := ["Background"]
  rule := ["Rule"]
  example_ := ["Example", "Scenario"]
  outline := ["Scenario Outline", "Scenario Template"]
  examples := ["Examples", "Scenarios"]
  precondition := ["* ", "Given "]
  event := ["* ", "When "]
  expectation := ["* ", "Then "]
  conjunction := ["* ", "And "]
  contrast := ["* ", "But "]

/-- The French keywords. -/
def french : Keywords where
  feature := ["Fonctionnalité"]
  background := ["Contexte"]
  rule := ["Règle"]
  example_ := ["Exemple", "Scénario"]
  outline := ["Plan du scénario", "Plan du Scénario"]
  examples := ["Exemples"]
  precondition :=
    ["* ", "Soit ", "Sachant que ", "Sachant qu'", "Sachant ", "Etant donné que ",
      "Etant donné qu'", "Etant donné ", "Etant donnée ", "Etant donnés ", "Etant données ",
      "Étant donné que ", "Étant donné qu'", "Étant donné ", "Étant donnée ", "Étant donnés ",
      "Étant données "]
  event := ["* ", "Quand ", "Lorsque ", "Lorsqu'"]
  expectation := ["* ", "Alors ", "Donc "]
  conjunction := ["* ", "Et que ", "Et qu'", "Et "]
  contrast := ["* ", "Mais que ", "Mais qu'", "Mais "]

/-- The German keywords. -/
def german : Keywords where
  feature := ["Funktionalität", "Funktion"]
  background := ["Grundlage", "Hintergrund", "Voraussetzungen", "Vorbedingungen"]
  rule := ["Rule", "Regel"]
  example_ := ["Beispiel", "Szenario"]
  outline := ["Szenariogrundriss", "Szenarien"]
  examples := ["Beispiele"]
  precondition := ["* ", "Angenommen ", "Gegeben sei ", "Gegeben seien "]
  event := ["* ", "Wenn "]
  expectation := ["* ", "Dann "]
  conjunction := ["* ", "Und "]
  contrast := ["* ", "Aber "]

/-- The keywords that start a step. -/
def steps (keywords : Keywords) : List String :=
  keywords.precondition ++ keywords.event ++ keywords.expectation ++ keywords.conjunction ++
    keywords.contrast

/-- The keywords that start a scenario. -/
def scenarios (keywords : Keywords) : List String :=
  keywords.example_ ++ keywords.outline

/-- The keywords that end the description of a feature. -/
def afterFeature (keywords : Keywords) : List String :=
  keywords.background ++ keywords.rule ++ keywords.scenarios

/-- The keywords that end the description of a rule. -/
def afterRule (keywords : Keywords) : List String :=
  keywords.background ++ keywords.scenarios

/-- The keywords that end the description of a background or a scenario. -/
def afterScenario (keywords : Keywords) : List String :=
  keywords.scenarios ++ keywords.steps

/-- The keywords that end the description of a list of examples. -/
def afterExamples (keywords : Keywords) : List String :=
  keywords.afterScenario ++ ["|"]

end Keywords

end ServiceHealth.Feature
