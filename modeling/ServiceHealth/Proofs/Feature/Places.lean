import Mathlib.Data.List.Forall2
import ServiceHealth.Feature.Collection
import ServiceHealth.Proofs.Text.Trimming

/-!
# The places of scenarios

A document has a place for each of its scenarios, outside of rules or in one of them.
The scenarios of its feature are the places written out, in the order of their lines.

`toFeature_writesOut` compares the two lists place by place.  What a place says is
taken from the tree alone: the rule it is in, if there is one, and the steps of the
backgrounds around it.
-/

namespace ServiceHealth.Feature.Document

/-- A scenario together with the rule that it is in. -/
structure Place where
  rule : Option Document.Rule
  scenario : Document.Scenario

/-- The line of a scenario. -/
def Place.number (place : Place) : Nat :=
  place.scenario.number

/-- The places of a document: first those outside of rules, then those in each rule. -/
def places (document : Document) : List Place :=
  document.scenarios.map (Place.mk none) ++
    document.rules.flatMap fun rule => rule.scenarios.map (Place.mk (some rule))

/-- The steps of the background of the rule around a place. -/
def Place.ruleBackground (place : Place) : List Document.Step :=
  match place.rule with
  | none => []
  | some rule => rule.background

/-- The steps that apply at a place, from the outermost background to its own. -/
def stepsAt (document : Document) (place : Place) : List Document.Step :=
  document.background ++ (place.ruleBackground ++ place.scenario.steps)

/-- A line says what a step says, without the blanks around its keyword and its text. -/
structure Step.IsSaidBy (step : Document.Step) (line : Line) : Prop where
  kind : line.kind = step.kind
  number : line.number = step.number
  keyword : Text.IsCore step.keyword.toList line.keyword.toList
  text : Text.IsCore step.text.toList line.text.toList

/-- A scenario is what is written at a place. -/
structure WritesOut (document : Document) (place : Place) (scenario : Feature.Scenario) :
    Prop where
  name : scenario.name = place.scenario.name
  rule : scenario.rule = place.rule.map Rule.name
  number : scenario.number = place.number
  lines : List.Forall₂ Step.IsSaidBy (document.stepsAt place) scenario.lines
  supported : scenario.unsupported = none ↔ place.scenario.examples = 0
  reason : ∀ reason ∈ scenario.unsupported, reason = outlineReason

/-- Places in the order of their lines, those of one line in the order of `places`. -/
structure IsFileOrder (order places : List Place) : Prop where
  perm : order.Perm places
  sorted : order.Pairwise fun first second => first.number ≤ second.number
  ties : ∀ number : Nat,
    order.filter (fun place => decide (place.number = number)) =
      places.filter fun place => decide (place.number = number)

/-! ## Sorting by a number -/

section Sorting

variable {α : Type} (numberOf : α → Nat)

theorem trans_byNumber (first second third : α)
    (hfirst : decide (numberOf first ≤ numberOf second) = true)
    (hsecond : decide (numberOf second ≤ numberOf third) = true) :
    decide (numberOf first ≤ numberOf third) = true := by
  rw [decide_eq_true_eq] at hfirst hsecond ⊢
  exact hfirst.trans hsecond

theorem total_byNumber (first second : α) :
    (decide (numberOf first ≤ numberOf second) ||
      decide (numberOf second ≤ numberOf first)) = true := by
  rw [Bool.or_eq_true, decide_eq_true_eq, decide_eq_true_eq]
  exact Nat.le_total _ _

theorem pairwise_filter_number (number : Nat) (values : List α) :
    (values.filter fun value => decide (numberOf value = number)).Pairwise fun first second =>
      decide (numberOf first ≤ numberOf second) = true := by
  refine List.Pairwise.imp_of_mem ?_ (List.pairwise_of_forall fun _ _ => trivial)
  intro first second hfirst hsecond _
  have hfirst' : numberOf first = number := of_decide_eq_true (List.mem_filter.mp hfirst).2
  have hsecond' : numberOf second = number := of_decide_eq_true (List.mem_filter.mp hsecond).2
  rw [decide_eq_true_eq, hfirst', hsecond']

/-- Values with the same number keep their order. -/
theorem filter_mergeSort (values : List α) (number : Nat) :
    (values.mergeSort fun first second => decide (numberOf first ≤ numberOf second)).filter
        (fun value => decide (numberOf value = number)) =
      values.filter fun value => decide (numberOf value = number) := by
  -- they are in order already, so the sorted list has them as a sublist
  have hsublist := List.sublist_mergeSort (trans_byNumber numberOf) (total_byNumber numberOf)
    (pairwise_filter_number numberOf number values) List.filter_sublist
  have hfilter := hsublist.filter fun value => decide (numberOf value = number)
  simp only [List.filter_filter, Bool.and_self] at hfilter
  have hperm := (List.mergeSort_perm values fun first second =>
    decide (numberOf first ≤ numberOf second)).filter fun value =>
      decide (numberOf value = number)
  exact (hfilter.eq_of_length hperm.length_eq.symm).symm

end Sorting

/-! ## One place -/

variable (document : Document) (place : Place)

/-- The scenario at a place, with the lines of the backgrounds around it. -/
def writtenAt : Feature.Scenario :=
  place.scenario.withBackground (place.rule.map Rule.name)
    (linesOf document.background ++ linesOf place.ruleBackground)

theorem isSaidBy_line (step : Document.Step) : step.IsSaidBy step.line where
  kind := rfl
  number := rfl
  keyword := Text.isCore_trim step.keyword
  text := Text.isCore_trim step.text

theorem forall₂_linesOf (steps : List Document.Step) :
    List.Forall₂ Step.IsSaidBy steps (linesOf steps) := by
  rw [linesOf, List.forall₂_map_right_iff, List.forall₂_same]
  exact fun step _ => isSaidBy_line step

theorem lines_writtenAt : (document.writtenAt place).lines = linesOf (document.stepsAt place) := by
  simp only [writtenAt, Scenario.withBackground, stepsAt, linesOf, List.map_append,
    List.append_assoc]

theorem writesOut_writtenAt : document.WritesOut place (document.writtenAt place) where
  name := rfl
  rule := rfl
  number := rfl
  lines := by
    rw [lines_writtenAt]
    exact forall₂_linesOf (document.stepsAt place)
  supported := by
    simp [writtenAt, Scenario.withBackground]
  reason := by
    intro reason hreason
    simp only [writtenAt, Scenario.withBackground, Option.mem_def] at hreason
    split at hreason
    · cases hreason
    · exact (Option.some.inj hreason).symm

/-! ## All places -/

theorem allScenarios_eq_map : document.allScenarios = document.places.map document.writtenAt := by
  have hrule : ∀ rule, document.ruleScenarios rule =
      (rule.scenarios.map (Place.mk (some rule))).map document.writtenAt := by
    intro rule
    rw [ruleScenarios, List.map_map]
    rfl
  have hown : document.ownScenarios =
      (document.scenarios.map (Place.mk none)).map document.writtenAt := by
    rw [ownScenarios, List.map_map]
    refine List.map_congr_left fun scenario _ => ?_
    simp [writtenAt, Place.ruleBackground, linesOf]
  rw [allScenarios, places, List.map_append, List.map_flatMap, hown, funext hrule]

/-- The places in the order in which their scenarios are executed. -/
def placesInOrder : List Place :=
  document.places.mergeSort fun first second =>
    decide (first.number ≤ second.number)

theorem scenarios_toFeature (path : Option String) :
    (document.toFeature path).scenarios = document.placesInOrder.map document.writtenAt := by
  rw [toFeature, inFileOrder, allScenarios_eq_map, placesInOrder]
  exact (List.map_mergeSort (f := document.writtenAt) fun _ _ _ _ => rfl).symm

theorem isFileOrder_placesInOrder : IsFileOrder document.placesInOrder document.places where
  perm := List.mergeSort_perm _ _
  sorted := by
    have hsorted := List.pairwise_mergeSort (trans_byNumber Place.number)
      (total_byNumber Place.number) document.places
    exact hsorted.imp fun hle => of_decide_eq_true hle
  ties := filter_mergeSort Place.number document.places

/-- The scenarios of a feature are those at the places of its document, each once and in
the order of their lines, and reading a text that follows the grammar gives them. -/
theorem toFeature_writesOut (path : Option String) :
    (∃ order, IsFileOrder order document.places ∧
      List.Forall₂ document.WritesOut order (document.toFeature path).scenarios) ∧
    ∀ text origin, read? text = some document →
      parse text origin = .ok (document.toFeature none) := by
  constructor
  · refine ⟨document.placesInOrder, isFileOrder_placesInOrder document, ?_⟩
    rw [scenarios_toFeature, List.forall₂_map_right_iff, List.forall₂_same]
    exact fun place _ => writesOut_writtenAt document place
  · intro text origin hread
    unfold parse
    rw [hread]

end ServiceHealth.Feature.Document
