import ServiceHealth.Proofs.Execution.ScenarioRun
import ServiceHealth.Proofs.Feature.Headings
import ServiceHealth.Proofs.Step.Endings

/-!
# What becomes of outlines

A scenario may be written as an outline, with placeholders for which lists of examples give values.
Nothing fills them in.  What keeps a scenario from being executed are the lists, not the form:
`parse_outlines` states for every text that follows the grammar which of its scenarios are refused,
and that an outline without examples is executed like any other scenario, with its lines as they
are written.

`isRefused_writtenAt_iff` is about one place of a document.  That the form of a scenario is the one
that stands in the text, and its examples too, is `isWritten_of_read?`.
-/

namespace ServiceHealth.Execution

open Feature (Document Line Scenario lineEnded)
open Feature.Document (Place outlineReason)
open Feature.Grammar (IsWritten)
open Step (Registry Session)

/-! ## One scenario -/

/-- The scenario is not executed, whatever the runner and the network are: it fails at once because
of its examples, and nothing is sent. -/
def IsRefused (scenario : Scenario) : Prop :=
  scenario.unsupported = some outlineReason ∧
    ∀ {σ : Type} (runner : Runner) (network : Network σ) (state : σ),
      (runner.executeScenario scenario).run network state =
        ⟨failedResult scenario 0 none outlineReason, state,
          [.printed (.scenario scenario.fullName), .printed (.unsupported outlineReason)]⟩

theorem isRefused_iff {scenario : Scenario} :
    IsRefused scenario ↔ scenario.unsupported = some outlineReason := by
  constructor
  · exact And.left
  · intro hmarked
    refine ⟨hmarked, ?_⟩
    intro σ runner network state
    exact executeScenario_run_of_scenarioRun (.unsupported hmarked)

/-! ## One place -/

/-- The same scenario, with the keyword of the other form or of its own. -/
def withForm (place : Place) (form : Document.Form) : Place :=
  ⟨place.rule, { place.scenario with form := form }⟩

theorem unsupported_writtenAt (document : Document) (place : Place) :
    (document.writtenAt place).unsupported =
      if place.scenario.examples = 0 then none else some outlineReason :=
  rfl

/-- What is written at a place is refused if and only if it has examples. -/
theorem isRefused_writtenAt_iff (document : Document) (place : Place) :
    IsRefused (document.writtenAt place) ↔ place.scenario.examples ≠ 0 := by
  rw [isRefused_iff, unsupported_writtenAt]
  by_cases hexamples : place.scenario.examples = 0
  · simp [hexamples]
  · simp [hexamples]

/-- How what is written at a place is treated: by its examples and not by its form, and with the
steps as they stand there. -/
structure IsTreatedByExamples (document : Document) (place : Place) : Prop where
  refused_iff : IsRefused (document.writtenAt place) ↔ place.scenario.examples ≠ 0
  executable_iff : (document.writtenAt place).unsupported = none ↔ place.scenario.examples = 0
  writesOut : document.WritesOut place (document.writtenAt place)
  form : ∀ form, document.writtenAt (withForm place form) = document.writtenAt place

theorem isTreatedByExamples (document : Document) (place : Place) :
    IsTreatedByExamples document place where
  refused_iff := isRefused_writtenAt_iff document place
  executable_iff := (document.writesOut_writtenAt place).supported
  writesOut := document.writesOut_writtenAt place
  form _ := rfl

/-! ## A text -/

/-- The scenarios of a text that follows the grammar are written in it, each with a word of its
form, and they are executed unless they have examples.  So all outlines of a text are refused
exactly if each of them has examples; one without is executed with its lines as they are
written. -/
theorem parse_outlines {text origin : String} {feature : Feature}
    (hparse : Feature.parse text origin = .ok feature) :
    ∃ document language keywords, Document.read? text = some document ∧
      Feature.Keywords.named? language = some keywords ∧
      (∃ order, Document.IsFileOrder order document.places ∧
        feature.scenarios = order.map document.writtenAt) ∧
      (∀ place ∈ document.places,
        IsWritten keywords (.start (lineEnded text)) place.scenario ∧
          IsTreatedByExamples document place) ∧
      ((∀ place ∈ document.places, place.scenario.form = .outline →
          IsRefused (document.writtenAt place)) ↔
        ∀ place ∈ document.places, place.scenario.form = .outline →
          place.scenario.examples ≠ 0) := by
  obtain ⟨document, hread, rfl⟩ := Feature.parse_eq_ok_iff.mp hparse
  obtain ⟨language, keywords, hnamed, hwritten⟩ := Feature.isWritten_of_read? hread
  refine ⟨document, language, keywords, hread, hnamed, ?_, ?_, ?_⟩
  · exact ⟨document.placesInOrder, document.isFileOrder_placesInOrder,
      document.scenarios_toFeature none⟩
  · intro place hplace
    exact ⟨hwritten place hplace, isTreatedByExamples document place⟩
  · simp only [isRefused_writtenAt_iff]

/-- An outline with a list of examples. -/
def listedOutline : String :=
  "Feature: Ping\nScenario Outline: All\n* <step>\nExamples:\n|step|\n|the server is running|"

/-- An outline with a list of examples is refused. -/
theorem parse_outlines_of_examples :
    ∃ (feature : Feature) (document : Document) (place : Place),
      Feature.parse listedOutline "ping.feature" = .ok feature ∧
      feature.scenarios = [document.writtenAt place] ∧ place.scenario.form = .outline ∧
      IsRefused (document.writtenAt place) := by
  let place : Place :=
    ⟨none, ⟨.outline, "All", 2, [⟨.precondition, "* ", "<step>", 3⟩], 1⟩⟩
  let document : Document := ⟨"Ping", [], [place.scenario], []⟩
  have hread : Document.read? listedOutline = some document := by decide +kernel
  have hparse : Feature.parse listedOutline "ping.feature" = .ok (document.toFeature none) :=
    Feature.parse_eq_ok_iff.mpr ⟨document, hread, rfl⟩
  refine ⟨_, document, place, hparse, by decide +kernel, rfl, ?_⟩
  obtain ⟨other, language, keywords, hother, -, -, htreated, -⟩ := parse_outlines hparse
  obtain rfl := Option.some.inj (hother.symm.trans hread)
  exact (htreated place List.mem_cons_self).2.refused_iff.mpr Nat.one_ne_zero

/-- An outline without examples. -/
def outlineText : String :=
  "Feature: Ping\n Scenario Outline: All\n  When I make a GET request to \"<path>\"\n"

/-- An outline without examples is not refused, and a request for its placeholder is sent. -/
theorem outline_sends_placeholder :
    ∃ registry document feature scenario call, Registry.standard = .ok registry ∧
      Document.read? outlineText = some document ∧
      document.places.map (fun place => place.scenario.form) = [.outline] ∧
      Feature.parse outlineText "ping.feature" = .ok feature ∧ feature.scenarios = [scenario] ∧
      let session : Session := ⟨Settings.withHost {} "[::1]"⟩
      let network := Network.ofService (.counting fun call => .error (.broken call.url))
      let trace := ((⟨session, registry, false⟩ : Runner).executeScenario scenario).run network 0
      session.client.build (Http.Request.get "<path>") 2 = .ok call ∧
        trace.result = passedResult scenario ∧ trace.calls = [call] := by
  let line : Line := ⟨.event, "When", "I make a GET request to \"<path>\"", 3⟩
  let scenario : Scenario := ⟨"All", none, 2, [line], none⟩
  let document : Document := ⟨"Ping", [],
    [⟨.outline, "All", 2, [⟨.event, "When ", "I make a GET request to \"<path>\"", 3⟩], 0⟩], []⟩
  have hread : Document.read? outlineText = some document := by decide +kernel
  have hscenarios : (document.toFeature none).scenarios = [scenario] := by decide +kernel
  obtain ⟨registry, hstandard, hseparated⟩ := Step.standard_isSeparated
  obtain ⟨get, hresolve, hsingle⟩ := Step.exists_get_of_argumentsIn? hstandard hseparated
    (show Step.argumentsIn? "I make a GET request to \x7bstring\x7d"
      "I make a GET request to \"<path>\"" = some [.text "<path>"] by decide +kernel)
  let session : Session := ⟨Settings.withHost {} "[::1]"⟩
  let runner : Runner := ⟨session, registry, false⟩
  let network := Network.ofService (.counting fun call => .error (.broken call.url))
  obtain ⟨call, hbuild⟩ : ∃ call, session.client.build (Http.Request.get "<path>")
      session.client.timeoutSecs = .ok call :=
    Http.Client.exists_call_of_isSome (by decide +kernel)
  refine ⟨registry, document, _, scenario, call, hstandard, hread, rfl,
    Feature.parse_eq_ok_iff.mpr ⟨document, hread, rfl⟩, hscenarios, ?_⟩
  intro _ _ trace
  have hline : ResolvesTo registry line get := hresolve "When"
  have hsent : invoked network (.fresh session) 0 get = _ :=
    Step.invoke_of_single hstandard ⟨_, _, _, hline⟩ hsingle (.fresh session 0) hbuild
  have hpassed : StepsPass runner network (.fresh runner.session) 0 [(line, get)] _ _ _ :=
    .cons hsent (.nil _ _)
  have hrun : ScenarioRun runner network scenario 0 _ :=
    .passed rfl (resolves_cons hline (resolves_nil _)) hpassed
  have htrace : trace = _ := executeScenario_run_of_scenarioRun hrun
  rw [htrace]
  exact ⟨hbuild, rfl, rfl⟩

end ServiceHealth.Execution
