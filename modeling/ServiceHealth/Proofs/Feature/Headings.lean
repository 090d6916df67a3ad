import ServiceHealth.Proofs.Feature.Places
import ServiceHealth.Proofs.Feature.Reading

/-!
# The headings of scenarios

A scenario of a document says in which of two forms it is written, which steps it has and how many
lists of examples.  `isWritten_of_read?` ties this to the text: in the line of the scenario stands
one of the keywords of its form, with a colon behind it and then its name, behind that the steps can
be read, and it has no examples exactly if none can be read behind the steps.

Whatever the grammar reads goes on in the text (`advances_scenario` and the lemmas before it), so a
scenario was read at a place of the text, whatever stands in front of it.  `hasHeading_of_heading`
says what has been read at such a place, and `IsWritten.of_reaches` takes it back to the start.
-/

namespace ServiceHealth.Feature

open Reader

namespace Grammar

variable {keywords : Keywords}

/-! ## Every rule goes on -/

theorem advances_blanks : Advances blanks :=
  (advances_run _).bind fun _ => advances_pure _

theorem advances_blank : Advances blank :=
  (advances_exactly _).orElse (advances_exactly _)

theorem advances_lineEnd : Advances lineEnd :=
  (advances_exactly _).orElse (advances_exactly _)

theorem prefix_upToLineEnd (cs : List Char) : upToLineEnd cs <+: cs := by
  induction cs using upToLineEnd.induct with
  | case1 => exact List.prefix_refl _
  | case2 => exact List.nil_prefix
  | case3 => exact List.nil_prefix
  | case4 c cs hend hend' ih =>
      rw [upToLineEnd]
      · exact (List.prefix_cons_inj c).mpr ih
      · exact hend
      · exact hend'

theorem advances_restOfLine : Advances restOfLine := by
  intro start read stop h
  injection h with _ hstop
  rw [← hstop]
  exact Cursor.reaches_after (prefix_upToLineEnd _)

theorem advances_someOfLine : Advances someOfLine := by
  refine advances_restOfLine.bind fun read => ?_
  split
  · exact advances_refuse
  · exact advances_pure read

theorem advances_signed : Advances signed :=
  (advances_exactly _).bind fun _ => advances_restOfLine.bind fun _ => advances_pure _

theorem advances_remark : Advances remark :=
  advances_blanks.bind fun _ => advances_signed

theorem advances_endOfLine : Advances endOfLine :=
  (advances_remark.bind fun _ => advances_lineEnd).orElse advances_lineEnd

theorem advances_gap : Advances gap :=
  (advances_blanks.bind fun _ => advances_endOfLine).many.bind fun _ => advances_blanks

theorem advances_gapOrFinish : Advances gapOrFinish :=
  ((advances_endOfLine.orElse advances_blank).bind fun _ => advances_gap).orElse advances_finish

theorem advances_ends : Advances ends :=
  advances_endOfLine.many.bind fun _ => advances_pure _

theorem advances_comments : Advances comments :=
  (advances_remark.bind fun _ => advances_gapOrFinish).many.bind fun _ => advances_pure _

theorem advances_keywordOf (words : List String) : Advances (keywordOf words) := by
  induction words with
  | nil => exact advances_refuse
  | cons word words ih =>
      exact ((advances_exactly word).bind fun _ => advances_pure _).orElse ih

theorem advances_keyword (words : List String) : Advances (keyword words) :=
  advances_comments.bind fun _ => advances_lineNumber.bind fun _ =>
    (advances_keywordOf words).bind fun _ => advances_pure _

theorem advances_tag : Advances tag :=
  (advances_exactly _).bind fun _ => (advances_run1 _).bind fun _ => advances_pure _

theorem advances_tags : Advances tags :=
  (advances_tag.separated advances_gap).bind fun _ => advances_blanks.bind fun _ => advances_ends

theorem advances_descriptionLine (stops : List String) : Advances (descriptionLine stops) :=
  advances_blanks.bind fun _ => (advances_absent _).bind fun _ => (advances_absent _).bind fun _ =>
    advances_blanks.bind fun _ => advances_someOfLine.bind fun _ => advances_gapOrFinish

theorem advances_description (stops : List String) : Advances (description stops) :=
  ((advances_descriptionLine stops).separated advances_blanks).bind fun _ => advances_gap

theorem advances_heading (words : List String) : Advances (heading words) :=
  (advances_keyword words).bind fun _ => (advances_exactly _).bind fun _ =>
    advances_blanks.bind fun _ => advances_someOfLine.optional.bind fun _ =>
      advances_blanks.bind fun _ => advances_gapOrFinish.bind fun _ => advances_pure _

theorem advances_quoted (mark : String) : Advances (quoted mark) := by
  have hchar : Advances (quotedChar mark) :=
    (advances_absent _).bind fun _ =>
      (advances_signed.bind fun _ => advances_lineEnd).orElse
        (advances_anyChar.bind fun _ => advances_pure _)
  exact (advances_exactly mark).bind fun _ => hchar.many.bind fun _ =>
    (advances_exactly mark).bind fun _ => advances_gapOrFinish

theorem advances_docString : Advances docString :=
  (advances_quoted _).orElse (advances_quoted _)

theorem advances_cell : Advances cell := by
  refine (advances_exactly _).bind fun _ => advances_blanks.bind fun _ =>
    (advances_absent _).bind fun _ => ?_
  intro start value stop h
  injection h with _ hstop
  rw [← hstop]
  exact Cursor.reaches_after ((List.takeWhile_prefix _).trans (prefix_upToLineEnd _))

theorem advances_row : Advances row :=
  (advances_cell.separated advances_blanks).bind fun _ => advances_blanks.bind fun _ =>
    (advances_exactly _).bind fun _ => advances_blanks.bind fun _ =>
      advances_gapOrFinish.bind fun _ => advances_pure _

theorem advances_table : Advances table := by
  refine (advances_row.separated1 advances_blanks).bind fun rows => ?_
  split
  · exact advances_pure ()
  · exact advances_abort

theorem advances_stepOf (kind : Step.Kind) (words : List String) : Advances (stepOf kind words) :=
  (advances_keyword words).bind fun _ => advances_blanks.bind fun _ =>
    advances_someOfLine.bind fun _ => advances_blanks.bind fun _ =>
      advances_gapOrFinish.bind fun _ => advances_blanks.bind fun _ =>
        advances_docString.optional.bind fun _ => advances_table.optional.bind fun _ =>
          advances_pure _

theorem advances_stepLike (previous : Option Step.Kind) (words : List String) :
    Advances (stepLike previous words) := by
  cases previous with
  | none => exact advances_refuse
  | some kind => exact advances_stepOf kind words

theorem advances_step (keywords : Keywords) (previous : Option Step.Kind) :
    Advances (step keywords previous) :=
  (advances_stepOf _ _).orElse ((advances_stepOf _ _).orElse ((advances_stepOf _ _).orElse
    ((advances_stepLike _ _).orElse (advances_stepLike _ _))))

theorem advances_stepsAfter (keywords : Keywords) (limit : List Char)
    (previous : Option Step.Kind) : Advances (stepsAfter keywords limit previous) := by
  induction limit generalizing previous with
  | nil => exact advances_pure _
  | cons c limit ih =>
      exact (advances_blanks.bind fun _ => (advances_step keywords previous).bind fun step =>
        (ih (some step.kind)).bind fun _ => advances_pure _).orElse (advances_pure _)

theorem advances_steps (keywords : Keywords) : Advances (steps keywords) :=
  fun start _ _ h => advances_stepsAfter keywords ('\n' :: start.rest) none h

theorem advances_background (keywords : Keywords) : Advances (background keywords) :=
  advances_comments.bind fun _ => advances_blanks.bind fun _ =>
    (advances_heading _).bind fun _ => (advances_description _).bind fun _ =>
      advances_steps keywords

theorem advances_examples (keywords : Keywords) : Advances (examples keywords) :=
  advances_comments.bind fun _ => advances_blanks.bind fun _ => advances_tags.bind fun _ =>
    advances_blanks.bind fun _ => (advances_heading _).bind fun _ =>
      (advances_description _).bind fun _ => advances_table.optional.bind fun _ => advances_pure _

theorem advances_scenarioOf (form : Document.Form) (own : List String) (keywords : Keywords) :
    Advances (scenarioOf form own keywords) :=
  advances_comments.bind fun _ => advances_blanks.bind fun _ => advances_tags.bind fun _ =>
    advances_blanks.bind fun _ => (advances_heading own).bind fun _ =>
      (advances_description _).bind fun _ => (advances_steps keywords).bind fun _ =>
        (advances_examples keywords).many.bind fun _ => advances_pure _

theorem advances_scenario (keywords : Keywords) : Advances (scenario keywords) :=
  (advances_scenarioOf _ _ keywords).orElse (advances_scenarioOf _ _ keywords)

theorem advances_scenarios (keywords : Keywords) : Advances (scenarios keywords) :=
  advances_blanks.bind fun _ => (advances_scenario keywords).separated advances_blanks

theorem advances_rule (keywords : Keywords) : Advances (rule keywords) :=
  advances_blanks.bind fun _ => advances_tags.bind fun _ => advances_blanks.bind fun _ =>
    (advances_heading _).bind fun _ => (advances_description _).bind fun _ =>
      (advances_background keywords).optional.bind fun _ => advances_ends.bind fun _ =>
        (advances_scenarios keywords).bind fun _ => advances_ends.bind fun _ => advances_pure _

/-! ## What a heading says -/

/-- A heading stands in the rest of a text: in the line of this number one of the words, with a
colon behind it and then the title, up to the end of the line and without the blanks around it. -/
def HasHeading (words : List String) (start : Cursor) (title : String) (number : Nat) : Prop :=
  ∃ word ∈ words, ∃ before after, start.rest = before ++ (word.toList ++ ':' :: after) ∧
    number = start.line + before.count '\n' ∧
    title = trimmedEnd (upToLineEnd (after.dropWhile isWithinLine))

variable {words : List String} {start middle stop : Cursor} {title : String} {number : Nat}

/-- What stands behind a place stands behind the places before it. -/
theorem HasHeading.of_reaches (h : HasHeading words middle title number)
    (hreaches : start.Reaches middle) : HasHeading words start title number := by
  obtain ⟨read, hrest, hline⟩ := hreaches
  obtain ⟨word, hword, before, after, hmiddle, hnumber, htitle⟩ := h
  refine ⟨word, hword, read ++ before, after, ?_, ?_, htitle⟩
  · rw [hrest, hmiddle, List.append_assoc]
  · rw [hnumber, hline, List.count_append, Nat.add_assoc]

theorem keywordOf_eq_matched {word : String} (h : keywordOf words start = .matched word stop) :
    word ∈ words ∧ start.rest = word.toList ++ stop.rest := by
  induction words with
  | nil => cases h
  | cons first words ih =>
      rcases orElse_eq_matched_iff.mp h with h | ⟨-, h⟩
      · obtain ⟨_, middle, hexactly, h⟩ := bind_eq_matched_iff.mp h
        obtain ⟨rfl, rfl⟩ := pure_eq_matched_iff.mp h
        exact ⟨List.mem_cons_self, (exactly_eq_matched hexactly).1⟩
      · obtain ⟨hmem, hrest⟩ := ih h
        exact ⟨List.mem_cons_of_mem _ hmem, hrest⟩

theorem rest_of_blanks {value : Unit} (h : blanks start = .matched value stop) :
    stop.rest = start.rest.dropWhile isWithinLine := by
  obtain ⟨read, middle, hrun, h⟩ := bind_eq_matched_iff.mp h
  obtain ⟨-, rfl⟩ := pure_eq_matched_iff.mp h
  injection hrun with _ hmiddle
  have hsplit := List.takeWhile_append_dropWhile (p := isWithinLine) (l := start.rest)
  calc middle.rest
      = start.rest.drop (start.rest.takeWhile isWithinLine).length := by rw [← hmiddle]; rfl
    _ = (start.rest.takeWhile isWithinLine ++ start.rest.dropWhile isWithinLine).drop
          (start.rest.takeWhile isWithinLine).length := by rw [hsplit]
    _ = start.rest.dropWhile isWithinLine := List.drop_left

/-- The rest of the line is read, and nothing is missing if it is empty. -/
theorem getD_of_someOfLine {read : Option (List Char)}
    (h : someOfLine.optional start = .matched read stop) :
    read.getD [] = upToLineEnd start.rest := by
  have hline : someOfLine start =
      if (upToLineEnd start.rest).isEmpty then .noMatch
      else .matched (upToLineEnd start.rest) (start.after (upToLineEnd start.rest)) := by
    change (if (upToLineEnd start.rest).isEmpty then Reader.refuse
      else pure (upToLineEnd start.rest) : Reader (List Char)) _ = _
    split
    · rfl
    · rfl
  rcases optional_eq_matched_iff.mp h with ⟨found, hfound, rfl⟩ | ⟨hnone, rfl, -⟩
  · rw [hline] at hfound
    split at hfound
    · cases hfound
    · injection hfound with heq
      exact heq.symm
  · rw [hline] at hnone
    split at hnone
    · rename_i hempty
      exact (List.isEmpty_iff.mp hempty).symm
    · cases hnone

theorem hasHeading_of_heading (h : heading words start = .matched (title, number) stop) :
    HasHeading words start title number := by
  obtain ⟨⟨word, line⟩, afterKeyword, hkeyword, h⟩ := bind_eq_matched_iff.mp h
  obtain ⟨_, afterColon, hcolon, h⟩ := bind_eq_matched_iff.mp h
  obtain ⟨_, afterBlanks, hblanks, h⟩ := bind_eq_matched_iff.mp h
  obtain ⟨read, afterTitle, htitle, h⟩ := bind_eq_matched_iff.mp h
  obtain ⟨_, _, -, h⟩ := bind_eq_matched_iff.mp h
  obtain ⟨_, _, -, h⟩ := bind_eq_matched_iff.mp h
  obtain ⟨heq, -⟩ := pure_eq_matched_iff.mp h
  obtain ⟨rfl, rfl⟩ := Prod.mk.inj heq
  -- the keyword stands behind comments, and its line is counted there
  obtain ⟨_, place, hcomments, hkeyword⟩ := bind_eq_matched_iff.mp hkeyword
  obtain ⟨other, place', hline, hkeyword⟩ := bind_eq_matched_iff.mp hkeyword
  obtain ⟨other', afterWord, hword, hkeyword⟩ := bind_eq_matched_iff.mp hkeyword
  obtain ⟨heq, rfl⟩ := pure_eq_matched_iff.mp hkeyword
  obtain ⟨rfl, rfl⟩ := Prod.mk.inj heq
  obtain ⟨rfl, rfl⟩ := Reply.matched.inj hline
  obtain ⟨hmem, hrest⟩ := keywordOf_eq_matched hword
  have hhere : HasHeading words place (trimmedEnd (read.getD [])) place.line := by
    refine ⟨other', hmem, [], afterColon.rest, ?_, rfl, ?_⟩
    · rw [hrest, (exactly_eq_matched hcolon).1]
      rfl
    · rw [getD_of_someOfLine htitle, rest_of_blanks hblanks]
  exact hhere.of_reaches (advances_comments hcomments)

theorem exists_heading_of_examples {value : Unit}
    (h : examples keywords start = .matched value stop) :
    ∃ title number, HasHeading keywords.examples start title number := by
  obtain ⟨_, first, hcomments, h⟩ := bind_eq_matched_iff.mp h
  obtain ⟨_, second, hblanks, h⟩ := bind_eq_matched_iff.mp h
  obtain ⟨_, third, htags, h⟩ := bind_eq_matched_iff.mp h
  obtain ⟨_, fourth, hblanks', h⟩ := bind_eq_matched_iff.mp h
  obtain ⟨⟨title, number⟩, fifth, hheading, -⟩ := bind_eq_matched_iff.mp h
  have hreaches : start.Reaches fourth :=
    (advances_comments hcomments).trans ((advances_blanks hblanks).trans
      ((advances_tags htags).trans (advances_blanks hblanks')))
  exact ⟨title, number, (hasHeading_of_heading hheading).of_reaches hreaches⟩

/-! ## Scenarios -/

/-- The words with which a scenario of a form is written. -/
def formWords (keywords : Keywords) : Document.Form → List String
  | .example_ => keywords.example_
  | .outline => keywords.outline

/-- A scenario is written in the rest of a text: its name stands in its line, behind one of the
words of its form, and it has no examples exactly if none can be read behind its steps. -/
structure IsWritten (keywords : Keywords) (start : Cursor) (scenario : Document.Scenario) :
    Prop where
  heading : HasHeading (formWords keywords scenario.form) start scenario.name scenario.number
  behind : ∃ first last, start.Reaches first ∧
    Grammar.steps keywords first = .matched scenario.steps last ∧
    (scenario.examples = 0 ↔ Grammar.examples keywords last = .noMatch)
  examples : scenario.examples ≠ 0 → ∃ title number, HasHeading keywords.examples start title number

theorem IsWritten.of_reaches {scenario : Document.Scenario} (h : IsWritten keywords middle scenario)
    (hreaches : start.Reaches middle) : IsWritten keywords start scenario where
  heading := h.heading.of_reaches hreaches
  behind := by
    obtain ⟨first, last, hfirst, hbehind⟩ := h.behind
    exact ⟨first, last, hreaches.trans hfirst, hbehind⟩
  examples := by
    intro hexamples
    obtain ⟨title, number, hheading⟩ := h.examples hexamples
    exact ⟨title, number, hheading.of_reaches hreaches⟩

theorem isWritten_of_scenarioOf {form : Document.Form} {scenario : Document.Scenario}
    (h : scenarioOf form (formWords keywords form) keywords start = .matched scenario stop) :
    IsWritten keywords start scenario := by
  obtain ⟨_, first, hcomments, h⟩ := bind_eq_matched_iff.mp h
  obtain ⟨_, second, hblanks, h⟩ := bind_eq_matched_iff.mp h
  obtain ⟨_, third, htags, h⟩ := bind_eq_matched_iff.mp h
  obtain ⟨_, fourth, hblanks', h⟩ := bind_eq_matched_iff.mp h
  obtain ⟨⟨name, number⟩, fifth, hheading, h⟩ := bind_eq_matched_iff.mp h
  obtain ⟨_, sixth, hdescription, h⟩ := bind_eq_matched_iff.mp h
  obtain ⟨steps, seventh, hsteps, h⟩ := bind_eq_matched_iff.mp h
  obtain ⟨lists, last, hlists, h⟩ := bind_eq_matched_iff.mp h
  obtain ⟨rfl, -⟩ := pure_eq_matched_iff.mp h
  have hfront : start.Reaches fourth :=
    (advances_comments hcomments).trans ((advances_blanks hblanks).trans
      ((advances_tags htags).trans (advances_blanks hblanks')))
  have hbody : start.Reaches sixth :=
    hfront.trans ((advances_heading _ hheading).trans (advances_description _ hdescription))
  refine ⟨(hasHeading_of_heading hheading).of_reaches hfront, ?_, ?_⟩
  · refine ⟨sixth, seventh, hbody, hsteps, ?_⟩
    rw [← eq_nil_iff_of_many hlists]
    exact List.length_eq_zero_iff
  · intro hexamples
    obtain ⟨value, hvalue⟩ := List.exists_mem_of_length_pos (Nat.pos_of_ne_zero hexamples)
    obtain ⟨place, after, hplace, hread⟩ :=
      exists_of_mem_many (advances_examples keywords) hlists hvalue
    obtain ⟨title, line, hlist⟩ := exists_heading_of_examples hread
    have hreaches : start.Reaches place :=
      hbody.trans ((advances_steps keywords hsteps).trans hplace)
    exact ⟨title, line, hlist.of_reaches hreaches⟩

theorem isWritten_of_scenario {scenario : Document.Scenario}
    (h : Grammar.scenario keywords start = .matched scenario stop) :
    IsWritten keywords start scenario := by
  rcases orElse_eq_matched_iff.mp h with h | ⟨-, h⟩
  · exact isWritten_of_scenarioOf h
  · exact isWritten_of_scenarioOf h

theorem isWritten_of_mem_scenarios {found : List Document.Scenario}
    (h : scenarios keywords start = .matched found stop) {scenario : Document.Scenario}
    (hmem : scenario ∈ found) : IsWritten keywords start scenario := by
  obtain ⟨_, middle, hblanks, h⟩ := bind_eq_matched_iff.mp h
  obtain ⟨place, after, hplace, hread⟩ :=
    exists_of_mem_separated (advances_scenario keywords) advances_blanks h hmem
  exact (isWritten_of_scenario hread).of_reaches ((advances_blanks hblanks).trans hplace)

theorem isWritten_of_mem_rule {rule : Document.Rule}
    (h : Grammar.rule keywords start = .matched rule stop) {scenario : Document.Scenario}
    (hmem : scenario ∈ rule.scenarios) : IsWritten keywords start scenario := by
  obtain ⟨_, first, hblanks, h⟩ := bind_eq_matched_iff.mp h
  obtain ⟨_, second, htags, h⟩ := bind_eq_matched_iff.mp h
  obtain ⟨_, third, hblanks', h⟩ := bind_eq_matched_iff.mp h
  obtain ⟨⟨name, number⟩, fourth, hheading, h⟩ := bind_eq_matched_iff.mp h
  obtain ⟨_, fifth, hdescription, h⟩ := bind_eq_matched_iff.mp h
  obtain ⟨steps, sixth, hbackground, h⟩ := bind_eq_matched_iff.mp h
  obtain ⟨_, seventh, hends, h⟩ := bind_eq_matched_iff.mp h
  obtain ⟨found, eighth, hscenarios, h⟩ := bind_eq_matched_iff.mp h
  obtain ⟨_, last, -, h⟩ := bind_eq_matched_iff.mp h
  obtain ⟨rfl, rfl⟩ := pure_eq_matched_iff.mp h
  have hfront : start.Reaches fifth :=
    (advances_blanks hblanks).trans ((advances_tags htags).trans ((advances_blanks hblanks').trans
      ((advances_heading _ hheading).trans (advances_description _ hdescription))))
  have hreaches : start.Reaches seventh :=
    hfront.trans (((advances_background keywords).optional hbackground).trans (advances_ends hends))
  exact (isWritten_of_mem_scenarios hscenarios hmem).of_reaches hreaches

theorem isWritten_of_mem_rules {found : List Document.Rule}
    (h : rules keywords start = .matched found stop) {rule : Document.Rule} (hrule : rule ∈ found)
    {scenario : Document.Scenario} (hmem : scenario ∈ rule.scenarios) :
    IsWritten keywords start scenario := by
  obtain ⟨_, middle, hblanks, h⟩ := bind_eq_matched_iff.mp h
  obtain ⟨place, after, hplace, hread⟩ :=
    exists_of_mem_separated (advances_rule keywords) advances_blanks h hrule
  exact (isWritten_of_mem_rule hread hmem).of_reaches ((advances_blanks hblanks).trans hplace)

/-! ## Documents -/

theorem advances_language : Advances language := by
  refine (advances_lineEnd.orElse advances_blank).many.bind fun _ =>
    (advances_exactly _).bind fun _ => advances_blanks.bind fun _ =>
      (advances_exactly _).bind fun _ => advances_blanks.bind fun _ =>
        (advances_exactly _).bind fun _ => advances_blanks.bind fun _ =>
          advances_someOfLine.bind fun name => advances_blanks.bind fun _ =>
            advances_endOfLine.bind fun _ => ?_
  split
  · exact advances_pure _
  · exact advances_abort

/-- A comment that names a language names one that is known. -/
theorem exists_named?_of_language {found : Keywords}
    (h : language start = .matched found stop) : ∃ name, Keywords.named? name = some found := by
  iterate 7 obtain ⟨_, _, -, h⟩ := bind_eq_matched_iff.mp h
  obtain ⟨name, _, -, h⟩ := bind_eq_matched_iff.mp h
  iterate 2 obtain ⟨_, _, -, h⟩ := bind_eq_matched_iff.mp h
  cases hnamed : Keywords.named? (String.ofList name) with
  | none =>
      simp only [hnamed] at h
      cases h
  | some keywords =>
      simp only [hnamed] at h
      obtain ⟨rfl, -⟩ := pure_eq_matched_iff.mp h
      exact ⟨_, hnamed⟩

/-- Every scenario of a document is written where the document was read, in one language. -/
theorem isWritten_of_document {document : Document}
    (h : Grammar.document start = .matched document stop) :
    ∃ language keywords, Keywords.named? language = some keywords ∧
      ∀ place ∈ document.places, IsWritten keywords start place.scenario := by
  obtain ⟨_, first, hblanks, h⟩ := bind_eq_matched_iff.mp h
  obtain ⟨named, second, hlanguage, h⟩ := bind_eq_matched_iff.mp h
  obtain ⟨_, third, hends, h⟩ := bind_eq_matched_iff.mp h
  obtain ⟨_, fourth, htags, h⟩ := bind_eq_matched_iff.mp h
  obtain ⟨⟨name, number⟩, fifth, hheading, h⟩ := bind_eq_matched_iff.mp h
  obtain ⟨_, sixth, hdescription, h⟩ := bind_eq_matched_iff.mp h
  obtain ⟨steps, seventh, hbackground, h⟩ := bind_eq_matched_iff.mp h
  obtain ⟨_, eighth, hends', h⟩ := bind_eq_matched_iff.mp h
  obtain ⟨scenarios, ninth, hscenarios, h⟩ := bind_eq_matched_iff.mp h
  obtain ⟨_, tenth, hends'', h⟩ := bind_eq_matched_iff.mp h
  obtain ⟨rules, eleventh, hrules, h⟩ := bind_eq_matched_iff.mp h
  obtain ⟨_, _, -, h⟩ := bind_eq_matched_iff.mp h
  obtain ⟨_, _, -, h⟩ := bind_eq_matched_iff.mp h
  obtain ⟨rfl, -⟩ := pure_eq_matched_iff.mp h
  have hknown : ∃ language, Keywords.named? language = some (named.getD Keywords.english) := by
    rcases optional_eq_matched_iff.mp hlanguage with ⟨found, hfound, rfl⟩ | ⟨-, rfl, -⟩
    · exact exists_named?_of_language hfound
    · exact ⟨"en", rfl⟩
  obtain ⟨language, hnamed⟩ := hknown
  have hfront : start.Reaches fourth :=
    (advances_blanks hblanks).trans ((advances_language.optional hlanguage).trans
      ((advances_ends hends).trans (advances_tags htags)))
  have hbody : start.Reaches eighth :=
    hfront.trans ((advances_heading _ hheading).trans ((advances_description _ hdescription).trans
      (((advances_background _).optional hbackground).trans (advances_ends hends'))))
  have hrest : start.Reaches tenth :=
    hbody.trans ((advances_scenarios _ hscenarios).trans (advances_ends hends''))
  refine ⟨language, named.getD Keywords.english, hnamed, ?_⟩
  intro place hplace
  rcases List.mem_append.mp hplace with hown | hruled
  · obtain ⟨scenario, hscenario, rfl⟩ := List.mem_map.mp hown
    exact (isWritten_of_mem_scenarios hscenarios hscenario).of_reaches hbody
  · obtain ⟨rule, hrule, hinner⟩ := List.mem_flatMap.mp hruled
    obtain ⟨scenario, hscenario, rfl⟩ := List.mem_map.mp hinner
    exact (isWritten_of_mem_rules hrules hrule hscenario).of_reaches hrest

end Grammar

/-- The text with a line end at its end. -/
def lineEnded (text : String) : List Char :=
  if text.toList.getLast? = some '\n' then text.toList else text.toList ++ ['\n']

/-- The scenarios of a text that follows the grammar are written in it, with the words of one
language. -/
theorem isWritten_of_read? {text : String} {document : Document}
    (h : Document.read? text = some document) :
    ∃ language keywords, Keywords.named? language = some keywords ∧
      ∀ place ∈ document.places,
        Grammar.IsWritten keywords (Cursor.start (lineEnded text)) place.scenario := by
  unfold Document.read? at h
  dsimp only at h
  rw [← lineEnded] at h
  cases hread : Grammar.document (Cursor.start (lineEnded text)) with
  | matched found stop =>
      rw [hread] at h
      obtain rfl := Option.some.inj h
      exact Grammar.isWritten_of_document hread
  | noMatch | invalid =>
      rw [hread] at h
      cases h

/-- A text that follows the grammar gives the feature of its document. -/
theorem parse_eq_ok_iff {text origin : String} {feature : Feature} :
    parse text origin = .ok feature ↔
      ∃ document, Document.read? text = some document ∧ document.toFeature none = feature := by
  unfold parse
  cases Document.read? text with
  | none => simp
  | some document => simp

end ServiceHealth.Feature
