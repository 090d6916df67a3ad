import ServiceHealth.Proofs.Step.Readings
import ServiceHealth.Proofs.Step.Resolution
import ServiceHealth.Proofs.Text.Trimming

/-!
# What a line resolves to

What a line resolves to depends on its keyword and its text without the blanks around
them and on the definitions of its kind that the text matches, in the order in which
they were registered.  `Resolution` says how: if there are none the line is undefined,
if there are several it is ambiguous, whatever its arguments are, and if there is one
the pieces of the longest division decide between the definition with its arguments and
the first integer that cannot be read.  `resolve_eq_iff_resolution` states that a line of
any registry resolves in this way and in no other.
-/

namespace ServiceHealth.Step

/-! ## Definitions that a text matches -/

/-- The definition is of this kind and its pattern divides the text. -/
def Definition.Matches (definition : Definition) (kind : Kind) (text : String) : Prop :=
  definition.kind = kind ∧ ∃ pieces, definition.pattern.Divides pieces text.toList

theorem Definition.applies_iff {definition : Definition} {kind : Kind} {text : String} :
    definition.applies kind text = true ↔ definition.Matches kind text := by
  rw [applies, Bool.and_eq_true, beq_iff_eq, Pattern.accepts_iff, Matches]

instance (definition : Definition) (kind : Kind) (text : String) :
    Decidable (definition.Matches kind text) :=
  decidable_of_iff _ Definition.applies_iff

/-- The definitions that a text of this kind matches, in the order of the registry. -/
def Registry.matching (registry : Registry) (kind : Kind) (text : String) : List Definition :=
  registry.definitions.filter fun definition => definition.Matches kind text

theorem candidates_eq_matching (registry : Registry) (kind : Kind) (text : String) :
    registry.candidates kind text = registry.matching kind text := by
  apply List.filter_congr
  intro definition _
  rw [Bool.eq_iff_iff, Definition.applies_iff, decide_eq_true_iff]

theorem exists_match?_of_mem_matching {registry : Registry} {kind : Kind} {text : String}
    {definition : Definition} (h : definition ∈ registry.matching kind text) :
    ∃ pieces, definition.pattern.match? text = some pieces := by
  have hmatches : definition.Matches kind text := by simpa using (List.mem_filter.mp h).2
  exact Option.isSome_iff_exists.mp (Pattern.accepts_iff.mpr hmatches.2)

/-! ## Resolutions -/

/-- The pieces of a division in which earlier placeholders take as much as possible. -/
def LongestDivision (pattern : Pattern) (pieces : List (List Char)) (text : String) : Prop :=
  pattern.Divides pieces text.toList ∧
    ∀ others, pattern.Divides others text.toList → others = pieces ∨ Pattern.Outlasts pieces others

/-- What a line resolves to that matches these definitions. -/
inductive Resolution (matching : List Definition) (keyword text : String) :
    Except Error Bound → Prop
  | undefined (nothing : matching = []) :
      Resolution matching keyword text (.error (.undefinedStep keyword text))
  | ambiguous (several : 2 ≤ matching.length) :
      Resolution matching keyword text
        (.error (.ambiguousStep text (matching.map fun definition => definition.pattern.source)))
  | bound {definition : Definition} {pieces : List (List Char)} {arguments : Arguments}
      (only : matching = [definition]) (longest : LongestDivision definition.pattern pieces text)
      (given : List.Forall₂ Argument.IsGivenBy (definition.pattern.slots.zip pieces) arguments) :
      Resolution matching keyword text (.ok ⟨definition, arguments⟩)
  | unreadable {definition : Definition} {pieces : List (List Char)} {piece : List Char}
      (only : matching = [definition]) (longest : LongestDivision definition.pattern pieces text)
      (first : Argument.IsFirstUnreadable (definition.pattern.slots.zip pieces) piece) :
      Resolution matching keyword text (.error (.stepArgument (.notInteger (String.ofList piece))))

section Trimmed

variable {registry : Registry} {kind : Kind} {keyword text : String}

/-- With a single definition the arguments decide. -/
theorem resolve_of_only {definition : Definition} {pieces : List (List Char)}
    (honly : registry.matching kind (Text.trim text) = [definition])
    (hpieces : definition.pattern.match? (Text.trim text) = some pieces) :
    registry.resolve kind keyword text =
      (Argument.ofPieces definition.pattern.slots pieces).map fun arguments =>
        ⟨definition, arguments⟩ := by
  rw [Registry.resolve, candidates_eq_matching, honly]
  simp only [hpieces, Option.getD_some]
  rfl

theorem resolution_resolve :
    Resolution (registry.matching kind (Text.trim text)) (Text.trim keyword) (Text.trim text)
      (registry.resolve kind keyword text) := by
  rcases hmatching : registry.matching kind (Text.trim text) with
    _ | ⟨definition, _ | ⟨second, others⟩⟩
  · rw [Registry.resolve, candidates_eq_matching, hmatching]
    exact .undefined rfl
  · obtain ⟨pieces, hpieces⟩ :=
      exists_match?_of_mem_matching (by rw [hmatching]; exact List.mem_cons_self)
    have hlongest : LongestDivision definition.pattern pieces (Text.trim text) :=
      Pattern.match?_eq_some_iff.mp hpieces
    rw [resolve_of_only hmatching hpieces]
    cases harguments : Argument.ofPieces definition.pattern.slots pieces with
    | ok arguments => exact .bound rfl hlongest (Argument.ofPieces_eq_ok_iff.mp harguments)
    | error error =>
        obtain ⟨piece, hfirst, rfl⟩ := Argument.ofPieces_eq_error_iff.mp harguments
        exact .unreadable rfl hlongest hfirst
  · rw [Registry.resolve, candidates_eq_matching, hmatching]
    exact .ambiguous (by simp)

theorem resolve_of_resolution {result : Except Error Bound}
    (h : Resolution (registry.matching kind (Text.trim text)) (Text.trim keyword)
      (Text.trim text) result) :
    registry.resolve kind keyword text = result := by
  generalize hmatching : registry.matching kind (Text.trim text) = matching at h
  cases h with
  | undefined hnothing =>
      rw [Registry.resolve, candidates_eq_matching, hmatching, hnothing]
      rfl
  | ambiguous hseveral =>
      rcases matching with _ | ⟨first, _ | ⟨second, others⟩⟩
      · simp at hseveral
      · simp at hseveral
      · rw [Registry.resolve, candidates_eq_matching, hmatching]
  | bound honly hlongest hgiven =>
      rw [resolve_of_only (hmatching.trans honly) (Pattern.match?_eq_some_iff.mpr hlongest),
        Argument.ofPieces_eq_ok_iff.mpr hgiven]
      rfl
  | unreadable honly hlongest hfirst =>
      rw [resolve_of_only (hmatching.trans honly) (Pattern.match?_eq_some_iff.mpr hlongest),
        Argument.ofPieces_eq_error_iff.mpr ⟨_, hfirst, rfl⟩]
      rfl

end Trimmed

theorem trim_eq_of_isCore {text core : String} (h : Text.IsCore text.toList core.toList) :
    Text.trim text = core := by
  rw [Text.trim, ← h.eq_trimChars, String.ofList_toList]

/-- Without the blanks around its keyword and its text, a line resolves as the definitions say
that the text matches, with an argument for every placeholder of the definition that it is bound
to.  Nothing else has an influence: a line with the same text between its blanks resolves in the
same way in every registry with the same definitions for this text. -/
theorem resolve_eq_iff_resolution (registry : Registry) (kind : Kind)
    {keyword text keywordCore textCore : String}
    (hkeyword : Text.IsCore keyword.toList keywordCore.toList)
    (htext : Text.IsCore text.toList textCore.toList) :
    (∀ result, registry.resolve kind keyword text = result ↔
      Resolution (registry.matching kind textCore) keywordCore textCore result) ∧
    (∀ bound, registry.resolve kind keyword text = .ok bound →
      List.Forall₂ Argument.Fits bound.definition.pattern.slots bound.arguments) ∧
    ∀ (other : Registry) (line : String), Text.IsCore line.toList textCore.toList →
      other.matching kind textCore = registry.matching kind textCore →
      other.resolve kind keyword line = registry.resolve kind keyword text := by
  obtain rfl := trim_eq_of_isCore hkeyword
  obtain rfl := trim_eq_of_isCore htext
  refine ⟨?_, fun bound hbound => fits_of_resolve hbound, ?_⟩
  · intro result
    constructor
    · rintro rfl
      exact resolution_resolve
    · exact resolve_of_resolution
  · intro other line hline hsame
    apply resolve_of_resolution
    rw [trim_eq_of_isCore hline, hsame]
    exact resolution_resolve

/-- A number that is too large is no reason to prefer the definition that spells it out: the line
matches two definitions of its kind, and so it is ambiguous. -/
theorem resolve_eq_iff_resolution_of_two_definitions :
    let counted : Definition := ⟨.event, ⟨"I send \x7bint\x7d requests", "I send ".toList,
      [(.integer, " requests".toList)]⟩, .check fun _ _ => .ok ()⟩
    let spelt : Definition := ⟨.event, ⟨"I send 99999999999999999999 requests",
      "I send 99999999999999999999 requests".toList, []⟩, .check fun _ _ => .ok ()⟩
    let registry : Registry := ⟨[counted, ⟨.expectation, counted.pattern, counted.handler⟩, spelt]⟩
    Text.IsCore "When ".toList "When".toList ∧
      Text.IsCore "\u2003I send 99999999999999999999 requests\n".toList
        "I send 99999999999999999999 requests".toList ∧
      Resolution (registry.matching .event "I send 99999999999999999999 requests") "When"
        "I send 99999999999999999999 requests"
        (.error (.ambiguousStep "I send 99999999999999999999 requests"
          ["I send \x7bint\x7d requests", "I send 99999999999999999999 requests"])) := by
  intro counted spelt registry
  have hkeyword : Text.IsCore "When ".toList "When".toList := Text.isCore_iff.mpr (by decide)
  have htext : Text.IsCore "\u2003I send 99999999999999999999 requests\n".toList
      "I send 99999999999999999999 requests".toList := Text.isCore_iff.mpr (by decide +kernel)
  exact ⟨hkeyword, htext,
    ((resolve_eq_iff_resolution registry .event hkeyword htext).1 _).mp (by rfl)⟩

end ServiceHealth.Step
