import ServiceHealth.Proofs.Pattern.Separation
import ServiceHealth.Proofs.Step.Resolution

/-!
# No line of the standard registry is ambiguous

A registry is separated if any two of its definitions of one kind have patterns that
are apart.  In a separated registry a text has at most one candidate, so no line is
ambiguous.  Whether a registry is separated can be computed; `standard_isSeparated`
does so for the standard one, about patterns alone, and `standard_resolve_unambiguous`
says what follows for every line.
-/

namespace ServiceHealth.Step

open Pattern (areApart)

/-- The patterns of any two definitions of one kind are apart. -/
def Registry.IsSeparated (registry : Registry) : Prop :=
  registry.definitions.Pairwise fun first second =>
    first.kind = second.kind → areApart first.pattern.tokens second.pattern.tokens = true

instance (registry : Registry) : Decidable registry.IsSeparated :=
  inferInstanceAs (Decidable (List.Pairwise _ _))

theorem candidates_length_le_one {registry : Registry} (h : registry.IsSeparated) (kind : Kind)
    (text : String) : (registry.candidates kind text).length ≤ 1 := by
  have happlies : ∀ definition ∈ registry.candidates kind text,
      definition.kind = kind ∧ definition.pattern.accepts text = true := by
    intro definition hmem
    have happly := (List.mem_filter.mp hmem).2
    rw [Definition.applies, Bool.and_eq_true] at happly
    exact ⟨by simpa using happly.1, happly.2⟩
  have hapart : (registry.candidates kind text).Pairwise _ := h.filter _
  rcases hcandidates : registry.candidates kind text with _ | ⟨first, _ | ⟨second, others⟩⟩
  · exact Nat.zero_le _
  · exact Nat.le_refl _
  · rw [hcandidates] at happlies hapart
    obtain ⟨hkind, hfirst⟩ := happlies first (by simp)
    obtain ⟨hkind', hsecond⟩ := happlies second (by simp)
    have hpair := (List.pairwise_cons.mp hapart).1 second List.mem_cons_self
    rw [Pattern.not_accepts_of_areApart (hpair (hkind.trans hkind'.symm)) hfirst] at hsecond
    cases hsecond

/-- In a separated registry a line resolves to a definition as soon as its text matches. -/
theorem resolve_of_match? {registry : Registry} (h : registry.IsSeparated)
    {definition : Definition} (hmem : definition ∈ registry.definitions) {text : String}
    {pieces : List (List Char)} (hpieces : definition.pattern.match? (Text.trim text) = some pieces)
    {arguments : Arguments} (harguments : definition.argumentsOf pieces = .ok arguments)
    (keyword : String) :
    registry.resolve definition.kind keyword text = .ok ⟨definition, arguments⟩ := by
  have hcandidate : definition ∈ registry.candidates definition.kind (Text.trim text) := by
    refine List.mem_filter.mpr ⟨hmem, ?_⟩
    rw [Definition.applies, Pattern.accepts, hpieces, beq_self_eq_true]
    rfl
  have hlength := candidates_length_le_one h definition.kind (Text.trim text)
  have hcandidates : registry.candidates definition.kind (Text.trim text) = [definition] := by
    obtain ⟨only, honly⟩ := List.length_eq_one_iff.mp
      (Nat.le_antisymm hlength (List.length_pos_of_mem hcandidate))
    rw [honly, List.mem_singleton] at hcandidate
    rw [honly, hcandidate]
  exact resolve_eq_ok_iff.mpr ⟨hcandidates, pieces, hpieces, harguments⟩

theorem Argument.error_of_ofPiece {slot : Pattern.Slot} {piece : List Char} {error : Error}
    (h : Argument.ofPiece slot piece = .error error) :
    ∃ raw, error = .stepArgument (.notInteger raw) := by
  cases slot with
  | text => cases h
  | integer =>
      rw [Argument.ofPiece] at h
      split at h
      · cases h
      · injection h with heq
        exact ⟨_, heq.symm⟩

/-- Arguments that cannot be read are integers that do not fit. -/
theorem Argument.error_of_ofPieces {slots : List Pattern.Slot} {pieces : List (List Char)}
    {error : Error} (h : Argument.ofPieces slots pieces = .error error) :
    ∃ raw, error = .stepArgument (.notInteger raw) := by
  induction slots generalizing pieces with
  | nil => cases h
  | cons slot slots ih =>
      cases pieces with
      | nil => cases h
      | cons piece pieces =>
          rw [Argument.ofPieces, bind_eq_error_iff] at h
          rcases h with hfirst | ⟨argument, -, h⟩
          · exact Argument.error_of_ofPiece hfirst
          · rcases bind_eq_error_iff.mp h with hrest | ⟨others, -, h⟩
            · exact ih hrest
            · cases h

/-- A line is ambiguous only if its text has several candidates. -/
theorem two_le_length_of_ambiguous {registry : Registry} {kind : Kind}
    {keyword text trimmed : String} {patterns : List String}
    (h : registry.resolve kind keyword text = .error (.ambiguousStep trimmed patterns)) :
    2 ≤ (registry.candidates kind (Text.trim text)).length := by
  rw [Registry.resolve] at h
  rcases hcandidates : registry.candidates kind (Text.trim text) with
    _ | ⟨definition, _ | ⟨second, others⟩⟩
  · rw [hcandidates] at h
    cases h
  · simp only [hcandidates, bind_eq_error_iff] at h
    rcases h with hfails | ⟨arguments, -, h⟩
    · obtain ⟨raw, heq⟩ := Argument.error_of_ofPieces hfails
      cases heq
    · cases h
  · simp

/-! ## The standard registry -/

/-- Definitions that are apart are unique: no pattern is apart from itself. -/
theorem unique_of_isSeparated {entries : List (Kind × String × Handler)}
    {definitions : List Definition} (h : List.Forall₂ Registers entries definitions)
    (hseparated : Registry.IsSeparated ⟨definitions⟩) : Unique definitions := by
  refine List.Pairwise.imp_of_mem ?_ hseparated
  rintro first second hfirst hsecond hapart ⟨hkind, hsource⟩
  obtain ⟨entry, -, hentry⟩ := exists_entry_of_mem h hfirst
  obtain ⟨other, -, hother⟩ := exists_entry_of_mem h hsecond
  have hread := hentry.pattern
  rw [← hentry.source, hsource, hother.source, hother.pattern] at hread
  injection hread with hsame
  have hself := hapart hkind
  rw [hsame, Pattern.areApart_self] at hself
  cases hself

/-- The standard steps can be registered, and their patterns are apart. -/
theorem standard_isSeparated :
    ∃ registry, Registry.standard = .ok registry ∧ registry.IsSeparated := by
  have hcomputed : (standardSteps.map Definition.read?).all Option.isSome = true ∧
      Registry.IsSeparated ⟨(standardSteps.map Definition.read?).reduceOption⟩ := by
    -- the sources are spelt out first, since literals are slow to take apart
    simp only [standardSteps, plainSteps, callSteps, databaseSteps, monitoringSteps,
      List.cons_append, List.nil_append, List.map_cons, List.map_nil, Definition.read?,
      Pattern.read]
    repeat rw [String.toList_ofList]
    decide +kernel
  obtain ⟨hread, hseparated⟩ := hcomputed
  have hregisters := registers_of_isSome hread
  exact ⟨_, addAll_of_registers hregisters (unique_of_isSeparated hregisters hseparated),
    hseparated⟩

/-- No text matches two standard steps of one kind, and so no line is ambiguous. -/
theorem standard_resolve_unambiguous :
    ∃ registry, Registry.standard = .ok registry ∧
      (∀ kind text, (registry.candidates kind text).length ≤ 1) ∧
      ∀ kind keyword text trimmed patterns,
        registry.resolve kind keyword text ≠ .error (.ambiguousStep trimmed patterns) := by
  obtain ⟨registry, hstandard, hseparated⟩ := standard_isSeparated
  refine ⟨registry, hstandard, candidates_length_le_one hseparated, ?_⟩
  intro kind keyword text trimmed patterns hambiguous
  have htwo := two_le_length_of_ambiguous hambiguous
  have hone := candidates_length_le_one hseparated kind (Text.trim text)
  omega

end ServiceHealth.Step
