import Mathlib.Data.List.Forall2
import Mathlib.Data.List.ReduceOption
import ServiceHealth.Proofs.Error.Sequence
import ServiceHealth.Proofs.Pattern.Division
import ServiceHealth.Step.Standard

/-!
# Registering definitions and resolving lines

A registry that is filled from a list of entries has one definition for each of
them, in their order (`definitions_of_addAll`), and it can be filled if no kind and
source come twice (`addAll_of_registers`).  A line that resolves is bound to a
definition of the registry that is the only one its text matches, and the arguments
fit the placeholders of the pattern, one by one (`resolve_eq_ok_iff`,
`fits_of_resolve`).
-/

namespace ServiceHealth.Step

/-! ## Filling a registry -/

/-- A definition is the one that an entry asks for. -/
structure Registers (entry : Kind × String × Handler) (definition : Definition) : Prop where
  kind : definition.kind = entry.1
  pattern : Pattern.read entry.2.1 = .ok definition.pattern
  handler : definition.handler = entry.2.2

theorem Registers.source {entry : Kind × String × Handler} {definition : Definition}
    (h : Registers entry definition) : definition.pattern.source = entry.2.1 :=
  (Pattern.read_eq_ok_iff.mp h.pattern).1

section Register

variable {registry next : Registry} {kind : Kind} {source : String} {handler : Handler}
  {error : Error}

theorem has_iff :
    registry.has kind source = true ↔
      ∃ definition ∈ registry.definitions,
        definition.kind = kind ∧ definition.pattern.source = source := by
  simp [Registry.has]

/-- A step can be registered if its source is a pattern and it is not there yet. -/
theorem register_eq_ok_iff :
    registry.register kind source handler = .ok next ↔
      registry.has kind source = false ∧ ∃ pattern, Pattern.read source = .ok pattern ∧
        next = ⟨registry.definitions ++ [⟨kind, pattern, handler⟩]⟩ := by
  cases hhas : registry.has kind source with
  | true => simp [Registry.register, hhas]
  | false =>
      cases hread : Pattern.read source with
      | error error => simp [Registry.register, hhas, hread]
      | ok pattern => simp [Registry.register, hhas, hread, eq_comm]

theorem register_eq_error_iff :
    registry.register kind source handler = .error error ↔
      registry.has kind source = true ∧ error = .setup (.alreadyRegistered kind source) ∨
        registry.has kind source = false ∧ Pattern.read source = .error error := by
  cases hhas : registry.has kind source with
  | true => simp [Registry.register, hhas, eq_comm]
  | false => cases hread : Pattern.read source <;> simp [Registry.register, hhas, hread]

end Register

theorem definitions_of_register {registry result : Registry} {kind : Kind} {source : String}
    {handler : Handler} (h : registry.register kind source handler = .ok result) :
    ∃ definition, Registers (kind, source, handler) definition ∧
      result.definitions = registry.definitions ++ [definition] := by
  obtain ⟨-, pattern, hpattern, rfl⟩ := register_eq_ok_iff.mp h
  exact ⟨⟨kind, pattern, handler⟩, ⟨rfl, hpattern, rfl⟩, rfl⟩

theorem definitions_of_addAll {registry result : Registry}
    {entries : List (Kind × String × Handler)} (h : registry.addAll entries = .ok result) :
    ∃ added, List.Forall₂ Registers entries added ∧
      result.definitions = registry.definitions ++ added := by
  induction entries generalizing registry with
  | nil =>
      injection h with heq
      subst heq
      exact ⟨[], .nil, (List.append_nil _).symm⟩
  | cons entry entries ih =>
      rw [Registry.addAll, List.foldlM_cons, bind_eq_ok_iff] at h
      obtain ⟨next, hfirst, hrest⟩ := h
      obtain ⟨definition, hdefinition, hnext⟩ := definitions_of_register hfirst
      obtain ⟨added, hadded, hresult⟩ := ih hrest
      refine ⟨definition :: added, .cons hdefinition hadded, ?_⟩
      rw [hresult, hnext, List.append_assoc, List.singleton_append]

/-- No two definitions have the same kind and the same source. -/
def Unique (definitions : List Definition) : Prop :=
  definitions.Pairwise fun first second =>
    ¬ (first.kind = second.kind ∧ first.pattern.source = second.pattern.source)

theorem register_of_registers {registry : Registry} {entry : Kind × String × Handler}
    {definition : Definition} (h : Registers entry definition)
    (hunique : ∀ earlier ∈ registry.definitions,
      ¬ (earlier.kind = definition.kind ∧ earlier.pattern.source = definition.pattern.source)) :
    registry.register entry.1 entry.2.1 entry.2.2 =
      .ok ⟨registry.definitions ++ [definition]⟩ := by
  have hnew : registry.has entry.1 entry.2.1 = false := by
    rw [← Bool.not_eq_true, has_iff]
    rintro ⟨earlier, hearlier, hsame⟩
    rw [← h.kind, ← h.source] at hsame
    exact hunique earlier hearlier hsame
  refine register_eq_ok_iff.mpr ⟨hnew, definition.pattern, h.pattern, ?_⟩
  rw [← h.kind, ← h.handler]

/-- Entries whose definitions are unique can be added one after another. -/
theorem addAll_of_registers {registry : Registry} {entries : List (Kind × String × Handler)}
    {added : List Definition} (h : List.Forall₂ Registers entries added)
    (hunique : Unique (registry.definitions ++ added)) :
    registry.addAll entries = .ok ⟨registry.definitions ++ added⟩ := by
  induction h generalizing registry with
  | nil =>
      rw [List.append_nil]
      rfl
  | @cons entry definition entries added hentry hrest ih =>
      have hfirst := register_of_registers hentry fun earlier hearlier =>
        (List.pairwise_append.mp hunique).2.2 earlier hearlier definition List.mem_cons_self
      have hsplit : registry.definitions ++ definition :: added =
          registry.definitions ++ [definition] ++ added := by
        rw [List.append_assoc, List.singleton_append]
      rw [hsplit] at hunique ⊢
      rw [Registry.addAll, List.foldlM_cons]
      simp only [hfirst]
      exact ih hunique

/-- A definition that was registered comes from one of the entries. -/
theorem exists_entry_of_mem {entries : List (Kind × String × Handler)}
    {definitions : List Definition} (h : List.Forall₂ Registers entries definitions)
    {definition : Definition} (hmem : definition ∈ definitions) :
    ∃ entry ∈ entries, Registers entry definition := by
  obtain ⟨i, hi, rfl⟩ := List.mem_iff_getElem.mp hmem
  have hlength := h.length_eq
  exact ⟨_, List.getElem_mem (hlength ▸ hi), h.get (hlength ▸ hi) hi⟩

/-- Every entry has been registered. -/
theorem exists_definition_of_mem {entries : List (Kind × String × Handler)}
    {definitions : List Definition} (h : List.Forall₂ Registers entries definitions)
    {entry : Kind × String × Handler} (hmem : entry ∈ entries) :
    ∃ definition ∈ definitions, Registers entry definition := by
  obtain ⟨i, hi, rfl⟩ := List.mem_iff_getElem.mp hmem
  have hlength := h.length_eq
  exact ⟨_, List.getElem_mem (hlength ▸ hi), h.get hi (hlength ▸ hi)⟩

/-- Every definition of the standard registry is one of the standard steps. -/
theorem exists_standardStep_of_mem {registry : Registry} (h : Registry.standard = .ok registry)
    {definition : Definition} (hmem : definition ∈ registry.definitions) :
    ∃ entry ∈ standardSteps, Registers entry definition := by
  obtain ⟨added, hadded, hdefinitions⟩ := definitions_of_addAll h
  rw [hdefinitions, Registry.empty, List.nil_append] at hmem
  exact exists_entry_of_mem hadded hmem

/-! ## The definitions of entries -/

/-- The definition that an entry asks for, if its source is a pattern. -/
def Definition.read? (entry : Kind × String × Handler) : Option Definition :=
  (Pattern.read entry.2.1).toOption.map fun pattern => ⟨entry.1, pattern, entry.2.2⟩

theorem registers_of_read? {entry : Kind × String × Handler} {definition : Definition}
    (h : Definition.read? entry = some definition) : Registers entry definition := by
  rw [Definition.read?] at h
  cases hread : Pattern.read entry.2.1 with
  | error error =>
      rw [hread] at h
      cases h
  | ok pattern =>
      rw [hread] at h
      injection h with heq
      subst heq
      exact ⟨rfl, hread, rfl⟩

/-- If every source is a pattern, every entry has a definition. -/
theorem registers_of_isSome {entries : List (Kind × String × Handler)}
    (h : (entries.map Definition.read?).all Option.isSome = true) :
    List.Forall₂ Registers entries (entries.map Definition.read?).reduceOption := by
  induction entries with
  | nil => exact .nil
  | cons entry entries ih =>
      rw [List.map_cons, List.all_cons, Bool.and_eq_true] at h
      obtain ⟨definition, hdefinition⟩ := Option.isSome_iff_exists.mp h.1
      rw [List.map_cons, hdefinition, List.reduceOption_cons_of_some]
      exact .cons (registers_of_read? hdefinition) (ih h.2)

/-! ## Arguments -/

/-- An argument is of the sort that a placeholder asks for. -/
inductive Argument.Fits : Pattern.Slot → Argument → Prop
  | text (value : String) : Fits .text (.text value)
  | integer (value : Int) : Fits .integer (.integer value)

theorem Argument.fits_of_ofPiece {slot : Pattern.Slot} {piece : List Char} {argument : Argument}
    (h : Argument.ofPiece slot piece = .ok argument) : Argument.Fits slot argument := by
  cases slot with
  | text =>
      injection h with heq
      subst heq
      exact .text _
  | integer =>
      rw [Argument.ofPiece] at h
      split at h
      · injection h with heq
        subst heq
        exact .integer _
      · cases h

theorem Argument.fits_of_ofPieces {slots : List Pattern.Slot} {pieces : List (List Char)}
    {arguments : List Argument} (hlength : pieces.length = slots.length)
    (h : Argument.ofPieces slots pieces = .ok arguments) :
    List.Forall₂ Argument.Fits slots arguments := by
  induction slots generalizing pieces arguments with
  | nil =>
      injection h with heq
      subst heq
      exact .nil
  | cons slot slots ih =>
      cases pieces with
      | nil => cases hlength
      | cons piece pieces =>
          rw [Argument.ofPieces, bind_eq_ok_iff] at h
          obtain ⟨argument, hfirst, h⟩ := h
          obtain ⟨others, hrest, heq⟩ := bind_eq_ok_iff.mp h
          injection heq with heq
          subst heq
          exact .cons (Argument.fits_of_ofPiece hfirst) (ih (Nat.succ.inj hlength) hrest)

/-! ## Resolving a line -/

/-- A line resolves to the only definition that its text matches, with the arguments that the
longest division gives. -/
theorem resolve_eq_ok_iff {registry : Registry} {kind : Kind} {keyword text : String}
    {bound : Bound} :
    registry.resolve kind keyword text = .ok bound ↔
      registry.candidates kind (Text.trim text) = [bound.definition] ∧
        ∃ pieces, bound.definition.pattern.match? (Text.trim text) = some pieces ∧
          bound.definition.argumentsOf pieces = .ok bound.arguments := by
  rw [Registry.resolve]
  constructor
  · intro h
    split at h
    · cases h
    · rename_i definition hcandidates
      have hmem : definition ∈ registry.candidates kind (Text.trim text) := by
        rw [hcandidates]
        exact List.mem_cons_self
      have haccepts : definition.pattern.accepts (Text.trim text) = true := by
        have happlies := (List.mem_filter.mp hmem).2
        rw [Definition.applies, Bool.and_eq_true] at happlies
        exact happlies.2
      obtain ⟨pieces, hpieces⟩ := Option.isSome_iff_exists.mp haccepts
      rw [hpieces, Option.getD_some, bind_eq_ok_iff] at h
      obtain ⟨arguments, harguments, heq⟩ := h
      injection heq with heq
      subst heq
      exact ⟨hcandidates, pieces, hpieces, harguments⟩
    · cases h
  · rintro ⟨hcandidates, pieces, hpieces, harguments⟩
    rw [hcandidates]
    simp only [hpieces, Option.getD_some, harguments]
    rfl

theorem mem_definitions_of_resolve {registry : Registry} {kind : Kind} {keyword text : String}
    {bound : Bound} (h : registry.resolve kind keyword text = .ok bound) :
    bound.definition ∈ registry.definitions := by
  have hmem : bound.definition ∈ registry.candidates kind (Text.trim text) := by
    rw [(resolve_eq_ok_iff.mp h).1]
    exact List.mem_cons_self
  exact (List.mem_filter.mp hmem).1

/-- The arguments of a line that resolves fit the placeholders of its pattern. -/
theorem fits_of_resolve {registry : Registry} {kind : Kind} {keyword text : String}
    {bound : Bound} (h : registry.resolve kind keyword text = .ok bound) :
    List.Forall₂ Argument.Fits bound.definition.pattern.slots bound.arguments := by
  obtain ⟨-, pieces, hpieces, harguments⟩ := resolve_eq_ok_iff.mp h
  have hlength := Pattern.length_of_divides (Pattern.divides_of_match? hpieces)
  exact Argument.fits_of_ofPieces hlength harguments

end ServiceHealth.Step
