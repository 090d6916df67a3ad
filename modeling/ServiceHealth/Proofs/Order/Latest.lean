import Mathlib.Data.List.Induction

/-!
# The last element with a property

Among the elements of a list that have a property one stands last, unless there is none.
`isLatest_concat_iff` says which one this is when the list grows at its end; the other facts follow
from it by induction.  Elements without the property may be left out.
-/

namespace ServiceHealth

variable {α : Type} {p : α → Prop} {elements : List α} {element last : α}

/-- This element has the property, and no later one has it. -/
def IsLatest (p : α → Prop) (elements : List α) (element : α) : Prop :=
  ∃ before after, elements = before ++ element :: after ∧ p element ∧ ∀ later ∈ after, ¬ p later

theorem IsLatest.property (h : IsLatest p elements element) : p element := by
  obtain ⟨before, after, -, helement, -⟩ := h
  exact helement

theorem not_isLatest_nil : ¬ IsLatest p [] element := by
  rintro ⟨before, after, hsplit, -⟩
  simp at hsplit

theorem isLatest_concat_iff :
    IsLatest p (elements ++ [last]) element ↔
      p last ∧ element = last ∨ ¬ p last ∧ IsLatest p elements element := by
  constructor
  · rintro ⟨before, after, hsplit, helement, hafter⟩
    rcases List.eq_nil_or_concat after with rfl | ⟨rest, final, rfl⟩
    · obtain ⟨-, hlast⟩ := List.append_inj' hsplit rfl
      obtain rfl := List.singleton_inj.mp hlast
      exact .inl ⟨helement, rfl⟩
    · rw [List.concat_eq_append, ← List.cons_append, ← List.append_assoc] at hsplit
      obtain ⟨hfront, hlast⟩ := List.append_inj' hsplit rfl
      obtain rfl := List.singleton_inj.mp hlast
      rw [List.concat_eq_append, List.forall_mem_append, List.forall_mem_singleton] at hafter
      exact .inr ⟨hafter.2, before, rest, hfront, helement, hafter.1⟩
  · rintro (⟨hlast, rfl⟩ | ⟨hlast, before, after, rfl, helement, hafter⟩)
    · exact ⟨elements, [], rfl, hlast, List.forall_mem_nil _⟩
    · exact ⟨before, after ++ [last], List.append_assoc .., helement,
        List.forall_mem_append.mpr ⟨hafter, List.forall_mem_singleton.mpr hlast⟩⟩

theorem exists_isLatest_iff :
    (∃ element, IsLatest p elements element) ↔ ∃ element ∈ elements, p element := by
  constructor
  · rintro ⟨element, before, after, rfl, helement, -⟩
    exact ⟨element, by simp, helement⟩
  · rintro ⟨element, hmem, helement⟩
    induction elements using List.reverseRecOn with
    | nil => cases hmem
    | append_singleton elements last ih =>
        simp only [isLatest_concat_iff]
        by_cases hlast : p last
        · exact ⟨last, .inl ⟨hlast, rfl⟩⟩
        · -- the element stands before the end, since it has the property
          rcases List.mem_append.mp hmem with hfront | hend
          · obtain ⟨latest, hlatest⟩ := ih hfront
            exact ⟨latest, .inr ⟨hlast, hlatest⟩⟩
          · rw [List.mem_singleton.mp hend] at helement
            exact absurd helement hlast

/-- Leaving out elements without the property does not change which one is the last with it. -/
theorem isLatest_filter_iff {keeps : α → Bool}
    (hkeeps : ∀ element, p element → keeps element = true) :
    IsLatest p (elements.filter keeps) element ↔ IsLatest p elements element := by
  induction elements using List.reverseRecOn with
  | nil => rfl
  | append_singleton elements last ih =>
      rw [List.filter_append, isLatest_concat_iff, ← ih]
      cases hlast : keeps last with
      | true => rw [List.filter_cons_of_pos hlast, List.filter_nil, isLatest_concat_iff]
      | false =>
          have hlacks : ¬ p last := by
            intro hp
            rw [hkeeps last hp] at hlast
            cases hlast
          rw [List.filter_cons_of_neg (by simp [hlast]), List.filter_nil, List.append_nil]
          simp only [hlacks, false_and, not_false_eq_true, true_and, false_or]

end ServiceHealth
