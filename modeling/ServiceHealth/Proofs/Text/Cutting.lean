import Mathlib.Data.List.TakeWhile

/-!
# Cutting a text at a character

A text is cut at the first place where a character stands: what is in front of it does not
have the character, and what follows is the rest.  The lemmas say both how the cut is made
and that there is no other one.
-/

namespace ServiceHealth.Text

/-- A character that does not occur at the front of a text occurs behind it. -/
theorem exists_of_append_eq_append_cons {α : Type} {x : α} {front rest before after : List α}
    (hfront : x ∉ front) (h : front ++ rest = before ++ x :: after) :
    ∃ between, before = front ++ between ∧ rest = between ++ x :: after := by
  rcases List.append_eq_append_iff.mp h with ⟨between, hbefore, hrest⟩ | ⟨between, hsplit, hx⟩
  · exact ⟨between, hbefore, hrest⟩
  · cases between with
    | nil => exact ⟨[], by simp [hsplit], by simpa using hx.symm⟩
    | cons y between =>
        obtain ⟨rfl, -⟩ := List.cons_eq_cons.mp hx
        exact absurd (hsplit ▸ List.mem_append_right before List.mem_cons_self) hfront

variable {α : Type} [DecidableEq α]

theorem takeWhile_ne_append_cons {x : α} {front : List α} (h : x ∉ front) (rest : List α) :
    (front ++ x :: rest).takeWhile (· ≠ x) = front := by
  have hall : ∀ y ∈ front, decide (y ≠ x) = true := by
    intro y hy
    exact decide_eq_true fun heq => h (heq ▸ hy)
  rw [List.takeWhile_append_of_pos hall]
  simp

theorem dropWhile_ne_append_cons {x : α} {front : List α} (h : x ∉ front) (rest : List α) :
    (front ++ x :: rest).dropWhile (· ≠ x) = x :: rest := by
  have hall : ∀ y ∈ front, decide (y ≠ x) = true := by
    intro y hy
    exact decide_eq_true fun heq => h (heq ▸ hy)
  rw [List.dropWhile_append_of_pos hall]
  simp

theorem dropWhile_ne_eq_nil_iff {x : α} {cs : List α} :
    cs.dropWhile (· ≠ x) = [] ↔ x ∉ cs := by
  rw [List.dropWhile_eq_nil_iff]
  constructor
  · intro h hmem
    simpa using h x hmem
  · intro h y hy
    exact decide_eq_true fun heq => h (heq ▸ hy)

theorem takeWhile_ne_eq_self_iff {x : α} {cs : List α} :
    cs.takeWhile (· ≠ x) = cs ↔ x ∉ cs := by
  rw [List.takeWhile_eq_self_iff, ← List.dropWhile_eq_nil_iff, dropWhile_ne_eq_nil_iff]

/-- What is left at a character that is looked for starts with it, and what is cut off before
does not have it. -/
theorem eq_append_of_dropWhile_ne {x y : α} {cs rest : List α}
    (h : cs.dropWhile (· ≠ x) = y :: rest) :
    y = x ∧ x ∉ cs.takeWhile (· ≠ x) ∧ cs = cs.takeWhile (· ≠ x) ++ x :: rest := by
  have hy : y = x := by
    have hhead := List.head?_dropWhile_not (fun z => decide (z ≠ x)) cs
    rw [h] at hhead
    simpa using hhead
  subst hy
  refine ⟨rfl, ?_, ?_⟩
  · intro hmem
    simpa using List.mem_takeWhile_imp hmem
  · rw [← h, List.takeWhile_append_dropWhile]

/-- A text is cut in one way: in front of the character, or not at all if it does not occur. -/
theorem eq_takeWhile_ne_iff {x : α} {cs front : List α} :
    front = cs.takeWhile (· ≠ x) ↔
      x ∉ front ∧ (cs = front ∨ ∃ rest, cs = front ++ x :: rest) := by
  constructor
  · rintro rfl
    cases hrest : cs.dropWhile (· ≠ x) with
    | nil =>
        have hcs := dropWhile_ne_eq_nil_iff.mp hrest
        rw [takeWhile_ne_eq_self_iff.mpr hcs]
        exact ⟨hcs, .inl rfl⟩
    | cons y rest =>
        obtain ⟨-, hfront, hcs⟩ := eq_append_of_dropWhile_ne hrest
        exact ⟨hfront, .inr ⟨rest, hcs⟩⟩
  · rintro ⟨hfront, rfl | ⟨rest, rfl⟩⟩
    · exact (takeWhile_ne_eq_self_iff.mpr hfront).symm
    · exact (takeWhile_ne_append_cons hfront rest).symm

end ServiceHealth.Text
