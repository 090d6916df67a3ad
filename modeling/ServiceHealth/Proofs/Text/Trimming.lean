import Mathlib.Data.List.TakeWhile
import ServiceHealth.Text.Blank

/-!
# What trimming leaves

A text has one core: blank characters stand around it, and neither its first nor its
last character is blank.  `isCore_iff` says that trimming finds the core of every
text, and so blank characters that are put around a text make no difference to it.
-/

namespace ServiceHealth.Text

/-- All characters are blank. -/
def AllBlank (cs : List Char) : Prop :=
  ∀ c ∈ cs, isBlank c = true

/-- A text is its core with blank characters around it, and the core begins and ends
with characters that are not blank. -/
structure IsCore (text core : List Char) : Prop where
  surrounded : ∃ front back, text = front ++ (core ++ back) ∧ AllBlank front ∧ AllBlank back
  head : ∀ c, core.head? = some c → isBlank c = false
  last : ∀ c, core.getLast? = some c → isBlank c = false

/-! ## Blank characters at an end -/

theorem dropBlank_of_allBlank {cs : List Char} (h : AllBlank cs) : dropBlank cs = [] :=
  List.dropWhile_eq_nil_iff.mpr h

theorem dropBlank_append_of_allBlank {front : List Char} (h : AllBlank front) (cs : List Char) :
    dropBlank (front ++ cs) = dropBlank cs :=
  List.dropWhile_append_of_pos h

theorem dropBlankEnd_append_of_allBlank {back : List Char} (h : AllBlank back) (cs : List Char) :
    dropBlankEnd (cs ++ back) = dropBlankEnd cs := by
  have hreverse : AllBlank back.reverse := fun c hc => h c (List.mem_reverse.mp hc)
  rw [dropBlankEnd, List.reverse_append, dropBlank_append_of_allBlank hreverse, dropBlankEnd]

/-- Blank characters around a text make no difference to what trimming leaves. -/
theorem trimChars_surrounded {front back : List Char} (hfront : AllBlank front)
    (hback : AllBlank back) (cs : List Char) :
    trimChars (front ++ (cs ++ back)) = trimChars cs := by
  rw [trimChars, dropBlank_append_of_allBlank hfront, trimChars]
  by_cases hcs : dropBlank cs = []
  · -- nothing but blank characters is left in front of those at the end
    rw [dropBlank_append_of_allBlank (List.dropWhile_eq_nil_iff.mp hcs),
      dropBlank_of_allBlank hback, hcs]
  · have happend : dropBlank (cs ++ back) = dropBlank cs ++ back := by
      rw [dropBlank, List.dropWhile_append, if_neg (by simpa [dropBlank] using hcs)]
      rfl
    rw [happend, dropBlankEnd_append_of_allBlank hback]

/-! ## The core -/

theorem dropBlankEnd_eq_self {cs : List Char} (h : ∀ c, cs.getLast? = some c → isBlank c = false) :
    dropBlankEnd cs = cs := by
  rw [dropBlankEnd, dropBlank_eq_self, List.reverse_reverse]
  intro c hc
  exact h c (by rwa [← List.head?_reverse])

theorem IsCore.eq_trimChars {text core : List Char} (h : IsCore text core) :
    core = trimChars text := by
  obtain ⟨front, back, rfl, hfront, hback⟩ := h.surrounded
  rw [trimChars_surrounded hfront hback, trimChars, dropBlank_eq_self h.head,
    dropBlankEnd_eq_self h.last]

/-- What is left at the end of a text, and the blank characters after it. -/
theorem exists_eq_dropBlankEnd_append (cs : List Char) :
    ∃ back, cs = dropBlankEnd cs ++ back ∧ AllBlank back := by
  refine ⟨(cs.reverse.takeWhile isBlank).reverse, ?_, ?_⟩
  · rw [dropBlankEnd, dropBlank, ← List.reverse_append, List.takeWhile_append_dropWhile,
      List.reverse_reverse]
  · intro c hc
    exact List.mem_takeWhile_imp (List.mem_reverse.mp hc)

theorem isCore_trimChars (text : List Char) : IsCore text (trimChars text) := by
  obtain ⟨back, hback, hblank⟩ := exists_eq_dropBlankEnd_append (dropBlank text)
  refine ⟨⟨text.takeWhile isBlank, back, ?_, ?_, hblank⟩, ?_, ?_⟩
  · rw [trimChars, ← hback, dropBlank, List.takeWhile_append_dropWhile]
  · exact fun c hc => List.mem_takeWhile_imp hc
  · -- the first character that is left is the first after the blank ones in front
    intro c hc
    have hfirst : (dropBlank text).head? = some c := by
      rw [hback, List.head?_append]
      exact Option.or_eq_some_iff.mpr (.inl hc)
    exact head?_dropBlank hfirst
  · intro c hc
    rw [trimChars, dropBlankEnd, List.getLast?_reverse] at hc
    exact head?_dropBlank hc

/-- Trimming leaves the core of a text. -/
theorem isCore_iff {text core : List Char} : IsCore text core ↔ core = trimChars text := by
  constructor
  · exact IsCore.eq_trimChars
  · rintro rfl
    exact isCore_trimChars text

theorem isCore_trim (text : String) : IsCore text.toList (trim text).toList := by
  rw [trim, String.toList_ofList]
  exact isCore_trimChars text.toList

end ServiceHealth.Text
