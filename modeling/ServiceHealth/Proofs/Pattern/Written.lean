import ServiceHealth.Pattern.Basic
import ServiceHealth.Proofs.Text.Cutting

/-!
# Patterns as they are written

A pattern is written as its opening literal, followed by its placeholders in
braces, each with the literal after it.  Reading is the inverse of writing:
`read_eq_ok_iff` states that a source is accepted exactly if it is what some
pattern writes whose literals have no opening brace, and that this pattern is
the answer.
-/

namespace ServiceHealth.Pattern

/-- The name of a placeholder. -/
def Slot.name : Slot → List Char
  | .text => ['s', 't', 'r', 'i', 'n', 'g']
  | .integer => ['i', 'n', 't']

/-- Placeholders in braces, each with the literal after it. -/
def writeParts : List (Slot × List Char) → List Char
  | [] => []
  | (slot, literal) :: parts => '\x7b' :: (slot.name ++ '\x7d' :: (literal ++ writeParts parts))

/-- The pattern as a source writes it. -/
def written (pattern : Pattern) : List Char :=
  pattern.opening ++ writeParts pattern.parts

/-- Literal text: no placeholder starts in it. -/
def IsLiteral (cs : List Char) : Prop :=
  '\x7b' ∉ cs

instance (cs : List Char) : Decidable (IsLiteral cs) :=
  inferInstanceAs (Decidable ('\x7b' ∉ cs))

/-- All literals of the pattern are literal text. -/
def HasLiterals (pattern : Pattern) : Prop :=
  IsLiteral pattern.opening ∧ ∀ part ∈ pattern.parts, IsLiteral part.2

instance (pattern : Pattern) : Decidable pattern.HasLiterals :=
  inferInstanceAs (Decidable (_ ∧ _))

@[simp] theorem Slot.ofName?_name (slot : Slot) : Slot.ofName? slot.name = some slot := by
  cases slot <;> rfl

theorem Slot.name_of_ofName? {name : List Char} {slot : Slot} (h : Slot.ofName? name = some slot) :
    name = slot.name := by
  unfold Slot.ofName? at h
  split at h
  · injection h with hslot
    subst hslot
    assumption
  · split at h
    · injection h with hslot
      subst hslot
      assumption
    · cases h

theorem closing_notMem_name (slot : Slot) : '\x7d' ∉ slot.name := by
  cases slot <;> decide

/-! ## Reading what is written -/

/-- Literal text followed by placeholders is read back. -/
theorem readParts_written (source : String) {opening : List Char}
    {parts : List (Slot × List Char)} (hopening : IsLiteral opening)
    (hparts : ∀ part ∈ parts, IsLiteral part.2) :
    readParts source (opening ++ writeParts parts) = .ok (opening, parts) := by
  induction parts generalizing opening with
  | nil =>
      rw [writeParts, List.append_nil, readParts]
      split
      · rfl
      · rename_i hopen
        rw [Text.dropWhile_ne_eq_nil_iff.mpr hopening] at hopen
        cases hopen
  | cons part parts ih =>
      obtain ⟨slot, literal⟩ := part
      have hliteral : IsLiteral literal := hparts _ List.mem_cons_self
      have hrest := ih hliteral fun other hother => hparts other (List.mem_cons_of_mem _ hother)
      have hclosing := closing_notMem_name slot
      rw [writeParts, readParts]
      -- the first brace is the one after the opening literal
      split
      · rename_i hopen
        rw [Text.dropWhile_ne_append_cons hopening] at hopen
        cases hopen
      · rename_i hopen
        rw [Text.dropWhile_ne_append_cons hopening] at hopen
        injection hopen with _ hinside
        subst hinside
        -- and the next closing one ends the name
        split
        · rename_i hclose
          rw [Text.dropWhile_ne_append_cons hclosing] at hclose
          cases hclose
        · rename_i hclose
          rw [Text.dropWhile_ne_append_cons hclosing] at hclose
          injection hclose with _ hafter
          subst hafter
          simp only [Text.takeWhile_ne_append_cons hclosing, Text.takeWhile_ne_append_cons hopening,
            Slot.ofName?_name, hrest]

theorem written_of_readParts {source : String} {cs opening : List Char}
    {parts : List (Slot × List Char)} (h : readParts source cs = .ok (opening, parts)) :
    cs = opening ++ writeParts parts ∧ IsLiteral opening ∧ ∀ part ∈ parts, IsLiteral part.2 := by
  induction parts generalizing cs opening with
  | nil =>
      rw [readParts] at h
      split at h
      · rename_i hopen
        injection h with hpair
        obtain ⟨rfl, -⟩ := Prod.mk.injEq .. ▸ hpair
        exact ⟨(List.append_nil cs).symm, Text.dropWhile_ne_eq_nil_iff.mp hopen, by simp⟩
      · split at h
        · cases h
        · dsimp only at h
          split at h
          · cases h
          · split at h <;> simp at h
  | cons part parts ih =>
      rw [readParts] at h
      split at h
      · simp at h
      · rename_i hopen
        split at h
        · cases h
        · rename_i hclose
          dsimp only at h
          split at h
          · cases h
          · rename_i slot hslot
            split at h
            · cases h
            · rename_i literal others hrest
              simp only [Except.ok.injEq, Prod.mk.injEq, List.cons.injEq] at h
              obtain ⟨rfl, rfl, rfl⟩ := h
              obtain ⟨hafter, hliteral, hothers⟩ := ih hrest
              obtain ⟨-, hopening, hcs⟩ := Text.eq_append_of_dropWhile_ne hopen
              obtain ⟨-, -, hinside⟩ := Text.eq_append_of_dropWhile_ne hclose
              refine ⟨?_, hopening, ?_⟩
              · rw [writeParts, ← hafter, ← Slot.name_of_ofName? hslot, ← hinside]
                exact hcs
              · intro other hother
                rcases List.mem_cons.mp hother with rfl | hother
                · exact hliteral
                · exact hothers other hother

/-- A source is accepted exactly if it is what a pattern writes whose literals are literal text. -/
theorem read_eq_ok_iff {source : String} {pattern : Pattern} :
    Pattern.read source = .ok pattern ↔
      pattern.source = source ∧ source.toList = pattern.written ∧ pattern.HasLiterals := by
  unfold Pattern.read
  constructor
  · intro h
    cases hparts : readParts source source.toList with
    | error error =>
        rw [hparts] at h
        cases h
    | ok pair =>
        rw [hparts] at h
        injection h with heq
        subst heq
        obtain ⟨hwritten, hopening, hliterals⟩ := written_of_readParts hparts
        exact ⟨rfl, hwritten, hopening, hliterals⟩
  · rintro ⟨rfl, hwritten, hopening, hliterals⟩
    rw [hwritten, written, readParts_written _ hopening hliterals]
    rfl

end ServiceHealth.Pattern
