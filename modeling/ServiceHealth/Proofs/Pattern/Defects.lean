import ServiceHealth.Proofs.Pattern.Written

/-!
# Sources that are patterns, and the first defect of the others

Read from left to right a pattern is a sequence of characters other than the opening
brace, which are literal, and of placeholders in braces.  In a source that is no such
sequence some opening brace starts no placeholder, and the first one of them is its
defect: either no closing brace follows anywhere, or what stands in front of the next
one is not the name of a placeholder.

`read_eq_iff_reading` states that every source is read in this way: a sequence gives its
literals and its placeholders in order, and any other source is refused because of its
first defect.
-/

namespace ServiceHealth.Pattern

/-! ## Sequences of literals and placeholders -/

/-- A sequence of literal characters and placeholders, with the literal before the first
placeholder and the placeholders, each with the literal after it. -/
inductive IsSequence : (source opening : List Char) → (parts : List (Slot × List Char)) → Prop
  | nil : IsSequence [] [] []
  | literal {c : Char} {source opening : List Char} {parts : List (Slot × List Char)}
      (ne_opening : c ≠ '\x7b') (rest : IsSequence source opening parts) :
      IsSequence (c :: source) (c :: opening) parts
  | placeholder {slot : Slot} {source literal : List Char} {parts : List (Slot × List Char)}
      (rest : IsSequence source literal parts) :
      IsSequence ('\x7b' :: (slot.name ++ '\x7d' :: source)) [] ((slot, literal) :: parts)

variable {opening : List Char} {parts : List (Slot × List Char)}

theorem IsSequence.written {source : List Char} (h : IsSequence source opening parts) :
    source = opening ++ writeParts parts ∧ IsLiteral opening ∧
      ∀ part ∈ parts, IsLiteral part.2 := by
  induction h with
  | nil => exact ⟨rfl, List.not_mem_nil, fun part hpart => absurd hpart List.not_mem_nil⟩
  | literal hne _ ih =>
      obtain ⟨rfl, hopening, hparts⟩ := ih
      exact ⟨rfl, List.not_mem_cons_of_ne_of_not_mem hne.symm hopening, hparts⟩
  | placeholder _ ih =>
      obtain ⟨rfl, hliteral, hparts⟩ := ih
      exact ⟨rfl, List.not_mem_nil, List.forall_mem_cons.mpr ⟨hliteral, hparts⟩⟩

theorem IsSequence.literals {front source : List Char} (h : IsSequence source opening parts)
    (hfront : IsLiteral front) :
    IsSequence (front ++ source) (front ++ opening) parts := by
  induction front with
  | nil => exact h
  | cons c front ih =>
      obtain ⟨hne, hrest⟩ := not_or.mp (List.mem_cons.not.mp hfront)
      exact .literal (Ne.symm hne) (ih hrest)

theorem isSequence_written (hopening : IsLiteral opening)
    (hparts : ∀ part ∈ parts, IsLiteral part.2) :
    IsSequence (opening ++ writeParts parts) opening parts := by
  induction parts generalizing opening with
  | nil => simpa [writeParts] using IsSequence.nil.literals hopening
  | cons part parts ih =>
      obtain ⟨hliteral, hothers⟩ := List.forall_mem_cons.mp hparts
      have hplaceholder : IsSequence ('\x7b' :: (part.1.name ++ '\x7d' :: (part.2 ++
          writeParts parts))) [] (part :: parts) := .placeholder (ih hliteral hothers)
      simpa [writeParts] using hplaceholder.literals hopening

/-- A source is accepted exactly if it is a sequence, and what is read are its literals and its
placeholders. -/
theorem read_eq_ok_iff_isSequence {source : String} {pattern : Pattern} :
    Pattern.read source = .ok pattern ↔
      pattern.source = source ∧ IsSequence source.toList pattern.opening pattern.parts := by
  rw [read_eq_ok_iff]
  constructor
  · rintro ⟨hsource, hwritten, hopening, hparts⟩
    rw [hwritten, Pattern.written]
    exact ⟨hsource, isSequence_written hopening hparts⟩
  · rintro ⟨hsource, hsequence⟩
    exact ⟨hsource, hsequence.written⟩

/-! ## Opening braces that start no placeholder -/

/-- What follows an opening brace makes it the start of a placeholder. -/
def StartsSlot (rest : List Char) : Prop :=
  ∃ (slot : Slot) (after : List Char), rest = slot.name ++ '\x7d' :: after

/-- The first opening brace of a source that starts no placeholder, by what stands in front of
it and what follows it. -/
structure IsFirstDefect (source front rest : List Char) : Prop where
  split : source = front ++ '\x7b' :: rest
  startsNone : ¬ StartsSlot rest
  earlier : ∀ before after, front = before ++ '\x7b' :: after → StartsSlot (after ++ '\x7b' :: rest)

/-- Why a source is refused: the first opening brace that starts no placeholder is never closed,
or it is, but with another name inside. -/
inductive Refusal (source : String) (cs : List Char) : Error → Prop
  | unclosed {front rest : List Char} (first : IsFirstDefect cs front rest)
      (unclosed : '\x7d' ∉ rest) :
      Refusal source cs (.setup (.unclosedPlaceholder source))
  | unknown {front name rest : List Char}
      (first : IsFirstDefect cs front (name ++ '\x7d' :: rest)) (closed : '\x7d' ∉ name) :
      Refusal source cs (.setup (.unknownPlaceholder (String.ofList name) source))

theorem Refusal.exists_isFirstDefect {source : String} {cs : List Char} {error : Error}
    (h : Refusal source cs error) : ∃ front rest, IsFirstDefect cs front rest := by
  cases h with
  | unclosed hfirst => exact ⟨_, _, hfirst⟩
  | unknown hfirst => exact ⟨_, _, hfirst⟩

theorem opening_notMem_braced (slot : Slot) : '\x7b' ∉ slot.name ++ ['\x7d'] := by
  cases slot <;> decide

/-- In a sequence every opening brace starts a placeholder. -/
theorem IsSequence.startsSlot {source : List Char} (h : IsSequence source opening parts) :
    ∀ before after, source = before ++ '\x7b' :: after → StartsSlot after := by
  induction h with
  | nil => exact fun before after hnil => absurd hnil (by simp)
  | literal hne _ ih =>
      intro before after hsplit
      obtain ⟨between, rfl, hrest⟩ :=
        Text.exists_of_append_eq_append_cons (List.mem_singleton.not.mpr hne.symm) hsplit
      exact ih between after hrest
  | @placeholder slot source _ _ _ ih =>
      intro before after hsplit
      cases before with
      | nil =>
          obtain ⟨-, rfl⟩ := List.cons_eq_cons.mp hsplit
          exact ⟨slot, source, rfl⟩
      | cons c before =>
          obtain ⟨-, hinside⟩ := List.cons_eq_cons.mp hsplit
          have hbraced : slot.name ++ ['\x7d'] ++ source = before ++ '\x7b' :: after := by
            simpa using hinside
          obtain ⟨between, -, hrest⟩ :=
            Text.exists_of_append_eq_append_cons (opening_notMem_braced slot) hbraced
          exact ih between after hrest

/-- A source has one first defect. -/
theorem IsFirstDefect.unique {source front rest otherFront otherRest : List Char}
    (h : IsFirstDefect source front rest) (hother : IsFirstDefect source otherFront otherRest) :
    rest = otherRest := by
  rcases List.append_eq_append_iff.mp (h.split.symm.trans hother.split) with
    ⟨between, hfront, hbrace⟩ | ⟨between, hfront, hbrace⟩
  -- a defect in front of another one would start a placeholder
  · cases between with
    | nil => exact (List.cons_eq_cons.mp hbrace).2
    | cons c between =>
        obtain ⟨rfl, rfl⟩ := List.cons_eq_cons.mp hbrace
        exact absurd (hother.earlier front between hfront) h.startsNone
  · cases between with
    | nil => exact (List.cons_eq_cons.mp hbrace).2.symm
    | cons c between =>
        obtain ⟨rfl, rfl⟩ := List.cons_eq_cons.mp hbrace
        exact absurd (h.earlier otherFront between hfront) hother.startsNone

/-- A source is refused for one reason. -/
theorem Refusal.unique {source : String} {cs : List Char} {error other : Error}
    (h : Refusal source cs error) (hother : Refusal source cs other) : error = other := by
  cases h with
  | unclosed hfirst hunclosed =>
      cases hother with
      | unclosed => rfl
      | unknown hfirst' =>
          rw [hfirst.unique hfirst'] at hunclosed
          exact absurd (List.mem_append_right _ List.mem_cons_self) hunclosed
  | unknown hfirst hclosed =>
      cases hother with
      | unclosed hfirst' hunclosed =>
          rw [← hfirst.unique hfirst'] at hunclosed
          exact absurd (List.mem_append_right _ List.mem_cons_self) hunclosed
      | unknown hfirst' hclosed' =>
          have hname := congrArg (List.takeWhile (· ≠ '\x7d')) (hfirst.unique hfirst')
          rw [Text.takeWhile_ne_append_cons hclosed,
            Text.takeWhile_ne_append_cons hclosed'] at hname
          rw [hname]

/-! ## The defect that is found -/

/-- Without an opening brace in front, a brace that starts no placeholder is the first one. -/
theorem isFirstDefect_of_isLiteral {front rest : List Char} (hfront : IsLiteral front)
    (hnone : ¬ StartsSlot rest) : IsFirstDefect (front ++ '\x7b' :: rest) front rest where
  split := rfl
  startsNone := hnone
  earlier before _ h :=
    absurd (h ▸ List.mem_append_right before List.mem_cons_self) hfront

/-- A literal and a placeholder in front of a source have no defect. -/
theorem IsFirstDefect.behind {literal source front rest : List Char}
    (h : IsFirstDefect source front rest) (hliteral : IsLiteral literal) (slot : Slot) :
    IsFirstDefect (literal ++ '\x7b' :: (slot.name ++ '\x7d' :: source))
      (literal ++ '\x7b' :: (slot.name ++ '\x7d' :: front)) rest where
  split := by simp [h.split]
  startsNone := h.startsNone
  earlier before after hsplit := by
    obtain ⟨between, -, hbrace⟩ := Text.exists_of_append_eq_append_cons hliteral hsplit
    cases between with
    | nil =>
        obtain ⟨-, rfl⟩ := List.cons_eq_cons.mp hbrace
        exact ⟨slot, front ++ '\x7b' :: rest, by simp⟩
    | cons c between =>
        obtain ⟨-, hinside⟩ := List.cons_eq_cons.mp hbrace
        have hbraced : slot.name ++ ['\x7d'] ++ front = between ++ '\x7b' :: after := by
          simpa using hinside
        obtain ⟨inner, -, hfront⟩ :=
          Text.exists_of_append_eq_append_cons (opening_notMem_braced slot) hbraced
        exact h.earlier inner after hfront

theorem Refusal.behind {source : String} {literal cs : List Char} {error : Error}
    (h : Refusal source cs error) (hliteral : IsLiteral literal) (slot : Slot) :
    Refusal source (literal ++ '\x7b' :: (slot.name ++ '\x7d' :: cs)) error := by
  cases h with
  | unclosed hfirst hunclosed => exact .unclosed (hfirst.behind hliteral slot) hunclosed
  | unknown hfirst hclosed => exact .unknown (hfirst.behind hliteral slot) hclosed

theorem not_startsSlot_of_notMem {rest : List Char} (h : '\x7d' ∉ rest) : ¬ StartsSlot rest := by
  rintro ⟨slot, after, rfl⟩
  exact h (List.mem_append_right _ List.mem_cons_self)

theorem not_startsSlot_of_ofName? {name rest : List Char} (hclosed : '\x7d' ∉ name)
    (hname : Slot.ofName? name = none) : ¬ StartsSlot (name ++ '\x7d' :: rest) := by
  rintro ⟨slot, after, h⟩
  have hsame := congrArg (List.takeWhile (· ≠ '\x7d')) h
  rw [Text.takeWhile_ne_append_cons hclosed,
    Text.takeWhile_ne_append_cons (closing_notMem_name slot)] at hsame
  rw [hsame, Slot.ofName?_name] at hname
  cases hname

theorem refusal_of_readParts {source : String} {cs : List Char} {error : Error}
    (h : readParts source cs = .error error) : Refusal source cs error := by
  fun_induction readParts source cs with
  | case1 cs hopen => cases h
  | case2 cs brace inside hopen hclose =>
      obtain ⟨-, hliteral, hcs⟩ := Text.eq_append_of_dropWhile_ne hopen
      have hunclosed := Text.dropWhile_ne_eq_nil_iff.mp hclose
      obtain rfl := Except.error.inj h
      rw [hcs]
      exact .unclosed
        (isFirstDefect_of_isLiteral hliteral (not_startsSlot_of_notMem hunclosed)) hunclosed
  | case3 cs brace inside hopen closing rest hclose name hname =>
      obtain ⟨-, hliteral, hcs⟩ := Text.eq_append_of_dropWhile_ne hopen
      obtain ⟨-, hclosed, hinside⟩ := Text.eq_append_of_dropWhile_ne hclose
      obtain rfl := Except.error.inj h
      rw [hcs, hinside]
      exact .unknown
        (isFirstDefect_of_isLiteral hliteral (not_startsSlot_of_ofName? hclosed hname)) hclosed
  | case4 cs brace inside hopen closing rest hclose name slot hname other hrest ih =>
      obtain ⟨-, hliteral, hcs⟩ := Text.eq_append_of_dropWhile_ne hopen
      obtain ⟨-, -, hinside⟩ := Text.eq_append_of_dropWhile_ne hclose
      obtain rfl := Except.error.inj h
      have hbraced : inside.takeWhile (· ≠ '\x7d') = slot.name := Slot.name_of_ofName? hname
      rw [hcs, hinside, hbraced]
      exact (ih hrest).behind hliteral slot
  | case5 => cases h

/-- What a source is read as: a pattern with the literals and the placeholders of the source in
order, or the reason why it is refused. -/
inductive Reading (source : String) : Except Error Pattern → Prop
  | accepted {pattern : Pattern} (named : pattern.source = source)
      (sequence : IsSequence source.toList pattern.opening pattern.parts) :
      Reading source (.ok pattern)
  | refused {error : Error} (refusal : Refusal source source.toList error) :
      Reading source (.error error)

theorem reading_read (source : String) : Reading source (Pattern.read source) := by
  cases h : Pattern.read source with
  | ok pattern =>
      obtain ⟨hsource, hsequence⟩ := read_eq_ok_iff_isSequence.mp h
      exact .accepted hsource hsequence
  | error error =>
      refine .refused (refusal_of_readParts ?_)
      unfold Pattern.read at h
      cases hparts : readParts source source.toList with
      | ok pair =>
          rw [hparts] at h
          cases h
      | error reason =>
          rw [hparts] at h
          obtain rfl := Except.error.inj h
          rfl

/-- Every source is read in one way: as the pattern whose literals and placeholders it is a
sequence of, or, if it is no sequence, as a mistake in its first opening brace that starts no
placeholder. -/
theorem read_eq_iff_reading {source : String} {result : Except Error Pattern} :
    Pattern.read source = result ↔ Reading source result := by
  constructor
  · rintro rfl
    exact reading_read source
  · intro h
    cases h with
    | accepted hsource hsequence => exact read_eq_ok_iff_isSequence.mpr ⟨hsource, hsequence⟩
    | @refused error hrefusal =>
        have hread := reading_read source
        cases hresult : Pattern.read source with
        | ok pattern =>
            -- every opening brace of a sequence starts a placeholder, but one does not
            obtain ⟨-, hsequence⟩ := read_eq_ok_iff_isSequence.mp hresult
            obtain ⟨front, rest, hfirst⟩ := hrefusal.exists_isFirstDefect
            exact absurd (hsequence.startsSlot front rest hfirst.split) hfirst.startsNone
        | error other =>
            rw [hresult] at hread
            cases hread with
            | refused hother => rw [hother.unique hrefusal]

end ServiceHealth.Pattern
