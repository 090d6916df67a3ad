import ServiceHealth.Pattern.Match
import ServiceHealth.Proofs.Pattern.Written

/-!
# How a pattern divides a line

A line that matches a pattern is divided: the opening literal, then for every
placeholder what it takes and the literal after it.  `Divides` says which
divisions there are, with no word on how one is found.  There may be several,
where digits stand next to an integer, and `match_longest` states that matching
finds one exactly if there is one, and which: an earlier placeholder takes as much
as any division lets it take.

What looking for a piece comes to is said once, by `Finds`: a piece that is found
leaves a rest for which something is found, no longer piece does, and no piece at
all does when none is found.  `finds_slotThen?` establishes it for both kinds of
placeholders, and what `pieces?` finds follows from it alone.
-/

namespace ServiceHealth.Pattern

variable {α : Type}

/-! ## Divisions -/

/-- One or more decimal digits. -/
def IsDigits (cs : List Char) : Prop :=
  cs ≠ [] ∧ ∀ c ∈ cs, Text.isDecimalDigit c = true

/-- What a placeholder takes, as its piece and as the line writes it: a text without double
quotes stands between two of them, an integer is digits with an optional minus sign. -/
inductive Takes : Slot → (piece written : List Char) → Prop
  | text {inside : List Char} (unquoted : '"' ∉ inside) :
      Takes .text inside ('"' :: (inside ++ ['"']))
  | unsigned {digits : List Char} (digits_spec : IsDigits digits) : Takes .integer digits digits
  | negative {digits : List Char} (digits_spec : IsDigits digits) :
      Takes .integer ('-' :: digits) ('-' :: digits)

/-- The placeholders take these pieces of a line, and the literals after them take the rest. -/
inductive PartsDivide : List (Slot × List Char) → List (List Char) → List Char → Prop
  | nil : PartsDivide [] [] []
  | cons {slot : Slot} {literal piece written rest : List Char} {parts : List (Slot × List Char)}
      {pieces : List (List Char)} (taken : Takes slot piece written)
      (others : PartsDivide parts pieces rest) :
      PartsDivide ((slot, literal) :: parts) (piece :: pieces) (written ++ (literal ++ rest))

/-- The pattern divides a line in such a way that its placeholders take these pieces. -/
def Divides (pattern : Pattern) (pieces : List (List Char)) (line : List Char) : Prop :=
  ∃ rest, line = pattern.opening ++ rest ∧ PartsDivide pattern.parts pieces rest

/-- The first piece that differs in length from the piece of another division is the longer one. -/
def Outlasts (pieces others : List (List Char)) : Prop :=
  List.Lex (· > ·) (pieces.map List.length) (others.map List.length)

theorem length_of_partsDivide {parts : List (Slot × List Char)} {pieces : List (List Char)}
    {line : List Char} (h : PartsDivide parts pieces line) : pieces.length = parts.length := by
  induction h with
  | nil => rfl
  | cons _ _ ih => rw [List.length_cons, List.length_cons, ih]

theorem Outlasts.asymm {pieces others : List (List Char)} (h : Outlasts pieces others) :
    ¬ Outlasts others pieces :=
  List.lex_asymm (fun {_ _} hlt => Nat.lt_asymm hlt) h

/-! ## Literals -/

theorem dropLiteral?_eq_some_iff {literal line rest : List Char} :
    dropLiteral? literal line = some rest ↔ line = literal ++ rest := by
  induction literal generalizing line with
  | nil =>
      rw [dropLiteral?, Option.some.injEq, List.nil_append]
  | cons l literal ih =>
      cases line with
      | nil => simp [dropLiteral?]
      | cons c line =>
          by_cases hsame : l = c
          · subst hsame
            simp [dropLiteral?, ih]
          · simp [dropLiteral?, hsame, eq_comm]

/-! ## Looking for a piece -/

/-- A function that looks for a piece of a kind at the start of a line finds one, as long as
possible, exactly if it leaves a rest for which something is found. -/
structure Finds (takes : (piece written : List Char) → Prop)
    (find : (List Char → Option α) → List Char → Option (List Char × α)) : Prop where
  sound : ∀ {next line piece found}, find next line = some (piece, found) →
    ∃ written rest, line = written ++ rest ∧ takes piece written ∧ next rest = some found
  longest : ∀ {next line piece found written rest other}, find next line = some (piece, found) →
    line = written ++ rest → takes other written → next rest ≠ none →
    other.length < piece.length ∨ (other = piece ∧ next rest = some found)
  complete : ∀ {next line written rest other}, line = written ++ rest → takes other written →
    next rest ≠ none → find next line ≠ none

/-! ### Digits -/

theorem IsDigits.exists_cons {cs : List Char} (h : IsDigits cs) :
    ∃ c rest, cs = c :: rest ∧ Text.isDecimalDigit c = true := by
  obtain ⟨c, rest, rfl⟩ := List.exists_cons_of_ne_nil h.1
  exact ⟨c, rest, rfl, h.2 c List.mem_cons_self⟩

theorem IsDigits.tail {c : Char} {cs : List Char} (h : IsDigits (c :: cs)) (hcs : cs ≠ []) :
    IsDigits cs :=
  ⟨hcs, fun d hd => h.2 d (List.mem_cons_of_mem _ hd)⟩

theorem digitsThen?_complete {next : List Char → Option α} {digits rest : List Char}
    (hdigits : IsDigits digits) (hnext : next rest ≠ none) :
    digitsThen? next (digits ++ rest) ≠ none := by
  induction digits with
  | nil => exact absurd rfl hdigits.1
  | cons c cs ih =>
      have hc : Text.isDecimalDigit c = true := hdigits.2 c List.mem_cons_self
      rw [List.cons_append, digitsThen?, if_pos hc]
      cases hbelow : digitsThen? next (cs ++ rest) with
      | some pair => simp
      | none =>
          -- the digits after the first one would have been found
          have hcs : cs = [] := by
            by_contra hne
            exact ih (hdigits.tail hne) hbelow
          subst hcs
          simpa using hnext

theorem digitsThen?_sound {next : List Char → Option α} {line piece : List Char} {found : α}
    (h : digitsThen? next line = some (piece, found)) :
    ∃ rest, line = piece ++ rest ∧ IsDigits piece ∧ next rest = some found := by
  induction line generalizing piece with
  | nil => cases h
  | cons c line ih =>
      by_cases hc : Text.isDecimalDigit c = true
      · rw [digitsThen?, if_pos hc] at h
        cases hbelow : digitsThen? next line with
        | some pair =>
            obtain ⟨digits, found'⟩ := pair
            rw [hbelow] at h
            simp only [Option.some.injEq, Prod.mk.injEq] at h
            obtain ⟨rfl, rfl⟩ := h
            obtain ⟨rest, rfl, hdigits, hnext⟩ := ih hbelow
            refine ⟨rest, rfl, ⟨by simp, ?_⟩, hnext⟩
            intro d hd
            rcases List.mem_cons.mp hd with rfl | hd
            · exact hc
            · exact hdigits.2 d hd
        | none =>
            rw [hbelow] at h
            simp only [Option.map_eq_some_iff, Prod.mk.injEq] at h
            obtain ⟨found', hnext, rfl, rfl⟩ := h
            exact ⟨line, rfl, ⟨by simp, by simpa using hc⟩, hnext⟩
      · rw [digitsThen?, if_neg hc] at h
        cases h

theorem digitsThen?_longest {next : List Char → Option α} {line piece digits rest : List Char}
    {found : α} (h : digitsThen? next line = some (piece, found)) (hline : line = digits ++ rest)
    (hdigits : IsDigits digits) (hnext : next rest ≠ none) :
    digits.length < piece.length ∨ (digits = piece ∧ next rest = some found) := by
  induction digits generalizing line piece with
  | nil => exact absurd rfl hdigits.1
  | cons c cs ih =>
      subst hline
      have hc : Text.isDecimalDigit c = true := hdigits.2 c List.mem_cons_self
      rw [List.cons_append, digitsThen?, if_pos hc] at h
      cases hbelow : digitsThen? next (cs ++ rest) with
      | some pair =>
          obtain ⟨below, found'⟩ := pair
          rw [hbelow] at h
          simp only [Option.some.injEq, Prod.mk.injEq] at h
          obtain ⟨rfl, rfl⟩ := h
          obtain ⟨-, -, hsome, -⟩ := digitsThen?_sound hbelow
          by_cases hcs : cs = []
          · subst hcs
            exact .inl (by simpa [List.length_pos_iff] using hsome.1)
          · rcases ih hbelow rfl (hdigits.tail hcs) with hlt | ⟨rfl, hrest⟩
            · exact .inl (Nat.succ_lt_succ hlt)
            · exact .inr ⟨rfl, hrest⟩
      | none =>
          -- no digit more can be taken, so the digits are this one alone
          have hcs : cs = [] := by
            by_contra hne
            exact digitsThen?_complete (hdigits.tail hne) hnext hbelow
          subst hcs
          rw [hbelow, List.nil_append] at h
          simp only [Option.map_eq_some_iff, Prod.mk.injEq] at h
          obtain ⟨found', hfound, rfl, rfl⟩ := h
          exact .inr ⟨rfl, hfound⟩

/-! ### Texts -/

theorem insideThen?_cons_of_ne {next : List Char → Option α} {c : Char} (hc : c ≠ '"')
    (line : List Char) :
    insideThen? next (c :: line) =
      (insideThen? next line).map fun (inside, found) => (c :: inside, found) := by
  rw [insideThen?.eq_def]
  split
  · rename_i heq
    cases heq
  · rename_i heq
    injection heq with heq
    exact absurd heq hc
  · rename_i heq
    injection heq with hchar hline
    rw [hchar, hline]

theorem insideThen?_append {next : List Char → Option α} {inside rest : List Char}
    (hinside : '"' ∉ inside) :
    insideThen? next (inside ++ '"' :: rest) = (next rest).map fun found => (inside, found) := by
  induction inside with
  | nil => rfl
  | cons c cs ih =>
      have hc : c ≠ '"' := fun heq => hinside (heq ▸ List.mem_cons_self)
      have hcs : '"' ∉ cs := fun hmem => hinside (List.mem_cons_of_mem _ hmem)
      rw [List.cons_append, insideThen?_cons_of_ne hc, ih hcs, Option.map_map]
      rfl

theorem insideThen?_of_notMem {next : List Char → Option α} {line : List Char}
    (h : '"' ∉ line) : insideThen? next line = none := by
  induction line with
  | nil => rfl
  | cons c cs ih =>
      have hc : c ≠ '"' := fun heq => h (heq ▸ List.mem_cons_self)
      have hcs : '"' ∉ cs := fun hmem => h (List.mem_cons_of_mem _ hmem)
      rw [insideThen?_cons_of_ne hc, ih hcs, Option.map_none]

theorem textThen?_quoted {next : List Char → Option α} {inside rest : List Char}
    (hinside : '"' ∉ inside) :
    textThen? next ('"' :: (inside ++ ['"']) ++ rest) =
      (next rest).map fun found => (inside, found) := by
  rw [List.cons_append, List.append_assoc, List.singleton_append]
  exact insideThen?_append hinside

/-- There is only one way to read a text up to its closing quote. -/
theorem finds_textThen? : Finds (α := α) (Takes .text) textThen? where
  sound {next line piece found} h := by
    cases line with
    | nil => cases h
    | cons c line =>
        by_cases hc : c = '"'
        · subst hc
          -- the text ends at the first quote after the opening one
          by_cases hmem : '"' ∈ line
          · obtain ⟨inside, rest, rfl, hinside⟩ := List.eq_append_cons_of_mem hmem
            have hline : '"' :: (inside ++ '"' :: rest) = '"' :: (inside ++ ['"']) ++ rest := by
              simp
            rw [hline, textThen?_quoted hinside] at h
            simp only [Option.map_eq_some_iff, Prod.mk.injEq] at h
            obtain ⟨found', hnext, rfl, rfl⟩ := h
            exact ⟨_, rest, hline, .text hinside, hnext⟩
          · rw [textThen?, insideThen?_of_notMem hmem] at h
            cases h
        · rw [textThen?.eq_def] at h
          split at h
          · rename_i heq
            injection heq with heq
            exact absurd heq hc
          · cases h
  longest {next line piece found written rest other} h hline htakes hnext := by
    cases htakes with
    | text hinside =>
        subst hline
        rw [textThen?_quoted hinside] at h
        simp only [Option.map_eq_some_iff, Prod.mk.injEq] at h
        obtain ⟨found', hfound, rfl, rfl⟩ := h
        exact .inr ⟨rfl, hfound⟩
  complete {next line written rest other} hline htakes hnext := by
    cases htakes with
    | text hinside =>
        subst hline
        rw [textThen?_quoted hinside]
        simpa using hnext

/-! ### Integers -/

theorem ne_minus_of_isDecimalDigit {c : Char} (h : Text.isDecimalDigit c = true) : c ≠ '-' := by
  have hminus : Text.isDecimalDigit '-' = false := by decide
  rintro rfl
  rw [hminus] at h
  cases h

theorem integerThen?_of_isDigits {next : List Char → Option α} {digits rest : List Char}
    (h : IsDigits digits) :
    integerThen? next (digits ++ rest) = digitsThen? next (digits ++ rest) := by
  obtain ⟨c, cs, rfl, hc⟩ := h.exists_cons
  rw [List.cons_append, integerThen?.eq_def]
  split
  · rename_i heq
    injection heq with heq
    exact absurd heq (ne_minus_of_isDecimalDigit hc)
  · rfl

theorem finds_integerThen? : Finds (α := α) (Takes .integer) integerThen? where
  sound {next line piece found} h := by
    rw [integerThen?.eq_def] at h
    split at h
    · simp only [Option.map_eq_some_iff, Prod.mk.injEq, Prod.exists] at h
      obtain ⟨digits, found', hdigits, rfl, rfl⟩ := h
      obtain ⟨rest, rfl, hspec, hnext⟩ := digitsThen?_sound hdigits
      exact ⟨_, rest, rfl, .negative hspec, hnext⟩
    · obtain ⟨rest, rfl, hspec, hnext⟩ := digitsThen?_sound h
      exact ⟨_, rest, rfl, .unsigned hspec, hnext⟩
  longest {next line piece found written rest other} h hline htakes hnext := by
    subst hline
    cases htakes with
    | unsigned hspec =>
        rw [integerThen?_of_isDigits hspec] at h
        exact digitsThen?_longest h rfl hspec hnext
    | @negative digits hspec =>
        rw [List.cons_append, integerThen?] at h
        simp only [Option.map_eq_some_iff, Prod.mk.injEq, Prod.exists] at h
        obtain ⟨below, found', hbelow, rfl, rfl⟩ := h
        rcases digitsThen?_longest hbelow rfl hspec hnext with hlt | ⟨rfl, hfound⟩
        · exact .inl (Nat.succ_lt_succ hlt)
        · exact .inr ⟨rfl, hfound⟩
  complete {next line written rest other} hline htakes hnext := by
    subst hline
    cases htakes with
    | unsigned hspec =>
        rw [integerThen?_of_isDigits hspec]
        exact digitsThen?_complete hspec hnext
    | negative hspec =>
        rw [List.cons_append, integerThen?]
        simpa using digitsThen?_complete hspec hnext

theorem finds_slotThen? (slot : Slot) : Finds (α := α) (Takes slot) (slotThen? slot) := by
  cases slot with
  | text => exact finds_textThen?
  | integer => exact finds_integerThen?

/-! ## Dividing a line -/

/-- What is found after a literal. -/
theorem bind_dropLiteral?_eq_some_iff {literal line : List Char} {next : List Char → Option α}
    {found : α} :
    (dropLiteral? literal line).bind next = some found ↔
      ∃ rest, line = literal ++ rest ∧ next rest = some found := by
  simp only [Option.bind_eq_some_iff, dropLiteral?_eq_some_iff]

theorem partsDivide_of_pieces? {parts : List (Slot × List Char)} {line : List Char}
    {pieces : List (List Char)} (h : pieces? parts line = some pieces) :
    PartsDivide parts pieces line := by
  induction parts generalizing line pieces with
  | nil =>
      rw [pieces?] at h
      split at h
      · rename_i hempty
        cases h
        rw [List.isEmpty_iff.mp hempty]
        exact .nil
      · cases h
  | cons part parts ih =>
      obtain ⟨slot, literal⟩ := part
      rw [pieces?] at h
      simp only [Option.map_eq_some_iff, Prod.exists] at h
      obtain ⟨piece, others, hfound, rfl⟩ := h
      obtain ⟨written, rest, rfl, htakes, hnext⟩ := (finds_slotThen? slot).sound hfound
      obtain ⟨after, rfl, hafter⟩ := bind_dropLiteral?_eq_some_iff.mp hnext
      exact .cons htakes (ih hafter)

theorem pieces?_ne_none {parts : List (Slot × List Char)} {line : List Char}
    {pieces : List (List Char)} (h : PartsDivide parts pieces line) :
    pieces? parts line ≠ none := by
  induction h with
  | nil => simp [pieces?]
  | @cons slot literal piece written rest parts pieces taken others ih =>
      obtain ⟨found, hfound⟩ := Option.ne_none_iff_exists'.mp ih
      have hnext : (dropLiteral? literal (literal ++ rest)).bind (pieces? parts) ≠ none := by
        rw [bind_dropLiteral?_eq_some_iff.mpr ⟨rest, rfl, hfound⟩]
        simp
      have hslot : slotThen? slot (fun tail => (dropLiteral? literal tail).bind (pieces? parts))
          (written ++ (literal ++ rest)) ≠ none :=
        (finds_slotThen? slot).complete rfl taken hnext
      rw [pieces?]
      simpa using hslot

/-- The pieces that are found are those of a longest division. -/
theorem eq_or_outlasts_of_pieces? {parts : List (Slot × List Char)} {line : List Char}
    {pieces others : List (List Char)} (h : pieces? parts line = some pieces)
    (hothers : PartsDivide parts others line) : others = pieces ∨ Outlasts pieces others := by
  induction hothers generalizing pieces with
  | nil =>
      simp only [pieces?, List.isEmpty_nil, if_true, Option.some.injEq] at h
      exact .inl h
  | @cons slot literal other written rest parts others taken hrest ih =>
      rw [pieces?] at h
      simp only [Option.map_eq_some_iff, Prod.exists] at h
      obtain ⟨piece, after, hfound, rfl⟩ := h
      obtain ⟨found, hbelow⟩ := Option.ne_none_iff_exists'.mp (pieces?_ne_none hrest)
      have hnext : (dropLiteral? literal (literal ++ rest)).bind (pieces? parts) = some found :=
        bind_dropLiteral?_eq_some_iff.mpr ⟨rest, rfl, hbelow⟩
      -- the first placeholder decides, unless both divisions give it the same
      rcases (finds_slotThen? slot).longest hfound rfl taken (by rw [hnext]; simp) with
        hlt | ⟨rfl, hsame⟩
      · exact .inr (.rel hlt)
      · rw [hnext, Option.some.injEq] at hsame
        subst hsame
        rcases ih hbelow with rfl | hlex
        · exact .inl rfl
        · exact .inr (.cons hlex)

/-- Matching finds a division exactly if there is one. -/
theorem accepts_iff {pattern : Pattern} {line : String} :
    pattern.accepts line = true ↔ ∃ pieces, pattern.Divides pieces line.toList := by
  rw [accepts, match?_eq]
  constructor
  · intro h
    obtain ⟨pieces, hpieces⟩ := Option.isSome_iff_exists.mp h
    obtain ⟨rest, hline, hrest⟩ := bind_dropLiteral?_eq_some_iff.mp hpieces
    exact ⟨pieces, rest, hline, partsDivide_of_pieces? hrest⟩
  · rintro ⟨pieces, rest, hline, hparts⟩
    obtain ⟨found, hfound⟩ := Option.ne_none_iff_exists'.mp (pieces?_ne_none hparts)
    rw [bind_dropLiteral?_eq_some_iff.mpr ⟨rest, hline, hfound⟩]
    rfl

theorem divides_of_match? {pattern : Pattern} {line : String} {pieces : List (List Char)}
    (h : pattern.match? line = some pieces) : pattern.Divides pieces line.toList := by
  rw [match?_eq] at h
  obtain ⟨rest, hline, hrest⟩ := bind_dropLiteral?_eq_some_iff.mp h
  exact ⟨rest, hline, partsDivide_of_pieces? hrest⟩

theorem eq_or_outlasts_of_match? {pattern : Pattern} {line : String}
    {pieces others : List (List Char)} (h : pattern.match? line = some pieces)
    (hothers : pattern.Divides others line.toList) : others = pieces ∨ Outlasts pieces others := by
  rw [match?_eq] at h
  obtain ⟨rest, hline, hrest⟩ := bind_dropLiteral?_eq_some_iff.mp h
  obtain ⟨rest', hline', hparts⟩ := hothers
  have hsame : rest' = rest := List.append_cancel_left (hline'.symm.trans hline)
  subst hsame
  exact eq_or_outlasts_of_pieces? hrest hparts

/-- Matching finds the longest division. -/
theorem match?_eq_some_iff {pattern : Pattern} {line : String} {pieces : List (List Char)} :
    pattern.match? line = some pieces ↔
      pattern.Divides pieces line.toList ∧
        ∀ others, pattern.Divides others line.toList →
          others = pieces ∨ Outlasts pieces others := by
  constructor
  · intro h
    exact ⟨divides_of_match? h, fun others hothers => eq_or_outlasts_of_match? h hothers⟩
  · rintro ⟨hdivides, hlongest⟩
    obtain ⟨found, hfound⟩ := Option.isSome_iff_exists.mp (accepts_iff.mpr ⟨pieces, hdivides⟩)
    have hpieces : pieces = found := by
      rcases eq_or_outlasts_of_match? hfound hdivides with hsame | hshorter
      · exact hsame
      · rcases hlongest found (divides_of_match? hfound) with hsame | hlonger
        · exact hsame.symm
        · exact absurd hlonger hshorter.asymm
    rw [hpieces]
    exact hfound

theorem length_of_divides {pattern : Pattern} {pieces : List (List Char)} {line : List Char}
    (h : pattern.Divides pieces line) : pieces.length = pattern.slots.length := by
  obtain ⟨rest, -, hparts⟩ := h
  rw [length_of_partsDivide hparts, slots, List.length_map]

/-- A pattern that is accepted is literals with placeholders between them.  A line matches it
exactly if it can be divided, and then the captured pieces, one for every placeholder, are those
of the division in which earlier placeholders take as much as possible. -/
theorem match_longest {source : String} {pattern : Pattern}
    (hread : Pattern.read source = .ok pattern) :
    (source.toList = pattern.written ∧ pattern.HasLiterals) ∧
    (∀ line, pattern.accepts line = true ↔ ∃ pieces, pattern.Divides pieces line.toList) ∧
    ∀ line pieces, pattern.match? line = some pieces ↔
      pieces.length = pattern.slots.length ∧ pattern.Divides pieces line.toList ∧
        ∀ others, pattern.Divides others line.toList →
          others = pieces ∨ Outlasts pieces others := by
  refine ⟨(read_eq_ok_iff.mp hread).2, fun line => accepts_iff, fun line pieces => ?_⟩
  rw [match?_eq_some_iff]
  constructor
  · rintro ⟨hdivides, hlongest⟩
    exact ⟨length_of_divides hdivides, hdivides, hlongest⟩
  · rintro ⟨-, hdivides, hlongest⟩
    exact ⟨hdivides, hlongest⟩

/-- Of three digits for two integers the first integer takes two, and every other way to divide
them gives it less; the last digit need not be an ASCII one. -/
theorem match_longest_of_adjacent :
    Pattern.read "port \x7bint\x7d\x7bint\x7d" =
        .ok ⟨"port \x7bint\x7d\x7bint\x7d", "port ".toList, [(.integer, []), (.integer, [])]⟩ ∧
      ∀ others, Divides
          ⟨"port \x7bint\x7d\x7bint\x7d", "port ".toList, [(.integer, []), (.integer, [])]⟩ others
          "port 12\u0663".toList →
        others = [['1', '2'], ['\u0663']] ∨ Outlasts [['1', '2'], ['\u0663']] others := by
  have hread : Pattern.read "port \x7bint\x7d\x7bint\x7d" =
      .ok ⟨"port \x7bint\x7d\x7bint\x7d", "port ".toList, [(.integer, []), (.integer, [])]⟩ :=
    read_eq_ok_iff.mpr ⟨rfl, by decide, by decide⟩
  exact ⟨hread, (((match_longest hread).2.2 "port 12\u0663" _).mp (by decide)).2.2⟩

end ServiceHealth.Pattern
