import ServiceHealth.Feature.Reader

/-!
# How readers go on

A reader that matches goes on in the text: what it has read lies between the place where it started
and the place where it stops, and the number of the line counts the line ends in it.  `Advances`
says so, and every way in which readers are put together preserves it.

A reader that was put together has matched because its parts have.  `bind_eq_matched_iff` and
`orElse_eq_matched_iff` open what was put together, and `exists_of_mem_many` and
`exists_of_mem_separated` find the place at which a value of a list was read.
-/

namespace ServiceHealth.Feature

/-! ## Places -/

/-- From one place in a text to a later one. -/
def Cursor.Reaches (start stop : Cursor) : Prop :=
  ∃ read, start.rest = read ++ stop.rest ∧ stop.line = start.line + read.count '\n'

namespace Cursor

variable {start middle stop : Cursor}

theorem Reaches.refl (cursor : Cursor) : cursor.Reaches cursor :=
  ⟨[], rfl, rfl⟩

theorem Reaches.trans (hfirst : start.Reaches middle) (hsecond : middle.Reaches stop) :
    start.Reaches stop := by
  obtain ⟨first, hrest, hline⟩ := hfirst
  obtain ⟨second, hrest', hline'⟩ := hsecond
  refine ⟨first ++ second, ?_, ?_⟩
  · rw [hrest, hrest', List.append_assoc]
  · rw [hline', hline, List.count_append, Nat.add_assoc]

/-- The place after characters that stand here. -/
theorem reaches_after {read : List Char} (h : read <+: start.rest) :
    start.Reaches (start.after read) := by
  obtain ⟨rest, hrest⟩ := h
  refine ⟨read, ?_, rfl⟩
  rw [after, ← hrest, List.drop_left]

end Cursor

namespace Reader

variable {α β : Type} {first second reader : Reader α} {next : α → Reader β} {separator : Reader β}
  {start stop : Cursor}

/-! ## What has matched -/

theorem pure_eq_matched_iff {value result : α} :
    (pure value : Reader α) start = .matched result stop ↔ value = result ∧ start = stop := by
  constructor
  · intro h
    injection h with hvalue hstop
    exact ⟨hvalue, hstop⟩
  · rintro ⟨rfl, rfl⟩
    rfl

theorem bind_of_matched {value : α} {middle : Cursor} (h : reader start = .matched value middle) :
    (reader >>= next) start = next value middle := by
  simp only [bind, h]

theorem bind_of_noMatch (h : reader start = .noMatch) : (reader >>= next) start = .noMatch := by
  simp only [bind, h]

theorem bind_of_invalid (h : reader start = .invalid) : (reader >>= next) start = .invalid := by
  simp only [bind, h]

theorem bind_eq_matched_iff {result : β} :
    (reader >>= next) start = .matched result stop ↔
      ∃ value middle, reader start = .matched value middle ∧
        next value middle = .matched result stop := by
  constructor
  · intro h
    cases hreader : reader start with
    | matched value middle =>
        rw [bind_of_matched hreader] at h
        exact ⟨value, middle, rfl, h⟩
    | noMatch =>
        rw [bind_of_noMatch hreader] at h
        cases h
    | invalid =>
        rw [bind_of_invalid hreader] at h
        cases h
  · rintro ⟨value, middle, hreader, hnext⟩
    rw [bind_of_matched hreader]
    exact hnext

theorem orElse_of_noMatch (h : first start = .noMatch) :
    (first <|> second) start = second start := by
  simp only [HOrElse.hOrElse, OrElse.orElse, Reader.orElse, h]

theorem orElse_of_ne_noMatch (h : first start ≠ .noMatch) :
    (first <|> second) start = first start := by
  cases hfirst : first start with
  | noMatch => exact absurd hfirst h
  | matched value middle => simp only [HOrElse.hOrElse, OrElse.orElse, Reader.orElse, hfirst]
  | invalid => simp only [HOrElse.hOrElse, OrElse.orElse, Reader.orElse, hfirst]

/-- The second alternative matches only where the first does not. -/
theorem orElse_eq_matched_iff {value : α} :
    (first <|> second) start = .matched value stop ↔
      first start = .matched value stop ∨
        (first start = .noMatch ∧ second start = .matched value stop) := by
  by_cases hfirst : first start = .noMatch
  · rw [orElse_of_noMatch hfirst, hfirst]
    simp
  · rw [orElse_of_ne_noMatch hfirst]
    simp [hfirst]

theorem optional_eq_matched_iff {value : Option α} :
    reader.optional start = .matched value stop ↔
      (∃ result, reader start = .matched result stop ∧ some result = value) ∨
        (reader start = .noMatch ∧ none = value ∧ start = stop) := by
  have hfails : (do let value ← reader; return some value : Reader (Option α)) start = .noMatch ↔
      reader start = .noMatch := by
    cases hreader : reader start with
    | matched value middle =>
        rw [bind_of_matched hreader]
        exact ⟨nofun, nofun⟩
    | noMatch => simp [bind_of_noMatch hreader]
    | invalid => simp [bind_of_invalid hreader]
  rw [optional, orElse_eq_matched_iff, hfails, pure_eq_matched_iff, bind_eq_matched_iff]
  simp only [pure_eq_matched_iff]
  constructor
  · rintro (⟨result, middle, hreader, hvalue, rfl⟩ | hnone)
    · exact .inl ⟨result, hreader, hvalue⟩
    · exact .inr hnone
  · rintro (⟨result, hreader, hvalue⟩ | hnone)
    · exact .inl ⟨result, stop, hreader, hvalue, rfl⟩
    · exact .inr hnone

/-! ## Going on -/

/-- Whenever the reader matches, it goes on from where it started. -/
def Advances (reader : Reader α) : Prop :=
  ∀ ⦃start value stop⦄, reader start = .matched value stop → start.Reaches stop

theorem advances_pure (value : α) : Advances (pure value) := by
  intro start result stop h
  obtain ⟨-, rfl⟩ := pure_eq_matched_iff.mp h
  exact .refl start

theorem advances_refuse : Advances (refuse : Reader α) :=
  fun _ _ _ h => nomatch h

theorem advances_abort : Advances (abort : Reader α) :=
  fun _ _ _ h => nomatch h

theorem Advances.bind (hreader : Advances reader) (hnext : ∀ value, Advances (next value)) :
    Advances (reader >>= next) := by
  intro start result stop h
  obtain ⟨value, middle, hfirst, hrest⟩ := bind_eq_matched_iff.mp h
  exact (hreader hfirst).trans (hnext value hrest)

theorem Advances.orElse (hfirst : Advances first) (hsecond : Advances second) :
    Advances (first <|> second) := by
  intro start value stop h
  rcases orElse_eq_matched_iff.mp h with h | ⟨-, h⟩
  · exact hfirst h
  · exact hsecond h

theorem Advances.optional (h : Advances reader) : Advances reader.optional :=
  (h.bind fun _ => advances_pure _).orElse (advances_pure _)

theorem advances_absent (reader : Reader α) : Advances reader.absent := by
  intro start value stop h
  unfold absent at h
  cases hreader : reader start with
  | matched other middle =>
      rw [hreader] at h
      cases h
  | noMatch =>
      rw [hreader] at h
      injection h with _ hstop
      rw [← hstop]
      exact .refl start
  | invalid =>
      rw [hreader] at h
      cases h

theorem Advances.repeated (h : Advances reader) (limit : List Char) :
    Advances (reader.repeated limit) := by
  induction limit with
  | nil => exact advances_pure _
  | cons c limit ih =>
      exact (h.bind fun _ => ih.bind fun _ => advances_pure _).orElse (advances_pure _)

theorem Advances.many (h : Advances reader) : Advances reader.many :=
  fun start _ _ hmatched => h.repeated ('\n' :: start.rest) hmatched

theorem Advances.separated1 (h : Advances reader) (hseparator : Advances separator) :
    Advances (reader.separated1 separator) :=
  h.bind fun _ => (hseparator.bind fun _ => h).many.bind fun _ => advances_pure _

theorem Advances.separated (h : Advances reader) (hseparator : Advances separator) :
    Advances (reader.separated separator) :=
  (h.separated1 hseparator).orElse (advances_pure _)

theorem advances_lineNumber : Advances lineNumber := by
  intro start number stop h
  injection h with _ hstop
  rw [← hstop]
  exact .refl start

theorem advances_run (accepts : Char → Bool) : Advances (run accepts) := by
  intro start read stop h
  injection h with _ hstop
  rw [← hstop]
  exact Cursor.reaches_after (List.takeWhile_prefix _)

theorem advances_run1 (accepts : Char → Bool) : Advances (run1 accepts) := by
  refine (advances_run accepts).bind fun read => ?_
  split
  · exact advances_refuse
  · exact advances_pure read

theorem exactly_eq_matched {text : String} {value : Unit}
    (h : exactly text start = .matched value stop) :
    start.rest = text.toList ++ stop.rest ∧ stop.line = start.line + text.toList.count '\n' := by
  unfold exactly at h
  split at h
  · rename_i hprefix
    injection h with _ hstop
    obtain ⟨rest, hrest⟩ := List.isPrefixOf_iff_prefix.mp hprefix
    rw [← hstop, Cursor.after, ← hrest, List.drop_left]
    exact ⟨rfl, rfl⟩
  · cases h

theorem advances_exactly (text : String) : Advances (exactly text) :=
  fun _ _ _ h => ⟨text.toList, exactly_eq_matched h⟩

theorem advances_anyChar : Advances anyChar := by
  intro start c stop h
  unfold anyChar at h
  cases hrest : start.rest with
  | nil =>
      rw [hrest] at h
      cases h
  | cons first rest =>
      rw [hrest] at h
      injection h with _ hstop
      rw [← hstop]
      apply Cursor.reaches_after
      rw [hrest]
      exact ⟨rest, rfl⟩

theorem advances_finish : Advances finish := by
  intro start value stop h
  unfold finish at h
  split at h
  · injection h with _ hstop
    rw [← hstop]
    exact .refl start
  · cases h

/-! ## Values of lists -/

/-- A value of a repetition was read somewhere on the way. -/
theorem exists_of_mem_repeated (hreader : Advances reader) {limit : List Char} {values : List α}
    (h : reader.repeated limit start = .matched values stop) {value : α} (hmem : value ∈ values) :
    ∃ place after, start.Reaches place ∧ reader place = .matched value after := by
  induction limit generalizing start values stop with
  | nil =>
      obtain ⟨rfl, -⟩ := pure_eq_matched_iff.mp h
      cases hmem
  | cons c limit ih =>
      rcases orElse_eq_matched_iff.mp h with h | ⟨-, h⟩
      · obtain ⟨first, middle, hfirst, h⟩ := bind_eq_matched_iff.mp h
        obtain ⟨others, last, hothers, h⟩ := bind_eq_matched_iff.mp h
        obtain ⟨rfl, -⟩ := pure_eq_matched_iff.mp h
        rcases List.mem_cons.mp hmem with rfl | hmem
        · exact ⟨start, middle, .refl start, hfirst⟩
        · obtain ⟨place, after, hplace, hvalue⟩ := ih hothers hmem
          exact ⟨place, after, (hreader hfirst).trans hplace, hvalue⟩
      · obtain ⟨rfl, -⟩ := pure_eq_matched_iff.mp h
        cases hmem

theorem exists_of_mem_many (hreader : Advances reader) {values : List α}
    (h : reader.many start = .matched values stop) {value : α} (hmem : value ∈ values) :
    ∃ place after, start.Reaches place ∧ reader place = .matched value after :=
  exists_of_mem_repeated hreader h hmem

theorem repeated_ne_noMatch (reader : Reader α) (limit : List Char) :
    reader.repeated limit start ≠ .noMatch := by
  cases limit with
  | nil => exact nofun
  | cons c limit =>
      intro h
      by_cases hfirst : (do
          let value ← reader
          let values ← reader.repeated limit
          return value :: values) start = Reply.noMatch
      · rw [repeated, orElse_of_noMatch hfirst] at h
        cases h
      · rw [repeated, orElse_of_ne_noMatch hfirst] at h
        exact hfirst h

/-- A repetition is empty exactly if there is nothing to read where it starts. -/
theorem eq_nil_iff_of_many {values : List α} (h : reader.many start = .matched values stop) :
    values = [] ↔ reader start = .noMatch := by
  rcases orElse_eq_matched_iff.mp h with h | ⟨hfirst, h⟩
  · obtain ⟨value, middle, hreader, h⟩ := bind_eq_matched_iff.mp h
    obtain ⟨others, last, -, h⟩ := bind_eq_matched_iff.mp h
    obtain ⟨rfl, -⟩ := pure_eq_matched_iff.mp h
    rw [hreader]
    exact ⟨nofun, nofun⟩
  · obtain ⟨rfl, -⟩ := pure_eq_matched_iff.mp h
    refine ⟨fun _ => ?_, fun _ => rfl⟩
    cases hreader : reader start with
    | noMatch => rfl
    | invalid =>
        rw [bind_of_invalid hreader] at hfirst
        cases hfirst
    | matched value middle =>
        -- what is read is kept, since the repetition behind it always matches
        rw [bind_of_matched hreader] at hfirst
        cases hrest : reader.repeated start.rest middle with
        | matched others last =>
            rw [bind_of_matched hrest] at hfirst
            cases hfirst
        | noMatch => exact absurd hrest (repeated_ne_noMatch reader start.rest)
        | invalid =>
            rw [bind_of_invalid hrest] at hfirst
            cases hfirst

/-- A value among separators was read somewhere on the way. -/
theorem exists_of_mem_separated (hreader : Advances reader) (hseparator : Advances separator)
    {values : List α} (h : reader.separated separator start = .matched values stop) {value : α}
    (hmem : value ∈ values) :
    ∃ place after, start.Reaches place ∧ reader place = .matched value after := by
  rcases orElse_eq_matched_iff.mp h with h | ⟨-, h⟩
  · obtain ⟨first, middle, hfirst, h⟩ := bind_eq_matched_iff.mp h
    obtain ⟨others, last, hothers, h⟩ := bind_eq_matched_iff.mp h
    obtain ⟨rfl, -⟩ := pure_eq_matched_iff.mp h
    rcases List.mem_cons.mp hmem with rfl | hmem
    · exact ⟨start, middle, .refl start, hfirst⟩
    · obtain ⟨place, after, hplace, hpair⟩ :=
        exists_of_mem_many (hseparator.bind fun _ => hreader) hothers hmem
      obtain ⟨_, inner, hbetween, hvalue⟩ := bind_eq_matched_iff.mp hpair
      exact ⟨inner, after, (hreader hfirst).trans (hplace.trans (hseparator hbetween)), hvalue⟩
  · obtain ⟨rfl, -⟩ := pure_eq_matched_iff.mp h
    cases hmem

end Reader

end ServiceHealth.Feature
