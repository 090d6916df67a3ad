import ServiceHealth.Proofs.Text.Cutting
import ServiceHealth.Proofs.Text.Numerals
import ServiceHealth.Proofs.Text.Trimming
import ServiceHealth.Settings.Port

/-!
# Ports as the environment writes them

The value of a raw text is what stands in front of its comment, without the blanks around
it.  It writes a port if it is a numeral, with a plus sign in front or without one, whose
number is one of a port; `Reading` says what comes of a text in each case.

`ofRaw_reads_ports` states that every text is read in this way, and so blanks around the
decimal form of a port and a comment behind it make no difference.
-/

namespace ServiceHealth.Settings.Port

/-! ## The value of a raw text -/

/-- What stands in front of the comment, or the whole text if it has none. -/
def IsBeforeComment (raw front : List Char) : Prop :=
  '#' ∉ front ∧ (raw = front ∨ ∃ comment, raw = front ++ '#' :: comment)

/-- What stands in front of the comment, without the blanks around it. -/
def IsValueOf (value : List Char) (raw : String) : Prop :=
  ∃ front, IsBeforeComment raw.toList front ∧ Text.IsCore front value

theorem isValueOf_iff {value : List Char} {raw : String} :
    IsValueOf value raw ↔ value = significant raw := by
  simp only [IsValueOf, IsBeforeComment, ← Text.eq_takeWhile_ne_iff, Text.isCore_iff,
    exists_eq_left, significant]

/-! ## What writes a port -/

/-- A numeral, with a plus sign in front or without one, writes this port. -/
inductive IsWrittenBy (port : Port) : List Char → Prop
  | unsigned {digits : List Char} (numeral : Text.IsNumeral digits)
      (number : port.number = Text.positionalValue digits) : IsWrittenBy port digits
  | positive {digits : List Char} (numeral : Text.IsNumeral digits)
      (number : port.number = Text.positionalValue digits) : IsWrittenBy port ('+' :: digits)

theorem ofNat?_eq_some_iff {n : Nat} {port : Port} : ofNat? n = some port ↔ port.number = n := by
  constructor
  · intro h
    unfold ofNat? at h
    split at h
    · injection h with hport
      rw [← hport]
    · cases h
  · rintro rfl
    exact dif_pos port.number_lt

theorem bind_numeral?_eq_some_iff {digits : List Char} {port : Port} :
    (Text.numeral? digits).bind ofNat? = some port ↔
      Text.IsNumeral digits ∧ port.number = Text.positionalValue digits := by
  simp only [Option.bind_eq_some_iff, Text.numeral?_eq_some_iff, ofNat?_eq_some_iff]
  constructor
  · rintro ⟨n, ⟨hnumeral, rfl⟩, hnumber⟩
    exact ⟨hnumeral, hnumber⟩
  · rintro ⟨hnumeral, hnumber⟩
    exact ⟨_, ⟨hnumeral, rfl⟩, hnumber⟩

theorem isNumeral_head?_ne_plus {digits : List Char} (h : Text.IsNumeral digits) :
    digits.head? ≠ some '+' := by
  intro hhead
  have hplus := h.2 '+' (List.mem_of_mem_head? hhead)
  exact absurd hplus (by decide)

theorem ofNumeral?_eq_some_iff {cs : List Char} {port : Port} :
    ofNumeral? cs = some port ↔ port.IsWrittenBy cs := by
  unfold ofNumeral?
  split
  · rename_i digits
    rw [bind_numeral?_eq_some_iff]
    constructor
    · rintro ⟨hnumeral, hnumber⟩
      exact .positive hnumeral hnumber
    · intro h
      cases h with
      | unsigned hnumeral => exact absurd rfl (isNumeral_head?_ne_plus hnumeral)
      | positive hnumeral hnumber => exact ⟨hnumeral, hnumber⟩
  · rename_i hplus
    rw [bind_numeral?_eq_some_iff]
    constructor
    · rintro ⟨hnumeral, hnumber⟩
      exact .unsigned hnumeral hnumber
    · intro h
      cases h with
      | unsigned hnumeral hnumber => exact ⟨hnumeral, hnumber⟩
      | positive => exact absurd rfl (hplus _)

/-! ## Reading a raw text -/

/-- What comes of a raw text: its value writes a port, is empty, or writes none. -/
inductive Reading (raw : String) : Except Error Port → Prop
  | port {value : List Char} {port : Port} (isValue : IsValueOf value raw)
      (written : port.IsWrittenBy value) : Reading raw (.ok port)
  | empty (isValue : IsValueOf [] raw) : Reading raw (.error (.setup (.portEmpty raw)))
  | invalid {value : List Char} (isValue : IsValueOf value raw) (nonempty : value ≠ [])
      (unwritten : ∀ port : Port, ¬ port.IsWrittenBy value) :
      Reading raw (.error (.setup (.portInvalid (String.ofList value) raw)))

theorem not_isWrittenBy_nil (port : Port) : ¬ port.IsWrittenBy [] := by
  intro h
  cases h with
  | unsigned hnumeral => exact hnumeral.1 rfl

theorem ofRaw_of_empty {raw : String} (h : significant raw = []) :
    ofRaw raw = .error (.setup (.portEmpty raw)) := by
  simp only [ofRaw, h, List.isEmpty_nil, if_true]

theorem ofRaw_of_nonempty {raw : String} (h : significant raw ≠ []) :
    ofRaw raw =
      match ofNumeral? (significant raw) with
      | some port => .ok port
      | none => .error (.setup (.portInvalid (String.ofList (significant raw)) raw)) := by
  unfold ofRaw
  exact if_neg (List.isEmpty_iff.not.mpr h)

theorem reading_ofRaw (raw : String) : Reading raw (ofRaw raw) := by
  have hvalue : IsValueOf (significant raw) raw := isValueOf_iff.mpr rfl
  by_cases hempty : significant raw = []
  · rw [ofRaw_of_empty hempty]
    exact .empty (hempty ▸ hvalue)
  · rw [ofRaw_of_nonempty hempty]
    cases hport : ofNumeral? (significant raw) with
    | some port => exact .port hvalue (ofNumeral?_eq_some_iff.mp hport)
    | none =>
        refine .invalid hvalue hempty fun port hwritten => ?_
        rw [ofNumeral?_eq_some_iff.mpr hwritten] at hport
        cases hport

/-- Every raw text is read in one way. -/
theorem ofRaw_eq_iff_reading {raw : String} {result : Except Error Port} :
    ofRaw raw = result ↔ Reading raw result := by
  constructor
  · rintro rfl
    exact reading_ofRaw raw
  · intro h
    cases h with
    | port hvalue hwritten =>
        obtain rfl := isValueOf_iff.mp hvalue
        have hempty : significant raw ≠ [] := fun hnil => not_isWrittenBy_nil _ (hnil ▸ hwritten)
        rw [ofRaw_of_nonempty hempty, ofNumeral?_eq_some_iff.mpr hwritten]
    | empty hvalue => exact ofRaw_of_empty (isValueOf_iff.mp hvalue).symm
    | invalid hvalue hempty hunwritten =>
        obtain rfl := isValueOf_iff.mp hvalue
        have hnone : ofNumeral? (significant raw) = none := by
          rw [Option.eq_none_iff_forall_ne_some]
          exact fun port hport => hunwritten port (ofNumeral?_eq_some_iff.mp hport)
        rw [ofRaw_of_nonempty hempty, hnone]

theorem ofRaw_eq_ok_iff {raw : String} {port : Port} :
    ofRaw raw = .ok port ↔ ∃ value, IsValueOf value raw ∧ port.IsWrittenBy value := by
  rw [ofRaw_eq_iff_reading]
  constructor
  · intro h
    cases h with
    | port hvalue hwritten => exact ⟨_, hvalue, hwritten⟩
  · rintro ⟨value, hvalue, hwritten⟩
    exact .port hvalue hwritten

/-! ## The decimal form of a port -/

/-- The decimal form of a port, with other text in front of it and behind it. -/
def between (front : String) (port : Port) (back : String) : String :=
  front ++ toString port.number ++ back

theorem isBlank_of_isAsciiDigit {c : Char} (h : Text.isAsciiDigit c = true) :
    Text.isBlank c = false := by
  simp only [Text.isAsciiDigit, Bool.and_eq_true, decide_eq_true_eq, Char.le_def] at h
  have hlow : 0x30 ≤ c.toNat := h.1
  have hhigh : c.toNat ≤ 0x39 := h.2
  simp [Text.isBlank]
  omega

theorem isWrittenBy_toDigits (port : Port) : port.IsWrittenBy (Nat.toDigits 10 port.number) :=
  .unsigned (Text.isNumeral_toDigits port.number) (Text.positionalValue_toDigits port.number).symm

theorem comment_notMem_of_allBlank {cs : List Char} (h : Text.AllBlank cs) : '#' ∉ cs :=
  fun hmem => absurd (h '#' hmem) (by decide)

section Between

variable {front back : String} (port : Port)

theorem isCore_between (hfront : Text.AllBlank front.toList) (hback : Text.AllBlank back.toList) :
    Text.IsCore (between front port back).toList (Nat.toDigits 10 port.number) where
  surrounded := ⟨front.toList, back.toList, by simp [between], hfront, hback⟩
  head c hc := isBlank_of_isAsciiDigit
    ((Text.isNumeral_toDigits port.number).2 c (List.mem_of_mem_head? hc))
  last c hc := isBlank_of_isAsciiDigit
    ((Text.isNumeral_toDigits port.number).2 c (List.mem_of_mem_getLast? hc))

theorem comment_notMem_between (hfront : Text.AllBlank front.toList)
    (hback : Text.AllBlank back.toList) : '#' ∉ (between front port back).toList := by
  have hdigits : '#' ∉ Nat.toDigits 10 port.number :=
    fun hmem => absurd ((Text.isNumeral_toDigits port.number).2 '#' hmem) (by decide)
  simp [between, comment_notMem_of_allBlank hfront, comment_notMem_of_allBlank hback, hdigits]

/-- Blanks around the decimal form of a port make no difference. -/
theorem ofRaw_between (hfront : Text.AllBlank front.toList) (hback : Text.AllBlank back.toList) :
    ofRaw (between front port back) = .ok port :=
  ofRaw_eq_ok_iff.mpr ⟨_, ⟨_, ⟨comment_notMem_between port hfront hback, .inl rfl⟩,
    isCore_between port hfront hback⟩, isWrittenBy_toDigits port⟩

/-- Nor does a comment behind them. -/
theorem ofRaw_between_append_comment (hfront : Text.AllBlank front.toList)
    (hback : Text.AllBlank back.toList) (comment : String) :
    ofRaw (between front port back ++ "#" ++ comment) = .ok port := by
  have hraw : (between front port back ++ "#" ++ comment).toList =
      (between front port back).toList ++ '#' :: comment.toList := by
    simp
  exact ofRaw_eq_ok_iff.mpr ⟨_, ⟨_, ⟨comment_notMem_between port hfront hback, .inr ⟨_, hraw⟩⟩,
    isCore_between port hfront hback⟩, isWrittenBy_toDigits port⟩

end Between

/-- What raw texts are read as. -/
structure ReadsPorts : Prop where
  /-- A text is read by its value: as the port that it writes, as empty, or as no port. -/
  reading : ∀ (raw : String) (result : Except Error Port),
    ofRaw raw = result ↔ Reading raw result
  /-- Every port can be written in decimal digits, with blanks around them. -/
  decimal : ∀ (front back : String) (port : Port), Text.AllBlank front.toList →
    Text.AllBlank back.toList → ofRaw (between front port back) = .ok port
  /-- And with a comment behind them. -/
  commented : ∀ (front back comment : String) (port : Port), Text.AllBlank front.toList →
    Text.AllBlank back.toList → ofRaw (between front port back ++ "#" ++ comment) = .ok port

/-- Every raw text is read by its value, and every port by its decimal form. -/
theorem ofRaw_reads_ports : ReadsPorts where
  reading _ _ := ofRaw_eq_iff_reading
  decimal _ _ port hfront hback := ofRaw_between port hfront hback
  commented _ _ comment port hfront hback := ofRaw_between_append_comment port hfront hback comment

end ServiceHealth.Settings.Port
