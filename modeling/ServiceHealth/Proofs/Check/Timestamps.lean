import Mathlib.Tactic.FinCases
import Mathlib.Tactic.IntervalCases
import ServiceHealth.Proofs.Check.Levels
import ServiceHealth.Proofs.Error.Wording

/-!
# Timestamps

A text is a timestamp if it has twenty characters, an ASCII digit at fourteen places and a
certain mark at each of the other six.  `isTimestamp_iff` says so place by place, so nothing
may stand before or after a timestamp and no digit of another script inside it.

A response lacks a timestamp for one of six faults.  `settles_hasTimestamp` says that the
check of a response finds the fault that there is, and `LacksTimestamp.fault_unique` that two
faults never have the same wording.
-/

namespace ServiceHealth.Check

open Http (Response)

variable {response : Response}

/-! ## Texts -/

/-- The text has twenty characters, each of which may stand at its place of a timestamp. -/
structure IsTimestampText (text : String) : Prop where
  length : text.toList.length = 20
  digit : ∀ place ∈ [0, 1, 2, 3, 5, 6, 8, 9, 11, 12, 14, 15, 17, 18],
    ∃ c, text.toList[place]? = some c ∧ '0' ≤ c ∧ c ≤ '9'
  hyphen : ∀ place ∈ [4, 7], text.toList[place]? = some '-'
  separator : text.toList[10]? = some 'T'
  colon : ∀ place ∈ [13, 16], text.toList[place]? = some ':'
  zone : text.toList[19]? = some 'Z'

theorem admitsAll_eq_true_iff {places : List TimestampPlace} {cs : List Char} :
    admitsAll places cs = true ↔
      cs.length = places.length ∧
        ∀ (index : Nat) (place : TimestampPlace), places[index]? = some place →
          ∃ c, cs[index]? = some c ∧ place.admits c = true := by
  induction places generalizing cs with
  | nil => cases cs <;> simp [admitsAll]
  | cons first places ih =>
      cases cs with
      | nil => simp [admitsAll]
      | cons c cs =>
          rw [admitsAll, Bool.and_eq_true, ih, List.length_cons, List.length_cons,
            Nat.add_right_cancel_iff]
          constructor
          · rintro ⟨hfirst, hlength, hrest⟩
            refine ⟨hlength, ?_⟩
            intro index place hplace
            cases index with
            | zero =>
                obtain rfl := Option.some.inj hplace
                exact ⟨c, rfl, hfirst⟩
            | succ index => exact hrest index place hplace
          · rintro ⟨hlength, hall⟩
            obtain ⟨other, hother, hfirst⟩ := hall 0 first rfl
            obtain rfl := Option.some.inj hother
            exact ⟨hfirst, hlength, fun index place hplace => hall (index + 1) place hplace⟩

theorem admits_digit_iff {c : Char} :
    TimestampPlace.digit.admits c = true ↔ '0' ≤ c ∧ c ≤ '9' := by
  simp [TimestampPlace.admits, Text.isAsciiDigit]

theorem admits_mark_iff {mark c : Char} :
    (TimestampPlace.mark mark).admits c = true ↔ c = mark := by
  simp [TimestampPlace.admits]

/-- The places of a timestamp are those that a text is asked about. -/
theorem timestampPlaces_cases {index : Nat} {place : TimestampPlace}
    (h : timestampPlaces[index]? = some place) :
    (place = .digit ∧ index ∈ [0, 1, 2, 3, 5, 6, 8, 9, 11, 12, 14, 15, 17, 18]) ∨
      (place = .mark '-' ∧ index ∈ [4, 7]) ∨ (place = .mark 'T' ∧ index = 10) ∨
      (place = .mark ':' ∧ index ∈ [13, 16]) ∨ (place = .mark 'Z' ∧ index = 19) := by
  have hlength : index < 20 := by
    by_contra hge
    rw [List.getElem?_eq_none (Nat.le_of_not_lt hge)] at h
    cases h
  interval_cases index <;> simp_all [timestampPlaces]

theorem isTimestamp_iff {text : String} : isTimestamp text = true ↔ IsTimestampText text := by
  rw [isTimestamp, admitsAll_eq_true_iff]
  constructor
  · rintro ⟨hlength, hall⟩
    -- a mark admits only itself
    have hmark : ∀ (index : Nat) (mark : Char), timestampPlaces[index]? = some (.mark mark) →
        text.toList[index]? = some mark := by
      intro index mark hplace
      obtain ⟨c, hc, hadmits⟩ := hall index _ hplace
      rw [hc, admits_mark_iff.mp hadmits]
    refine ⟨hlength, ?_, ?_, hmark 10 'T' rfl, ?_, hmark 19 'Z' rfl⟩
    · intro place hplace
      have hdigit : timestampPlaces[place]? = some .digit := by
        fin_cases hplace <;> rfl
      obtain ⟨c, hc, hadmits⟩ := hall place .digit hdigit
      exact ⟨c, hc, admits_digit_iff.mp hadmits⟩
    · intro place hplace
      apply hmark
      fin_cases hplace <;> rfl
    · intro place hplace
      apply hmark
      fin_cases hplace <;> rfl
  · intro h
    refine ⟨h.length, ?_⟩
    intro index place hplace
    rcases timestampPlaces_cases hplace with
      ⟨rfl, hindex⟩ | ⟨rfl, hindex⟩ | ⟨rfl, rfl⟩ | ⟨rfl, hindex⟩ | ⟨rfl, rfl⟩
    · obtain ⟨c, hc, hdigit⟩ := h.digit index hindex
      exact ⟨c, hc, admits_digit_iff.mpr hdigit⟩
    · exact ⟨'-', h.hyphen index hindex, admits_mark_iff.mpr rfl⟩
    · exact ⟨'T', h.separator, admits_mark_iff.mpr rfl⟩
    · exact ⟨':', h.colon index hindex, admits_mark_iff.mpr rfl⟩
    · exact ⟨'Z', h.zone, admits_mark_iff.mpr rfl⟩

/-- A line end after a timestamp is a character too many. -/
example : isTimestamp "2024-02-30T24:60:61Z" = true ∧
    isTimestamp "2024-02-30T24:60:61Z\n" = false := by
  decide

theorem IsTimestampText.ne_empty {text : String} (h : IsTimestampText text) : text ≠ "" := by
  intro hempty
  have hlength := h.length
  rw [hempty] at hlength
  cases hlength

/-- An empty text is no timestamp for a reason of its own. -/
theorem settles_hasTimestampForm (text : String) :
    Settles (hasTimestampForm text) (fun _ => IsTimestampText text)
      (fun reason => (text = "" ∧ reason = .timestampEmpty) ∨
        (text ≠ "" ∧ ¬ IsTimestampText text ∧ reason = .timestampForm text)) where
  of_holds := by
    intro value htext
    rw [hasTimestampForm, if_neg (by simpa using htext.ne_empty),
      if_pos (isTimestamp_iff.mpr htext)]
  of_fails := by
    rintro reason (⟨rfl, rfl⟩ | ⟨hne, htext, rfl⟩)
    · rfl
    · have hform : ¬ isTimestamp text = true := fun hform => htext (isTimestamp_iff.mp hform)
      rw [hasTimestampForm, if_neg (by simpa using hne), if_neg hform]
  holds_or_fails := by
    by_cases hempty : text = ""
    · exact .inr ⟨_, .inl ⟨hempty, rfl⟩⟩
    · by_cases htext : IsTimestampText text
      · exact .inl ⟨(), htext⟩
      · exact .inr ⟨_, .inr ⟨hempty, htext, rfl⟩⟩

/-! ## Responses -/

/-- The body is a JSON object with this value under this name. -/
def HoldsMember (response : Response) (name : String) (value : Json) : Prop :=
  ∃ body, HoldsBody response body ∧ body.get? name = some value

/-- What a response may have instead of a timestamp. -/
inductive TimestampFault where
  | notJson
  | notObject
  | absent
  | otherKind
  | empty
  | otherForm
  deriving DecidableEq

/-- The words with which the reason of a fault begins. -/
def TimestampFault.wording : TimestampFault → String
  | .notJson => "Response is not valid JSON: "
  | .notObject => "Expected a JSON object, got "
  | .absent => "Response does not contain 'timestamp' field"
  | .otherKind => "Timestamp should be a string, got "
  | .empty => "Timestamp should not be empty"
  | .otherForm => "Timestamp should be in ISO 8601 format (YYYY-MM-DDTHH:MM:SSZ), got: "

/-- Why a response has no timestamp, and what is said about it. -/
inductive LacksTimestamp (response : Response) : TimestampFault → Assertion → Prop
  | notJson (hbody : Json.read? response.body = none) : LacksTimestamp response .notJson .notJson
  | notObject (value : Json) (hbody : Json.read? response.body = some value)
      (hkind : value.kind ≠ .object) : LacksTimestamp response .notObject (.notObject value.kind)
  | absent (body : Json.Members) (hbody : HoldsBody response body)
      (hmember : body.get? "timestamp" = none) :
      LacksTimestamp response .absent (.noField "timestamp")
  | otherKind (value : Json) (hmember : HoldsMember response "timestamp" value)
      (hkind : value.kind ≠ .string) :
      LacksTimestamp response .otherKind (.timestampKind value.kind)
  | empty (hmember : HoldsMember response "timestamp" (.text "")) :
      LacksTimestamp response .empty .timestampEmpty
  | otherForm (text : String) (hmember : HoldsMember response "timestamp" (.text text))
      (hne : text ≠ "") (htext : ¬ IsTimestampText text) :
      LacksTimestamp response .otherForm (.timestampForm text)

theorem settles_bodyMember (response : Response) (name : String) :
    Settles (bodyMember response name) (HoldsMember response name)
      (fun reason => NoBody response reason ∨ ∃ body, HoldsBody response body ∧
        body.get? name = none ∧ reason = .noField name) := by
  refine (settles_bodyMembers response).bind fun body => ?_
  refine ⟨?_, ?_, ?_⟩
  · intro value hmember
    simp only [hmember]
  · rintro reason ⟨hmember, rfl⟩
    simp only [hmember]
  · cases hmember : body.get? name with
    | none => exact .inr ⟨_, rfl, rfl⟩
    | some value => exact .inl ⟨value, rfl⟩

/-- What the check does with the value of the member. -/
theorem settles_timestampValue (value : Json) :
    Settles
      (match value.text? with
        | some text => hasTimestampForm text
        | none => Error.fail (.timestampKind value.kind))
      (fun _ => ∃ text, value = .text text ∧ IsTimestampText text)
      (fun reason => (value.kind ≠ .string ∧ reason = .timestampKind value.kind) ∨
        ∃ text, value = .text text ∧ ((text = "" ∧ reason = .timestampEmpty) ∨
          (text ≠ "" ∧ ¬ IsTimestampText text ∧ reason = .timestampForm text))) := by
  cases value with
  | text text =>
      have h := settles_hasTimestampForm text
      refine ⟨?_, ?_, ?_⟩
      · rintro result ⟨_, heq, htext⟩
        obtain rfl := Json.text.inj heq
        exact h.of_holds result htext
      · rintro reason (⟨hkind, -⟩ | ⟨_, heq, hfails⟩)
        · exact absurd rfl hkind
        · obtain rfl := Json.text.inj heq
          exact h.of_fails reason hfails
      · rcases h.holds_or_fails with ⟨result, htext⟩ | ⟨reason, hfails⟩
        · exact .inl ⟨result, text, rfl, htext⟩
        · exact .inr ⟨reason, .inr ⟨text, rfl, hfails⟩⟩
  | _ =>
      refine ⟨?_, ?_, .inr ⟨_, .inl ⟨by simp [Json.kind], rfl⟩⟩⟩
      · rintro result ⟨_, heq, -⟩
        cases heq
      · rintro reason (⟨-, rfl⟩ | ⟨_, heq, -⟩)
        · rfl
        · cases heq

/-- A response passes exactly if it holds a timestamp, and fails with a fault that it has. -/
theorem settles_hasTimestamp (response : Response) :
    Settles (hasTimestamp response)
      (fun _ => ∃ text, HoldsMember response "timestamp" (.text text) ∧ IsTimestampText text)
      (fun reason => ∃ fault, LacksTimestamp response fault reason) := by
  have h := (settles_bodyMember response "timestamp").bind settles_timestampValue
  refine ⟨?_, ?_, ?_⟩
  · rintro result ⟨text, hmember, htext⟩
    exact h.of_holds result ⟨_, hmember, text, rfl, htext⟩
  · rintro reason ⟨fault, hlacks⟩
    apply h.of_fails
    cases hlacks with
    | notJson hbody => exact .inl (.inl (.notJson hbody))
    | notObject value hbody hkind => exact .inl (.inl (.notObject value hbody hkind))
    | absent body hbody hmember => exact .inl (.inr ⟨body, hbody, hmember, rfl⟩)
    | otherKind value hmember hkind => exact .inr ⟨value, hmember, .inl ⟨hkind, rfl⟩⟩
    | empty hmember => exact .inr ⟨_, hmember, .inr ⟨"", rfl, .inl ⟨rfl, rfl⟩⟩⟩
    | otherForm text hmember hne htext =>
        exact .inr ⟨_, hmember, .inr ⟨text, rfl, .inr ⟨hne, htext, rfl⟩⟩⟩
  · rcases h.holds_or_fails with ⟨result, _, hmember, text, rfl, htext⟩ | ⟨reason, hfails⟩
    · exact .inl ⟨result, text, hmember, htext⟩
    · refine .inr ⟨reason, ?_⟩
      rcases hfails with (hbody | ⟨body, hbody, hmember, rfl⟩) |
        ⟨value, hmember, ⟨hkind, rfl⟩ | ⟨text, rfl, ⟨rfl, rfl⟩ | ⟨hne, htext, rfl⟩⟩⟩
      · cases hbody with
        | notJson hbody => exact ⟨_, .notJson hbody⟩
        | notObject value hbody hkind => exact ⟨_, .notObject value hbody hkind⟩
      · exact ⟨_, .absent body hbody hmember⟩
      · exact ⟨_, .otherKind value hmember hkind⟩
      · exact ⟨_, .empty hmember⟩
      · exact ⟨_, .otherForm text hmember hne htext⟩

/-! ## Wordings -/

/-- What is said about a fault begins with the words for it. -/
theorem LacksTimestamp.wording_prefix {fault : TimestampFault} {reason : Assertion}
    (h : LacksTimestamp response fault reason) :
    fault.wording.toList <+: reason.message.toList := by
  have hself : ∀ text : String, text.toList <+: text.toList := fun text => List.prefix_refl _
  cases h with
  | notJson hbody => decide
  | notObject value hbody hkind => exact toList_prefix_append (hself _) _
  | absent body hbody hmember => decide
  | otherKind value hmember hkind => exact toList_prefix_append (hself _) _
  | empty hmember => exact hself _
  | otherForm text hmember hne htext => exact toList_prefix_append (hself _) _

theorem TimestampFault.eq_of_wording_prefix {first second : TimestampFault}
    (h : first.wording.toList <+: second.wording.toList) : first = second := by
  revert h
  cases first <;> cases second <;> decide

/-- The wording of a failure tells which fault there is. -/
theorem LacksTimestamp.fault_unique {other : Response} {first second : TimestampFault}
    {reason otherReason : Assertion} (hfirst : LacksTimestamp response first reason)
    (hsecond : LacksTimestamp other second otherReason)
    (hmessage : reason.message = otherReason.message) : first = second := by
  have hfirst' := hfirst.wording_prefix
  have hsecond' := hsecond.wording_prefix
  rw [← hmessage] at hsecond'
  rcases List.prefix_or_prefix_of_prefix hfirst' hsecond' with hprefix | hprefix
  · exact TimestampFault.eq_of_wording_prefix hprefix
  · exact (TimestampFault.eq_of_wording_prefix hprefix).symm

/-- A text passes the check exactly if it is written as a timestamp, and a response exactly if such
a text is its member `timestamp`.  A response that fails has one of six faults, and what is said
about it tells which one. -/
theorem hasTimestamp_verdict :
    (∀ text, hasTimestampForm text = .ok () ↔ IsTimestampText text) ∧
    (∀ response, hasTimestamp response = .ok () ↔
      ∃ text, HoldsMember response "timestamp" (.text text) ∧ IsTimestampText text) ∧
    (∀ response error, hasTimestamp response = .error error ↔
      ∃ fault reason, LacksTimestamp response fault reason ∧ error = .assertion reason) ∧
    ∀ response other fault otherFault reason otherReason,
      LacksTimestamp response fault reason → LacksTimestamp other otherFault otherReason →
        (Error.assertion reason).message = (Error.assertion otherReason).message →
          fault = otherFault := by
  refine ⟨fun text => (settles_hasTimestampForm text).eq_ok_iff,
    fun response => (settles_hasTimestamp response).eq_ok_iff, ?_, ?_⟩
  · intro response error
    rw [(settles_hasTimestamp response).eq_error_iff]
    constructor
    · rintro ⟨reason, ⟨fault, hlacks⟩, herror⟩
      exact ⟨fault, reason, hlacks, herror⟩
    · rintro ⟨fault, reason, hlacks, herror⟩
      exact ⟨reason, ⟨fault, hlacks⟩, herror⟩
  · intro response other fault otherFault reason otherReason hlacks hother hmessage
    have hreason : reason.message = otherReason.message := by
      have hlists : ("Assertion failed: " ++ reason.message).toList =
          ("Assertion failed: " ++ otherReason.message).toList := congrArg String.toList hmessage
      rw [String.toList_append, String.toList_append] at hlists
      exact String.toList_injective (List.append_cancel_left hlists)
    exact hlacks.fault_unique hother hreason

end ServiceHealth.Check
