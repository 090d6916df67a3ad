import ServiceHealth.Check.Every
import ServiceHealth.Proofs.Error.Sequence

/-!
# What the verdict on a batch says

A batch passes a check exactly if it has entries and each of them is a response that
the check accepts.  Otherwise the verdict gives the number of entries that are
rejected, and of the first of them its place and its own reason: `FirstRejected` says
which entry that is, and `every_verdict` that the verdict is about this one.

All entries are looked at, also after one that is rejected.  So their order has an
influence on the place and the reason that are given, but neither on success nor on
the numbers.  A batch passes several checks at once exactly if it passes each of them.
-/

namespace ServiceHealth.Check

open Http (Batch Outcome Response)

/-! ## Accepted and rejected entries -/

/-- The entry is a response that the check accepts. -/
def Accepts (check : Response → Except Error Unit) (outcome : Outcome) : Prop :=
  ∃ response, outcome = .answered response ∧ check response = .ok ()

/-- Why an entry is rejected: for the bare reason of a failed check, for any other error as a
whole, or since its request failed. -/
inductive RejectedFor (check : Response → Except Error Unit) : Outcome → (reason : String) → Prop
  | assertion {response : Response} {reason : Assertion}
      (fails : check response = .error (.assertion reason)) :
      RejectedFor check (.answered response) reason.message
  | error {response : Response} {error : Error} (fails : check response = .error error)
      (other : ∀ reason, error ≠ .assertion reason) :
      RejectedFor check (.answered response) error.message
  | unanswered (failure : Http.TransportFailure) :
      RejectedFor check (.failed failure) ("Request failed with error: " ++ failure.describe)

/-- The entry at this place is rejected for this reason, and all before it are accepted. -/
def FirstRejected (check : Response → Except Error Unit) (outcomes : List Outcome) (place : Nat)
    (reason : String) : Prop :=
  ∃ before outcome after, outcomes = before ++ outcome :: after ∧ before.length = place ∧
    (∀ earlier ∈ before, Accepts check earlier) ∧ RejectedFor check outcome reason

variable {check : Response → Except Error Unit}

theorem entry_eq_ok_iff {outcome : Outcome} :
    entry check outcome = .ok () ↔ Accepts check outcome := by
  cases outcome with
  | answered response =>
      constructor
      · intro h
        exact ⟨response, rfl, h⟩
      · rintro ⟨other, heq, h⟩
        cases heq
        exact h
  | failed failure =>
      constructor
      · intro h
        cases h
      · rintro ⟨response, heq, -⟩
        cases heq

instance (outcome : Outcome) : Decidable (Accepts check outcome) :=
  decidable_of_iff ((entry check outcome).isOk = true) <| by
    rw [← entry_eq_ok_iff]
    cases entry check outcome with
    | ok value => exact ⟨fun _ => rfl, fun _ => rfl⟩
    | error error =>
        constructor
        · intro h
          cases h
        · intro h
          cases h

/-- How many entries are rejected. -/
def rejections (check : Response → Except Error Unit) (outcomes : List Outcome) : Nat :=
  outcomes.countP fun outcome => ¬ Accepts check outcome

theorem rejectedFor_reasonOf {outcome : Outcome} {error : Error}
    (h : entry check outcome = .error error) : RejectedFor check outcome (reasonOf error) := by
  cases outcome with
  | failed failure =>
      injection h with heq
      subst heq
      exact .unanswered failure
  | answered response =>
      -- the heading is left out for a failed check only
      by_cases hassertion : ∃ reason, error = .assertion reason
      · obtain ⟨reason, rfl⟩ := hassertion
        exact .assertion h
      · have hother : ∀ reason, error ≠ .assertion reason := by
          intro reason heq
          exact hassertion ⟨reason, heq⟩
        have hreason : reasonOf error = error.message := by
          unfold reasonOf
          split
          · rename_i reason
            exact absurd rfl (hother reason)
          · rfl
        rw [hreason]
        exact .error h hother

/-! ## Several checks -/

theorem accepts_bind_iff {first second : Response → Except Error Unit} {outcome : Outcome} :
    Accepts (fun response => first response >>= fun _ => second response) outcome ↔
      Accepts first outcome ∧ Accepts second outcome := by
  constructor
  · rintro ⟨response, rfl, h⟩
    obtain ⟨value, hfirst, hsecond⟩ := bind_eq_ok_iff.mp h
    exact ⟨⟨response, rfl, hfirst⟩, ⟨response, rfl, hsecond⟩⟩
  · rintro ⟨⟨response, rfl, hfirst⟩, other, heq, hsecond⟩
    injection heq with heq
    subst heq
    exact ⟨response, rfl, bind_eq_ok_iff.mpr ⟨(), hfirst, hsecond⟩⟩

theorem hasStatus_eq_ok_iff {response : Response} {expected : Nat} :
    hasStatus response expected = .ok () ↔ response.status = expected := by
  by_cases hstatus : response.status = expected
  · rw [hasStatus, if_pos hstatus]
    exact ⟨fun _ => hstatus, fun _ => rfl⟩
  · rw [hasStatus, if_neg hstatus]
    constructor
    · intro h
      cases h
    · intro h
      exact absurd h hstatus

/-- A batch passes two checks at once exactly if it passes each of them. -/
theorem forall_accepts_and_iff {outcomes : List Outcome}
    {first second : Response → Except Error Unit} :
    (outcomes ≠ [] ∧ ∀ outcome ∈ outcomes,
        Accepts first outcome ∧ Accepts second outcome) ↔
      (outcomes ≠ [] ∧ ∀ outcome ∈ outcomes, Accepts second outcome) ∧
        outcomes ≠ [] ∧ ∀ outcome ∈ outcomes, Accepts first outcome := by
  constructor
  · rintro ⟨hne, hboth⟩
    exact ⟨⟨hne, fun outcome hmem => (hboth outcome hmem).2⟩,
      hne, fun outcome hmem => (hboth outcome hmem).1⟩
  · rintro ⟨⟨hne, hsecond⟩, -, hfirst⟩
    exact ⟨hne, fun outcome hmem => ⟨hfirst outcome hmem, hsecond outcome hmem⟩⟩

/-- A batch that passes a check has a response in each entry, so its statuses are those of its
responses. -/
theorem forall_accepts_hasStatus_iff {outcomes : List Outcome}
    {check : Response → Except Error Unit} {expected : Nat}
    (h : outcomes ≠ [] ∧ ∀ outcome ∈ outcomes, Accepts check outcome) :
    (outcomes ≠ [] ∧ ∀ outcome ∈ outcomes,
        Accepts (fun response => hasStatus response expected) outcome) ↔
      ∀ response, .answered response ∈ outcomes → response.status = expected := by
  constructor
  · rintro ⟨-, hstatus⟩ response hmem
    obtain ⟨other, heq, hother⟩ := hstatus _ hmem
    injection heq with heq
    subst heq
    exact hasStatus_eq_ok_iff.mp hother
  · intro hstatus
    refine ⟨h.1, ?_⟩
    intro outcome hmem
    obtain ⟨response, rfl, -⟩ := h.2 outcome hmem
    exact ⟨response, rfl, hasStatus_eq_ok_iff.mpr (hstatus response hmem)⟩

/-! ## The entries that fail -/

/-- The entries that fail where the first one has this number, as their number and reason. -/
def failuresFrom (check : Response → Except Error Unit) :
    (start : Nat) → List Outcome → List (Nat × String)
  | _, [] => []
  | start, outcome :: outcomes =>
    match entry check outcome with
    | .ok () => failuresFrom check (start + 1) outcomes
    | .error error => (start, reasonOf error) :: failuresFrom check (start + 1) outcomes

theorem failures_eq_failuresFrom (check : Response → Except Error Unit)
    (outcomes : List Outcome) : failures check outcomes = failuresFrom check 0 outcomes := by
  unfold failures
  -- further down the list the first number is another one
  generalize 0 = start
  induction outcomes generalizing start with
  | nil => rfl
  | cons outcome outcomes ih =>
      rw [List.zipIdx_cons, List.filterMap_cons, failuresFrom, ih]
      cases hentry : entry check outcome with
      | ok value => simp only [hentry]
      | error error => simp only [hentry]

theorem length_failuresFrom (start : Nat) (outcomes : List Outcome) :
    (failuresFrom check start outcomes).length = rejections check outcomes := by
  induction outcomes generalizing start with
  | nil => rfl
  | cons outcome outcomes ih =>
      rw [failuresFrom, rejections, List.countP_cons, ← rejections]
      cases hentry : entry check outcome with
      | ok value =>
          have haccepts : Accepts check outcome := entry_eq_ok_iff.mp hentry
          simp [haccepts, ih]
      | error error =>
          have hrejects : ¬ Accepts check outcome := by
            rw [← entry_eq_ok_iff, hentry]
            intro h
            cases h
          simp [hrejects, ih]

theorem failuresFrom_eq_nil_iff (start : Nat) {outcomes : List Outcome} :
    failuresFrom check start outcomes = [] ↔ ∀ outcome ∈ outcomes, Accepts check outcome := by
  rw [← List.length_eq_zero_iff, length_failuresFrom, rejections, List.countP_eq_zero]
  simp

/-- The first failure in the list is the first entry that is rejected. -/
theorem firstRejected_of_failuresFrom {start number : Nat} {outcomes : List Outcome}
    {reason : String} {others : List (Nat × String)}
    (h : failuresFrom check start outcomes = (number, reason) :: others) :
    ∃ place, number = start + place ∧ FirstRejected check outcomes place reason := by
  induction outcomes generalizing start with
  | nil => cases h
  | cons outcome outcomes ih =>
      rw [failuresFrom] at h
      cases hentry : entry check outcome with
      | ok value =>
          rw [hentry] at h
          obtain ⟨place, hnumber, before, first, after, rfl, rfl, hbefore, hreason⟩ := ih h
          have haccepts : Accepts check outcome := entry_eq_ok_iff.mp hentry
          refine ⟨before.length + 1, by omega, outcome :: before, first, after, rfl, rfl, ?_,
            hreason⟩
          exact List.forall_mem_cons.mpr ⟨haccepts, hbefore⟩
      | error error =>
          rw [hentry] at h
          injection h with hfirst
          injection hfirst with hnumber hreason
          subst hnumber hreason
          exact ⟨0, rfl, [], outcome, outcomes, rfl, rfl, by simp, rejectedFor_reasonOf hentry⟩

/-! ## The verdict -/

theorem every_of_isEmpty {batch : Batch} (h : batch.outcomes = []) :
    every batch check = Error.fail .noResults := by
  rw [every, Batch.isEmpty, h]
  rfl

theorem every_of_accepts {batch : Batch} (hne : batch.outcomes ≠ [])
    (h : ∀ outcome ∈ batch.outcomes, Accepts check outcome) : every batch check = .ok () := by
  have hempty : batch.isEmpty = false := by simpa [Batch.isEmpty] using hne
  rw [every, hempty, failures_eq_failuresFrom, (failuresFrom_eq_nil_iff 0).mpr h]
  rfl

/-- A batch with a rejected entry fails with the number of such entries and the first of them. -/
theorem every_of_rejects {batch : Batch} {outcome : Outcome} (hmem : outcome ∈ batch.outcomes)
    (hrejects : ¬ Accepts check outcome) :
    ∃ place reason, FirstRejected check batch.outcomes place reason ∧
      every batch check = Error.fail
        (.batch (rejections check batch.outcomes) batch.outcomes.length place reason) := by
  have hne : batch.outcomes ≠ [] := List.ne_nil_of_mem hmem
  have hempty : batch.isEmpty = false := by simpa [Batch.isEmpty] using hne
  cases hfailures : failuresFrom check 0 batch.outcomes with
  | nil =>
      have haccepts := (failuresFrom_eq_nil_iff 0).mp hfailures outcome hmem
      exact absurd haccepts hrejects
  | cons first others =>
      obtain ⟨number, reason⟩ := first
      obtain ⟨place, hnumber, hfirst⟩ := firstRejected_of_failuresFrom hfailures
      have hcount : others.length + 1 = rejections check batch.outcomes := by
        rw [← length_failuresFrom 0, hfailures, List.length_cons]
      have hplace : number = place := by omega
      subst hplace
      refine ⟨number, reason, hfirst, ?_⟩
      rw [every, hempty, failures_eq_failuresFrom, hfailures, ← hcount]
      rfl

/-- The three ways in which the check of a batch ends. -/
theorem every_cases (batch : Batch) (check : Response → Except Error Unit) :
    (batch.outcomes = [] ∧ every batch check = Error.fail .noResults) ∨
      (batch.outcomes ≠ [] ∧ (∀ outcome ∈ batch.outcomes, Accepts check outcome) ∧
        every batch check = .ok ()) ∨
      ∃ place reason, FirstRejected check batch.outcomes place reason ∧
        every batch check = Error.fail
          (.batch (rejections check batch.outcomes) batch.outcomes.length place reason) := by
  by_cases hrejects : ∃ outcome ∈ batch.outcomes, ¬ Accepts check outcome
  · obtain ⟨outcome, hmem, hrejects⟩ := hrejects
    exact .inr (.inr (every_of_rejects hmem hrejects))
  · have haccepts : ∀ outcome ∈ batch.outcomes, Accepts check outcome := by
      intro outcome hmem
      exact Decidable.byContradiction fun h => hrejects ⟨outcome, hmem, h⟩
    by_cases hempty : batch.outcomes = []
    · exact .inl ⟨hempty, every_of_isEmpty hempty⟩
    · exact .inr (.inl ⟨hempty, haccepts, every_of_accepts hempty haccepts⟩)

theorem every_eq_ok_iff {batch : Batch} :
    every batch check = .ok () ↔
      batch.outcomes ≠ [] ∧ ∀ outcome ∈ batch.outcomes, Accepts check outcome := by
  constructor
  · intro h
    rcases every_cases batch check with ⟨-, hfail⟩ | ⟨hne, haccepts, -⟩ | ⟨_, _, -, hfail⟩
    · rw [hfail] at h
      cases h
    · exact ⟨hne, haccepts⟩
    · rw [hfail] at h
      cases h
  · rintro ⟨hne, haccepts⟩
    exact every_of_accepts hne haccepts

/-- A batch that has entries and fails does so for the first of those that are rejected. -/
theorem every_eq_error {batch : Batch} {error : Error} (hne : batch.outcomes ≠ [])
    (h : every batch check = .error error) :
    ∃ place reason, FirstRejected check batch.outcomes place reason ∧
      error = .assertion
        (.batch (rejections check batch.outcomes) batch.outcomes.length place reason) := by
  rcases every_cases batch check with ⟨hempty, -⟩ | ⟨-, -, hok⟩ | ⟨place, reason, hfirst, hfail⟩
  · exact absurd hempty hne
  · rw [hok] at h
    cases h
  · rw [hfail] at h
    injection h with heq
    exact ⟨place, reason, hfirst, heq.symm⟩

section Order

variable {batch other : Batch}

theorem every_eq_ok_iff_of_perm (h : other.outcomes.Perm batch.outcomes) :
    every other check = .ok () ↔ every batch check = .ok () := by
  rw [every_eq_ok_iff, every_eq_ok_iff, ne_eq, ne_eq, ← List.length_eq_zero_iff,
    ← List.length_eq_zero_iff, h.length_eq]
  simp only [h.mem_iff]

/-- Another order of the entries leaves the numbers of a verdict as they are. -/
theorem every_eq_fail_of_perm (h : other.outcomes.Perm batch.outcomes)
    {failed total place : Nat} {reason : String}
    (hfail : every batch check = Error.fail (.batch failed total place reason)) :
    ∃ place reason, every other check = Error.fail (.batch failed total place reason) := by
  have hne : batch.outcomes ≠ [] := by
    intro hempty
    rw [every_of_isEmpty hempty] at hfail
    cases hfail
  have hother : other.outcomes ≠ [] := by
    intro hempty
    rw [hempty] at h
    exact hne h.nil_eq.symm
  obtain ⟨place, reason, -, herror⟩ := every_eq_error hne hfail
  injection herror with hassertion
  injection hassertion with hfailed htotal
  rcases every_cases other check with ⟨hempty, -⟩ | ⟨-, -, hok⟩ | ⟨place, reason, -, hfail'⟩
  · exact absurd hempty hother
  · rw [(every_eq_ok_iff_of_perm h).mp hok] at hfail
    cases hfail
  · have hsame : rejections check other.outcomes = failed := by
      rw [hfailed]
      exact h.countP_eq _
    refine ⟨place, reason, ?_⟩
    rw [hfail', hsame, h.length_eq, htotal]

end Order

/-- A batch passes a check exactly if it has entries and the check accepts each of them.  If a
batch with entries fails, the message has the number of rejected entries, that of all entries, and
the place and the reason of the first rejected one.  In every other order of the entries the
verdict is the same but for this place and this reason. -/
theorem every_verdict (batch : Batch) (check : Response → Except Error Unit) :
    (every batch check = .ok () ↔
      batch.outcomes ≠ [] ∧ ∀ outcome ∈ batch.outcomes, Accepts check outcome) ∧
    (∀ error, batch.outcomes ≠ [] → every batch check = .error error →
      ∃ place reason, FirstRejected check batch.outcomes place reason ∧
        error = .assertion
          (.batch (rejections check batch.outcomes) batch.outcomes.length place reason) ∧
        error.message = "Assertion failed: " ++
          (s!"{rejections check batch.outcomes} of {batch.outcomes.length} concurrent requests failed; first failure (completion #{place}): " ++
            reason)) ∧
    ∀ other : Batch, other.outcomes.Perm batch.outcomes →
      (every other check = .ok () ↔ every batch check = .ok ()) ∧
      ∀ failed total place reason,
        every batch check = Error.fail (.batch failed total place reason) →
        ∃ place reason, every other check = Error.fail (.batch failed total place reason) := by
  refine ⟨every_eq_ok_iff, ?_, ?_⟩
  · intro error hne herror
    obtain ⟨place, reason, hfirst, rfl⟩ := every_eq_error hne herror
    exact ⟨place, reason, hfirst, rfl, rfl⟩
  · intro other hperm
    exact ⟨every_eq_ok_iff_of_perm hperm, fun _ _ _ _ hfail => every_eq_fail_of_perm hperm hfail⟩

-- the entry at place 1 has no response, and the one after it is not reported
example :
    every ⟨[.answered ⟨200, [], []⟩,
      .failed ⟨.timeout, "http://localhost:8080/health", "operation timed out"⟩,
      .answered ⟨503, [], []⟩]⟩ (fun response => hasStatus response 200) =
    Error.fail (.batch 2 3 1 "Request failed with error: timeout error on http://localhost:8080/health: operation timed out") := by
  rfl

end ServiceHealth.Check
