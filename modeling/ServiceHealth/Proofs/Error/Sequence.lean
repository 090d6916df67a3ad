import Mathlib.Data.List.Forall2
import ServiceHealth.Error.Basic

/-!
# Computations that may fail, one after another

A computation that goes on with the result of another one succeeds if both do, and
fails with the error of the first one that fails.  The same holds of a computation that
is made for each value of a list.
-/

namespace ServiceHealth

variable {α β : Type} {first : Except Error α}

theorem bind_eq_ok_iff {next : α → Except Error β} {result : β} :
    first >>= next = .ok result ↔ ∃ value, first = .ok value ∧ next value = .ok result := by
  cases first with
  | error error => simp [bind, Except.bind]
  | ok value => simp [bind, Except.bind]

theorem bind_eq_error_iff {next : α → Except Error β} {error : Error} :
    first >>= next = .error error ↔
      first = .error error ∨ ∃ value, first = .ok value ∧ next value = .error error := by
  cases first with
  | error reason => simp [bind, Except.bind]
  | ok value => simp [bind, Except.bind]

theorem map_eq_error_iff {f : α → β} {error : Error} :
    first.map f = .error error ↔ first = .error error := by
  cases first with
  | error reason => simp [Except.map]
  | ok value => simp [Except.map]

/-- A check has no result to go on with. -/
theorem check_bind_eq_ok_iff {check : Except Error Unit} {next : Unit → Except Error β}
    {result : β} : check >>= next = .ok result ↔ check = .ok () ∧ next () = .ok result := by
  rw [bind_eq_ok_iff]
  constructor
  · rintro ⟨⟨⟩, hcheck, hnext⟩
    exact ⟨hcheck, hnext⟩
  · rintro ⟨hcheck, hnext⟩
    exact ⟨(), hcheck, hnext⟩

theorem ite_fail_eq_ok_iff {condition : Prop} [Decidable condition] {reason : Assertion}
    {other : Except Error α} {value : α} :
    (if condition then Error.fail reason else other) = .ok value ↔
      ¬ condition ∧ other = .ok value := by
  by_cases hcondition : condition
  · simp [hcondition, Error.fail]
  · simp [hcondition]

/-! ## One computation for each value of a list -/

theorem forM_eq_ok_iff {check : α → Except Error Unit} {values : List α} :
    values.forM check = .ok () ↔ ∀ value ∈ values, check value = .ok () := by
  induction values with
  | nil => simp [pure, Except.pure]
  | cons value values ih =>
      change (check value >>= fun _ => values.forM check) = .ok () ↔ _
      rw [check_bind_eq_ok_iff, List.forall_mem_cons, ih]

theorem forM_congr {check other : α → Except Error Unit} {values : List α}
    (h : ∀ value ∈ values, check value = other value) : values.forM check = values.forM other := by
  induction values with
  | nil => rfl
  | cons value values ih =>
      obtain ⟨hvalue, hvalues⟩ := List.forall_mem_cons.mp h
      change (check value >>= fun _ => values.forM check) =
        other value >>= fun _ => values.forM other
      rw [hvalue, ih hvalues]

variable {compute : α → Except Error β}

theorem mapM_eq_ok_iff {values : List α} {results : List β} :
    values.mapM compute = .ok results ↔
      List.Forall₂ (fun value result => compute value = .ok result) values results := by
  induction values generalizing results with
  | nil => simp [pure, Except.pure, eq_comm]
  | cons value values ih =>
      rw [List.mapM_cons, List.forall₂_cons_left_iff]
      simp only [bind_eq_ok_iff, ih]
      constructor
      · rintro ⟨result, hvalue, others, hvalues, heq⟩
        exact ⟨result, others, hvalue, hvalues, (Except.ok.inj heq).symm⟩
      · rintro ⟨result, others, hvalue, hvalues, rfl⟩
        exact ⟨result, hvalue, others, hvalues, rfl⟩

/-- The first of the computations that fail decides the error. -/
theorem mapM_eq_error_iff {values : List α} {error : Error} :
    values.mapM compute = .error error ↔
      ∃ before value after, values = before ++ value :: after ∧
        (∀ earlier ∈ before, ∃ result, compute earlier = .ok result) ∧
        compute value = .error error := by
  induction values with
  | nil => simp [pure, Except.pure]
  | cons first values ih =>
      rw [List.mapM_cons]
      simp only [bind_eq_error_iff, ih]
      constructor
      · rintro (hfirst | ⟨result, hfirst, ⟨before, value, after, rfl, hbefore, hvalue⟩ |
          ⟨others, -, hpure⟩⟩)
        · exact ⟨[], first, values, rfl, by simp, hfirst⟩
        · exact ⟨first :: before, value, after, rfl,
            List.forall_mem_cons.mpr ⟨⟨result, hfirst⟩, hbefore⟩, hvalue⟩
        · cases hpure
      · rintro ⟨before, value, after, hvalues, hbefore, hvalue⟩
        cases before with
        | nil =>
            injection hvalues with hfirst
            subst hfirst
            exact .inl hvalue
        | cons earlier before =>
            injection hvalues with hfirst hrest
            subst hfirst
            obtain ⟨⟨result, hfirst⟩, hbefore⟩ := List.forall_mem_cons.mp hbefore
            exact .inr ⟨result, hfirst, .inl ⟨before, value, after, hrest, hbefore, hvalue⟩⟩

/-! ## Verdicts that are described from outside -/

/-- The results of a computation are those of which one thing holds, and it fails for the reasons
of which the other does. -/
structure Settles (verdict : Except Error α) (holds : α → Prop) (fails : Assertion → Prop) :
    Prop where
  of_holds : ∀ value, holds value → verdict = .ok value
  of_fails : ∀ reason, fails reason → verdict = Error.fail reason
  holds_or_fails : (∃ value, holds value) ∨ ∃ reason, fails reason

namespace Settles

variable {verdict : Except Error α} {holds : α → Prop} {fails : Assertion → Prop}

theorem eq_ok_iff (h : Settles verdict holds fails) {value : α} :
    verdict = .ok value ↔ holds value := by
  refine ⟨?_, h.of_holds value⟩
  intro hverdict
  rcases h.holds_or_fails with ⟨other, hother⟩ | ⟨reason, hreason⟩
  · rw [h.of_holds other hother] at hverdict
    exact Except.ok.inj hverdict ▸ hother
  · rw [h.of_fails reason hreason] at hverdict
    cases hverdict

theorem eq_error_iff (h : Settles verdict holds fails) {error : Error} :
    verdict = .error error ↔ ∃ reason, fails reason ∧ error = .assertion reason := by
  constructor
  · intro hverdict
    rcases h.holds_or_fails with ⟨value, hvalue⟩ | ⟨reason, hreason⟩
    · rw [h.of_holds value hvalue] at hverdict
      cases hverdict
    · rw [h.of_fails reason hreason] at hverdict
      exact ⟨reason, hreason, (Except.error.inj hverdict).symm⟩
  · rintro ⟨reason, hreason, rfl⟩
    exact h.of_fails reason hreason

/-- What goes on with a result has the results of its second part, and fails for the reasons of
either. -/
theorem bind {next : α → Except Error β} {nextHolds : α → β → Prop}
    {nextFails : α → Assertion → Prop} (h : Settles verdict holds fails)
    (hnext : ∀ value, Settles (next value) (nextHolds value) (nextFails value)) :
    Settles (verdict >>= next) (fun result => ∃ value, holds value ∧ nextHolds value result)
      (fun reason => fails reason ∨ ∃ value, holds value ∧ nextFails value reason) where
  of_holds := by
    rintro result ⟨value, hvalue, hresult⟩
    exact bind_eq_ok_iff.mpr ⟨value, h.of_holds value hvalue, (hnext value).of_holds result hresult⟩
  of_fails := by
    rintro reason (hreason | ⟨value, hvalue, hreason⟩)
    · exact bind_eq_error_iff.mpr (.inl (h.of_fails reason hreason))
    · exact bind_eq_error_iff.mpr
        (.inr ⟨value, h.of_holds value hvalue, (hnext value).of_fails reason hreason⟩)
  holds_or_fails := by
    rcases h.holds_or_fails with ⟨value, hvalue⟩ | ⟨reason, hreason⟩
    · rcases (hnext value).holds_or_fails with ⟨result, hresult⟩ | ⟨reason, hreason⟩
      · exact .inl ⟨result, value, hvalue, hresult⟩
      · exact .inr ⟨reason, .inr ⟨value, hvalue, hreason⟩⟩
    · exact .inr ⟨reason, .inl hreason⟩

/-- A computation does not fail where it has a result. -/
theorem not_fails (h : Settles verdict holds fails) {value : α} (hvalue : holds value)
    (reason : Assertion) : ¬ fails reason := by
  intro hreason
  have hok := h.of_holds value hvalue
  rw [h.of_fails reason hreason] at hok
  cases hok

/-- Two results are the same. -/
theorem unique (h : Settles verdict holds fails) {first second : α} (hfirst : holds first)
    (hsecond : holds second) : first = second :=
  Except.ok.inj ((h.of_holds first hfirst).symm.trans (h.of_holds second hsecond))

end Settles

end ServiceHealth
