import Mathlib.Data.List.Induction
import ServiceHealth.Proofs.Pattern.Defects
import ServiceHealth.Proofs.Step.Resolution

/-!
# Calls that register steps

A registry is filled by calls, of which some may fail.  `Registry.perform` is one call,
with its answer and the registry that it leaves, and `Registry.performAll` makes calls one after
another.

`Successful` tells which calls succeed, with nothing but the answers, and `Filled` what a registry
is like after them: its definitions are what those calls asked for, in their order.
`filled_performAll` keeps this by one call after another, so what a call answers is decided by
the calls before it that succeeded (`registrations_answer`).
-/

namespace ServiceHealth.Step

/-! ## Calls and what they do -/

/-- A call that registers a step: of any kind, or of the one that the call is made for. -/
inductive Registration where
  | register (kind : Kind) (source : String) (handler : Handler)
  | precondition (source : String) (handler : Handler)
  | event (source : String) (handler : Handler)
  | expectation (source : String) (handler : Handler)

namespace Registration

/-- The step that a call asks for. -/
def entry : Registration → Kind × String × Handler
  | .register kind source handler => (kind, source, handler)
  | .precondition source handler => (.precondition, source, handler)
  | .event source handler => (.event, source, handler)
  | .expectation source handler => (.expectation, source, handler)

def kind (call : Registration) : Kind :=
  call.entry.1

def source (call : Registration) : String :=
  call.entry.2.1

def handler (call : Registration) : Handler :=
  call.entry.2.2

/-- Both calls ask for a step of the same kind with the same source. -/
def SameStep (first second : Registration) : Prop :=
  first.kind = second.kind ∧ first.source = second.source

end Registration

/-- The kind, the source and the handler of a definition. -/
def Definition.entry (definition : Definition) : Kind × String × Handler :=
  (definition.kind, definition.pattern.source, definition.handler)

namespace Registry

/-- What a call answers, and the registry that it leaves. -/
def perform (registry : Registry) (call : Registration) : Except Error Unit × Registry :=
  match registry.register call.kind call.source call.handler with
  | .error error => (.error error, registry)
  | .ok next => (.ok (), next)

/-- The registry after calls that are made one after another. -/
def performAll (registry : Registry) (calls : List Registration) : Registry :=
  calls.foldl (fun registry call => (registry.perform call).2) registry

end Registry

namespace Registration

/-- The call succeeds when it is made after earlier ones on a registry that was empty. -/
def Succeeds (earlier : List Registration) (call : Registration) : Prop :=
  ((Registry.empty.performAll earlier).perform call).1 = .ok ()

/-- The calls that succeed, in their order. -/
inductive Successful : (calls successful : List Registration) → Prop
  | nil : Successful [] []
  | kept {calls successful : List Registration} {call : Registration}
      (earlier : Successful calls successful) (succeeds : Succeeds calls call) :
      Successful (calls ++ [call]) (successful ++ [call])
  | dropped {calls successful : List Registration} {call : Registration}
      (earlier : Successful calls successful) (fails : ¬ Succeeds calls call) :
      Successful (calls ++ [call]) successful

/-- The call is one of these, and it succeeds in its place. -/
def SucceedsAmong (calls : List Registration) (call : Registration) : Prop :=
  ∃ before after, calls = before ++ call :: after ∧ Succeeds before call

end Registration

section OneCall

variable {registry : Registry} {call : Registration} {error : Error}

theorem perform_eq_ok_iff :
    (registry.perform call).1 = .ok () ↔
      registry.has call.kind call.source = false ∧
        ∃ pattern, Pattern.read call.source = .ok pattern := by
  cases hregister : registry.register call.kind call.source call.handler with
  | ok next =>
      obtain ⟨hnew, pattern, hread, -⟩ := register_eq_ok_iff.mp hregister
      simp [Registry.perform, hregister, hnew, hread]
  | error error =>
      simp only [Registry.perform, hregister, reduceCtorEq, false_iff]
      rintro ⟨hnew, pattern, hread⟩
      rw [register_eq_ok_iff.mpr ⟨hnew, pattern, hread, rfl⟩] at hregister
      cases hregister

/-- A call that fails reports a mistake in the setup, and leaves the registry as it was. -/
theorem perform_of_error (h : (registry.perform call).1 = .error error) :
    (∃ fault, error = .setup fault) ∧ (registry.perform call).2 = registry := by
  cases hregister : registry.register call.kind call.source call.handler with
  | ok next =>
      rw [Registry.perform, hregister] at h
      cases h
  | error reason =>
      simp only [Registry.perform, hregister] at h ⊢
      cases h
      refine ⟨?_, trivial⟩
      rcases register_eq_error_iff.mp hregister with ⟨-, rfl⟩ | ⟨-, hread⟩
      · exact ⟨_, rfl⟩
      · have hreading := Pattern.reading_read call.source
        rw [hread] at hreading
        cases hreading with
        | refused refusal => cases refusal <;> exact ⟨_, rfl⟩

end OneCall

/-! ## Calls one after another -/

/-- What a registry that was empty is like after calls that have succeeded. -/
structure Filled (registry : Registry) (successful : List Registration) : Prop where
  registers : List.Forall₂ Registers (successful.map Registration.entry) registry.definitions
  unique : Unique registry.definitions

section Calls

variable {registry : Registry} {calls successful : List Registration} {call other : Registration}

/-- Definitions that were asked for are given back by their entries. -/
theorem map_entry_of_registers {entries : List (Kind × String × Handler)}
    {definitions : List Definition} (h : List.Forall₂ Registers entries definitions) :
    definitions.map Definition.entry = entries := by
  induction h with
  | nil => rfl
  | @cons entry definition entries definitions hentry hrest ih =>
      have hfirst : definition.entry = entry := by
        rw [Definition.entry, hentry.kind, hentry.source, hentry.handler]
      rw [List.map_cons, hfirst, ih]

theorem Filled.map_entry (h : Filled registry successful) :
    registry.definitions.map Definition.entry = successful.map Registration.entry :=
  map_entry_of_registers h.registers

theorem Filled.has_iff (h : Filled registry successful) (call : Registration) :
    registry.has call.kind call.source = true ↔
      ∃ earlier ∈ successful, earlier.SameStep call := by
  have hentries : registry.has call.kind call.source = true ↔
      ∃ entry ∈ registry.definitions.map Definition.entry,
        entry.1 = call.kind ∧ entry.2.1 = call.source := by
    simp only [Step.has_iff, Definition.entry, List.mem_map, exists_exists_and_eq_and]
  rw [hentries, h.map_entry]
  simp only [List.mem_map, exists_exists_and_eq_and]
  rfl

/-- A call that succeeds adds what it asks for. -/
theorem Filled.perform (h : Filled registry successful)
    (hsucceeds : (registry.perform call).1 = .ok ()) :
    Filled (registry.perform call).2 (successful ++ [call]) := by
  obtain ⟨hnew, pattern, hread⟩ := perform_eq_ok_iff.mp hsucceeds
  have hregister : registry.register call.kind call.source call.handler = _ :=
    register_eq_ok_iff.mpr ⟨hnew, pattern, hread, rfl⟩
  have hentry : Registers call.entry ⟨call.kind, pattern, call.handler⟩ := ⟨rfl, hread, rfl⟩
  have hnext : (registry.perform call).2 =
      ⟨registry.definitions ++ [⟨call.kind, pattern, call.handler⟩]⟩ := by
    rw [Registry.perform, hregister]
  rw [hnext]
  refine ⟨?_, List.pairwise_append.mpr ⟨h.unique, List.pairwise_singleton _ _, ?_⟩⟩
  · rw [List.map_append]
    exact List.rel_append h.registers (.cons hentry .nil)
  · intro earlier hearlier definition hdefinition hsame
    obtain rfl := List.mem_singleton.mp hdefinition
    rw [hentry.source] at hsame
    -- the registry would have had the step
    have hhas : registry.has call.kind call.source = true :=
      Step.has_iff.mpr ⟨earlier, hearlier, hsame⟩
    rw [hnew] at hhas
    cases hhas

theorem performAll_concat (registry : Registry) (calls : List Registration) (call : Registration) :
    registry.performAll (calls ++ [call]) = ((registry.performAll calls).perform call).2 := by
  rw [Registry.performAll, List.foldl_append]
  rfl

theorem filled_performAll (h : Registration.Successful calls successful) :
    Filled (Registry.empty.performAll calls) successful := by
  induction h with
  | nil => exact ⟨.nil, .nil⟩
  | kept earlier succeeds ih =>
      rw [performAll_concat]
      exact ih.perform succeeds
  | @dropped calls successful call earlier fails ih =>
      rw [performAll_concat]
      cases hanswer : ((Registry.empty.performAll calls).perform call).1 with
      | ok _ => exact absurd hanswer fails
      | error error => rwa [(perform_of_error hanswer).2]

namespace Registration

theorem exists_successful (calls : List Registration) :
    ∃ successful, Successful calls successful := by
  induction calls using List.reverseRecOn with
  | nil => exact ⟨[], .nil⟩
  | append_singleton calls call ih =>
      obtain ⟨successful, hearlier⟩ := ih
      by_cases hsucceeds : Succeeds calls call
      · exact ⟨_, .kept hearlier hsucceeds⟩
      · exact ⟨_, .dropped hearlier hsucceeds⟩

theorem succeedsAmong_concat {last : Registration} :
    SucceedsAmong (calls ++ [last]) call ↔
      SucceedsAmong calls call ∨ call = last ∧ Succeeds calls last := by
  constructor
  · rintro ⟨before, after, hsplit, hsucceeds⟩
    rcases List.eq_nil_or_concat after with rfl | ⟨rest, final, rfl⟩
    · obtain ⟨rfl, hlast⟩ := List.append_inj' hsplit rfl
      obtain rfl := List.singleton_inj.mp hlast
      exact .inr ⟨rfl, hsucceeds⟩
    · rw [List.concat_eq_append, ← List.cons_append, ← List.append_assoc] at hsplit
      exact .inl ⟨before, rest, (List.append_inj' hsplit rfl).1, hsucceeds⟩
  · rintro (⟨before, after, rfl, hsucceeds⟩ | ⟨rfl, hsucceeds⟩)
    · exact ⟨before, after ++ [last], List.append_assoc .., hsucceeds⟩
    · exact ⟨calls, [], rfl, hsucceeds⟩

theorem mem_successful_iff (h : Successful calls successful) :
    call ∈ successful ↔ SucceedsAmong calls call := by
  induction h with
  | nil => simp [SucceedsAmong]
  | @kept calls successful last earlier succeeds ih =>
      rw [List.mem_append, List.mem_singleton, succeedsAmong_concat, ih]
      simp only [succeeds, and_true]
  | @dropped calls successful last earlier fails ih =>
      rw [succeedsAmong_concat, ih]
      simp only [fails, and_false, or_false]

/-- A call succeeds if its source is a pattern and none that succeeded asked for the same step. -/
theorem succeeds_iff_of_successful (h : Successful calls successful) :
    Succeeds calls call ↔ (∃ pattern, Pattern.read call.source = .ok pattern) ∧
      ∀ earlier ∈ successful, ¬ earlier.SameStep call := by
  have hhas := (filled_performAll h).has_iff call
  rw [Succeeds, perform_eq_ok_iff, and_comm, ← Bool.not_eq_true, hhas]
  push Not
  rfl

/-- What succeeds does not depend on a call for another step. -/
theorem succeeds_concat_iff (hother : ¬ call.SameStep other) :
    Succeeds (calls ++ [call]) other ↔ Succeeds calls other := by
  obtain ⟨successful, hsuccessful⟩ := exists_successful calls
  rw [succeeds_iff_of_successful hsuccessful]
  by_cases hsucceeds : Succeeds calls call
  · rw [succeeds_iff_of_successful (.kept hsuccessful hsucceeds)]
    simp only [List.forall_mem_append, List.forall_mem_singleton, hother, not_false_eq_true,
      and_true]
  · rw [succeeds_iff_of_successful (.dropped hsuccessful hsucceeds)]

end Registration

/-- After any calls on a registry that was empty, its definitions are what the successful ones asked
for, in their order, each kind and source once.  A further call succeeds exactly if its source is
a pattern and no call that succeeded asked for the same step; if it fails, it reports a mistake
in the setup, and the registry stays as it was.  Calls for other steps do not matter to it. -/
theorem registrations_answer (calls : List Registration) :
    let registry := Registry.empty.performAll calls
    (∃ successful, Registration.Successful calls successful ∧
        registry.definitions.map Definition.entry = successful.map Registration.entry ∧
        List.Forall₂ Registers (successful.map Registration.entry) registry.definitions ∧
        Registry.empty.addAll (successful.map Registration.entry) = .ok registry) ∧
      Unique registry.definitions ∧
      ∀ call : Registration,
        ((registry.perform call).1 = .ok () ↔
          (∃ pattern, Pattern.read call.source = .ok pattern) ∧
            ∀ earlier, Registration.SucceedsAmong calls earlier → ¬ earlier.SameStep call) ∧
        (∀ error, (registry.perform call).1 = .error error →
          (∃ fault, error = .setup fault) ∧
            Registry.empty.performAll (calls ++ [call]) = registry) ∧
        ∀ other, ¬ call.SameStep other →
          (Registration.Succeeds (calls ++ [call]) other ↔
            Registration.Succeeds calls other) := by
  intro registry
  obtain ⟨successful, hsuccessful⟩ := Registration.exists_successful calls
  have hfilled : Filled registry successful := filled_performAll hsuccessful
  have hadd : Registry.empty.addAll (successful.map Registration.entry) = .ok registry :=
    addAll_of_registers hfilled.registers hfilled.unique
  refine ⟨⟨successful, hsuccessful, hfilled.map_entry, hfilled.registers, hadd⟩, hfilled.unique,
    fun call => ⟨?_, ?_, fun other => Registration.succeeds_concat_iff⟩⟩
  · simp only [← Registration.mem_successful_iff hsuccessful]
    exact Registration.succeeds_iff_of_successful hsuccessful
  · intro error herror
    obtain ⟨hsetup, hsame⟩ := perform_of_error herror
    rw [performAll_concat]
    exact ⟨hsetup, hsame⟩

/-- A second step of the same kind is refused, one of another kind is not. -/
example :
    let handler : Handler := .check fun _ _ => .ok ()
    let calls : List Registration :=
      [.precondition "the server is running" handler, .precondition "the server is running" handler,
        .expectation "the server is running" handler]
    (Registry.empty.performAll calls).definitions.map (fun definition => definition.kind) =
      [.precondition, .expectation] := by
  decide +kernel

end Calls

end ServiceHealth.Step
