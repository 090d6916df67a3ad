import ServiceHealth.Proofs.Execution.Probes

/-!
# How waiting for the service ends

Waiting ends in one of two ways.  Either some probe among the allowed ones is answered
with 200: then the first such probe is the last that is sent, and its number is
reported.  Or there is none: then all allowed probes are sent, and the error describes
how the last of them fell short.  `probeUntilReady_run_eq_iff` says that `Waiting`, which
lists these two ways, fixes all that a run leaves, and from this follow when waiting is
successful and what it sends.

The probes are one request, made again and again: the place of a probe decides neither
what is sent nor how long the pause before it is.
-/

namespace ServiceHealth.Execution

open Http (Call Client Outcome Request Url)
open Settings (Readiness)

variable {σ : Type} {network : Network σ} {client : Client} {readiness : Readiness} {state : σ}
  {port : Settings.Port}

/-! ## Outcomes that fall short -/

/-- How the outcome of a probe falls short of an answer with 200, in words. -/
inductive FallsShort : Outcome → (reason : String) → Prop
  | status {response : Http.Response} (other : response.status ≠ 200) :
      FallsShort (.answered response) s!"status {response.status}"
  | unanswered (failure : Http.TransportFailure) :
      FallsShort (.failed failure) (failure.kind.name ++ ": " ++ failure.message)

theorem fallsShort_of_shortcoming? {outcome : Outcome} {reason : String}
    (h : shortcoming? outcome = some reason) : FallsShort outcome reason := by
  cases outcome with
  | answered response =>
      by_cases hstatus : response.status = 200
      · rw [shortcoming?, if_pos hstatus] at h
        cases h
      · rw [shortcoming?, if_neg hstatus] at h
        injection h with heq
        subst heq
        exact .status hstatus
  | failed failure =>
      injection h with heq
      subst heq
      exact .unanswered failure

theorem FallsShort.shortcoming? {outcome : Outcome} {reason : String}
    (h : FallsShort outcome reason) : shortcoming? outcome = some reason := by
  cases h with
  | status hother => rw [Execution.shortcoming?, if_neg hother]
  | unanswered failure => rfl

/-! ## The call of a probe -/

/-- The call that a probe makes: a GET without header fields and body, to the address of the
configured path. -/
structure IsProbe (client : Client) (readiness : Readiness) (call : Call) : Prop where
  method : call.method = "GET"
  address : ∃ url, Url.read? (client.url readiness.path) = some url ∧
    call.url = url.withoutCredentials
  fields : call.fields = []
  body : call.body = none
  timeoutSecs : call.timeoutSecs = readiness.probeTimeoutSecs

theorem isProbe_of_build {call : Call}
    (h : client.build (Request.get readiness.path) readiness.probeTimeoutSecs = .ok call) :
    IsProbe client readiness call := by
  have hfields : (Request.get readiness.path).sentFields = .ok [] := rfl
  have hpath : (Request.get readiness.path).path = readiness.path := rfl
  rw [Client.build, hfields, hpath] at h
  dsimp only at h
  split at h
  · cases h
  · next url hread =>
      split at h
      · injection h with heq
        subst heq
        exact ⟨rfl, ⟨url, hread, rfl⟩, rfl, rfl, rfl⟩
      · cases h

theorem isProbe_of_mem_probeCalls {count : Nat} {call : Call}
    (h : call ∈ probeCalls client readiness count) :
    client.build (Request.get readiness.path) readiness.probeTimeoutSecs = .ok call ∧
      IsProbe client readiness call := by
  unfold probeCalls at h
  cases hbuild : client.build (Request.get readiness.path) readiness.probeTimeoutSecs with
  | ok built =>
      rw [hbuild] at h
      obtain rfl := List.eq_of_mem_replicate h
      exact ⟨rfl, isProbe_of_build hbuild⟩
  | error failure =>
      rw [hbuild] at h
      cases h

/-! ## Probes with pauses between them -/

/-- So many probes with a pause between two of them.  A probe is its call, if its request can be
built. -/
def spacedProbes (client : Client) (readiness : Readiness) (count : Nat) : List Event :=
  ((List.replicate count ((probeCalls client readiness 1).map .sent)).intersperse
    [.paused readiness.retryDelayMillis]).flatten

theorem spacedProbes_one (client : Client) (readiness : Readiness) :
    spacedProbes client readiness 1 = (probeCalls client readiness 1).map .sent := by
  simp [spacedProbes]

theorem spacedProbes_succ_succ (client : Client) (readiness : Readiness) (count : Nat) :
    spacedProbes client readiness (count + 2) = (probeCalls client readiness 1).map .sent ++
      .paused readiness.retryDelayMillis :: spacedProbes client readiness (count + 1) := by
  simp [spacedProbes, List.replicate_succ]

/-- What happens while probes are sent does not depend on how they are answered. -/
theorem probeEvents_eq_spacedProbes (network : Network σ) (client : Client)
    (readiness : Readiness) (state : σ) (count : Nat) :
    probeEvents network client readiness state count = spacedProbes client readiness count := by
  fun_induction probeEvents network client readiness state count with
  | case1 => rfl
  | case2 state => rw [events_probed, spacedProbes_one]
  | case3 state count trace ih => rw [events_probed, ih, spacedProbes_succ_succ]

/-! ## The two endings -/

/-- What waiting leaves: the service is ready at the first probe that shows it, or the allowed
attempts are used up. -/
inductive Waiting (network : Network σ) (client : Client) (port : Settings.Port)
    (readiness : Readiness) (state : σ) : Trace σ (Except Error Ready) → Prop
  | ready {earlier : Nat} (allowed : earlier < allowedAttempts readiness)
      (first : FirstReady network client readiness state earlier) :
      Waiting network client port readiness state
        ⟨.ok ⟨client.url readiness.path, earlier + 1⟩,
          stateAfterProbes network client readiness state (earlier + 1),
          spacedProbes client readiness (earlier + 1)⟩
  | exhausted {reason : String}
      (none : ∀ attempt < allowedAttempts readiness,
        ¬ IsReady (probeOutcome network client readiness state attempt))
      (last : FallsShort
        (probeOutcome network client readiness state (allowedAttempts readiness - 1)) reason) :
      Waiting network client port readiness state
        ⟨.error (.serverNotReady (client.url readiness.path) port.number
            (allowedAttempts readiness) reason),
          stateAfterProbes network client readiness state (allowedAttempts readiness),
          spacedProbes client readiness (allowedAttempts readiness)⟩

theorem probeUntilReady_run_eq_iff {trace : Trace σ (Except Error Ready)} :
    (probeUntilReady client port readiness).run network state = trace ↔
      Waiting network client port readiness state trace := by
  constructor
  · rintro rfl
    rcases firstReady_or_not_ready network client readiness state (allowedAttempts readiness) with
      ⟨earlier, hallowed, hfirst⟩ | hnone
    · rw [probeUntilReady_run_of_firstReady hfirst hallowed port, probeEvents_eq_spacedProbes]
      exact .ready hallowed hfirst
    · obtain ⟨reason, hreason, hrun⟩ := probeUntilReady_run_of_not_ready hnone port
      rw [hrun, probeEvents_eq_spacedProbes]
      exact .exhausted hnone (fallsShort_of_shortcoming? hreason)
  · intro h
    cases h with
    | ready hallowed hfirst =>
        rw [probeUntilReady_run_of_firstReady hfirst hallowed port, probeEvents_eq_spacedProbes]
    | exhausted hnone hlast =>
        obtain ⟨reason, hreason, hrun⟩ := probeUntilReady_run_of_not_ready hnone port
        -- the last outcome falls short in one way only
        obtain rfl := Option.some.inj (hlast.shortcoming?.symm.trans hreason)
        rw [hrun, probeEvents_eq_spacedProbes]

namespace Waiting

variable {trace : Trace σ (Except Error Ready)}

theorem result_eq_ok_iff (h : Waiting network client port readiness state trace) :
    (∃ report, trace.result = .ok report) ↔
      ∃ attempt < allowedAttempts readiness,
        IsReady (probeOutcome network client readiness state attempt) := by
  cases h with
  | ready hallowed hfirst =>
      exact ⟨fun _ => ⟨_, hallowed, hfirst.1⟩, fun _ => ⟨_, rfl⟩⟩
  | exhausted hnone hlast =>
      constructor
      · rintro ⟨report, hreport⟩
        cases hreport
      · rintro ⟨attempt, hlt, hready⟩
        exact absurd hready (hnone attempt hlt)

theorem isProbe_of_mem_calls (h : Waiting network client port readiness state trace) {call : Call}
    (hcall : call ∈ trace.calls) :
    client.build (Request.get readiness.path) readiness.probeTimeoutSecs = .ok call ∧
      IsProbe client readiness call := by
  -- both endings send probes only, and differ in their number
  have hcalls : ∃ count, trace.events = probeEvents network client readiness state count := by
    cases h with
    | ready _ _ => exact ⟨_, (probeEvents_eq_spacedProbes ..).symm⟩
    | exhausted _ _ => exact ⟨_, (probeEvents_eq_spacedProbes ..).symm⟩
  obtain ⟨count, hevents⟩ := hcalls
  rw [Trace.calls, hevents, calls_probeEvents] at hcall
  exact isProbe_of_mem_probeCalls hcall

end Waiting

/-- Waiting for the service of a session uses what the settings of this session say. -/
theorem ready_run_eq_iff {settings : Settings} {trace : Trace σ (Except Error Ready)} :
    (ready ⟨settings⟩).run network state = trace ↔
      Waiting network (Client.ofSettings settings) settings.server.port settings.readiness state
        trace :=
  probeUntilReady_run_eq_iff

/-- However the service answers, a run of `probeUntilReady` leaves what `Waiting` describes and
nothing else, and for a session `Waiting` is about what its settings say.  A run is successful
exactly if some probe among the allowed ones is answered with 200, and whatever it sends is the
one call of a probe. -/
theorem probeUntilReady_waits (network : Network σ) (client : Client) (port : Settings.Port)
    (readiness : Readiness) (state : σ) :
    (∀ trace, (probeUntilReady client port readiness).run network state = trace ↔
      Waiting network client port readiness state trace) ∧
    (∀ settings trace, (ready ⟨settings⟩).run network state = trace ↔
      Waiting network (Client.ofSettings settings) settings.server.port settings.readiness state
        trace) ∧
    ((∃ report, ((probeUntilReady client port readiness).run network state).result = .ok report) ↔
      ∃ attempt < allowedAttempts readiness,
        IsReady (probeOutcome network client readiness state attempt)) ∧
    ∀ call ∈ ((probeUntilReady client port readiness).run network state).calls,
      client.build (Request.get readiness.path) readiness.probeTimeoutSecs = .ok call ∧
        IsProbe client readiness call := by
  have hwaiting : Waiting network client port readiness state
      ((probeUntilReady client port readiness).run network state) :=
    probeUntilReady_run_eq_iff.mp rfl
  refine ⟨fun trace => probeUntilReady_run_eq_iff, fun settings trace => ready_run_eq_iff,
    hwaiting.result_eq_ok_iff, ?_⟩
  intro call hcall
  exact hwaiting.isProbe_of_mem_calls hcall

end ServiceHealth.Execution
