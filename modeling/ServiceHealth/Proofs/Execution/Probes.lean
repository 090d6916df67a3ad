import ServiceHealth.Execution.Readiness
import ServiceHealth.Proofs.Interaction.Traces

/-!
# What waiting for the service comes to

Probes are sent one after another, each from the state of the network that the one
before it leaves.  `stateAfterProbes` and `probeOutcome` follow them without asking when
to stop.  Waiting stops at the first probe that shows that the service is ready
(`probeFrom_run_of_firstReady`), or when the allowed attempts are used up
(`probeFrom_run_of_not_ready`); either way only probes are sent, with a pause between
two of them.
-/

namespace ServiceHealth.Execution

open Http (Call Client Outcome Request)
open Settings (Readiness)

variable {σ : Type}

/-! ## Probes, one after another -/

/-- What a probe leaves. -/
def probed (network : Network σ) (client : Client) (readiness : Readiness) (state : σ) :
    Trace σ Outcome :=
  (probe client readiness).run network state

theorem run_probe (network : Network σ) (client : Client) (readiness : Readiness) (state : σ) :
    (probe client readiness).run network state = probed network client readiness state := rfl

-- otherwise the call of a probe would be evaluated wherever two states are compared
attribute [irreducible] probed

/-- The state of the network after so many probes. -/
def stateAfterProbes (network : Network σ) (client : Client) (readiness : Readiness) :
    σ → (count : Nat) → σ
  | state, 0 => state
  | state, count + 1 =>
    stateAfterProbes network client readiness (probed network client readiness state).state count

/-- The outcome of a probe that so many probes come before. -/
def probeOutcome (network : Network σ) (client : Client) (readiness : Readiness) (state : σ)
    (earlier : Nat) : Outcome :=
  (probed network client readiness (stateAfterProbes network client readiness state earlier)).result

/-- The outcome shows that the service is ready. -/
def IsReady (outcome : Outcome) : Prop :=
  ∃ response, outcome = .answered response ∧ response.status = 200

/-- The probe that so many probes come before is the first to show that the service is ready. -/
def FirstReady (network : Network σ) (client : Client) (readiness : Readiness) (state : σ)
    (earlier : Nat) : Prop :=
  IsReady (probeOutcome network client readiness state earlier) ∧
    ∀ attempt < earlier, ¬ IsReady (probeOutcome network client readiness state attempt)

/-- What happens while so many probes are sent, with a pause between two of them. -/
def probeEvents (network : Network σ) (client : Client) (readiness : Readiness) :
    σ → (count : Nat) → List Event
  | _, 0 => []
  | state, 1 => (probed network client readiness state).events
  | state, count + 2 =>
    let trace := probed network client readiness state
    trace.events ++ .paused readiness.retryDelayMillis ::
      probeEvents network client readiness trace.state (count + 1)

/-- The calls of so many probes: the same call each time, or none if the request cannot be
built. -/
def probeCalls (client : Client) (readiness : Readiness) (count : Nat) : List Call :=
  match client.build (Request.get readiness.path) readiness.probeTimeoutSecs with
  | .ok call => List.replicate count call
  | .error _ => []

variable {network : Network σ} {client : Client} {readiness : Readiness}

theorem shortcoming?_eq_none_iff {outcome : Outcome} :
    shortcoming? outcome = none ↔ IsReady outcome := by
  cases outcome with
  | answered response =>
      by_cases hstatus : response.status = 200
      · simp [shortcoming?, IsReady, hstatus]
      · simp [shortcoming?, IsReady, hstatus]
  | failed failure => simp [shortcoming?, IsReady]

@[simp] theorem probeOutcome_zero (state : σ) :
    probeOutcome network client readiness state 0 =
      (probed network client readiness state).result := by
  rw [probeOutcome, stateAfterProbes]

@[simp] theorem probeOutcome_succ (state : σ) (earlier : Nat) :
    probeOutcome network client readiness state (earlier + 1) =
      probeOutcome network client readiness (probed network client readiness state).state
        earlier := by
  rw [probeOutcome, stateAfterProbes, probeOutcome]

theorem firstReady_zero_iff {state : σ} :
    FirstReady network client readiness state 0 ↔
      IsReady (probed network client readiness state).result := by
  simp [FirstReady]

/-- If the first probe does not show it, the search goes on after it. -/
theorem firstReady_succ_iff {state : σ} {earlier : Nat} :
    FirstReady network client readiness state (earlier + 1) ↔
      ¬ IsReady (probed network client readiness state).result ∧
        FirstReady network client readiness (probed network client readiness state).state
          earlier := by
  rw [FirstReady, FirstReady, Nat.forall_lt_succ_left, probeOutcome_zero, probeOutcome_succ]
  simp only [probeOutcome_succ]
  exact and_left_comm

/-- Only one probe is the first to show that the service is ready. -/
theorem FirstReady.unique {state : σ} {earlier other : Nat}
    (h : FirstReady network client readiness state earlier)
    (hother : FirstReady network client readiness state other) : earlier = other := by
  rcases Nat.lt_trichotomy earlier other with hlt | heq | hgt
  · exact absurd h.1 (hother.2 earlier hlt)
  · exact heq
  · exact absurd hother.1 (h.2 other hgt)

/-- Either a probe among the first ones is the first to show that the service is ready, or
none of them shows it. -/
theorem firstReady_or_not_ready (network : Network σ) (client : Client) (readiness : Readiness)
    (state : σ) (count : Nat) :
    (∃ earlier < count, FirstReady network client readiness state earlier) ∨
      ∀ attempt < count, ¬ IsReady (probeOutcome network client readiness state attempt) := by
  induction count generalizing state with
  | zero => exact .inr fun attempt hlt => absurd hlt (Nat.not_lt_zero _)
  | succ count ih =>
      by_cases hfirst : IsReady (probed network client readiness state).result
      · exact .inl ⟨0, Nat.succ_pos _, firstReady_zero_iff.mpr hfirst⟩
      · rcases ih (probed network client readiness state).state with
          ⟨earlier, hlt, hready⟩ | hnone
        · exact .inl ⟨earlier + 1, Nat.succ_lt_succ hlt,
            firstReady_succ_iff.mpr ⟨hfirst, hready⟩⟩
        · right
          rw [Nat.forall_lt_succ_left, probeOutcome_zero]
          simp only [probeOutcome_succ]
          exact ⟨hfirst, hnone⟩

/-! ## Waiting -/

section Steps

variable {state : σ} (port : Settings.Port) (completed : Nat)

theorem judge_of_ready {outcome : Outcome} (h : IsReady outcome) (attempts : Nat)
    (otherwise : String → Interaction (Except Error Ready)) :
    judge client readiness attempts outcome otherwise =
      .done (.ok ⟨client.url readiness.path, attempts⟩) := by
  rw [← shortcoming?_eq_none_iff] at h
  simp only [judge, h, Interaction.pure_eq_done]

/-- A probe that shows that the service is ready ends the loop. -/
theorem run_probeFrom_of_ready (h : IsReady (probed network client readiness state).result)
    (left : Nat) :
    (probeFrom client port readiness left completed).run network state =
      ⟨.ok ⟨client.url readiness.path, completed + 1⟩,
        (probed network client readiness state).state,
        (probed network client readiness state).events⟩ := by
  have hrun := run_probe network client readiness state
  -- the equations of the loop differ in what follows a probe, and nothing follows this one
  cases left <;>
    rw [probeFrom, Interaction.run_bind_of_run hrun, judge_of_ready h, Interaction.run_done,
      Trace.followedBy, List.append_nil]

/-- The last probe that is allowed ends the loop. -/
theorem run_probeFrom_last {reason : String}
    (h : shortcoming? (probed network client readiness state).result = some reason) :
    (probeFrom client port readiness 0 completed).run network state =
      ⟨.error (.serverNotReady (client.url readiness.path) port.number (completed + 1) reason),
        (probed network client readiness state).state,
        (probed network client readiness state).events⟩ := by
  rw [probeFrom, Interaction.run_bind_of_run (run_probe network client readiness state)]
  simp only [judge, h, Interaction.pure_eq_done, Interaction.run_done, Trace.followedBy,
    List.append_nil]

/-- After another probe there is a pause, and then the loop goes on. -/
theorem run_probeFrom_succ {left : Nat}
    (h : ¬ IsReady (probed network client readiness state).result)
    {trace : Trace σ (Except Error Ready)}
    (hrest : (probeFrom client port readiness left (completed + 1)).run network
      (probed network client readiness state).state = trace) :
    (probeFrom client port readiness (left + 1) completed).run network state =
      ⟨trace.result, trace.state, (probed network client readiness state).events ++
        .paused readiness.retryDelayMillis :: trace.events⟩ := by
  obtain ⟨reason, hreason⟩ := Option.ne_none_iff_exists'.mp (mt shortcoming?_eq_none_iff.mp h)
  rw [probeFrom, Interaction.run_bind_of_run (run_probe network client readiness state)]
  simp only [judge, hreason, Interaction.run_wait_bind, hrest, Trace.followedBy, Trace.after]

end Steps

/-- Waiting ends with the first probe that shows that the service is ready. -/
theorem probeFrom_run_of_firstReady {state : σ} {earlier left : Nat}
    (h : FirstReady network client readiness state earlier) (hle : earlier ≤ left)
    (port : Settings.Port) (completed : Nat) :
    (probeFrom client port readiness left completed).run network state =
      ⟨.ok ⟨client.url readiness.path, completed + earlier + 1⟩,
        stateAfterProbes network client readiness state (earlier + 1),
        probeEvents network client readiness state (earlier + 1)⟩ := by
  induction earlier generalizing left completed state with
  | zero =>
      rw [run_probeFrom_of_ready port completed (firstReady_zero_iff.mp h)]
      simp only [Nat.add_zero, stateAfterProbes, probeEvents]
  | succ earlier ih =>
      obtain ⟨hfirst, hrest⟩ := firstReady_succ_iff.mp h
      obtain ⟨fewer, rfl⟩ : ∃ fewer, left = fewer + 1 := ⟨left - 1, by omega⟩
      have hcount : completed + 1 + earlier + 1 = completed + (earlier + 1) + 1 := by omega
      rw [run_probeFrom_succ port completed hfirst
        (ih hrest (Nat.le_of_succ_le_succ hle) (completed + 1)), hcount]
      simp only [stateAfterProbes, probeEvents]

/-- If no probe shows that the service is ready, waiting ends when the attempts are used up,
and the last probe says why. -/
theorem probeFrom_run_of_not_ready {state : σ} {left : Nat}
    (h : ∀ attempt < left + 1, ¬ IsReady (probeOutcome network client readiness state attempt))
    (port : Settings.Port) (completed : Nat) :
    ∃ reason, shortcoming? (probeOutcome network client readiness state left) = some reason ∧
      (probeFrom client port readiness left completed).run network state =
        ⟨.error (.serverNotReady (client.url readiness.path) port.number (completed + left + 1)
            reason),
          stateAfterProbes network client readiness state (left + 1),
          probeEvents network client readiness state (left + 1)⟩ := by
  induction left generalizing completed state with
  | zero =>
      obtain ⟨reason, hreason⟩ := Option.ne_none_iff_exists'.mp
        (mt shortcoming?_eq_none_iff.mp (h 0 (Nat.succ_pos _)))
      rw [probeOutcome_zero] at hreason ⊢
      refine ⟨reason, hreason, ?_⟩
      rw [run_probeFrom_last port completed hreason]
      simp only [Nat.add_zero, stateAfterProbes, probeEvents]
  | succ left ih =>
      rw [Nat.forall_lt_succ_left, probeOutcome_zero] at h
      simp only [probeOutcome_succ] at h
      obtain ⟨reason, hreason, hrest⟩ := ih h.2 (completed + 1)
      have hcount : completed + 1 + left + 1 = completed + (left + 1) + 1 := by omega
      refine ⟨reason, by rw [probeOutcome_succ]; exact hreason, ?_⟩
      rw [run_probeFrom_succ port completed h.1 hrest, hcount]
      simp only [stateAfterProbes, probeEvents]

/-- Waiting takes no longer than to the first probe that shows that the service is ready. -/
theorem probeUntilReady_run_of_firstReady {state : σ} {earlier : Nat}
    (h : FirstReady network client readiness state earlier)
    (hlt : earlier < allowedAttempts readiness) (port : Settings.Port) :
    (probeUntilReady client port readiness).run network state =
      ⟨.ok ⟨client.url readiness.path, earlier + 1⟩,
        stateAfterProbes network client readiness state (earlier + 1),
        probeEvents network client readiness state (earlier + 1)⟩ := by
  rw [probeUntilReady, probeFrom_run_of_firstReady h (Nat.le_sub_one_of_lt hlt), Nat.zero_add]

/-- Waiting is given up when the allowed attempts are used up. -/
theorem probeUntilReady_run_of_not_ready {state : σ}
    (h : ∀ attempt < allowedAttempts readiness,
      ¬ IsReady (probeOutcome network client readiness state attempt)) (port : Settings.Port) :
    ∃ reason, shortcoming?
        (probeOutcome network client readiness state (allowedAttempts readiness - 1)) =
          some reason ∧
      (probeUntilReady client port readiness).run network state =
        ⟨.error (.serverNotReady (client.url readiness.path) port.number
            (allowedAttempts readiness) reason),
          stateAfterProbes network client readiness state (allowedAttempts readiness),
          probeEvents network client readiness state (allowedAttempts readiness)⟩ := by
  -- at least one attempt is allowed, so there is a last one
  have hallowed : allowedAttempts readiness - 1 + 1 = allowedAttempts readiness :=
    Nat.sub_add_cancel (Nat.le_max_left 1 _)
  obtain ⟨reason, hreason, hrun⟩ := probeFrom_run_of_not_ready (hallowed.symm ▸ h) port 0
  rw [Nat.zero_add, hallowed] at hrun
  exact ⟨reason, hreason, hrun⟩

section Ready

variable {settings : Settings} {state : σ}

theorem ready_run_of_firstReady {earlier : Nat}
    (h : FirstReady network (Client.ofSettings settings) settings.readiness state earlier)
    (hlt : earlier < allowedAttempts settings.readiness) :
    (ready ⟨settings⟩).run network state =
      ⟨.ok ⟨(Client.ofSettings settings).url settings.readiness.path, earlier + 1⟩,
        stateAfterProbes network (Client.ofSettings settings) settings.readiness state
          (earlier + 1),
        probeEvents network (Client.ofSettings settings) settings.readiness state
          (earlier + 1)⟩ :=
  probeUntilReady_run_of_firstReady h hlt settings.server.port

theorem ready_run_of_not_ready
    (h : ∀ attempt < allowedAttempts settings.readiness, ¬ IsReady
      (probeOutcome network (Client.ofSettings settings) settings.readiness state attempt)) :
    ∃ error, (ready ⟨settings⟩).run network state =
      ⟨.error error,
        stateAfterProbes network (Client.ofSettings settings) settings.readiness state
          (allowedAttempts settings.readiness),
        probeEvents network (Client.ofSettings settings) settings.readiness state
          (allowedAttempts settings.readiness)⟩ := by
  obtain ⟨reason, -, hrun⟩ := probeUntilReady_run_of_not_ready h settings.server.port
  exact ⟨_, hrun⟩

end Ready

/-! ## What is sent -/

/-- A probe makes its call, and nothing else happens. -/
theorem events_probed (network : Network σ) (client : Client) (readiness : Readiness)
    (state : σ) :
    (probed network client readiness state).events =
      (probeCalls client readiness 1).map .sent := by
  rw [← run_probe]
  unfold probe Client.requestWithin probeCalls
  cases client.build (Request.get readiness.path) readiness.probeTimeoutSecs with
  | error failure => rfl
  | ok call => rfl

theorem probeCalls_succ (client : Client) (readiness : Readiness) (count : Nat) :
    probeCalls client readiness (count + 1) =
      probeCalls client readiness 1 ++ probeCalls client readiness count := by
  unfold probeCalls
  cases client.build (Request.get readiness.path) readiness.probeTimeoutSecs with
  | error failure => rfl
  | ok call => rfl

theorem probeCalls_zero (client : Client) (readiness : Readiness) :
    probeCalls client readiness 0 = [] := by
  unfold probeCalls
  cases client.build (Request.get readiness.path) readiness.probeTimeoutSecs with
  | error failure => rfl
  | ok call => rfl

/-- While probes are sent, only they are sent. -/
theorem calls_probeEvents (network : Network σ) (client : Client) (readiness : Readiness)
    (state : σ) (count : Nat) :
    (probeEvents network client readiness state count).flatMap Event.calls =
      probeCalls client readiness count := by
  fun_induction probeEvents network client readiness state count with
  | case1 => rw [List.flatMap_nil, probeCalls_zero]
  | case2 state => rw [events_probed, flatMap_calls_map_sent]
  | case3 state count trace ih =>
      rw [List.flatMap_append, events_probed, flatMap_calls_map_sent, List.flatMap_cons, ih,
        probeCalls_succ client readiness (count + 1), Event.calls, List.nil_append]

/-- While probes are sent, nothing is printed. -/
theorem printed_notMem_probeEvents (network : Network σ) (client : Client)
    (readiness : Readiness) (state : σ) (count : Nat) (entry : Report.Entry) :
    .printed entry ∉ probeEvents network client readiness state count := by
  fun_induction probeEvents network client readiness state count with
  | case1 => exact List.not_mem_nil
  | case2 state =>
      rw [events_probed]
      simp
  | case3 state count trace ih =>
      rw [events_probed]
      simp [ih]

end ServiceHealth.Execution
