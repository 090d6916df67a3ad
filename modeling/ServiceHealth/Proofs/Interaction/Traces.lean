import ServiceHealth.Interaction

/-!
# Traces of interactions

What the parts of an interaction leave when it is run, the calls that a trace shows,
and what it shows besides the printed report.  `Interaction.run_bind` splits a run where
an interaction goes on with a result; the lemmas below open the parts that are left then.
-/

namespace ServiceHealth

variable {σ α β : Type}

/-- The calls that an event makes: copies of a call that are sent at once are so many calls. -/
def Event.calls : Event → List Http.Call
  | .sent call => [call]
  | .sentTogether count call => List.replicate count call
  | .paused _ => []
  | .printed _ => []

/-- The calls that were made, in order. -/
def Trace.calls (trace : Trace σ α) : List Http.Call :=
  trace.events.flatMap Event.calls

@[simp] theorem flatMap_calls_map_sent (calls : List Http.Call) :
    (calls.map Event.sent).flatMap Event.calls = calls := by
  induction calls with
  | nil => rfl
  | cons call calls ih => exact congrArg (call :: ·) ih

@[simp] theorem flatMap_calls_map_printed (entries : List Report.Entry) :
    (entries.map Event.printed).flatMap Event.calls = [] := by
  rw [List.flatMap_eq_nil_iff]
  intro event hevent
  obtain ⟨entry, -, rfl⟩ := List.mem_map.mp hevent
  rfl

/-! ## What happens besides printing -/

/-- The event is a part of the printed report. -/
def Event.isPrinted : Event → Bool
  | .printed _ => true
  | _ => false

/-- What happens besides printing, in order: what is sent, and the pauses. -/
def Event.traffic (events : List Event) : List Event :=
  events.filter fun event => !event.isPrinted

/-- What happened in a run besides printing. -/
def Trace.traffic (trace : Trace σ α) : List Event :=
  Event.traffic trace.events

namespace Event

@[simp] theorem traffic_nil : traffic [] = [] := rfl

@[simp] theorem traffic_cons_printed (entry : Report.Entry) (events : List Event) :
    traffic (.printed entry :: events) = traffic events := rfl

@[simp] theorem traffic_append (first second : List Event) :
    traffic (first ++ second) = traffic first ++ traffic second :=
  List.filter_append ..

theorem traffic_flatMap {ι : Type} (events : ι → List Event) (sources : List ι) :
    traffic (sources.flatMap events) = sources.flatMap fun source => traffic (events source) := by
  induction sources with
  | nil => rfl
  | cons source sources ih => rw [List.flatMap_cons, List.flatMap_cons, traffic_append, ih]

/-- Entries that are printed make no calls. -/
theorem flatMap_calls_traffic (events : List Event) :
    (traffic events).flatMap calls = events.flatMap calls := by
  induction events with
  | nil => rfl
  | cons event events ih =>
      cases event with
      | printed entry =>
          rw [traffic_cons_printed, ih]
          rfl
      | _ =>
          rw [traffic, List.filter_cons_of_pos rfl, List.flatMap_cons, List.flatMap_cons, ← ih]
          rfl

end Event

/-- Runs in which the same is sent make the same calls. -/
theorem Trace.calls_eq_of_traffic {first : Trace σ α} {second : Trace σ β}
    (h : first.traffic = second.traffic) : first.calls = second.calls := by
  have hfirst : first.traffic.flatMap Event.calls = first.calls :=
    Event.flatMap_calls_traffic first.events
  have hsecond : second.traffic.flatMap Event.calls = second.calls :=
    Event.flatMap_calls_traffic second.events
  rw [← hfirst, ← hsecond, h]

/-- If events are left out of a run, its entries are printed with some left out. -/
theorem Trace.printed_sublist {first second : Trace σ α} (h : first.events.Sublist second.events) :
    first.printed.Sublist second.printed :=
  h.filterMap _

theorem Trace.length_printed (trace : Trace σ α) :
    trace.printed.length = trace.events.countP Event.isPrinted := by
  rw [printed, List.length_filterMap_eq_countP]
  congr 1
  funext event
  cases event <;> rfl

namespace Interaction

@[simp] theorem run_done (network : Network σ) (state : σ) (result : α) :
    (Interaction.done result).run network state = ⟨result, state, []⟩ := rfl

/-- Entries that are printed one after another are what happens, and nothing else. -/
theorem run_sayAll (network : Network σ) (state : σ) (entries : List Report.Entry) :
    (Interaction.sayAll entries).run network state = ⟨(), state, entries.map .printed⟩ := by
  induction entries with
  | nil => rfl
  | cons entry entries ih =>
      rw [sayAll, run, ih]
      rfl

@[simp] theorem run_say_bind (network : Network σ) (state : σ) (entry : Report.Entry)
    (next : Unit → Interaction β) :
    (Interaction.say entry >>= next).run network state =
      ((next ()).run network state).after (.printed entry) := rfl

@[simp] theorem run_wait_bind (network : Network σ) (state : σ) (millis : Nat)
    (next : Unit → Interaction β) :
    (Interaction.wait millis >>= next).run network state =
      ((next ()).run network state).after (.paused millis) := rfl

/-- An interaction that is preceded by another one starts from what that one leaves. -/
theorem run_bind_of_run {network : Network σ} {state : σ} {interaction : Interaction α}
    {trace : Trace σ α} (hrun : interaction.run network state = trace)
    (next : α → Interaction β) :
    (interaction >>= next).run network state =
      trace.followedBy ((next trace.result).run network trace.state) := by
  rw [run_bind, hrun]

end Interaction

end ServiceHealth
