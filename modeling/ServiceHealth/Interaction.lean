import ServiceHealth.Http.Batch
import ServiceHealth.Http.Redirect
import ServiceHealth.Report.Entry

/-!
# Interactions

A run talks to two sides: it sends requests to a service, and it prints a report
for a reader.  An interaction is a program that does nothing else: it is finished
with a result, or it sends a call and goes on with what is delivered, or it sends
copies of a call at once, pauses, or prints.  Two interactions that are equal do
the same against every service.
-/

namespace ServiceHealth

open Http (Call Delivery Reaction Response Service)
open Report (Entry)

/-- What a network does with copies of a call that are sent at once: what it
delivers for each, and in which order they are complete. -/
structure Completion (count : Nat) where
  deliveries : Fin count → Delivery
  order : List (Fin count)
  order_perm : order.Perm (List.finRange count)

/-- The deliveries in the order of completion. -/
def Completion.inOrder {count : Nat} (completion : Completion count) : List Delivery :=
  completion.order.map completion.deliveries

/-- The completion with these deliveries in an order that is given by numbers; if the
numbers are not all that there are, each once, the deliveries keep their own order. -/
def Completion.ofOrder {count : Nat} (deliveries : Fin count → Delivery) (numbers : List Nat) :
    Completion count :=
  let listed := numbers.filterMap fun n => if h : n < count then some ⟨n, h⟩ else none
  if h : listed.Perm (List.finRange count) then ⟨deliveries, listed, h⟩
  else ⟨deliveries, List.finRange count, List.Perm.refl _⟩

/-- A program that sends, pauses and prints. -/
inductive Interaction (α : Type) where
  | done (result : α)
  | send (call : Call) (next : Delivery → Interaction α)
  | sendTogether (count : Nat) (call : Call) (next : Completion count → Interaction α)
  | pause (millis : Nat) (next : Interaction α)
  | print (entry : Entry) (next : Interaction α)

namespace Interaction

/-- Goes on with the result of an interaction. -/
def bind {α β : Type} (interaction : Interaction α) (next : α → Interaction β) : Interaction β :=
  match interaction with
  | .done result => next result
  | .send call rest => .send call fun delivery => (rest delivery).bind next
  | .sendTogether count call rest =>
    .sendTogether count call fun completion => (rest completion).bind next
  | .pause millis rest => .pause millis (rest.bind next)
  | .print entry rest => .print entry (rest.bind next)

instance : Monad Interaction where
  pure := .done
  bind := Interaction.bind

@[simp] theorem pure_eq_done {α : Type} (result : α) :
    (pure result : Interaction α) = .done result := rfl

@[simp] theorem bind_done {α β : Type} (result : α) (next : α → Interaction β) :
    (Interaction.done result >>= next) = next result := rfl

theorem bind_assoc {α β γ : Type} (interaction : Interaction α) (next : α → Interaction β)
    (last : β → Interaction γ) :
    ((interaction >>= next) >>= last) = interaction >>= fun result => next result >>= last := by
  change (interaction.bind next).bind last = interaction.bind fun result => (next result).bind last
  induction interaction with
  | done result => rfl
  | send call rest ih => simp only [Interaction.bind, ih]
  | sendTogether count call rest ih => simp only [Interaction.bind, ih]
  | pause millis rest ih => simp only [Interaction.bind, ih]
  | print entry rest ih => simp only [Interaction.bind, ih]

/-- Sends a call. -/
def deliver (call : Call) : Interaction Delivery :=
  .send call .done

/-- Sends copies of a call at once; the deliveries come in the order of completion. -/
def deliverTogether (count : Nat) (call : Call) : Interaction (List Delivery) :=
  .sendTogether count call fun completion => .done completion.inOrder

/-- Pauses for some milliseconds. -/
def wait (millis : Nat) : Interaction Unit :=
  .pause millis (.done ())

/-- Prints one entry. -/
def say (entry : Entry) : Interaction Unit :=
  .print entry (.done ())

/-- Prints entries one after another. -/
def sayAll : List Entry → Interaction Unit
  | [] => .done ()
  | entry :: entries => .print entry (sayAll entries)

end Interaction

/-! ## Running an interaction -/

/-- The other side of an interaction: what it delivers may depend on all that was sent before. -/
structure Network (σ : Type) where
  exchange : σ → Call → Delivery × σ
  exchangeTogether : σ → (count : Nat) → Call → Completion count × σ

/-- What happened while an interaction ran. -/
inductive Event where
  | sent (call : Call)
  | sentTogether (count : Nat) (call : Call)
  | paused (millis : Nat)
  | printed (entry : Entry)

/-- What a run leaves: its result, the state of the network, and what happened, in order. -/
structure Trace (σ α : Type) where
  result : α
  state : σ
  events : List Event

/-- The trace with one more event at its start. -/
def Trace.after {σ α : Type} (event : Event) (trace : Trace σ α) : Trace σ α :=
  ⟨trace.result, trace.state, event :: trace.events⟩

/-- The entries that were printed. -/
def Trace.printed {σ α : Type} (trace : Trace σ α) : List Entry :=
  trace.events.filterMap fun event =>
    match event with
    | .printed entry => some entry
    | _ => none

/-- Runs an interaction against a network. -/
def Interaction.run {σ α : Type} (network : Network σ) (state : σ) :
    Interaction α → Trace σ α
  | .done result => ⟨result, state, []⟩
  | .send call next =>
    let (delivery, state) := network.exchange state call
    ((next delivery).run network state).after (.sent call)
  | .sendTogether count call next =>
    let (completion, state) := network.exchangeTogether state count call
    ((next completion).run network state).after (.sentTogether count call)
  | .pause millis next => (next.run network state).after (.paused millis)
  | .print entry next => (next.run network state).after (.printed entry)

/-- Two traces one after the other. -/
def Trace.followedBy {σ α β : Type} (first : Trace σ α) (second : Trace σ β) : Trace σ β :=
  ⟨second.result, second.state, first.events ++ second.events⟩

/-- An interaction that goes on with a result runs as its first part and then the rest,
which starts from the state that the first part leaves. -/
theorem Interaction.run_bind {σ α β : Type} (network : Network σ) (interaction : Interaction α)
    (next : α → Interaction β) (state : σ) :
    (interaction >>= next).run network state =
      (interaction.run network state).followedBy
        ((next (interaction.run network state).result).run network
          (interaction.run network state).state) := by
  change (interaction.bind next).run network state = _
  induction interaction generalizing state with
  | done result => rfl
  | send call rest ih =>
    simp only [Interaction.bind, Interaction.run, ih]
    rfl
  | sendTogether count call rest ih =>
    simp only [Interaction.bind, Interaction.run, ih]
    rfl
  | pause millis rest ih =>
    simp only [Interaction.bind, Interaction.run, ih]
    rfl
  | print entry rest ih =>
    simp only [Interaction.bind, Interaction.run, ih]
    rfl

/-- Makes a call so many times, one after another. -/
def Http.Service.repeated {σ : Type} (service : Service σ) (react : Call → Response → Reaction)
    (call : Call) :
    (count : Nat) → σ → { deliveries : List Delivery // deliveries.length = count } × σ
  | 0, state => (⟨[], rfl⟩, state)
  | count + 1, state =>
    let (delivery, state) := service.follow react Http.maxRedirects state call
    let (⟨deliveries, length_eq⟩, state) := service.repeated react call count state
    (⟨delivery :: deliveries, by simp [length_eq]⟩, state)

/-- The network between a service and a client that reacts to responses in some way; it
completes copies of a call in the order in which they are sent. -/
def Network.between {σ : Type} (react : Call → Response → Reaction) (service : Service σ) :
    Network σ where
  exchange := service.follow react Http.maxRedirects
  exchangeTogether state count call :=
    let (⟨deliveries, length_eq⟩, state) := service.repeated react call count state
    (⟨fun i => deliveries.get ⟨i.val, by omega⟩, List.finRange count, List.Perm.refl _⟩, state)

/-- The network of a service that follows redirects. -/
def Network.ofService {σ : Type} (service : Service σ) : Network σ :=
  Network.between Call.react service

end ServiceHealth
