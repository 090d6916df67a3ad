import ServiceHealth.Http.Client
import ServiceHealth.Proofs.Interaction.Traces

/-!
# Interactions with a network that does not remember

A network does not remember if what it delivers for a call depends on the call alone;
the order in which copies of a call are complete may still depend on all that was sent
before.  An interaction is steady against a network if its result does not depend on
the state in which it finds the network.

Interactions that do not look at the order of completion are steady against a network
that does not remember: a call is (`steady_deliver`), a batch is made of copies of one
outcome (`run_requestTogether_of_isMemoryless`), and what goes on with the result of
a steady interaction is steady again if its continuation is (`steady_bind`).
-/

namespace ServiceHealth

open Http (Call Delivery Fault Reaction Response Service)

variable {σ α β : Type}

/-! ## Networks that do not remember -/

/-- What the network delivers for a call does not depend on what was sent before, nor on what
is sent at the same time. -/
structure Network.IsMemoryless (network : Network σ) : Prop where
  exchange : ∀ first second call,
    (network.exchange first call).1 = (network.exchange second call).1
  together : ∀ first second count call copy,
    (network.exchangeTogether first count call).1.deliveries copy =
      (network.exchange second call).1

/-- The network that delivers the same for every call. -/
def Network.always (delivery : Delivery) : Network Unit where
  exchange _ _ := (delivery, ())
  exchangeTogether _ _ _ := (Completion.ofOrder (fun _ => delivery) [], ())

/-- What the service answers to a call does not depend on what was sent before. -/
def Http.Service.IsMemoryless (service : Service σ) : Prop :=
  ∀ first second call, (service.answer first call).1 = (service.answer second call).1

/-- A service that answers by the call alone, and counts the calls. -/
def Http.Service.counting (answer : Call → Except Fault Response) : Service Nat :=
  ⟨fun calls call => (answer call, calls + 1)⟩

theorem Http.Service.isMemoryless_counting (answer : Call → Except Fault Response) :
    (counting answer).IsMemoryless :=
  fun _ _ _ => rfl

section Services

variable {service : Service σ} {react : Call → Response → Reaction}

/-- What is delivered for a call is decided by its answer, if the client does not go on. -/
theorem fst_follow (service : Service σ) (react : Call → Response → Reaction) (redirects : Nat)
    (state : σ) (call : Call) :
    (service.follow react redirects state call).1 =
      match (service.answer state call).1 with
      | .error fault => .failed fault
      | .ok response =>
        match react call response with
        | .accept => .answered response
        | .giveUp fault => .failed (if redirects = 0 then .redirects call.url else fault)
        | .goOn next =>
          match redirects with
          | 0 => .failed (.redirects call.url)
          | redirects + 1 =>
            (service.follow react redirects (service.answer state call).2 next).1 := by
  rw [Service.follow_eq]
  rcases service.answer state call with ⟨answer, after⟩
  cases answer with
  | error fault => rfl
  | ok response =>
      cases hreaction : react call response with
      | accept => simp only [hreaction]
      | giveUp fault => simp only [hreaction]
      | goOn next => cases redirects <;> simp only [hreaction]

theorem fst_follow_of_isMemoryless (h : service.IsMemoryless) (redirects : Nat)
    (first second : σ) (call : Call) :
    (service.follow react redirects first call).1 =
      (service.follow react redirects second call).1 := by
  induction redirects generalizing first second call with
  | zero => rw [fst_follow, fst_follow service react 0 second, h first second call]
  | succ redirects ih =>
      rw [fst_follow, fst_follow service react (redirects + 1) second, h first second call]
      cases (service.answer second call).1 with
      | error fault => rfl
      | ok response =>
          cases hreaction : react call response with
          | accept => simp only [hreaction]
          | giveUp fault => simp only [hreaction]
          | goOn next => simpa only [hreaction] using ih _ _ next

theorem mem_repeated_of_isMemoryless (h : service.IsMemoryless) (call : Call) (count : Nat)
    (first second : σ) :
    ∀ delivery ∈ (service.repeated react call count first).1.1,
      delivery = (service.follow react Http.maxRedirects second call).1 := by
  induction count generalizing first with
  | zero => simp [Service.repeated]
  | succ count ih =>
      intro delivery hdelivery
      rcases List.mem_cons.mp hdelivery with rfl | hdelivery
      · exact fst_follow_of_isMemoryless h Http.maxRedirects first second call
      · exact ih _ delivery hdelivery

/-- The network of a service that does not remember does not remember either. -/
theorem Network.isMemoryless_between (h : service.IsMemoryless) :
    (Network.between react service).IsMemoryless where
  exchange := fun first second call =>
    fst_follow_of_isMemoryless h Http.maxRedirects first second call
  together := fun first second count call _ =>
    mem_repeated_of_isMemoryless h call count first second _ (List.getElem_mem _)

end Services

/-! ## Steady interactions -/

namespace Interaction

/-- The result does not depend on the state in which the network is found. -/
def Steady (network : Network σ) (interaction : Interaction α) : Prop :=
  ∀ first second,
    (interaction.run network first).result = (interaction.run network second).result

variable {network : Network σ}

theorem steady_done (result : α) : Steady network (.done result) :=
  fun _ _ => rfl

theorem steady_bind {interaction : Interaction α} {next : α → Interaction β}
    (h : Steady network interaction) (hnext : ∀ result, Steady network (next result)) :
    Steady network (interaction >>= next) := by
  intro first second
  rw [run_bind, run_bind, h first second]
  exact hnext _ _ _

theorem steady_say (entry : Report.Entry) : Steady network (say entry) :=
  fun _ _ => rfl

theorem steady_deliver (h : network.IsMemoryless) (call : Call) :
    Steady network (deliver call) :=
  fun first second => h.exchange first second call

/-- Copies of a call get what one of them gets, in whatever order they are complete. -/
theorem run_deliverTogether_of_isMemoryless (h : network.IsMemoryless) (count : Nat) (call : Call)
    (state other : σ) :
    ((deliverTogether count call).run network state).result =
      List.replicate count ((deliver call).run network other).result := by
  have hdeliveries : (network.exchangeTogether state count call).1.deliveries =
      fun _ => (network.exchange other call).1 :=
    funext fun copy => h.together state other count call copy
  change ((network.exchangeTogether state count call).1.order.map
    (network.exchangeTogether state count call).1.deliveries) = _
  rw [hdeliveries, List.map_const',
    (network.exchangeTogether state count call).1.order_perm.length_eq, List.length_finRange]
  rfl

end Interaction

/-! ## Requests -/

namespace Http.Client

open Interaction

variable {network : Network σ}

theorem steady_requestWithin (h : network.IsMemoryless) (client : Client) (request : Request)
    (timeoutSecs : Nat) : Steady network (client.requestWithin request timeoutSecs) := by
  unfold requestWithin
  cases client.build request timeoutSecs with
  | error failure => exact steady_done _
  | ok call => exact steady_bind (steady_deliver h call) fun _ => steady_done _

/-- A batch is made of so many copies of the outcome of a single request. -/
theorem run_requestTogether_of_isMemoryless (h : network.IsMemoryless) (client : Client)
    (count : Nat) (request : Request) (timeoutSecs : Nat) (state other : σ) :
    ((client.requestTogether count request timeoutSecs).run network state).result =
      ⟨List.replicate count
        ((client.requestWithin request timeoutSecs).run network other).result⟩ := by
  unfold requestTogether requestWithin
  cases client.build request timeoutSecs with
  | error failure => rfl
  | ok call =>
      simp only [run_bind, Trace.followedBy,
        run_deliverTogether_of_isMemoryless h count call state other, List.map_replicate]
      rfl

theorem steady_requestTogether (h : network.IsMemoryless) (client : Client) (count : Nat)
    (request : Request) (timeoutSecs : Nat) :
    Steady network (client.requestTogether count request timeoutSecs) := by
  intro first second
  rw [run_requestTogether_of_isMemoryless h client count request timeoutSecs first first,
    run_requestTogether_of_isMemoryless h client count request timeoutSecs second first]

end Http.Client

end ServiceHealth
