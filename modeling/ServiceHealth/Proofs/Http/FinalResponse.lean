import ServiceHealth.Http.Client
import ServiceHealth.Proofs.Http.ListedFields

/-!
# What becomes of a request

A client builds a call from a request and sends it, or finds that it cannot be sent.  The
call asks what the request asks (`Call.Asks`), and the outcome is a response exactly if the
network delivers one, whatever its status is.

A client follows redirects, so what the network between it and a service delivers is the answer
to the last of several calls.  `FinallyAnswers` is the chain of these calls, without the loop
that makes them: each of them but the last is answered with a redirect, and no more are
followed than may be (`follow_eq_answered_iff`).  What counts as a redirect, and which call it
leads to, is left open, so this holds for every client that follows redirects in its own way.

`requestWithin_outcome` is the whole way from the listed fields to the outcome.
-/

namespace ServiceHealth.Http

variable {σ : Type} {client : Client} {request : Request} {timeoutSecs : Nat}
variable {network : Network σ} {service : Service σ} {state after : σ} {call : Call}
variable {response : Response}

/-! ## The answer behind the redirects -/

section Redirects

variable {react : Call → Response → Reaction}

/-- The service answers a call with a response that the client accepts, after the client has gone
on, at most so many times in a row, from other responses to the calls that they lead to. -/
inductive FinallyAnswers (react : Call → Response → Reaction) (service : Service σ) :
    (redirects : Nat) → (state : σ) → Call → Response → (after : σ) → Prop
  | answered {redirects : Nat} {state after : σ} {call : Call} {response : Response}
      (hanswer : service.answer state call = (.ok response, after))
      (hfinal : react call response = .accept) :
      FinallyAnswers react service redirects state call response after
  | redirected {redirects : Nat} {state middle after : σ} {call next : Call}
      {redirect response : Response}
      (hanswer : service.answer state call = (.ok redirect, middle))
      (hnext : react call redirect = .goOn next)
      (hrest : FinallyAnswers react service redirects middle next response after) :
      FinallyAnswers react service (redirects + 1) state call response after

theorem FinallyAnswers.follow {redirects : Nat}
    (h : FinallyAnswers react service redirects state call response after) :
    service.follow react redirects state call = (.answered response, after) := by
  induction h with
  | answered hanswer hfinal =>
      rw [Service.follow_eq, hanswer]
      simp only [hfinal]
  | redirected hanswer hnext _ ih =>
      rw [Service.follow_eq, hanswer]
      simp only [hnext, ih]

/-- A call that leads to a response is answered with it, or is redirected to a call that leads to
it with one redirect less. -/
theorem answer_cases_of_follow {redirects : Nat}
    (h : service.follow react redirects state call = (.answered response, after)) :
    (service.answer state call = (.ok response, after) ∧ react call response = .accept) ∨
      ∃ left redirect middle next, redirects = left + 1 ∧
        service.answer state call = (.ok redirect, middle) ∧
        react call redirect = .goOn next ∧
        service.follow react left middle next = (.answered response, after) := by
  rw [Service.follow_eq] at h
  rcases hanswer : service.answer state call with ⟨answer, middle⟩
  cases answer with
  | error fault => simp [hanswer] at h
  | ok first =>
      cases hreaction : react call first with
      | accept =>
          obtain ⟨rfl, rfl⟩ : first = response ∧ middle = after := by
            simpa [hanswer, hreaction] using h
          exact .inl ⟨rfl, hreaction⟩
      | giveUp fault => simp [hanswer, hreaction] at h
      | goOn next =>
          cases redirects with
          | zero => simp [hanswer, hreaction] at h
          | succ left =>
              have hrest : service.follow react left middle next = (.answered response, after) := by
                simpa [hanswer, hreaction] using h
              exact .inr ⟨left, first, middle, next, rfl, rfl, hreaction, hrest⟩

theorem follow_eq_answered_iff {redirects : Nat} :
    service.follow react redirects state call = (.answered response, after) ↔
      FinallyAnswers react service redirects state call response after := by
  refine ⟨?_, FinallyAnswers.follow⟩
  -- each redirect that is used up is one link of the chain
  induction redirects generalizing state call with
  | zero =>
      intro h
      rcases answer_cases_of_follow h with ⟨hanswer, hfinal⟩ | ⟨left, _, _, _, hleft, -⟩
      · exact .answered hanswer hfinal
      · cases hleft
  | succ redirects ih =>
      intro h
      rcases answer_cases_of_follow h with
        ⟨hanswer, hfinal⟩ | ⟨left, redirect, middle, next, hleft, hanswer, hnext, hrest⟩
      · exact .answered hanswer hfinal
      · cases hleft
        exact .redirected hanswer hnext (ih hrest)

theorem exchange_between_answered_iff :
    ((Network.between react service).exchange state call).1 = .answered response ↔
      ∃ after, FinallyAnswers react service maxRedirects state call response after := by
  change (service.follow react maxRedirects state call).1 = _ ↔ _
  simp only [← follow_eq_answered_iff, Prod.ext_iff, exists_and_left, exists_eq', and_true]

end Redirects

theorem Delivery.outcome_eq_answered_iff {delivery : Delivery} {address : String} :
    delivery.outcome address = .answered response ↔ delivery = .answered response := by
  cases delivery <;> simp [outcome]

/-! ## The call that a request becomes -/

/-- The call asks at this address what the request asks: with its method, its body or none, and
the fields that it carries. -/
structure Call.Asks (call : Call) (request : Request) (url : Url) : Prop where
  method : call.method = request.method
  url : call.url = url
  carries : request.Carries call.fields
  body : call.body = request.body

namespace Client

theorem build_of_firstOffence {fault : ArgumentFault} {text : String}
    (h : FirstOffence request.fields fault text) :
    client.build request timeoutSecs =
      .error ⟨.other, client.url request.path, "Invalid step argument: " ++ text⟩ := by
  rw [build, Request.sentFields_of_firstOffence h, ← h.message]

/-- Fields that may be listed make a call for every address that can be read; it can be sent unless
its host or its length rules that out. -/
theorem build_of_allowed (timeoutSecs : Nat) (h : ∀ field ∈ request.fields, IsAllowed field)
    {url : Url} (hurl : Url.read? (client.url request.path) = some url) :
    ∃ call : Call, call.Asks request url.withoutCredentials ∧
      client.build request timeoutSecs =
        if url.withoutCredentials.isSendable then .ok call
        else .error ⟨.other, client.url request.path,
          "builder error for url (" ++ url.withoutCredentials.text ++ ")"⟩ := by
  obtain ⟨fields, hfields, hcarries⟩ := Request.sentFields_of_allowed h
  simp only [build, hfields, hurl]
  exact ⟨_, ⟨rfl, rfl, hcarries, rfl⟩, rfl⟩

theorem exists_call_of_isSome
    (h : (client.build request timeoutSecs).toOption.isSome = true) :
    ∃ call, client.build request timeoutSecs = .ok call := by
  cases hbuild : client.build request timeoutSecs with
  | ok call => exact ⟨call, rfl⟩
  | error failure =>
      rw [hbuild] at h
      cases h

theorem run_requestWithin_of_error {failure : TransportFailure}
    (h : client.build request timeoutSecs = .error failure) :
    (client.requestWithin request timeoutSecs).run network state =
      ⟨.failed failure, state, []⟩ := by
  rw [requestWithin, h]
  rfl

theorem run_requestWithin_of_ok (h : client.build request timeoutSecs = .ok call) :
    (client.requestWithin request timeoutSecs).run network state =
      ⟨(network.exchange state call).1.outcome (client.url request.path),
        (network.exchange state call).2, [.sent call]⟩ := by
  rw [requestWithin, h]
  rfl

theorem result_requestWithin_answered_iff (h : client.build request timeoutSecs = .ok call) :
    ((client.requestWithin request timeoutSecs).run network state).result = .answered response ↔
      (network.exchange state call).1 = .answered response := by
  rw [run_requestWithin_of_ok h, Delivery.outcome_eq_answered_iff]

/-- If a field may not be listed, nothing is sent, and the failure is about the first such field
and its name before its value.  Otherwise the request becomes a call that asks the same, with every
name once, the last value of each that is listed and a content type for a body without one.  The
call is sent if its address allows it, and the outcome is a response exactly if it is delivered:
the answer, of whatever status, with which the service ends a chain of redirects, in whatever way
the client reacts to them. -/
theorem requestWithin_outcome (client : Client) (request : Request) (timeoutSecs : Nat)
    (network : Network σ) (state : σ) :
    let address := client.url request.path
    let trace := (client.requestWithin request timeoutSecs).run network state
    ((∃ field ∈ request.fields, ¬ IsAllowed field) →
      ∃ fault text, FirstOffence request.fields fault text ∧
        trace = ⟨.failed ⟨.other, address, "Invalid step argument: " ++ text⟩, state, []⟩) ∧
    ((∀ field ∈ request.fields, IsAllowed field) → ∀ url, Url.read? address = some url →
      ∃ call : Call, call.Asks request url.withoutCredentials ∧
        (call.allFields.map Prod.fst).Nodup ∧ call.fields ⊆ call.allFields ∧
        (url.withoutCredentials.isSendable = false → trace = ⟨.failed ⟨.other, address,
          "builder error for url (" ++ url.withoutCredentials.text ++ ")"⟩, state, []⟩) ∧
        (url.withoutCredentials.isSendable = true → trace.events = [.sent call] ∧
          (∀ response, trace.result = .answered response ↔
            (network.exchange state call).1 = .answered response) ∧
          ∀ react service, network = .between react service →
            ∀ response, trace.result = .answered response ↔
              ∃ after, FinallyAnswers react service maxRedirects state call response after)) := by
  intro address trace
  constructor
  · rintro ⟨field, hfield, hnot⟩
    rcases allowed_or_firstOffence request.fields with hallowed | ⟨fault, text, hoffence⟩
    · exact absurd (hallowed field hfield) hnot
    · have hbuild : client.build request timeoutSecs = _ := build_of_firstOffence hoffence
      exact ⟨fault, text, hoffence, run_requestWithin_of_error hbuild⟩
  · intro hallowed url hurl
    obtain ⟨call, hasks, hbuild⟩ := build_of_allowed timeoutSecs hallowed hurl
    refine ⟨call, hasks, Call.nodup_allFields hasks.carries.nodup, List.subset_append_left _ _,
      ?_, ?_⟩
    · intro hsendable
      rw [hsendable] at hbuild
      exact run_requestWithin_of_error hbuild
    · intro hsendable
      rw [if_pos hsendable] at hbuild
      have hevents : trace.events = [.sent call] :=
        congrArg Trace.events (run_requestWithin_of_ok hbuild)
      refine ⟨hevents, fun response => result_requestWithin_answered_iff hbuild, ?_⟩
      rintro react service rfl response
      rw [result_requestWithin_answered_iff hbuild, exchange_between_answered_iff]

end Client

end ServiceHealth.Http
