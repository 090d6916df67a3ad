import ServiceHealth.Http.Request

/-!
# Following redirects

A client that gets a response to a call accepts it, or goes on with another call, or
gives up.  `follow` is the loop of such a client, over any monad in which calls are
made; it goes on at most so many times in a row.

A response of 301, 302, 303, 307 or 308 with a location is a redirect.  After 301
and 302 a POST becomes a GET without a body, and 303 does so with every method but
HEAD; otherwise the method and the body are repeated.  A redirect without a location
that can be read is a plain response, and one to an address of a scheme to which no
requests are sent is a fault.
-/

namespace ServiceHealth.Http

/-! ## The loop -/

/-- What a client does with a response. -/
inductive Reaction where
  /-- It is the answer. -/
  | accept
  | goOn (next : Call)
  | giveUp (fault : Fault)

/-- How many redirects in a row are followed. -/
def maxRedirects : Nat := 10

/-- Makes a call and goes on to others, at most so many times. -/
def follow {m : Type → Type} [Monad m] (react : Call → Response → Reaction)
    (exchange : Call → m (Except Fault Response)) (redirects : Nat) (call : Call) : m Delivery := do
  match ← exchange call with
  | .error fault => return .failed fault
  | .ok response =>
    match react call response with
    | .accept => return .answered response
    | .giveUp fault => return .failed (if redirects = 0 then .redirects call.url else fault)
    | .goOn next =>
      match redirects with
      | 0 => return .failed (.redirects call.url)
      | redirects + 1 => follow react exchange redirects next

/-- A service as the network reaches it: every call gets a response or a fault,
and may change what later calls get.  What is behind the head of a redirect does not
matter. -/
structure Service (σ : Type) where
  answer : σ → Call → Except Fault Response × σ

/-- Makes a call where the state of the service is passed on. -/
def Service.exchange {σ : Type} (service : Service σ) (call : Call) :
    StateM σ (Except Fault Response) :=
  fun state => service.answer state call

/-- The loop of a client that has a service as its other side. -/
def Service.follow {σ : Type} (service : Service σ) (react : Call → Response → Reaction)
    (redirects : Nat) (state : σ) (call : Call) : Delivery × σ :=
  (Http.follow react service.exchange redirects call).run state

/-- What a first call leads to decides how the loop goes on. -/
theorem Service.follow_eq {σ : Type} (service : Service σ) (react : Call → Response → Reaction)
    (redirects : Nat) (state : σ) (call : Call) :
    service.follow react redirects state call =
      match service.answer state call with
      | (.error fault, state) => (.failed fault, state)
      | (.ok response, state) =>
        match react call response with
        | .accept => (.answered response, state)
        | .giveUp fault => (.failed (if redirects = 0 then .redirects call.url else fault), state)
        | .goOn next =>
          match redirects with
          | 0 => (.failed (.redirects call.url), state)
          | redirects + 1 => service.follow react redirects state next := by
  rcases hanswer : service.answer state call with ⟨answer, after⟩
  have hexchange : service.exchange call state = (answer, after) := hanswer
  rw [Service.follow, Http.follow.eq_def]
  simp only [StateT.run, bind, StateT.bind, pure, hexchange]
  cases answer with
  | error fault => rfl
  | ok response =>
      cases hreaction : react call response with
      | accept =>
          simp only [hreaction]
          rfl
      | giveUp fault =>
          simp only [hreaction]
          rfl
      | goOn next =>
          simp only [hreaction]
          cases redirects with
          | zero => rfl
          | succ redirects => rfl

/-! ## Redirects -/

/-- The status asks to repeat the request elsewhere. -/
def isRedirect (status : Nat) : Bool :=
  [301, 302, 303, 307, 308].contains status

/-- The header fields that describe a body. -/
def bodyFieldNames : List String :=
  ["content-type", "content-length", "content-encoding", "transfer-encoding"]

/-- The header fields that say who asks. -/
def secretFieldNames : List String :=
  ["authorization", "cookie", "cookie2", "proxy-authorization", "www-authenticate"]

/-- The two addresses are of the same service. -/
def Url.isBeside (url other : Url) : Bool :=
  url.host == other.host && url.portNumber == other.portNumber

/-- The call at another address; a different service is not told who asks. -/
def Call.at (call : Call) (url : Url) : Call :=
  if url.isBeside call.url then { call with url }
  else
    { call with
      url
      authorization := none
      fields := call.fields.filter fun field => !secretFieldNames.contains field.1 }

/-- The call says which address it was redirected from, unless it has left a safe connection. -/
def Call.referredBy (call : Call) (url : Url) : Call :=
  if url.scheme = .https ∧ call.url.scheme = .http then call
  else
    let referrer := { url.withoutFragment with credentials := none }
    { call with fields := call.fields.set "referer" referrer.text }

/-- The call without its body, as a GET. -/
def Call.withoutBody (call : Call) : Call :=
  { call with
    method := if call.method = "HEAD" then "HEAD" else "GET"
    fields := call.fields.filter fun field => !bodyFieldNames.contains field.1
    body := none }

/-- The call that repeats another one at a new address after a redirect. -/
def Call.redirected (call : Call) (status : Nat) (url : Url) : Call :=
  let next := (call.at url).referredBy call.url
  if status = 303 ∨ (call.method = "POST" ∧ (status = 301 ∨ status = 302)) then next.withoutBody
  else next

/-- What the location of a response stands for, beside the address that was asked. -/
def Response.destination? (response : Response) (url : Url) : Option Url.Destination :=
  ((response.fields.lookup "location").bind Text.Utf8.decode?).bind url.resolve?

/-- What a client does with a response to a call. -/
def Call.react (call : Call) (response : Response) : Reaction :=
  if isRedirect response.status then
    match response.destination? call.url with
    | none => .accept
    | some (.foreign address) => .giveUp (.unsendable address)
    | some (.address url) =>
      if url.isSendable then .goOn (call.redirected response.status url.withoutFragment)
      else .accept
  else .accept

end ServiceHealth.Http
