import ServiceHealth.Proofs.Check.Verdicts
import ServiceHealth.Proofs.Step.Resolution

/-!
# What the lines of the standard registry ask for

A line of the standard registry asks for one request, for copies of a request, for a
check of what has been recorded, or for nothing.  `demandOf` reads that off the words
of the line and its arguments alone.  `meets_of_binds` says that the handlers of the
standard registry do what is asked for, and nothing else: it is the only place that
goes through the standard steps one by one.
-/

namespace ServiceHealth.Step

open Http (Batch Request Response)
open Standard

/-! ## Demands -/

/-- What a line asks for. -/
inductive Demand where
  | nothing
  /-- One request. -/
  | single (request : Request)
  /-- So many copies of a request at once. -/
  | together (count : Int) (request : Request)
  /-- A check of the last response. -/
  | response
  /-- A check of the last response against a status. -/
  | status (expected : Int)
  /-- A check of the last batch. -/
  | batch

/-- What a `When` line asks for. -/
def eventDemand (source : String) (arguments : Arguments) : Demand :=
  match source, arguments with
  | "I make a GET request to \x7bstring\x7d", [.text path] => .single (Request.get path)
  | "I make a POST request to \x7bstring\x7d with content type \x7bstring\x7d and body \x7bstring\x7d",
      [.text path, .text contentType, .text body] =>
    .single ((Request.post path body).withField "Content-Type" contentType)
  | "I make \x7bint\x7d concurrent requests to \x7bstring\x7d", [.integer count, .text path] =>
    .together count (Request.get path)
  | "I make \x7bint\x7d concurrent GET requests to \x7bstring\x7d", [.integer count, .text path] =>
    .together count (Request.get path)
  | "I make a health check request using Connect-Go client", _ =>
    .single (checkCall "application/json")
  | "I make a health check request using HTTP/JSON", _ => .single (checkCall "application/json")
  | "I make a health check request with invalid content type", _ =>
    .single (checkCall "text/plain")
  | "I make a request to a non-existent endpoint", _ =>
    .single
      ((Request.unary healthService unknownMethod).withField "Content-Type" "application/json")
  | "I make \x7bint\x7d concurrent health check requests", [.integer count] =>
    .together count (checkCall "application/json")
  | _, _ => .nothing

/-- What a `Then` line asks for: a check of the last response, if it does not say otherwise. -/
def expectationDemand (source : String) (arguments : Arguments) : Demand :=
  match source, arguments with
  | "the HTTP response status should be \x7bint\x7d", [.integer expected] => .status expected
  | "the HTTP status should be \x7bint\x7d", [.integer expected] => .status expected
  | "the response status should not be \x7bint\x7d", [.integer expected] => .status expected
  | "all requests should succeed", _ => .batch
  | "all responses should contain status \x7bstring\x7d", _ => .batch
  | "all responses should indicate SERVING status", _ => .batch
  | "all database health requests should succeed", _ => .batch
  | "all responses should contain valid connection statistics", _ => .batch
  | _, _ => .response

/-- What a line asks for. -/
def demandOf (kind : Kind) (source : String) (arguments : Arguments) : Demand :=
  match kind with
  | .precondition => .nothing
  | .event => eventDemand source arguments
  | .expectation => expectationDemand source arguments

/-- What a line that is bound to a definition asks for. -/
def Bound.demand (bound : Bound) : Demand :=
  demandOf bound.definition.kind bound.definition.pattern.source bound.arguments

/-! ## Handlers that meet a demand -/

/-- The status that an integer is, if it is one. -/
def statusOf (expected : Int) : Except Error Nat :=
  if 100 ≤ expected ∧ expected ≤ 599 then .ok expected.toNat
  else .error (.stepArgument (.notStatus expected))

/-- Given these arguments, the handler does what is asked for. -/
def Handler.Meets (handler : Handler) (arguments : Arguments) : Demand → Prop
  | .nothing => ∀ world, handler.invoke world arguments = pure ⟨.ok (), world⟩
  | .single request => ∀ world, handler.invoke world arguments = record world request
  | .together count request => ∀ world,
      handler.invoke world arguments =
        if 0 ≤ count then recordBatch world count.toNat request
        else pure ⟨.error (.stepArgument (.negativeCount count)), world⟩
  | .response => ∃ check : Response → Except Error Unit,
      (∀ response, Asserts (check response)) ∧ ∀ world,
        handler.invoke world arguments = pure ⟨world.context.latestResponse >>= check, world⟩
  | .status expected => ∃ check : Response → Nat → Except Error Unit,
      (∀ response status, Asserts (check response status)) ∧ ∀ world,
        handler.invoke world arguments =
          pure ⟨world.context.latestResponse >>= fun response =>
            statusOf expected >>= check response, world⟩
  | .batch => ∃ check : Batch → Except Error Unit,
      (∀ batch, Asserts (check batch)) ∧ ∀ world,
        handler.invoke world arguments = pure ⟨world.context.latestBatch >>= check, world⟩

section Families

variable {arguments : Arguments}

theorem meets_sends {requestOf : Arguments → Except Error Request} {request : Request}
    (h : requestOf arguments = .ok request) :
    (sends requestOf).Meets arguments (.single request) := by
  intro world
  simp only [sends, Handler.invoke, h]

theorem meets_sendsBatch {requestsOf : Arguments → Except Error (Nat × Request)} {count : Int}
    {request : Request}
    (h : requestsOf arguments = if 0 ≤ count then .ok (count.toNat, request)
      else .error (.stepArgument (.negativeCount count))) :
    (sendsBatch requestsOf).Meets arguments (.together count request) := by
  intro world
  simp only [sendsBatch, Handler.invoke, h]
  by_cases hcount : 0 ≤ count
  · simp only [if_pos hcount]
  · simp only [if_neg hcount]

theorem meets_ofResponse {check : Response → Except Error Unit}
    (h : ∀ response, Asserts (check response)) :
    (ofResponse check).Meets arguments .response :=
  ⟨check, h, fun _ => rfl⟩

theorem meets_ofResponseText {check : Response → String → Except Error Unit} (expected : String)
    (h : ∀ response expected, Asserts (check response expected)) :
    (ofResponseText check).Meets [.text expected] .response :=
  ⟨fun response => check response expected, fun response => h response expected, fun _ => rfl⟩

theorem meets_ofResponseStatus {check : Response → Nat → Except Error Unit} (expected : Int)
    (h : ∀ response expected, Asserts (check response expected)) :
    (ofResponseStatus check).Meets [.integer expected] (.status expected) :=
  ⟨check, h, fun _ => rfl⟩

theorem meets_ofBatch {check : Batch → Except Error Unit}
    (h : ∀ batch, Asserts (check batch)) : (ofBatch check).Meets arguments .batch :=
  ⟨check, h, fun _ => rfl⟩

end Families

/-! ## The standard steps -/

/-- Whatever fits the placeholders of an entry, its handler does what the line asks for. -/
def Conforms (entry : Kind × String × Handler) : Prop :=
  ∀ pattern arguments, Pattern.read entry.2.1 = .ok pattern →
    List.Forall₂ Argument.Fits pattern.slots arguments →
    entry.2.2.Meets arguments (demandOf entry.1 entry.2.1 arguments)

section Entries

variable {kind : Kind} {source : String} {handler : Handler}

/-- The placeholders of a source, if it is a pattern. -/
def slotsOf? (source : String) : Option (List Pattern.Slot) :=
  (Pattern.read source).toOption.map Pattern.slots

theorem conforms_of_always
    (h : ∀ arguments, handler.Meets arguments (demandOf kind source arguments)) :
    Conforms (kind, source, handler) :=
  fun _ arguments _ _ => h arguments

theorem conforms_of_slots (slots : List Pattern.Slot) (hslots : slotsOf? source = some slots)
    (h : ∀ arguments, List.Forall₂ Argument.Fits slots arguments →
      handler.Meets arguments (demandOf kind source arguments)) :
    Conforms (kind, source, handler) := by
  intro pattern arguments hread hfits
  rw [slotsOf?, hread] at hslots
  injection hslots with hslots
  exact h arguments (hslots ▸ hfits)

theorem conforms_of_text (hslots : slotsOf? source = some [.text])
    (h : ∀ value, handler.Meets [.text value] (demandOf kind source [.text value])) :
    Conforms (kind, source, handler) := by
  refine conforms_of_slots _ hslots fun arguments hfits => ?_
  cases hfits with
  | cons hfirst hrest =>
      cases hrest
      cases hfirst with
      | text value => exact h value

theorem conforms_of_integer (hslots : slotsOf? source = some [.integer])
    (h : ∀ value, handler.Meets [.integer value] (demandOf kind source [.integer value])) :
    Conforms (kind, source, handler) := by
  refine conforms_of_slots _ hslots fun arguments hfits => ?_
  cases hfits with
  | cons hfirst hrest =>
      cases hrest
      cases hfirst with
      | integer value => exact h value

theorem conforms_of_integer_text (hslots : slotsOf? source = some [.integer, .text])
    (h : ∀ number value, handler.Meets [.integer number, .text value]
      (demandOf kind source [.integer number, .text value])) :
    Conforms (kind, source, handler) := by
  refine conforms_of_slots _ hslots fun arguments hfits => ?_
  cases hfits with
  | cons hfirst hrest =>
      cases hfirst with
      | integer number =>
          cases hrest with
          | cons hsecond hrest =>
              cases hrest
              cases hsecond with
              | text value => exact h number value

end Entries

theorem meets_sendGets (count : Int) (path : String) :
    sendGets.Meets [.integer count, .text path] (.together count (Request.get path)) := by
  apply meets_sendsBatch
  by_cases hcount : 0 ≤ count <;>
    simp [Arguments.count, Arguments.integer, Arguments.text, hcount, bind, Except.bind, pure,
      Except.pure]

theorem meets_callChecks (count : Int) :
    callChecks.Meets [.integer count] (.together count (checkCall "application/json")) := by
  apply meets_sendsBatch
  by_cases hcount : 0 ≤ count <;>
    simp [Arguments.count, Arguments.integer, hcount, bind, Except.bind, pure, Except.pure]

theorem meets_memberIs (field expected : String) :
    memberIs.Meets [.text field, .text expected] .response :=
  ⟨fun response => Check.hasMember response field expected,
    fun response => Check.asserts_hasMember response field expected, fun _ => rfl⟩

theorem meets_everyStatusIs (expected : String) :
    everyStatusIs.Meets [.text expected] .batch :=
  ⟨fun batch => Check.everyReportsStatus batch expected,
    fun batch => Check.asserts_every batch _, fun _ => rfl⟩

theorem conforms_plainSteps : ∀ entry ∈ plainSteps, Conforms entry := by
  simp only [plainSteps, List.forall_mem_cons]
  refine ⟨?_, ?_, ?_, ?_, ?_, ?_, ?_, ?_, ?_, ?_, ?_, ?_, ?_, ?_, ?_, by simp⟩
  -- what is assumed before a scenario
  · exact conforms_of_always fun _ _ => rfl
  · exact conforms_of_integer (by decide +kernel) fun _ _ => rfl
  -- requests, alone and at once
  · exact conforms_of_text (by decide +kernel) fun path => meets_sends rfl
  · refine conforms_of_slots [.text, .text, .text] (by decide +kernel) fun arguments hfits => ?_
    obtain _ | ⟨⟨path⟩, _ | ⟨⟨contentType⟩, _ | ⟨⟨body⟩, _ | _⟩⟩⟩ := hfits
    exact meets_sends rfl
  · exact conforms_of_integer_text (by decide +kernel) meets_sendGets
  · exact conforms_of_integer_text (by decide +kernel) meets_sendGets
  -- checks of a response
  · exact conforms_of_integer (by decide +kernel) fun expected =>
      meets_ofResponseStatus expected Check.asserts_hasStatus
  · exact conforms_of_integer (by decide +kernel) fun expected =>
      meets_ofResponseStatus expected Check.asserts_hasStatus
  · exact conforms_of_integer (by decide +kernel) fun unexpected =>
      meets_ofResponseStatus unexpected Check.asserts_hasOtherStatus
  · exact conforms_of_text (by decide +kernel) fun expected =>
      meets_ofResponseText expected Check.asserts_reportsStatus
  · exact conforms_of_text (by decide +kernel) fun expected =>
      meets_ofResponseText expected Check.asserts_reportsStatus
  · refine conforms_of_slots [.text, .text] (by decide +kernel) fun arguments hfits => ?_
    obtain _ | ⟨⟨field⟩, _ | ⟨⟨expected⟩, _ | _⟩⟩ := hfits
    exact meets_memberIs field expected
  · exact conforms_of_text (by decide +kernel) fun expected =>
      meets_ofResponseText expected Check.asserts_declares
  -- checks of a batch
  · exact conforms_of_always fun _ => meets_ofBatch fun batch => Check.asserts_every batch _
  · exact conforms_of_text (by decide +kernel) meets_everyStatusIs

theorem conforms_callSteps : ∀ entry ∈ callSteps, Conforms entry := by
  simp only [callSteps, List.forall_mem_cons]
  refine ⟨?_, ?_, ?_, ?_, ?_, ?_, ?_, ?_, ?_, ?_, ?_, ?_, by simp⟩
  · exact conforms_of_always fun _ => meets_sends rfl
  · exact conforms_of_always fun _ => meets_sends rfl
  · exact conforms_of_always fun _ => meets_sends rfl
  · exact conforms_of_always fun _ => meets_sends rfl
  · exact conforms_of_integer (by decide +kernel) meets_callChecks
  · exact conforms_of_always fun _ => meets_ofResponse Check.asserts_reportsServing
  · exact conforms_of_always fun _ => meets_ofResponse Check.asserts_hasBody
  · exact conforms_of_always fun _ => meets_ofResponse fun response =>
      Check.asserts_reportsStatus response Check.servingStatus
  · exact conforms_of_always fun _ => meets_ofResponse Check.asserts_refusesMediaType
  · exact conforms_of_always fun _ => meets_ofResponse Check.asserts_isUnsuccessful
  · exact conforms_of_always fun _ => meets_ofBatch fun batch => Check.asserts_every batch _
  · exact conforms_of_always fun _ => meets_ofResponse Check.asserts_declaresJson

theorem conforms_databaseSteps : ∀ entry ∈ databaseSteps, Conforms entry := by
  simp only [databaseSteps, List.forall_mem_cons]
  refine ⟨?_, ?_, ?_, ?_, ?_, ?_, ?_, ?_, ?_, ?_, by simp⟩
  · exact conforms_of_always fun _ => meets_ofResponse Check.asserts_describesDatabase
  · exact conforms_of_always fun _ => meets_ofResponse Check.asserts_describesDatabaseAndPool
  · exact conforms_of_always fun _ => meets_ofResponse Check.asserts_hasTimestamp
  · exact conforms_of_always fun _ => meets_ofResponse Check.asserts_databaseIsHealthy
  · exact conforms_of_always fun _ => meets_ofResponse Check.asserts_poolIsConsistent
  · exact conforms_of_always fun _ => meets_ofResponse Check.asserts_poolHasRoom
  · exact conforms_of_always fun _ => meets_ofResponse Check.asserts_poolReportsUse
  · exact conforms_of_text (by decide +kernel) fun expected =>
      meets_ofResponseText expected Check.asserts_reportsDatabaseStatus
  · exact conforms_of_always fun _ => meets_ofBatch fun batch => Check.asserts_every batch _
  · exact conforms_of_always fun _ => meets_ofBatch fun batch => Check.asserts_every batch _

theorem conforms_monitoringSteps : ∀ entry ∈ monitoringSteps, Conforms entry := by
  simp only [monitoringSteps, List.forall_mem_cons]
  refine ⟨?_, by simp⟩
  exact conforms_of_always fun _ => meets_ofResponse Check.asserts_suitsMonitoring

theorem conforms_of_mem_standardSteps {entry : Kind × String × Handler}
    (h : entry ∈ standardSteps) : Conforms entry := by
  simp only [standardSteps, List.mem_append] at h
  rcases h with ((hplain | hcall) | hdatabase) | hmonitoring
  · exact conforms_plainSteps entry hplain
  · exact conforms_callSteps entry hcall
  · exact conforms_databaseSteps entry hdatabase
  · exact conforms_monitoringSteps entry hmonitoring

/-- The definition comes from a line, with its arguments. -/
def Registry.Binds (registry : Registry) (bound : Bound) : Prop :=
  ∃ kind keyword text, registry.resolve kind keyword text = .ok bound

/-- The handler of a line of the standard registry does what the line asks for. -/
theorem meets_of_binds {registry : Registry} (hstandard : Registry.standard = .ok registry)
    {bound : Bound} (hbinds : registry.Binds bound) :
    bound.definition.handler.Meets bound.arguments bound.demand := by
  obtain ⟨kind, keyword, text, hresolve⟩ := hbinds
  obtain ⟨entry, hmem, hentry⟩ :=
    exists_standardStep_of_mem hstandard (mem_definitions_of_resolve hresolve)
  have hmeets := conforms_of_mem_standardSteps hmem bound.definition.pattern bound.arguments
    hentry.pattern (fits_of_resolve hresolve)
  rwa [← hentry.kind, ← hentry.source, ← hentry.handler] at hmeets

end ServiceHealth.Step
