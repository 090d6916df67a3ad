import ServiceHealth.Check.Every

/-!
# Checks fail with assertions only

A check looks at a response or at a batch, and whatever it finds there it fails with
an assertion, if it fails.  `Asserts` says so of one verdict and is kept up by the
ways in which checks are put together, so every check has it, whatever the status,
the fields and the body of the response are.

The reasons of a check are about what it looks at.  That something else is recorded
under a key than a step looks for is never among them.

`checks_assert` collects this for the checks of a response, of the database block, of
the statistics of the pool and of a batch, and for their parts.  A batch is checked with
any check of its entries, also with one that is not among these.
-/

namespace ServiceHealth

open Http (Batch Outcome Response)
open Pool (Stats)

variable {α β : Type}

/-- The reason is about the sort of a record. -/
def Assertion.IsAboutRecord : Assertion → Prop
  | .holdsBatch _ => True
  | .holdsResponse _ => True
  | _ => False

/-- A verdict is positive, or a failed assertion that is not about the sort of a record. -/
inductive Asserts : Except Error α → Prop
  | ok (value : α) : Asserts (.ok value)
  | fail (reason : Assertion) (hreason : ¬ reason.IsAboutRecord) : Asserts (Error.fail reason)

namespace Asserts

theorem bind {first : Except Error α} {next : α → Except Error β} (hfirst : Asserts first)
    (hnext : ∀ value, Asserts (next value)) : Asserts (first >>= next) := by
  cases hfirst with
  | ok value => exact hnext value
  | fail reason hreason => exact .fail reason hreason

theorem ite {condition : Prop} [Decidable condition] {first second : Except Error α}
    (hfirst : Asserts first) (hsecond : Asserts second) :
    Asserts (if condition then first else second) := by
  by_cases h : condition
  · rwa [if_pos h]
  · rwa [if_neg h]

theorem forM {check : α → Except Error Unit} (h : ∀ value, Asserts (check value))
    (values : List α) : Asserts (values.forM check) := by
  induction values with
  | nil => exact .ok _
  | cons value values ih =>
      change Asserts (check value >>= fun _ => values.forM check)
      exact (h value).bind fun _ => ih

/-- An error of such a verdict is an assertion. -/
theorem error {verdict : Except Error α} (h : Asserts verdict) {error : Error}
    (herror : verdict = .error error) :
    ∃ reason : Assertion, error = .assertion reason ∧ ¬ reason.IsAboutRecord := by
  cases h with
  | ok value => cases herror
  | fail reason hreason =>
      injection herror with heq
      exact ⟨reason, heq.symm, hreason⟩

end Asserts

/-! ## Responses and their bodies -/

theorem asserts_json (response : Response) : Asserts response.json := by
  unfold Response.json
  cases Json.read? response.body with
  | none => exact .fail _ id
  | some value => exact .ok value

theorem asserts_require (outcome : Outcome) : Asserts outcome.require := by
  cases outcome with
  | answered response => exact .ok response
  | failed failure => exact .fail _ id

namespace Check

theorem asserts_hasStatus (response : Response) (expected : Nat) :
    Asserts (hasStatus response expected) :=
  .ite (.ok _) (.fail _ id)

theorem asserts_hasOtherStatus (response : Response) (unexpected : Nat) :
    Asserts (hasOtherStatus response unexpected) :=
  .ite (.fail _ id) (.ok _)

theorem asserts_refusesMediaType (response : Response) : Asserts (refusesMediaType response) :=
  .ite (.ok _) (.fail _ id)

theorem asserts_isUnsuccessful (response : Response) : Asserts (isUnsuccessful response) :=
  .ite (.fail _ id) (.ok _)

theorem asserts_hasBody (response : Response) : Asserts (hasBody response) :=
  .ite (.fail _ id) (.ok _)

theorem asserts_declares (response : Response) (expected : String) :
    Asserts (declares response expected) :=
  .ite (.ok _) (.fail _ id)

theorem asserts_declaresJson (response : Response) : Asserts (declaresJson response) :=
  asserts_declares response jsonMediaType

theorem asserts_bodyMembers (response : Response) : Asserts (bodyMembers response) := by
  refine (asserts_json response).bind fun value => ?_
  cases value.members? with
  | none => exact .fail _ id
  | some members => exact .ok members

theorem asserts_bodyMember (response : Response) (field : String) :
    Asserts (bodyMember response field) := by
  refine (asserts_bodyMembers response).bind fun body => ?_
  cases body.get? field with
  | none => exact .fail _ id
  | some value => exact .ok value

theorem asserts_reportsStatus (response : Response) (expected : String) :
    Asserts (reportsStatus response expected) :=
  (asserts_bodyMember response "status").bind fun _ => .ite (.ok _) (.fail _ id)

theorem asserts_reportsServing (response : Response) : Asserts (reportsServing response) :=
  (asserts_hasStatus response 200).bind fun _ => asserts_reportsStatus response servingStatus

theorem asserts_hasMember (response : Response) (field expected : String) :
    Asserts (hasMember response field expected) :=
  (asserts_bodyMember response field).bind fun _ => .ite (.ok _) (.fail _ id)

theorem asserts_hasTimestampForm (text : String) : Asserts (hasTimestampForm text) :=
  .ite (.fail _ id) (.ite (.ok _) (.fail _ id))

theorem asserts_hasTimestamp (response : Response) : Asserts (hasTimestamp response) := by
  refine (asserts_bodyMember response "timestamp").bind fun value => ?_
  cases value.text? with
  | none => exact .fail _ id
  | some text => exact asserts_hasTimestampForm text

theorem asserts_suitsMonitoring (response : Response) : Asserts (suitsMonitoring response) := by
  unfold suitsMonitoring
  by_cases hsize : monitoringByteLimit ≤ response.body.length
  · rw [if_pos hsize]
    exact .fail _ id
  · rw [if_neg hsize]
    refine (asserts_bodyMembers response).bind fun body => ?_
    by_cases hfields : monitoringFieldLimit < body.length
    · rw [if_pos hfields]
      exact .fail _ id
    · rw [if_neg hfields]
      exact .ite (.ok _) (.fail _ id)

/-! ## The database block -/

theorem asserts_databaseMembers (response : Response) : Asserts (databaseMembers response) := by
  refine (asserts_bodyMember response "database").bind fun database => ?_
  cases database.members? with
  | none => exact .fail _ id
  | some members => exact .ok members

theorem asserts_databaseMember (database : Json.Members) (field : String) :
    Asserts (databaseMember database field) := by
  unfold databaseMember
  cases database.get? field with
  | none => exact .fail _ id
  | some value => exact .ok value

theorem asserts_poolMembers (response : Response) : Asserts (poolMembers response) := by
  refine (asserts_databaseMembers response).bind fun database => ?_
  refine (asserts_databaseMember database "stats").bind fun stats => ?_
  cases stats.members? with
  | none => exact .fail _ id
  | some members => exact .ok members

theorem asserts_describesDatabase (response : Response) :
    Asserts (describesDatabase response) := by
  refine (asserts_databaseMembers response).bind fun database => ?_
  refine (asserts_databaseMember database "status").bind fun _ => ?_
  refine (asserts_databaseMember database "message").bind fun message => ?_
  cases message.text? with
  | none => exact .fail _ id
  | some text => exact .ok _

theorem asserts_reportsDatabaseStatus (response : Response) (expected : String) :
    Asserts (reportsDatabaseStatus response expected) := by
  refine (asserts_databaseMembers response).bind fun database => ?_
  refine (asserts_databaseMember database "status").bind fun actual => ?_
  exact .ite (.ok _) (.fail _ id)

end Check

/-! ## The statistics of the pool -/

namespace Pool

theorem asserts_stat (stats : Json.Members) (name : String) : Asserts (stat stats name) := by
  unfold stat
  cases stats.get? name with
  | none => exact .fail _ id
  | some value =>
      dsimp only
      cases value.double? with
      | none => exact .fail _ id
      | some number => exact .ok number

theorem asserts_nonNegative (name : String) (value : Float) : Asserts (nonNegative name value) :=
  .ite (.fail _ id) (.ok _)

theorem asserts_ofMembers (stats : Json.Members) : Asserts (Stats.ofMembers stats) := by
  refine (asserts_stat stats _).bind fun maxOpenConnections => ?_
  refine (asserts_stat stats _).bind fun openConnections => ?_
  refine (asserts_stat stats _).bind fun inUse => ?_
  refine (asserts_stat stats _).bind fun idle => ?_
  refine (asserts_stat stats _).bind fun waitCount => ?_
  refine (asserts_stat stats _).bind fun waitDuration => ?_
  refine (asserts_stat stats _).bind fun maxIdleClosed => ?_
  refine (asserts_stat stats _).bind fun maxLifetimeClosed => ?_
  exact .ok _

theorem asserts_consistent (stats : Stats) : Asserts stats.consistent := by
  have hcounters : Asserts (stats.counters.forM fun entry => nonNegative entry.1 entry.2) := by
    apply Asserts.forM
    intro entry
    exact asserts_nonNegative entry.1 entry.2
  unfold Stats.consistent
  by_cases hsum : (stats.openConnections != stats.inUse + stats.idle) = true
  · rw [if_pos hsum]
    exact .fail _ id
  · rw [if_neg hsum]
    exact hcounters.bind fun _ => .ite (.fail _ id) (.ok _)

theorem asserts_withinCapacity (maximum opened : Float) :
    Asserts (withinCapacity maximum opened) :=
  .ite (.fail _ id) (.ite (.fail _ id) (.ok _))

end Pool

namespace Check

theorem asserts_poolStats (response : Response) : Asserts (poolStats response) :=
  (asserts_poolMembers response).bind fun stats => Pool.asserts_ofMembers stats

theorem asserts_describesDatabaseAndPool (response : Response) :
    Asserts (describesDatabaseAndPool response) := by
  refine (asserts_describesDatabase response).bind fun _ => ?_
  exact (asserts_poolStats response).bind fun _ => .ok _

theorem asserts_poolIsConsistent (response : Response) : Asserts (poolIsConsistent response) :=
  (asserts_poolStats response).bind fun stats => Pool.asserts_consistent stats

theorem asserts_poolIsSound (response : Response) : Asserts (poolIsSound response) := by
  refine (asserts_poolStats response).bind fun stats => ?_
  exact (Pool.asserts_consistent stats).bind fun _ => Pool.asserts_withinCapacity _ _

theorem asserts_databaseIsHealthy (response : Response) : Asserts (databaseIsHealthy response) := by
  refine (asserts_reportsDatabaseStatus response healthyStatus).bind fun _ => ?_
  refine (asserts_poolMembers response).bind fun stats => ?_
  refine (Pool.asserts_stat stats _).bind fun maximum => ?_
  refine (Pool.asserts_stat stats _).bind fun opened => ?_
  exact Pool.asserts_withinCapacity maximum opened

theorem asserts_poolHasRoom (response : Response) : Asserts (poolHasRoom response) := by
  refine (asserts_poolMembers response).bind fun stats => ?_
  refine (Pool.asserts_stat stats _).bind fun maximum => ?_
  exact .ite (.fail _ id) (.ok _)

theorem asserts_poolReportsUse (response : Response) : Asserts (poolReportsUse response) := by
  refine (asserts_poolMembers response).bind fun stats => ?_
  exact .forM (fun name => (Pool.asserts_stat stats name).bind fun value =>
    Pool.asserts_nonNegative name value) _

/-! ## Batches -/

/-- The verdict on a batch is an assertion even where the check of an entry fails otherwise. -/
theorem asserts_every (batch : Batch) (check : Response → Except Error Unit) :
    Asserts (every batch check) := by
  unfold every
  refine .ite (.fail _ id) ?_
  cases failures check batch.outcomes with
  | nil => exact .ok _
  | cons first others => exact .fail _ id

/-! ## All checks -/

/-- The checks of the status, of the content type and of the members of the body. -/
structure ResponseAsserts (response : Response) : Prop where
  json : Asserts response.json
  hasStatus : ∀ expected, Asserts (hasStatus response expected)
  hasOtherStatus : ∀ unexpected, Asserts (hasOtherStatus response unexpected)
  refusesMediaType : Asserts (refusesMediaType response)
  isUnsuccessful : Asserts (isUnsuccessful response)
  hasBody : Asserts (hasBody response)
  bodyMembers : Asserts (bodyMembers response)
  bodyMember : ∀ field, Asserts (bodyMember response field)
  reportsStatus : ∀ expected, Asserts (reportsStatus response expected)
  reportsServing : Asserts (reportsServing response)
  hasMember : ∀ field expected, Asserts (hasMember response field expected)
  declares : ∀ expected, Asserts (declares response expected)
  declaresJson : Asserts (declaresJson response)
  hasTimestamp : Asserts (hasTimestamp response)
  suitsMonitoring : Asserts (suitsMonitoring response)

/-- The checks of the database object and of the statistics in it. -/
structure DatabaseAsserts (response : Response) : Prop where
  databaseMembers : Asserts (databaseMembers response)
  poolMembers : Asserts (poolMembers response)
  describesDatabase : Asserts (describesDatabase response)
  describesDatabaseAndPool : Asserts (describesDatabaseAndPool response)
  reportsDatabaseStatus : ∀ expected, Asserts (reportsDatabaseStatus response expected)
  poolStats : Asserts (poolStats response)
  poolIsConsistent : Asserts (poolIsConsistent response)
  poolIsSound : Asserts (poolIsSound response)
  databaseIsHealthy : Asserts (databaseIsHealthy response)
  poolHasRoom : Asserts (poolHasRoom response)
  poolReportsUse : Asserts (poolReportsUse response)

/-- The checks of a batch, the first of them with any check of an entry. -/
structure BatchAsserts (batch : Batch) : Prop where
  every : ∀ check, Asserts (every batch check)
  everySucceeded : Asserts (everySucceeded batch)
  everyReportsStatus : ∀ expected, Asserts (everyReportsStatus batch expected)
  everyPoolIsSound : Asserts (everyPoolIsSound batch)

theorem responseAsserts (response : Response) : ResponseAsserts response where
  json := asserts_json response
  hasStatus := asserts_hasStatus response
  hasOtherStatus := asserts_hasOtherStatus response
  refusesMediaType := asserts_refusesMediaType response
  isUnsuccessful := asserts_isUnsuccessful response
  hasBody := asserts_hasBody response
  bodyMembers := asserts_bodyMembers response
  bodyMember := asserts_bodyMember response
  reportsStatus := asserts_reportsStatus response
  reportsServing := asserts_reportsServing response
  hasMember := asserts_hasMember response
  declares := asserts_declares response
  declaresJson := asserts_declaresJson response
  hasTimestamp := asserts_hasTimestamp response
  suitsMonitoring := asserts_suitsMonitoring response

theorem databaseAsserts (response : Response) : DatabaseAsserts response where
  databaseMembers := asserts_databaseMembers response
  poolMembers := asserts_poolMembers response
  describesDatabase := asserts_describesDatabase response
  describesDatabaseAndPool := asserts_describesDatabaseAndPool response
  reportsDatabaseStatus := asserts_reportsDatabaseStatus response
  poolStats := asserts_poolStats response
  poolIsConsistent := asserts_poolIsConsistent response
  poolIsSound := asserts_poolIsSound response
  databaseIsHealthy := asserts_databaseIsHealthy response
  poolHasRoom := asserts_poolHasRoom response
  poolReportsUse := asserts_poolReportsUse response

theorem batchAsserts (batch : Batch) : BatchAsserts batch where
  every := asserts_every batch
  everySucceeded := asserts_every batch _
  everyReportsStatus := fun _ => asserts_every batch _
  everyPoolIsSound := asserts_every batch _

/-- Whatever a check looks at, it fails with an assertion if it fails. -/
theorem checks_assert :
    (∀ response, ResponseAsserts response ∧ DatabaseAsserts response) ∧
      (∀ text, Asserts (hasTimestampForm text)) ∧
      (∀ stats name, Asserts (Pool.stat stats name)) ∧
      (∀ stats, Asserts (Stats.ofMembers stats)) ∧
      (∀ stats : Stats, Asserts stats.consistent) ∧
      (∀ maximum opened, Asserts (Pool.withinCapacity maximum opened)) ∧
      ∀ batch, BatchAsserts batch := by
  refine ⟨?_, asserts_hasTimestampForm, Pool.asserts_stat, Pool.asserts_ofMembers,
    Pool.asserts_consistent, Pool.asserts_withinCapacity, batchAsserts⟩
  intro response
  exact ⟨responseAsserts response, databaseAsserts response⟩

end Check
end ServiceHealth
