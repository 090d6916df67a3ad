import ServiceHealth.Proofs.Check.Levels
import ServiceHealth.Proofs.Text.Encoding

/-!
# What the checks of the database read

A check of the database block is given a whole response.  What it says depends on the
database alone, and of that on the status, the message and the statistics; of the
statistics it depends on those that have a name in `Pool.statNames`.

Two responses with the `SameDatabase` may differ in everything else, on each of the three
levels.  A level that is an object on both sides may have other members on either side,
and a level that is no object, or absent, is the same on both sides, since its sort or its
value appears in the reason of a failed check.  The proof follows the levels: what is read
of the object under a name is the same if the object is the same up to what is read of it
(`objectUnder_bind_congr`), and so is what is read of the database and of its statistics.
A verdict that is the same fails for the same reason.
-/

namespace ServiceHealth.Check

open Http (Response)
open Pool (Stats stat statNames usageNames)

variable {related : Json.Members → Json.Members → Prop} {left right : Json.Members}
variable {first second : Response} {name : String} {α : Type}

/-! ## Objects that are the same where they are read -/

/-- The members of these names are the same on both sides; one that is absent is absent on both. -/
def AgreeOn (names : List String) (left right : Json.Members) : Prop :=
  ∀ name ∈ names, left.get? name = right.get? name

/-- The members are the same or both absent, or they are objects that are related. -/
inductive SameUpTo (related : Json.Members → Json.Members → Prop) :
    Option Json → Option Json → Prop
  | same (member : Option Json) : SameUpTo related member member
  | objects {left right : Json.Members} (h : related left right) :
      SameUpTo related (some (.object left)) (some (.object right))

/-- The databases have the same status and the same message, and the same statistics of a pool.  A
negative zero is another value than zero, because a reason may quote it. -/
structure SameRecord (left right : Json.Members) : Prop where
  status : left.get? "status" = right.get? "status"
  message : left.get? "message" = right.get? "message"
  stats : SameUpTo (AgreeOn statNames) (left.get? "stats") (right.get? "stats")

/-- Both bodies are objects, and their databases are the same as far as they are read. -/
def SameDatabase (first second : Response) : Prop :=
  ∃ left right, HoldsBody first left ∧ HoldsBody second right ∧
    SameUpTo SameRecord (left.get? "database") (right.get? "database")

/-- What is computed from an object is the same for objects that are related. -/
def Respects (related : Json.Members → Json.Members → Prop)
    (read : Json.Members → Except Error α) : Prop :=
  ∀ left right, related left right → read left = read right

/-! ## Reading down the levels -/

section Levels

variable {read : Json.Members → Except Error α}

theorem objectUnder_bind_congr {absent : Assertion} {ofKind : Json.Kind → Assertion}
    (hread : Respects related read) (h : SameUpTo related (left.get? name) (right.get? name)) :
    objectUnder left name absent ofKind >>= read =
      objectUnder right name absent ofKind >>= read := by
  rw [objectUnder, objectUnder]
  generalize left.get? name = leftMember at h
  generalize right.get? name = rightMember at h
  cases h with
  | same member => rfl
  | objects h => exact hread _ _ h

theorem databaseMembers_bind_congr (hread : Respects SameRecord read)
    (h : SameDatabase first second) :
    databaseMembers first >>= read = databaseMembers second >>= read := by
  obtain ⟨left, right, hleft, hright, hdatabase⟩ := h
  rw [databaseMembers_eq_bind, databaseMembers_eq_bind,
    (settles_bodyMembers first).of_holds left hleft,
    (settles_bodyMembers second).of_holds right hright]
  exact objectUnder_bind_congr hread hdatabase

theorem poolMembers_bind_congr (hread : Respects (AgreeOn statNames) read)
    (h : SameDatabase first second) :
    poolMembers first >>= read = poolMembers second >>= read := by
  rw [poolMembers_eq_bind, poolMembers_eq_bind, bind_assoc, bind_assoc]
  refine databaseMembers_bind_congr (fun left right hrecord => ?_) h
  exact objectUnder_bind_congr hread hrecord.stats

end Levels

/-! ## Reading the statistics -/

theorem stat_congr (h : AgreeOn statNames left right) (hname : name ∈ statNames) :
    stat left name = stat right name := by
  rw [stat, stat, h name hname]

theorem respects_ofMembers : Respects (AgreeOn statNames) Stats.ofMembers := by
  intro left right h
  have hstat : ∀ name ∈ statNames, stat left name = stat right name := fun name => stat_congr h
  simp only [statNames, List.forall_mem_cons] at hstat
  obtain ⟨h₁, h₂, h₃, h₄, h₅, h₆, h₇, h₈, -⟩ := hstat
  simp only [Stats.ofMembers, h₁, h₂, h₃, h₄, h₅, h₆, h₇, h₈]

theorem usageNames_subset : usageNames ⊆ statNames := by
  decide

/-! ## Each check -/

theorem describesDatabase_congr (h : SameDatabase first second) :
    describesDatabase first = describesDatabase second := by
  refine databaseMembers_bind_congr (fun left right hrecord => ?_) h
  simp only [databaseMember, hrecord.status, hrecord.message]

theorem reportsDatabaseStatus_congr (h : SameDatabase first second) (expected : String) :
    reportsDatabaseStatus first expected = reportsDatabaseStatus second expected := by
  refine databaseMembers_bind_congr (fun left right hrecord => ?_) h
  simp only [databaseMember, hrecord.status]

theorem poolStats_congr (h : SameDatabase first second) : poolStats first = poolStats second :=
  poolMembers_bind_congr respects_ofMembers h

theorem databaseIsHealthy_congr (h : SameDatabase first second) :
    databaseIsHealthy first = databaseIsHealthy second := by
  rw [databaseIsHealthy, databaseIsHealthy, reportsDatabaseStatus_congr h]
  refine bind_congr fun _ => ?_
  refine poolMembers_bind_congr (fun left right hstats => ?_) h
  rw [stat_congr hstats (by decide), stat_congr hstats (by decide)]

theorem poolHasRoom_congr (h : SameDatabase first second) :
    poolHasRoom first = poolHasRoom second := by
  refine poolMembers_bind_congr (fun left right hstats => ?_) h
  rw [stat_congr hstats (by decide)]

theorem poolReportsUse_congr (h : SameDatabase first second) :
    poolReportsUse first = poolReportsUse second := by
  refine poolMembers_bind_congr (fun left right hstats => ?_) h
  refine forM_congr fun name hname => ?_
  rw [stat_congr hstats (usageNames_subset hname)]

/-- The checks of the database say the same of two responses with the same database, whatever else
the responses hold. -/
theorem databaseChecks_congr (h : SameDatabase first second) :
    describesDatabase first = describesDatabase second ∧
    describesDatabaseAndPool first = describesDatabaseAndPool second ∧
    (∀ expected, reportsDatabaseStatus first expected = reportsDatabaseStatus second expected) ∧
    poolStats first = poolStats second ∧
    poolIsConsistent first = poolIsConsistent second ∧
    poolIsSound first = poolIsSound second ∧
    databaseIsHealthy first = databaseIsHealthy second ∧
    poolHasRoom first = poolHasRoom second ∧
    poolReportsUse first = poolReportsUse second := by
  have hstats := poolStats_congr h
  refine ⟨describesDatabase_congr h, ?_, reportsDatabaseStatus_congr h, hstats, ?_, ?_,
    databaseIsHealthy_congr h, poolHasRoom_congr h, poolReportsUse_congr h⟩
  · rw [describesDatabaseAndPool, describesDatabaseAndPool, describesDatabase_congr h, hstats]
  · rw [poolIsConsistent, poolIsConsistent, hstats]
  · rw [poolIsSound, poolIsSound, hstats]

/-- A text that is sent as a body is read as its tokens. -/
theorem holdsBody_encode {status : Nat} {fields : Http.ResponseFields} {text : String}
    {body : Json.Members} (tokens : List Json.Token)
    (htokens : Json.tokens? text.toList = some tokens)
    (hvalue : Json.ofTokens? tokens = some (.object body)) :
    HoldsBody ⟨status, fields, Text.Utf8.encode text⟩ body := by
  have hchars := Text.Utf8.decodeChars?_eq_some_iff.mpr (Text.Utf8.encode_eq_flatMap text)
  rw [HoldsBody, Json.read?, hchars, Option.bind_some, htokens, Option.bind_some, hvalue]

/-- One answer tells of its load, in the statistics too, and the other one of its version. -/
theorem databaseChecks_congr_of_further_members :
    ∃ loaded versioned : Response, loaded.status ≠ versioned.status ∧
      SameDatabase loaded versioned ∧ poolStats loaded = poolStats versioned ∧
      databaseIsHealthy loaded = databaseIsHealthy versioned := by
  have hloaded : HoldsBody ⟨200, [("Server", [97])], Text.Utf8.encode
      "\x7b\"database\":\x7b\"stats\":\x7b\"load\":[],\"idle\":\"1\"\x7d\x7d,\"load\":true\x7d"⟩
      [("database", .object [("stats", .object [("idle", .text "1"), ("load", .array [])])]),
        ("load", .bool true)] :=
    holdsBody_encode
      [.openObject, .text "database", .colon, .openObject, .text "stats", .colon, .openObject,
        .text "load", .colon, .openArray, .closeArray, .comma, .text "idle", .colon, .text "1",
        .closeObject, .closeObject, .comma, .text "load", .colon, .value (.bool true), .closeObject]
      (by cbv) (by cbv)
  have hversioned : HoldsBody ⟨503, [], Text.Utf8.encode
      "\x7b\"database\":\x7b\"version\":null,\"stats\":\x7b\"idle\":\"1\"\x7d\x7d\x7d"⟩
      [("database", .object [("stats", .object [("idle", .text "1")]), ("version", .null)])] :=
    holdsBody_encode
      [.openObject, .text "database", .colon, .openObject, .text "version", .colon, .value .null,
        .comma, .text "stats", .colon, .openObject, .text "idle", .colon, .text "1", .closeObject,
        .closeObject, .closeObject]
      (by cbv) (by cbv)
  have hstats : AgreeOn statNames [("idle", .text "1"), ("load", .array [])]
      [("idle", .text "1")] := by
    simp [AgreeOn, statNames, Json.Members.get?]
  have hsame : SameDatabase _ _ :=
    ⟨_, _, hloaded, hversioned, .objects ⟨rfl, rfl, .objects hstats⟩⟩
  obtain ⟨-, -, -, hpool, -, -, hhealthy, -⟩ := databaseChecks_congr hsame
  exact ⟨_, _, by decide, hsame, hpool, hhealthy⟩

end ServiceHealth.Check
