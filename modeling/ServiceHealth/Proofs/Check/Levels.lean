import ServiceHealth.Check.DatabaseBlock
import ServiceHealth.Proofs.Error.Sequence

/-!
# The levels of a body

What the checks of the database block read stands on three levels: the body is an object,
its `database` is an object, and the `stats` of that is an object.  Each level is described
from outside by what it holds (`HoldsBody`, `HoldsDatabase`, `HoldsStats`) and by why it is
not there (`NoBody`, `NoDatabase`, `NoStats`).  The reason for which a level is missing is
the reason of the levels inside it, so it is always the outermost one that is named.

The two inner levels are read in the same way, as the object under a name (`objectUnder`),
with reasons of their own.  `settles_databaseMembers` and `settles_poolMembers` say that
what is read of a response is settled by the descriptions.
-/

namespace ServiceHealth

open Http (Response)

theorem Json.members?_eq_none_iff {value : Json} :
    value.members? = none ↔ value.kind ≠ .object := by
  cases value <;> simp [members?, kind]

theorem Json.exists_object_or_kind_ne (value : Json) :
    (∃ members, value = .object members) ∨ value.kind ≠ .object := by
  cases value <;> simp [kind]

namespace Check

variable {response : Response} {members : Json.Members} {name : String} {absent : Assertion}
variable {ofKind : Json.Kind → Assertion}

/-! ## The object under a name -/

/-- The object that is stored under a name, with the reason for a member that is absent and that
for a member of another sort. -/
def objectUnder (members : Json.Members) (name : String) (absent : Assertion)
    (ofKind : Json.Kind → Assertion) : Except Error Json.Members :=
  match members.get? name with
  | none => Error.fail absent
  | some value =>
    match value.members? with
    | some members => .ok members
    | none => Error.fail (ofKind value.kind)

/-- Why there is no object under a name. -/
inductive NoObject (members : Json.Members) (name : String) (absent : Assertion)
    (ofKind : Json.Kind → Assertion) : Assertion → Prop
  | absent (hmember : members.get? name = none) : NoObject members name absent ofKind absent
  | ofKind (value : Json) (hmember : members.get? name = some value)
      (hkind : value.kind ≠ .object) : NoObject members name absent ofKind (ofKind value.kind)

theorem settles_objectUnder :
    Settles (objectUnder members name absent ofKind)
      (fun inner => members.get? name = some (.object inner))
      (NoObject members name absent ofKind) where
  of_holds := by
    intro inner hmember
    rw [objectUnder, hmember]
    rfl
  of_fails := by
    intro reason h
    cases h with
    | absent hmember => rw [objectUnder, hmember]
    | ofKind value hmember hkind =>
        simp only [objectUnder, hmember, Json.members?_eq_none_iff.mpr hkind]
  holds_or_fails := by
    cases hmember : members.get? name with
    | none => exact .inr ⟨_, .absent hmember⟩
    | some value =>
        rcases value.exists_object_or_kind_ne with ⟨inner, rfl⟩ | hkind
        · exact .inl ⟨inner, rfl⟩
        · exact .inr ⟨_, .ofKind value hmember hkind⟩

/-! ## What is there and what is not -/

/-- The body is a JSON object with these members. -/
def HoldsBody (response : Response) (body : Json.Members) : Prop :=
  Json.read? response.body = some (.object body)

/-- The body has an object for the database with these members. -/
def HoldsDatabase (response : Response) (database : Json.Members) : Prop :=
  ∃ body, HoldsBody response body ∧ body.get? "database" = some (.object database)

/-- The database has an object for the statistics with these members. -/
def HoldsStats (response : Response) (stats : Json.Members) : Prop :=
  ∃ database, HoldsDatabase response database ∧ database.get? "stats" = some (.object stats)

/-- Why the body is no JSON object. -/
inductive NoBody (response : Response) : Assertion → Prop
  | notJson (hbody : Json.read? response.body = none) : NoBody response .notJson
  | notObject (value : Json) (hbody : Json.read? response.body = some value)
      (hkind : value.kind ≠ .object) : NoBody response (.notObject value.kind)

/-- Why there is no object for the database. -/
def NoDatabase (response : Response) (reason : Assertion) : Prop :=
  NoBody response reason ∨ ∃ body, HoldsBody response body ∧
    NoObject body "database" (.noField "database") .databaseKind reason

/-- Why there is no object for the statistics. -/
def NoStats (response : Response) (reason : Assertion) : Prop :=
  NoDatabase response reason ∨ ∃ database, HoldsDatabase response database ∧
    NoObject database "stats" (.noDatabaseField "stats") .statsKind reason

/-! ## Reading the levels -/

theorem settles_bodyMembers (response : Response) :
    Settles (bodyMembers response) (HoldsBody response) (NoBody response) where
  of_holds := by
    intro body hbody
    rw [bodyMembers, Response.json, hbody]
    rfl
  of_fails := by
    intro reason h
    cases h with
    | notJson hbody =>
        rw [bodyMembers, Response.json, hbody]
        rfl
    | notObject value hbody hkind =>
        rw [bodyMembers, Response.json, hbody]
        simp only [bind, Except.bind, Json.members?_eq_none_iff.mpr hkind]
  holds_or_fails := by
    cases hbody : Json.read? response.body with
    | none => exact .inr ⟨_, .notJson hbody⟩
    | some value =>
        rcases value.exists_object_or_kind_ne with ⟨body, rfl⟩ | hkind
        · exact .inl ⟨body, hbody⟩
        · exact .inr ⟨_, .notObject value hbody hkind⟩

theorem databaseMembers_eq_bind (response : Response) :
    databaseMembers response =
      bodyMembers response >>= fun body =>
        objectUnder body "database" (.noField "database") .databaseKind := by
  rw [databaseMembers, bodyMember, bind_assoc]
  refine bind_congr fun body => ?_
  rw [objectUnder]
  cases body.get? "database" <;> rfl

theorem settles_databaseMembers (response : Response) :
    Settles (databaseMembers response) (HoldsDatabase response) (NoDatabase response) := by
  rw [databaseMembers_eq_bind]
  exact (settles_bodyMembers response).bind fun _ => settles_objectUnder

theorem poolMembers_eq_bind (response : Response) :
    poolMembers response =
      databaseMembers response >>= fun database =>
        objectUnder database "stats" (.noDatabaseField "stats") .statsKind := by
  rw [poolMembers]
  refine bind_congr fun database => ?_
  rw [objectUnder, databaseMember]
  cases database.get? "stats" <;> rfl

theorem settles_poolMembers (response : Response) :
    Settles (poolMembers response) (HoldsStats response) (NoStats response) := by
  rw [poolMembers_eq_bind]
  exact (settles_databaseMembers response).bind fun _ => settles_objectUnder

end Check

end ServiceHealth
