import ServiceHealth.Proofs.Check.Levels

/-!
# The shape of the statistics of a pool

The statistics stand three levels deep: the body is an object, its `database` is an
object, and the `stats` of that is an object with a number under each of the names in
`Pool.statNames`.  `HoldsStats` says that the three objects are there, and `NoStats` names
the outermost level that is not as it should be.

Inside the statistics there are two lists of names, that of the statistics that have to be
there and that of the fields into which they are read.  `map_values_ofMembers` says that
they are the same: reading the fields is reading the names in their order.  What the
reader accepts and where it stops follows from what is known of such a sequence.

`poolStats_verdict` puts this together for the check of a response.
-/

namespace ServiceHealth

open Http (Response)

namespace Json

variable {value : Json}

theorem double?_eq_some_iff {double : Float} :
    value.double? = some double ↔
      ∃ number : Number, value = .number number ∧ double = number.toDouble := by
  cases value <;> simp [double?, eq_comm]

theorem double?_eq_none_iff : value.double? = none ↔ value.kind ≠ .number := by
  cases value <;> simp [double?, kind]

end Json

/-! ## Reading the statistics -/

namespace Pool

variable {members : Json.Members} {name text : String} {value : Float} {reason : Assertion}
variable {stats : Stats}

/-- There is a number under this name, and this is its double. -/
def HasStat (members : Json.Members) (name : String) (value : Float) : Prop :=
  ∃ number : Json.Number, members.get? name = some (.number number) ∧ value = number.toDouble

/-- What is wrong with the statistic of this name, as a reason and in words. -/
inductive StatDefect (members : Json.Members) (name : String) : Assertion → String → Prop
  | absent (habsent : members.get? name = none) :
      StatDefect members name (.noStat name) ("Stats does not contain '" ++ name ++ "' field")
  | notNumber (value : Json) (hvalue : members.get? name = some value)
      (hkind : value.kind ≠ .number) :
      StatDefect members name (.statKind name value.kind)
        ("Stat '" ++ name ++ "' should be a number, got " ++ value.kind.name)

/-- This is wrong with the first statistic that is absent or not a number. -/
def FirstDefect (members : Json.Members) (reason : Assertion) (text : String) : Prop :=
  ∃ before name after, statNames = before ++ name :: after ∧
    (∀ earlier ∈ before, ∃ value, HasStat members earlier value) ∧
    StatDefect members name reason text

/-- Every statistic is the double of the number under its own name. -/
structure Stats.ReadsFrom (stats : Stats) (members : Json.Members) : Prop where
  maxOpenConnections : HasStat members "max_open_connections" stats.maxOpenConnections
  openConnections : HasStat members "open_connections" stats.openConnections
  inUse : HasStat members "in_use" stats.inUse
  idle : HasStat members "idle" stats.idle
  waitCount : HasStat members "wait_count" stats.waitCount
  waitDuration : HasStat members "wait_duration" stats.waitDuration
  maxIdleClosed : HasStat members "max_idle_closed" stats.maxIdleClosed
  maxLifetimeClosed : HasStat members "max_lifetime_closed" stats.maxLifetimeClosed

theorem settles_stat (members : Json.Members) (name : String) :
    Settles (stat members name) (HasStat members name)
      (fun reason => ∃ text, StatDefect members name reason text) where
  of_holds := by
    rintro value ⟨number, hnumber, rfl⟩
    rw [stat, hnumber]
    rfl
  of_fails := by
    rintro reason ⟨text, hdefect⟩
    cases hdefect with
    | absent habsent => rw [stat, habsent]
    | notNumber json hjson hkind =>
        have hdouble := Json.double?_eq_none_iff.mpr hkind
        simp only [stat, hjson, hdouble]
  holds_or_fails := by
    cases hmember : members.get? name with
    | none => exact .inr ⟨_, _, .absent hmember⟩
    | some json =>
        cases hdouble : json.double? with
        | none => exact .inr ⟨_, _, .notNumber json hmember (Json.double?_eq_none_iff.mp hdouble)⟩
        | some double =>
            obtain ⟨number, rfl, hvalue⟩ := Json.double?_eq_some_iff.mp hdouble
            exact .inl ⟨double, number, hmember, hvalue⟩

theorem stat_eq_ok_iff : stat members name = .ok value ↔ HasStat members name value :=
  (settles_stat members name).eq_ok_iff

theorem stat_eq_error_iff {error : Error} :
    stat members name = .error error ↔
      ∃ reason text, StatDefect members name reason text ∧ error = .assertion reason := by
  rw [(settles_stat members name).eq_error_iff]
  simp only [exists_and_right]

theorem StatDefect.message (h : StatDefect members name reason text) :
    (Error.assertion reason).message = "Assertion failed: " ++ text := by
  cases h <;> rfl

/-! ### All statistics -/

theorem Stats.values_inj {first second : Stats} :
    first.values = second.values ↔ first = second := by
  cases first
  cases second
  simp [Stats.values]

/-- The fields are read in the order of the names, and from them. -/
theorem map_values_ofMembers (members : Json.Members) :
    Stats.values <$> Stats.ofMembers members = statNames.mapM (stat members) := by
  simp only [Stats.ofMembers, statNames, List.mapM_cons, List.mapM_nil, map_bind, bind_assoc,
    pure_bind, map_pure, Stats.values]

theorem Stats.readsFrom_iff :
    stats.ReadsFrom members ↔ List.Forall₂ (HasStat members) statNames stats.values := by
  constructor
  · rintro ⟨h₁, h₂, h₃, h₄, h₅, h₆, h₇, h₈⟩
    simp only [statNames, Stats.values, List.forall₂_cons, h₁, h₂, h₃, h₄, h₅, h₆, h₇, h₈,
      List.Forall₂.nil, and_self]
  · intro h
    simp only [statNames, Stats.values, List.forall₂_cons] at h
    obtain ⟨h₁, h₂, h₃, h₄, h₅, h₆, h₇, h₈, -⟩ := h
    exact ⟨h₁, h₂, h₃, h₄, h₅, h₆, h₇, h₈⟩

theorem ofMembers_eq_ok_iff : Stats.ofMembers members = .ok stats ↔ stats.ReadsFrom members := by
  have hmap : Stats.ofMembers members = .ok stats ↔
      statNames.mapM (stat members) = .ok stats.values := by
    rw [← map_values_ofMembers]
    cases Stats.ofMembers members with
    | error error => simp [Functor.map, Except.map]
    | ok other => simp [Functor.map, Except.map, Stats.values_inj]
  rw [hmap, mapM_eq_ok_iff, Stats.readsFrom_iff]
  simp only [stat_eq_ok_iff]

theorem ofMembers_eq_error_iff {error : Error} :
    Stats.ofMembers members = .error error ↔
      ∃ reason text, FirstDefect members reason text ∧ error = .assertion reason := by
  have hmap : Stats.ofMembers members = .error error ↔
      statNames.mapM (stat members) = .error error := by
    rw [← map_values_ofMembers]
    exact map_eq_error_iff.symm
  rw [hmap, mapM_eq_error_iff]
  simp only [stat_eq_ok_iff, stat_eq_error_iff]
  constructor
  · rintro ⟨before, name, after, hnames, hbefore, reason, text, hdefect, herror⟩
    exact ⟨reason, text, ⟨before, name, after, hnames, hbefore, hdefect⟩, herror⟩
  · rintro ⟨reason, text, ⟨before, name, after, hnames, hbefore, hdefect⟩, herror⟩
    exact ⟨before, name, after, hnames, hbefore, reason, text, hdefect, herror⟩

theorem FirstDefect.message (h : FirstDefect members reason text) :
    (Error.assertion reason).message = "Assertion failed: " ++ text := by
  obtain ⟨before, name, after, -, -, hdefect⟩ := h
  exact hdefect.message

theorem exists_readsFrom_iff :
    (∃ stats : Stats, stats.ReadsFrom members) ↔
      ∀ name ∈ statNames, ∃ value, HasStat members name value := by
  simp only [statNames, List.forall_mem_cons]
  constructor
  · rintro ⟨stats, h₁, h₂, h₃, h₄, h₅, h₆, h₇, h₈⟩
    exact ⟨⟨_, h₁⟩, ⟨_, h₂⟩, ⟨_, h₃⟩, ⟨_, h₄⟩, ⟨_, h₅⟩, ⟨_, h₆⟩, ⟨_, h₇⟩, ⟨_, h₈⟩,
      List.forall_mem_nil _⟩
  · rintro ⟨⟨_, h₁⟩, ⟨_, h₂⟩, ⟨_, h₃⟩, ⟨_, h₄⟩, ⟨_, h₅⟩, ⟨_, h₆⟩, ⟨_, h₇⟩, ⟨_, h₈⟩, -⟩
    exact ⟨⟨_, _, _, _, _, _, _, _⟩, h₁, h₂, h₃, h₄, h₅, h₆, h₇, h₈⟩

end Pool

/-! ## The check of a response -/

namespace Check

open Pool (FirstDefect HasStat Stats statNames)

variable {response : Response} {stats : Stats} {error : Error}

theorem poolStats_eq_ok_iff :
    poolStats response = .ok stats ↔
      ∃ members, HoldsStats response members ∧ stats.ReadsFrom members := by
  rw [poolStats, bind_eq_ok_iff]
  simp only [(settles_poolMembers response).eq_ok_iff, Pool.ofMembers_eq_ok_iff]

theorem poolStats_eq_error_iff :
    poolStats response = .error error ↔
      (∃ reason, NoStats response reason ∧ error = .assertion reason) ∨
      ∃ members, HoldsStats response members ∧
        ∃ reason text, FirstDefect members reason text ∧ error = .assertion reason := by
  rw [poolStats, bind_eq_error_iff]
  simp only [(settles_poolMembers response).eq_ok_iff, (settles_poolMembers response).eq_error_iff,
    Pool.ofMembers_eq_error_iff]

theorem exists_poolStats_eq_ok_iff :
    (∃ stats, poolStats response = .ok stats) ↔
      ∃ members, HoldsStats response members ∧
        ∀ name ∈ statNames, ∃ value, HasStat members name value := by
  simp only [poolStats_eq_ok_iff, ← Pool.exists_readsFrom_iff]
  constructor
  · rintro ⟨stats, members, hmembers, hreads⟩
    exact ⟨members, hmembers, stats, hreads⟩
  · rintro ⟨members, hmembers, stats, hreads⟩
    exact ⟨stats, members, hmembers, hreads⟩

theorem poolStats_eq_error_iff_of_holdsStats {members : Json.Members}
    (h : HoldsStats response members) :
    poolStats response = .error error ↔
      ∃ reason text, FirstDefect members reason text ∧ error = .assertion reason := by
  rw [poolStats_eq_error_iff]
  constructor
  · rintro (⟨reason, hreason, -⟩ | ⟨other, hother, hdefect⟩)
    · exact absurd hreason ((settles_poolMembers response).not_fails h reason)
    · exact (settles_poolMembers response).unique hother h ▸ hdefect
  · intro hdefect
    exact .inr ⟨members, h, hdefect⟩

/-- The statistics of a response are read exactly if its body is an object, the database in it is
an object, and the statistics in that are an object with a number under each of the eight names;
each statistic is then the double of the number under its own name.  If the three objects are there
and the check fails, it does so for the first of the names under which there is nothing or no
number.  If one of the objects is not there, the check fails for the outermost of them. -/
theorem poolStats_verdict (response : Response) :
    ((∃ stats, poolStats response = .ok stats) ↔
      ∃ members, HoldsStats response members ∧
        ∀ name ∈ statNames, ∃ value, HasStat members name value) ∧
    (∀ stats, poolStats response = .ok stats ↔
      ∃ members, HoldsStats response members ∧ stats.ReadsFrom members) ∧
    (∀ members, HoldsStats response members → ∀ error, poolStats response = .error error ↔
      ∃ reason text, FirstDefect members reason text ∧ error = .assertion reason ∧
        error.message = "Assertion failed: " ++ text) ∧
    ((∀ members, ¬ HoldsStats response members) → ∀ error, poolStats response = .error error ↔
      ∃ reason, NoStats response reason ∧ error = .assertion reason) := by
  refine ⟨exists_poolStats_eq_ok_iff, fun stats => poolStats_eq_ok_iff, ?_, ?_⟩
  · intro members hmembers error
    rw [poolStats_eq_error_iff_of_holdsStats hmembers]
    constructor
    · rintro ⟨reason, text, hdefect, rfl⟩
      exact ⟨reason, text, hdefect, rfl, hdefect.message⟩
    · rintro ⟨reason, text, hdefect, herror, -⟩
      exact ⟨reason, text, hdefect, herror⟩
  · intro hno error
    rw [poolStats_eq_error_iff]
    constructor
    · rintro (hreason | ⟨members, hmembers, -⟩)
      · exact hreason
      · exact absurd hmembers (hno members)
    · exact .inl

-- the capacity and the open connections are there, and the idle ones are not looked at any more
example :
    Stats.ofMembers [("idle", .text "2"), ("max_open_connections", .number (.integer 25)),
      ("open_connections", .number (.integer 3))] = Error.fail (.noStat "in_use") := by
  rfl

end Check

end ServiceHealth
