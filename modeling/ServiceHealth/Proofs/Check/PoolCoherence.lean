import ServiceHealth.Proofs.Check.PoolShape

/-!
# The checks of a pool agree

Several checks look at the same statistics, each of them with its own reading and its own
comparisons, and in an order of its own.  Each is described here by what it accepts: a
statistic is not negative, a pool is consistent (`Stats.IsConsistent`), the open connections
fit in the capacity (`Fits`), and the checks of a response say such things of the
statistics that it holds.  Since a response holds one object of statistics only, and a
name in it stands for one number only, what two checks accept is about the same numbers.

`pool_checks_cohere` says what follows: which checks a sound pool passes, which two checks
make a pool sound, and what a healthy database has.
-/

namespace ServiceHealth

open Http (Response)

/-! ## Statistics that are accepted -/

namespace Pool

variable {members : Json.Members} {name : String} {first second : Float} {stats : Stats}

/-- There is room for a connection, and not more of them are open than there is room for. -/
def Fits (opened maximum : Float) : Prop :=
  ¬ maximum ≤ 0 ∧ ¬ maximum < opened

/-- The open connections are those in use and the idle ones, and nothing is negative. -/
structure Stats.IsConsistent (stats : Stats) : Prop where
  sum : (stats.openConnections == stats.inUse + stats.idle) = true
  counters : ∀ counter ∈ stats.counters, ¬ counter.2 < 0
  waitDuration : ¬ stats.waitDuration < 0

theorem nonNegative_eq_ok_iff {value : Float} : nonNegative name value = .ok () ↔ ¬ value < 0 := by
  rw [nonNegative, ite_fail_eq_ok_iff, and_iff_left rfl]

theorem withinCapacity_eq_ok_iff {maximum opened : Float} :
    withinCapacity maximum opened = .ok () ↔ Fits opened maximum := by
  rw [withinCapacity, ite_fail_eq_ok_iff, ite_fail_eq_ok_iff, and_iff_left rfl, Fits]

theorem consistent_eq_ok_iff : stats.consistent = .ok () ↔ stats.IsConsistent := by
  have hchecks : stats.consistent = .ok () ↔
      ¬ (stats.openConnections != stats.inUse + stats.idle) = true ∧
        (stats.counters.forM (fun counter => nonNegative counter.1 counter.2)) = .ok () ∧
        ¬ stats.waitDuration < 0 := by
    refine ite_fail_eq_ok_iff.trans (and_congr_right fun _ => ?_)
    refine check_bind_eq_ok_iff.trans (and_congr_right fun _ => ?_)
    exact ite_fail_eq_ok_iff.trans (and_iff_left rfl)
  rw [hchecks, forM_eq_ok_iff]
  simp only [nonNegative_eq_ok_iff, bne, Bool.not_eq_true', Bool.not_eq_false]
  constructor
  · rintro ⟨hsum, hcounters, hwait⟩
    exact ⟨hsum, hcounters, hwait⟩
  · rintro ⟨hsum, hcounters, hwait⟩
    exact ⟨hsum, hcounters, hwait⟩

-- three of 25 connections are open, one of them in use and two idle
example :
    let stats : Stats := ⟨25, 3, 1, 2, 0, 0, 0, 4⟩
    stats.consistent.isOk ∧
      (withinCapacity stats.maxOpenConnections stats.openConnections).isOk := by
  decide +kernel

/-- The statistics of current use are among those that are read, and among the counters. -/
theorem Stats.ReadsFrom.usage (h : stats.ReadsFrom members) (hname : name ∈ usageNames) :
    ∃ value, HasStat members name value ∧ (name, value) ∈ stats.counters := by
  simp only [usageNames, List.mem_cons, List.not_mem_nil, or_false] at hname
  rcases hname with rfl | rfl | rfl
  · exact ⟨_, h.openConnections, by simp [Stats.counters]⟩
  · exact ⟨_, h.inUse, by simp [Stats.counters]⟩
  · exact ⟨_, h.idle, by simp [Stats.counters]⟩

end Pool

/-! ## Responses that are accepted -/

namespace Check

open Pool (Fits HasStat Stats usageNames)

variable {response : Response} {expected : String}

/-- The status of the database is this text. -/
def HasDatabaseStatus (response : Response) (expected : String) : Prop :=
  ∃ database, HoldsDatabase response database ∧ database.get? "status" = some (.text expected)

theorem reportsDatabaseStatus_eq_ok_iff :
    reportsDatabaseStatus response expected = .ok () ↔ HasDatabaseStatus response expected := by
  rw [reportsDatabaseStatus, bind_eq_ok_iff, HasDatabaseStatus]
  simp only [(settles_databaseMembers response).eq_ok_iff]
  refine exists_congr fun database => and_congr_right fun _ => ?_
  rw [bind_eq_ok_iff, databaseMember]
  cases database.get? "status" with
  | none => simp [Error.fail]
  | some value => cases value <;> simp [Json.text?, Error.fail]

theorem poolStats_bind_eq_ok_iff {check : Stats → Except Error Unit} :
    poolStats response >>= check = .ok () ↔
      ∃ members, HoldsStats response members ∧
        ∃ stats : Stats, stats.ReadsFrom members ∧ check stats = .ok () := by
  rw [poolStats, bind_assoc, bind_eq_ok_iff]
  simp only [bind_eq_ok_iff, (settles_poolMembers response).eq_ok_iff, Pool.ofMembers_eq_ok_iff]

theorem poolIsConsistent_eq_ok_iff :
    poolIsConsistent response = .ok () ↔
      ∃ members, HoldsStats response members ∧
        ∃ stats : Stats, stats.ReadsFrom members ∧ stats.IsConsistent := by
  rw [poolIsConsistent, poolStats_bind_eq_ok_iff]
  simp only [Pool.consistent_eq_ok_iff]

theorem poolIsSound_eq_ok_iff :
    poolIsSound response = .ok () ↔
      ∃ members, HoldsStats response members ∧
        ∃ stats : Stats, stats.ReadsFrom members ∧ stats.IsConsistent ∧
          Fits stats.openConnections stats.maxOpenConnections := by
  rw [poolIsSound, poolStats_bind_eq_ok_iff]
  simp only [check_bind_eq_ok_iff, Pool.consistent_eq_ok_iff, Pool.withinCapacity_eq_ok_iff]

theorem poolHasRoom_eq_ok_iff :
    poolHasRoom response = .ok () ↔
      ∃ members, HoldsStats response members ∧
        ∃ maximum, HasStat members "max_open_connections" maximum ∧ ¬ maximum ≤ 0 := by
  rw [poolHasRoom, bind_eq_ok_iff]
  simp only [bind_eq_ok_iff, (settles_poolMembers response).eq_ok_iff, Pool.stat_eq_ok_iff,
    ite_fail_eq_ok_iff, and_true]

theorem poolReportsUse_eq_ok_iff :
    poolReportsUse response = .ok () ↔
      ∃ members, HoldsStats response members ∧
        ∀ name ∈ usageNames, ∃ value, HasStat members name value ∧ ¬ value < 0 := by
  rw [poolReportsUse, bind_eq_ok_iff]
  simp only [bind_eq_ok_iff, (settles_poolMembers response).eq_ok_iff, Pool.stat_eq_ok_iff,
    forM_eq_ok_iff, Pool.nonNegative_eq_ok_iff]

theorem databaseIsHealthy_eq_ok_iff :
    databaseIsHealthy response = .ok () ↔
      HasDatabaseStatus response healthyStatus ∧
        ∃ members, HoldsStats response members ∧
          ∃ maximum, HasStat members "max_open_connections" maximum ∧
            ∃ opened, HasStat members "open_connections" opened ∧ Fits opened maximum := by
  rw [databaseIsHealthy, check_bind_eq_ok_iff, reportsDatabaseStatus_eq_ok_iff]
  simp only [bind_eq_ok_iff, (settles_poolMembers response).eq_ok_iff, Pool.stat_eq_ok_iff,
    Pool.withinCapacity_eq_ok_iff]

theorem describesDatabaseAndPool_eq_ok_iff :
    describesDatabaseAndPool response = .ok () ↔
      describesDatabase response = .ok () ∧ ∃ stats, poolStats response = .ok stats := by
  rw [describesDatabaseAndPool, check_bind_eq_ok_iff, bind_eq_ok_iff]
  simp only [pure, Except.pure, and_true]

/-! ## How the checks depend on each other -/

theorem poolHasRoom_of_poolIsSound (h : poolIsSound response = .ok ()) :
    poolHasRoom response = .ok () := by
  obtain ⟨members, hmembers, stats, hreads, -, hfits⟩ := poolIsSound_eq_ok_iff.mp h
  exact poolHasRoom_eq_ok_iff.mpr ⟨members, hmembers, _, hreads.maxOpenConnections, hfits.1⟩

theorem poolReportsUse_of_poolIsSound (h : poolIsSound response = .ok ()) :
    poolReportsUse response = .ok () := by
  obtain ⟨members, hmembers, stats, hreads, hconsistent, -⟩ := poolIsSound_eq_ok_iff.mp h
  refine poolReportsUse_eq_ok_iff.mpr ⟨members, hmembers, ?_⟩
  intro name hname
  obtain ⟨value, hvalue, hcounter⟩ := hreads.usage hname
  have hsign : ¬ value < 0 := hconsistent.counters (name, value) hcounter
  exact ⟨value, hvalue, hsign⟩

theorem databaseIsHealthy_of_poolIsSound (h : poolIsSound response = .ok ())
    (hstatus : HasDatabaseStatus response healthyStatus) :
    databaseIsHealthy response = .ok () := by
  obtain ⟨members, hmembers, stats, hreads, -, hfits⟩ := poolIsSound_eq_ok_iff.mp h
  exact databaseIsHealthy_eq_ok_iff.mpr ⟨hstatus, members, hmembers, _, hreads.maxOpenConnections,
    _, hreads.openConnections, hfits⟩

/-- The capacity is the one that the health of the database is about, because a response holds one
object of statistics. -/
theorem poolIsSound_of_databaseIsHealthy (h : databaseIsHealthy response = .ok ())
    (hconsistent : poolIsConsistent response = .ok ()) : poolIsSound response = .ok () := by
  obtain ⟨-, members, hmembers, maximum, hmaximum, opened, hopened, hfits⟩ :=
    databaseIsHealthy_eq_ok_iff.mp h
  obtain ⟨others, hothers, stats, hreads, hconsistent⟩ := poolIsConsistent_eq_ok_iff.mp hconsistent
  obtain rfl := (settles_poolMembers response).unique hmembers hothers
  obtain rfl := (Pool.settles_stat members _).unique hmaximum hreads.maxOpenConnections
  obtain rfl := (Pool.settles_stat members _).unique hopened hreads.openConnections
  exact poolIsSound_eq_ok_iff.mpr ⟨members, hmembers, stats, hreads, hconsistent, hfits⟩

theorem poolHasRoom_of_databaseIsHealthy (h : databaseIsHealthy response = .ok ()) :
    poolHasRoom response = .ok () := by
  obtain ⟨-, members, hmembers, maximum, hmaximum, _, -, hfits⟩ :=
    databaseIsHealthy_eq_ok_iff.mp h
  exact poolHasRoom_eq_ok_iff.mpr ⟨members, hmembers, maximum, hmaximum, hfits.1⟩

/-- A sound pool has all its statistics, is consistent, has room and reports its use, and if the
status of the database is healthy the database is healthy.  A healthy database with a consistent
pool has a sound pool, and a healthy database has a pool with room and reports the status of one.
The database is described together with its pool exactly if it is described and the statistics are
there. -/
theorem pool_checks_cohere (response : Response) :
    (poolIsSound response = .ok () →
      (∃ stats, poolStats response = .ok stats) ∧ poolIsConsistent response = .ok () ∧
        poolHasRoom response = .ok () ∧ poolReportsUse response = .ok () ∧
        (HasDatabaseStatus response "healthy" → databaseIsHealthy response = .ok ())) ∧
    (databaseIsHealthy response = .ok () → poolIsConsistent response = .ok () →
      poolIsSound response = .ok ()) ∧
    (databaseIsHealthy response = .ok () →
      poolHasRoom response = .ok () ∧ reportsDatabaseStatus response "healthy" = .ok ()) ∧
    (describesDatabaseAndPool response = .ok () ↔
      describesDatabase response = .ok () ∧ ∃ stats, poolStats response = .ok stats) := by
  refine ⟨?_, poolIsSound_of_databaseIsHealthy, ?_, describesDatabaseAndPool_eq_ok_iff⟩
  · intro h
    obtain ⟨members, hmembers, stats, hreads, hconsistent, -⟩ := poolIsSound_eq_ok_iff.mp h
    have hstats := poolStats_eq_ok_iff.mpr ⟨members, hmembers, hreads⟩
    have hpool := poolIsConsistent_eq_ok_iff.mpr ⟨members, hmembers, stats, hreads, hconsistent⟩
    exact ⟨⟨stats, hstats⟩, hpool, poolHasRoom_of_poolIsSound h, poolReportsUse_of_poolIsSound h,
      databaseIsHealthy_of_poolIsSound h⟩
  · intro h
    exact ⟨poolHasRoom_of_databaseIsHealthy h,
      reportsDatabaseStatus_eq_ok_iff.mpr (databaseIsHealthy_eq_ok_iff.mp h).1⟩

end Check

end ServiceHealth
