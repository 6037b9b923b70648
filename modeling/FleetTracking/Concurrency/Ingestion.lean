import FleetTracking.Concurrency.Calls
import Mathlib.Data.Multiset.AddSub

/-!
# Fixes that come in while anything else runs

Any number of handler sessions among any other calls.  However their statements interleave, no
fix is lost and none is stored twice (`fixes_are_conserved`), a vehicle has a current location
exactly when it has history (`locations_come_from_history`), and a vehicle that a session deletes
has stored no fix (`deletion_excludes_fixes`).
-/

namespace FleetTracking

open Relational ReadCommitted

section

variable {ι : Type} [Fintype ι] [DecidableEq ι]

/-! ## Conservation -/

/-- The fixes in the history, with their vehicles. -/
def DB.fixes (db : DB) : Multiset (Int × Fix) :=
  (db.gpsPoints.rows.map fun p => (p.vehicleId, p.toFix) : List (Int × Fix))

/-- The fix that a call is to store. -/
def Call.fix : Call → Multiset (Int × Fix)
  | handleGpsMessage m => {((m.vehicleId : Int), m.fix)}
  | _ => 0

theorem fixes_of_committed {c : Call} {db db' : DB} (committed : Committed c db db') :
    db'.fixes = db.fixes + c.fix := by
  by_cases report : ∃ m, c = .handleGpsMessage m
  · obtain ⟨m, rfl⟩ := report
    cases committed with
    | nothing updates => exact updates.elim
    | report =>
        simp only [DB.fixes, DB.addPoint, Serial.rows_insert, List.map_append]
        rfl
  · have other (m : GPSMessage) (same : c = .handleGpsMessage m) : False := report ⟨m, same⟩
    have none : c.fix = 0 := by
      cases c with
      | handleGpsMessage m => exact (other m rfl).elim
      | _ => rfl
    rw [DB.fixes, (committed.untracked other).1, none, add_zero]
    rfl

theorem calling_fixes {E : Engine} (enforced : E.constraints = true) {db : DB}
    {a : ι → Ambient} {c : ι → Call} {schedule : List ι}
    {s : System ι DB (Locks Lockable) (Except Failure Bool)}
    (played : (calling E db a c).play schedule = some s) :
    s.db.fixes = db.fixes + acknowledged (fun i => (c i).fix) s.results := by
  refine calling_outcomes
    (P := fun results db' => db'.fixes = db.fixes + acknowledged (fun i => (c i).fix) results)
    enforced (fun kept running committed => ?_) (fun kept running refused => ?_)
    (fun kept idle => ?_) ?_ played
  · rw [fixes_of_committed committed, kept, acknowledged_update running, if_pos rfl, add_assoc]
  · rw [kept, acknowledged_update running, if_neg refused, add_zero]
  · rw [← kept, DB.fixes, idle.gpsPoints.rows]
    rfl
  · simp [acknowledged]

/-- No point leaves the history. -/
theorem Committed.point_mem {c : Call} {db db' : DB} {p : GPSPoint}
    (committed : Committed c db db') (member : p ∈ db.gpsPoints.toTable) :
    p ∈ db'.gpsPoints.toTable := by
  cases committed with
  | report => exact Serial.mem_insert.mpr (.inl member)
  | _ => exact member

/-- **Conservation.**  However the statements of any sessions interleave, the history holds the
points it held before, and of their fixes and those of the sessions that have answered `True`
each one once. -/
theorem fixes_are_conserved {E : Engine} (enforced : E.constraints = true) {db : DB}
    {a : ι → Ambient} {c : ι → Call} {schedule : List ι}
    {s : System ι DB (Locks Lockable) (Except Failure Bool)}
    (played : (calling E db a c).play schedule = some s) :
    (∀ p ∈ db.gpsPoints.toTable, p ∈ s.db.gpsPoints.toTable) ∧
      s.db.fixes = db.fixes + acknowledged (fun i => (c i).fix) s.results := by
  refine ⟨fun p member => ?_, calling_fixes enforced played⟩
  refine calling_outcomes (P := fun _ db' => p ∈ db'.gpsPoints.toTable) enforced
    (fun kept _ committed => committed.point_mem kept) (fun kept _ _ => kept)
    (fun kept idle => ?_) member played
  rw [idle.gpsPoints.rows]
  exact kept

end

/-- Two sessions report the first vehicle and a third one deletes it. -/
def reportingTwice : Fin 3 → Call
  | 0 => .handleGpsMessage earlyFix
  | 1 => .handleGpsMessage lateFix
  | 2 => .deleteVehicle 1

/-- The three sessions, once there is the first vehicle. -/
def reporting : System (Fin 3) DB (Locks Lockable) (Except Failure Bool) :=
  calling postgres .withFirstVehicle (fun _ => plainAmbient) reportingTwice

/-- Both points are stored before either session commits. -/
def reportsOverlap : List (Fin 3) := [0, 1, 0, 1, 0, 0, 0, 1, 1, 1]

theorem fixes_are_conserved_two : ∃ s, reporting.play reportsOverlap = some s ∧
    s.results 0 = some (.ok true) ∧ s.results 1 = some (.ok true) ∧
    s.db.fixes =
      DB.withFirstVehicle.fixes + acknowledged (fun i => (reportingTwice i).fix) s.results := by
  have ran : (reporting.play reportsOverlap).any (fun s =>
      s.results 0 = some (.ok true) ∧ s.results 1 = some (.ok true)) = true := by decide +kernel
  obtain ⟨s, played, ended⟩ := (Option.any_eq_true _ _).mp ran
  obtain ⟨first, second⟩ := of_decide_eq_true ended
  exact ⟨s, played, first, second, (fixes_are_conserved rfl played).2⟩

section

variable {ι : Type} [Fintype ι] [DecidableEq ι]

/-! ## Current locations -/

/-- `f` is a fix in the history of vehicle `v`. -/
def DB.HasStored (db : DB) (v : Int) (f : Fix) : Prop :=
  ∃ p ∈ db.gpsPoints.toTable, p.vehicleId = v ∧ p.toFix = f

/-- A vehicle has a current location exactly when it has history, and each column of it is that
of a fix in the history. -/
structure Tracked (db : DB) : Prop where
  located : ∀ v, db.vehicleCurrentLocation.HasKey v ↔ ∃ f, db.HasStored v f
  mixes : ∀ v c, db.vehicleCurrentLocation.get v = some c → c.toFix.Mixes (db.HasStored v)

/-- History and current locations that agree are as they should be. -/
theorem Latest.tracked {db : DB} (latest : Latest db) : Tracked db where
  located v := by
    cases found : db.vehicleCurrentLocation.get v with
    | none =>
        refine iff_of_false (fun present => ?_) fun stored => ?_
        · rw [Table.hasKey_iff_get, found] at present
          cases present
        · obtain ⟨_, p, member, own, _⟩ := stored
          exact latest.none v found p member own
    | some c =>
        obtain ⟨p, newest, same⟩ := latest.some v c found
        exact iff_of_true (.of_get found) ⟨p.toFix, p, newest.member, newest.vehicle, rfl⟩
  mixes v c found := by
    obtain ⟨p, newest, same⟩ := latest.some v c found
    exact .of ⟨p, newest.member, newest.vehicle, same⟩

theorem hasStored_addPoint {db : DB} {m : GPSMessage} {v : Int} {f : Fix} :
    (db.addPoint m).HasStored v f ↔ db.HasStored v f ∨ (m.vehicleId : Int) = v ∧ m.fix = f := by
  unfold DB.HasStored DB.addPoint
  simp only [Serial.mem_insert, or_and_right, exists_or, exists_eq_left]
  rfl

theorem hasStored_congr {db db' : DB} (points : db'.gpsPoints.toTable = db.gpsPoints.toTable) :
    db'.HasStored = db.HasStored := by
  unfold DB.HasStored
  rw [points]

theorem Tracked.of_tables {db db' : DB} (tracked : Tracked db)
    (points : db'.gpsPoints.toTable = db.gpsPoints.toTable)
    (locations : db'.vehicleCurrentLocation = db.vehicleCurrentLocation) : Tracked db' := by
  have stored : db'.HasStored = db.HasStored := hasStored_congr points
  exact ⟨by rw [stored, locations]; exact tracked.located,
    by rw [stored, locations]; exact tracked.mixes⟩

/-- What is stored stays stored. -/
theorem Committed.stored {c : Call} {db db' : DB} {v : Int} {f : Fix}
    (committed : Committed c db db') (stored : db.HasStored v f) : db'.HasStored v f := by
  cases committed with
  | @report m =>
      have kept : (db.addPoint m).HasStored v f := hasStored_addPoint.mpr (.inl stored)
      exact kept
  | _ => exact stored

theorem Committed.stored_of_report {db db' : DB} {m : GPSMessage} {v : Int}
    (committed : Committed (.handleGpsMessage m) db db') (own : (m.vehicleId : Int) = v) :
    db'.HasStored v m.fix := by
  cases committed with
  | nothing updates => exact updates.elim
  | report =>
      have stored : (db.addPoint m).HasStored v m.fix := hasStored_addPoint.mpr (.inr ⟨own, rfl⟩)
      exact stored

/-- **Step.** -/
theorem Tracked.committed {c : Call} {db db' : DB} (tracked : Tracked db)
    (committed : Committed c db db') : Tracked db' := by
  by_cases report : ∃ m, c = .handleGpsMessage m
  · obtain ⟨m, rfl⟩ := report
    cases committed with
    | nothing updates => exact updates.elim
    | @report _ _ locations keys others own =>
        have stored (v : Int) (f : Fix) : DB.HasStored { db.addPoint m with
            vehicleCurrentLocation := locations } v f ↔
            db.HasStored v f ∨ (m.vehicleId : Int) = v ∧ m.fix = f := hasStored_addPoint
        refine ⟨fun v => ?_, fun v c found => ?_⟩
        · simp only [stored, exists_or, ← tracked.located, exists_and_left, exists_eq', and_true]
          exact (keys v).trans (or_congr_right eq_comm)
        · by_cases mine : v = m.vehicleId
          · subst mine
            refine (own c found).trans fun g reported => ?_
            rcases reported with rfl | ⟨old, before, rfl⟩
            · exact .of ((stored _ _).mpr (.inr ⟨rfl, rfl⟩))
            · exact (tracked.mixes _ old before).trans fun f was =>
                .of ((stored _ _).mpr (.inl was))
          · have before := (others v mine).symm.trans found
            exact (tracked.mixes v c before).trans fun f was => .of ((stored _ _).mpr (.inl was))
  · obtain ⟨points, locations⟩ := committed.untracked fun m same => report ⟨m, same⟩
    exact tracked.of_tables (congrArg _ points) locations

/-- **Current locations.**  However the statements of any sessions interleave, a vehicle has a
current location exactly when it has history, and no column of it is made up. -/
theorem locations_come_from_history {E : Engine} (enforced : E.constraints = true) {db : DB}
    (start : Tracked db) {a : ι → Ambient} {c : ι → Call} {schedule : List ι}
    {s : System ι DB (Locks Lockable) (Except Failure Bool)}
    (played : (calling E db a c).play schedule = some s) : Tracked s.db := by
  refine calling_outcomes (P := fun _ db' => Tracked db') enforced
    (fun tracked _ committed => tracked.committed committed) (fun tracked _ _ => tracked)
    (fun tracked idle => tracked.of_tables idle.gpsPoints.rows idle.locations) start played

end

theorem locations_come_from_history_two :
    ∃ s, reporting.play reportsOverlap = some s ∧ Tracked s.db := by
  have latest : Latest .withFirstVehicle :=
    runCalls_keep (fun latest makes _ => latest.apply makes) _ .empty
  have ran : (reporting.play reportsOverlap).isSome = true := by decide +kernel
  obtain ⟨s, played⟩ := Option.isSome_iff_exists.mp ran
  exact ⟨s, played, locations_come_from_history rfl latest.tracked played⟩

section

variable {ι : Type} [Fintype ι] [DecidableEq ι]

/-! ## Vehicles that are deleted -/

theorem reachable_withFirstVehicle : Reachable postgres {} .withFirstVehicle :=
  ⟨[(plainAmbient, .call createFirstVehicle)], rfl⟩

/-- What is known of vehicle `v` from the answers of the sessions. -/
structure Accounted (c : ι → Call) (v : Int) (results : ι → Option (Except Failure Bool))
    (db : DB) : Prop where
  drawn : v < db.vehicles.next
  deleted : ∀ i, c i = .deleteVehicle v → results i = some (.ok true) → ¬ db.vehicles.HasKey v
  reported : ∀ i m, c i = .handleGpsMessage m → (m.vehicleId : Int) = v →
    results i = some (.ok true) → db.HasStored v m.fix

omit [Fintype ι] in
theorem Accounted.committed {c : ι → Call} {v : Int} {results : ι → Option (Except Failure Bool)}
    {db db' : DB} {i : ι} (accounted : Accounted c v results db)
    (committed : Committed (c i) db db') :
    Accounted c v (Function.update results i (some (.ok true))) db' where
  drawn := accounted.drawn.trans_le committed.follows.next_le
  deleted j deletes done := by
    by_cases turn : j = i
    · subst turn
      rw [deletes] at committed
      cases committed with
      | nothing updates => exact updates.elim
      | eraseVehicle =>
          rintro ⟨w, member, own⟩
          exact (Table.mem_erase.mp member).2 own
    · rw [Function.update_of_ne turn] at done
      exact fun present => accounted.deleted j deletes done
        (committed.follows.hasKey accounted.drawn present)
  reported j m reports own done := by
    by_cases turn : j = i
    · subst turn
      rw [reports] at committed
      exact committed.stored_of_report own
    · rw [Function.update_of_ne turn] at done
      exact committed.stored (accounted.reported j m reports own done)

omit [Fintype ι] in
theorem Accounted.refused {c : ι → Call} {v : Int} {results : ι → Option (Except Failure Bool)}
    {db : DB} {i : ι} {result : Except Failure Bool} (accounted : Accounted c v results db)
    (refused : NotDone result) : Accounted c v (Function.update results i (some result)) db := by
  have before {j : ι} (done : Function.update results i (some result) j = some (.ok true)) :
      results j = some (.ok true) := by
    by_cases turn : j = i
    · subst turn
      rw [Function.update_self] at done
      exact (refused (Option.some.inj done)).elim
    · rwa [Function.update_of_ne turn] at done
  exact ⟨accounted.drawn, fun j deletes done => accounted.deleted j deletes (before done),
    fun j m reports own done => accounted.reported j m reports own (before done)⟩

/-- **Deletion.**  A session that deletes a vehicle and one that stores a fix of it do not both
succeed, and once the vehicle is deleted it stays so and no row refers to it. -/
theorem deletion_excludes_fixes {E : Engine} (enforced : E.constraints = true) {db : DB}
    (start : Constrained db) {v : Int} (present : db.vehicles.HasKey v) {a : ι → Ambient}
    {c : ι → Call} {schedule : List ι} {s : System ι DB (Locks Lockable) (Except Failure Bool)}
    (played : (calling E db a c).play schedule = some s) {i : ι} (deletes : c i = .deleteVehicle v)
    (deleted : s.results i = some (.ok true)) :
    ¬ s.db.vehicles.HasKey v ∧ (∀ j m, c j = .handleGpsMessage m → (m.vehicleId : Int) = v →
        s.results j ≠ some (.ok true)) ∧
      (∀ u ∈ s.db.users.toTable, u.vehicleId ≠ some v) ∧
      (∀ p ∈ s.db.gpsPoints.toTable, p.vehicleId ≠ v) ∧
      s.db.vehicleCurrentLocation.get v = none := by
  obtain ⟨w, member, rfl⟩ := present
  have accounted : Accounted c (Keyed.key w) s.results s.db := by
    refine calling_outcomes (P := Accounted c (Keyed.key w)) enforced
      (fun accounted _ committed => accounted.committed committed)
      (fun accounted _ refused => accounted.refused refused) (fun accounted idle => ?_)
      ⟨Serial.key_lt member, fun _ _ => nofun, fun _ _ _ _ => nofun⟩ played
    obtain ⟨drawn, deleted, reported⟩ := accounted
    refine ⟨drawn.trans_le idle.vehicles.next_le, ?_, ?_⟩
    · rw [idle.vehicles.rows]
      exact deleted
    · rw [hasStored_congr idle.gpsPoints.rows]
      exact reported
  have constrained := calling_constrained enforced start played
  have gone := accounted.deleted i deletes deleted
  refine ⟨gone, fun j m reports own done => ?_, fun u member held => ?_, fun p member own => ?_, ?_⟩
  · obtain ⟨p, stored, mine, _⟩ := accounted.reported j m reports own done
    exact gone (constrained.points p stored _ (congrArg some mine))
  · exact gone (constrained.userVehicles u member _ held)
  · exact gone (constrained.points p member _ (congrArg some own))
  · refine Table.get_eq_none.mpr fun l member own => ?_
    exact gone (constrained.locations l member _ (congrArg some own))

end

/-- The third session deletes the vehicle after the first has looked for it. -/
theorem deletion_excludes_fixes_three :
    ∃ s, reporting.play [0, 2, 2, 2, 2, 2, 2, 0] = some s ∧
      s.results 0 = some (.error .integrityError) ∧ ¬ s.db.vehicles.HasKey 1 := by
  have ran : (reporting.play [0, 2, 2, 2, 2, 2, 2, 0]).any (fun s =>
      s.results 0 = some (.error .integrityError) ∧ s.results 2 = some (.ok true)) = true := by
    decide +kernel
  obtain ⟨s, played, ended⟩ := (Option.any_eq_true _ _).mp ran
  obtain ⟨rejected, deleted⟩ := of_decide_eq_true ended
  exact ⟨s, played, rejected, (deletion_excludes_fixes rfl
    (reachable_withFirstVehicle.constrained rfl) (by decide +kernel) played rfl deleted).1⟩

end FleetTracking
