import FleetTracking.Operations

/-!
# The current location is the latest fix

`Latest` relates the two tables that ingestion writes: a vehicle has a current location
exactly when it has history, and then it is the newest point, the first one stored among
equally new ones.  Every edit of a call keeps it; only `ingest` touches either table, and
only a strictly newer fix moves the location.

The order in which fixes with distinct timestamps arrive does not matter for the locations
(`ingest_perm`), because two of them commute.
-/

namespace FleetTracking

open Relational Python Pydantic

/-- `p` is the newest history point of vehicle `v`, and the first of those stored. -/
structure Newest (db : DB) (v : Int) (p : GPSPoint) : Prop where
  member : p ∈ db.gpsPoints.toTable
  vehicle : p.vehicleId = v
  newest : ∀ q ∈ db.gpsPoints.toTable, q.vehicleId = v →
    q.recordedAt < p.recordedAt ∨ (q.recordedAt = p.recordedAt ∧ p.id ≤ q.id)

/-- The current location of each vehicle is its newest point. -/
structure Latest (db : DB) : Prop where
  /-- No location, no history. -/
  none : ∀ v, db.vehicleCurrentLocation.get v = none →
    ∀ p ∈ db.gpsPoints.toTable, p.vehicleId ≠ v
  some : ∀ v c, db.vehicleCurrentLocation.get v = some c →
    ∃ p, Newest db v p ∧ p.toFix = c.toFix

theorem Latest.empty : Latest .empty :=
  ⟨fun _ _ _ member => (Table.not_mem_empty member).elim, fun _ _ found => by cases found⟩

section

variable {db : DB} {m : GPSMessage} {v : Int} {p : GPSPoint}

/-- The point that `ingest` stores. -/
def storedPoint (db : DB) (m : GPSMessage) : GPSPoint := { m.point with id := db.gpsPoints.next }

theorem mem_gpsPoints_ingest :
    p ∈ (db.ingest m).gpsPoints.toTable ↔ p ∈ db.gpsPoints.toTable ∨ p = storedPoint db m :=
  Serial.mem_insert

/-- The newest point stays the newest when a fix of another vehicle, or one that is not
newer, comes in. -/
theorem Newest.ingest (newest : Newest db v p)
    (older : m.vehicleId = v → m.recordedAt ≤ p.recordedAt) : Newest (db.ingest m) v p where
  member := mem_gpsPoints_ingest.mpr (.inl newest.member)
  vehicle := newest.vehicle
  newest q member same := by
    rcases mem_gpsPoints_ingest.mp member with old | rfl
    · exact newest.newest q old same
    · have below : p.id < db.gpsPoints.next := Serial.key_lt newest.member
      exact (older same).lt_or_eq.imp id fun equal => ⟨equal, below.le⟩

/-- A fix that is newer than all of its vehicle's history is the newest point. -/
theorem newest_storedPoint
    (newer : ∀ q ∈ db.gpsPoints.toTable, q.vehicleId = m.vehicleId → q.recordedAt < m.recordedAt) :
    Newest (db.ingest m) m.vehicleId (storedPoint db m) where
  member := mem_gpsPoints_ingest.mpr (.inr rfl)
  vehicle := rfl
  newest q member same := by
    rcases mem_gpsPoints_ingest.mp member with old | rfl
    · exact .inl (newer q old same)
    · exact .inr ⟨rfl, le_rfl⟩

/-- **Step.**  Storing a fix keeps the current locations the latest. -/
theorem Latest.ingest (latest : Latest db) : Latest (db.ingest m) := by
  have location : ∀ v, (db.ingest m).vehicleCurrentLocation.get v = _ := fun v =>
    get_upsertLatest (t := db.vehicleCurrentLocation) (c := m.current) (k := v)
  constructor
  · intro v absent p member same
    rw [location] at absent
    split at absent
    · split at absent
      · cases absent
      · split at absent <;> cases absent
    · next other =>
        rcases mem_gpsPoints_ingest.mp member with old | rfl
        · exact latest.none v absent p old same
        · exact other same.symm
  · intro v c found
    rw [location] at found
    split at found
    · next own =>
        subst own
        split at found
        · next absent =>
            cases found
            exact ⟨_, newest_storedPoint fun q old same =>
              (latest.none _ absent q old same).elim, rfl⟩
        · next current present =>
            obtain ⟨p, newest, fix⟩ := latest.some _ current present
            have time : p.recordedAt = current.recordedAt := congrArg Fix.recordedAt fix
            split at found
            · next newer =>
                cases found
                refine ⟨_, newest_storedPoint fun q old same => ?_, rfl⟩
                have bound := newest.newest q old same
                rw [m.recordedAt_current] at newer
                omega
            · next notNewer =>
                cases found
                refine ⟨p, newest.ingest fun _ => ?_, fix⟩
                rw [m.recordedAt_current] at notNewer
                omega
    · next other =>
        obtain ⟨p, newest, fix⟩ := latest.some v c found
        exact ⟨p, newest.ingest fun same => (other same.symm).elim, fix⟩

/-- **Step.**  No edit of a call breaks it: `ingest` keeps it, the others leave both tables
alone. -/
theorem Latest.apply {c : Call} {e : Edit} (latest : Latest db) (makes : c.Makes e) :
    Latest (e.apply db) := by
  cases e with
  | ingest m => exact latest.ingest
  | wipe => cases c <;> exact makes.elim
  | _ =>
      refine ⟨latest.none, fun v c found => ?_⟩
      rcases latest.some v c found with ⟨p, newest, fix⟩
      exact ⟨p, ⟨newest.member, newest.vehicle, newest.newest⟩, fix⟩

end

/-! ## The order of arrival -/

/-- Fixes of different vehicles or different times may be stored in either order. -/
theorem upsertLatest_comm {t : Table VehicleCurrentLocation} {c d : VehicleCurrentLocation}
    (apart : c.vehicleId = d.vehicleId → c.recordedAt ≠ d.recordedAt) :
    upsertLatest (upsertLatest t c) d = upsertLatest (upsertLatest t d) c := by
  refine Table.ext_get fun k => ?_
  by_cases same : c.vehicleId = d.vehicleId
  · have distinct := apart same
    simp only [get_upsertLatest, same]
    by_cases own : k = d.vehicleId
    · simp only [own, if_true]
      cases t.get d.vehicleId with
      | none =>
          rcases lt_or_gt_of_ne distinct with earlier | later
          · simp only [if_pos earlier, if_neg (not_lt.mpr earlier.le), gt_iff_lt]
          · simp only [if_pos later, if_neg (not_lt.mpr later.le), gt_iff_lt]
      | some current =>
          by_cases newC : c.recordedAt > current.recordedAt <;>
            by_cases newD : d.recordedAt > current.recordedAt <;>
            simp only [newC, newD, if_true, if_false, gt_iff_lt]
          · rcases lt_or_gt_of_ne distinct with earlier | later
            · simp only [if_pos earlier, if_neg (not_lt.mpr earlier.le)]
            · simp only [if_pos later, if_neg (not_lt.mpr later.le)]
          -- The one that is not newer than the row is not newer than the one that is.
          · rw [if_neg (by omega)]
          · rw [if_neg (by omega)]
    · simp only [if_neg own]
  · simp only [get_upsertLatest, if_neg (Ne.symm same), if_neg same]
    by_cases first : k = c.vehicleId
    · have second : k ≠ d.vehicleId := fun h => same (first.symm.trans h)
      simp only [if_pos first, if_neg second]
    · simp only [if_neg first]

/-- The engine takes the fix and its vehicle is active. -/
def Engine.stores (E : Engine) (vehicles : Serial Vehicle) (m : GPSMessage) : Bool :=
  E.bigint m.vehicleId && E.timestamptz m.recordedAt &&
    (vehicles.get m.vehicleId).any fun vehicle => vehicle.isActive = some true

theorem after_handleGpsMessage {E : Engine} {a : Ambient} {db : DB} {m : GPSMessage} :
    (Call.handleGpsMessage m).after E a db =
      if E.stores db.vehicles m then db.ingest m else db := by
  simp only [Call.after, Call.perform, handleGpsMessage_eq, Engine.stores]
  by_cases bound : E.bigint m.vehicleId = true
  · rcases Option.eq_none_or_eq_some (db.vehicles.get m.vehicleId) with gone | ⟨vehicle, found⟩
    · simp [bound, gone, Except.map]
    · by_cases active : vehicle.isActive = some true <;>
        by_cases time : E.timestamptz m.recordedAt = true <;>
        simp [bound, found, active, time, Except.map]
  · simp [bound, Except.map]

/-- Deliver these fixes one after another. -/
def ingestAll (E : Engine) (a : Ambient) (db : DB) (fixes : List GPSMessage) : DB :=
  runCalls E db (fixes.map fun m => (a, .handleGpsMessage m))

/-- The current locations after a run of fixes. -/
theorem ingestAll_locations {E : Engine} {a : Ambient} {db : DB} {fixes : List GPSMessage} :
    (ingestAll E a db fixes).vehicleCurrentLocation =
      fixes.foldl (fun t m => if E.stores db.vehicles m then upsertLatest t m.current else t)
        db.vehicleCurrentLocation := by
  unfold ingestAll
  induction fixes generalizing db with
  | nil => rfl
  | cons m fixes ih =>
      rw [List.map_cons, runCalls, ih, after_handleGpsMessage, List.foldl_cons]
      split <;> rfl

/-- No two fixes of one vehicle have the same time. -/
def DistinctTimes (fixes : List GPSMessage) : Prop :=
  fixes.Pairwise fun m m' => m.vehicleId = m'.vehicleId → m.recordedAt ≠ m'.recordedAt

theorem ingest_perm {E : Engine} {a : Ambient} {db : DB} {fixes fixes' : List GPSMessage}
    (distinct : DistinctTimes fixes) (perm : fixes.Perm fixes') :
    (ingestAll E a db fixes).vehicleCurrentLocation =
      (ingestAll E a db fixes').vehicleCurrentLocation := by
  rw [ingestAll_locations, ingestAll_locations]
  let store (t : Table VehicleCurrentLocation) (m : GPSMessage) :=
    if E.stores db.vehicles m then upsertLatest t m.current else t
  let Commute (m m' : GPSMessage) := ∀ t, store (store t m) m' = store (store t m') m
  have symmetric : Std.Symm Commute := ⟨fun _ _ comm t => (comm t).symm⟩
  have pairwise : fixes.Pairwise Commute := by
    refine distinct.imp fun {m m'} apart t => ?_
    by_cases first : E.stores db.vehicles m <;> by_cases second : E.stores db.vehicles m' <;>
      simp only [store, first, second, if_true, if_false, Bool.false_eq_true]
    exact upsertLatest_comm fun same => apart (Subtype.ext same)
  refine perm.foldl_eq' (fun m left m' right t => ?_) _
  exact (pairwise.forall_of_forall (fun _ _ _ => rfl) left right) t

/-! ## Over whole runs -/

/-- **The current location is the latest fix.**  After any run of calls from the empty
database a vehicle has a current location exactly when it has history, and then that of its
newest point; and the locations do not depend on the order in which fixes with distinct
times came in. -/
theorem location_is_latest (E : Engine) :
    (∀ (calls : List (Ambient × Call)) (v : Int),
      (((runCalls E .empty calls).vehicleCurrentLocation.get v).isSome ↔
        ∃ p ∈ (runCalls E .empty calls).gpsPoints.toTable, p.vehicleId = v) ∧
      ∀ c, (runCalls E .empty calls).vehicleCurrentLocation.get v = some c →
        ∃ p, Newest (runCalls E .empty calls) v p ∧ p.toFix = c.toFix) ∧
    ∀ (a : Ambient) (db : DB) (fixes fixes' : List GPSMessage),
      DistinctTimes fixes → fixes.Perm fixes' →
        (ingestAll E a db fixes).vehicleCurrentLocation =
          (ingestAll E a db fixes').vehicleCurrentLocation := by
  refine ⟨fun calls v => ?_, fun _ _ _ _ => ingest_perm⟩
  have latest : Latest (runCalls E .empty calls) :=
    runCalls_keep (fun latest makes _ => latest.apply makes) calls .empty
  refine ⟨⟨fun present => ?_, ?_⟩, latest.some v⟩
  · obtain ⟨c, found⟩ := Option.isSome_iff_exists.mp present
    obtain ⟨p, newest, _⟩ := latest.some v c found
    exact ⟨p, newest.member, newest.vehicle⟩
  · intro history
    rcases history with ⟨p, member, own⟩
    by_contra absent
    exact latest.none v (Option.not_isSome_iff_eq_none.mp absent) p member own

/-- A fix of vehicle 1 at `lat` degrees north, at `wall` in UTC. -/
def firstVehicleFix (lat : Between (-90) 90) (wall : Int)
    (representable : minWall ≤ wall ∧ wall < endWall) : GPSMessage where
  vehicleId := ⟨1, Int.le_refl 1⟩
  lat := lat
  lng := ⟨.fin 0, by decide +kernel⟩
  speed := ⟨.fin 0, by decide +kernel⟩
  timestamp := ⟨⟨wall, some 0, representable⟩, rfl⟩

def earlyFix : GPSMessage :=
  firstVehicleFix ⟨.fin 1, by decide +kernel⟩ 0 Datetime.epoch.representable

def lateFix : GPSMessage := firstVehicleFix ⟨.fin 2, by decide +kernel⟩ (seconds 1) (by decide)

/-- The first vehicle. -/
def createFirstVehicle : Call :=
  .createVehicle { code := ⟨⟨"V1", by decide⟩, by decide⟩, name := ⟨"One", by decide⟩ }

/-- The database once it has the first vehicle. -/
def DB.withFirstVehicle : DB := runCalls postgres .empty [(plainAmbient, createFirstVehicle)]

theorem location_is_latest_two :
    (∃ p, Newest (runCalls postgres .empty [(plainAmbient, createFirstVehicle),
        (plainAmbient, .handleGpsMessage lateFix),
        (plainAmbient, .handleGpsMessage earlyFix)]) 1 p ∧
      p.toFix = lateFix.fix) ∧
    (ingestAll postgres plainAmbient .withFirstVehicle
        [earlyFix, lateFix]).vehicleCurrentLocation =
      (ingestAll postgres plainAmbient .withFirstVehicle
        [lateFix, earlyFix]).vehicleCurrentLocation :=
  ⟨((location_is_latest postgres).1 _ 1).2 lateFix.current (by decide +kernel),
    (location_is_latest postgres).2 _ _ _ _ (List.pairwise_pair.mpr fun _ => by decide)
      (.swap _ _ _)⟩

end FleetTracking
