import FleetTracking.FaultIsolation

/-!
# Deliveries, one after another

A run of `_process_message` that no fault disturbs.  The verdict on a delivery looks at the
vehicles only, which no delivery changes; so such a run stores the fixes that `storedFixes`
lists, one after another (`processAll_eq`), and every state it leads to from a reachable state
is reachable (`Reachable.processAll`).
-/

namespace FleetTracking

open Relational Python

def Verdict.fix? : Verdict → Option GPSMessage
  | .stored m => some m
  | _ => none

section

variable (E : Engine) (settings : Settings) (d : Decoder)

/-- The database after these deliveries. -/
def processAll : List Delivery → DB → DB
  | [], db => db
  | delivery :: deliveries, db =>
      processAll deliveries (processMessage E settings d none delivery db).2

/-- The fix that the delivery stores, if it does. -/
def storedFix (vehicles : Serial Vehicle) (delivery : Delivery) : Option GPSMessage :=
  (verdict E settings d vehicles delivery).fix?

/-- The fixes that the deliveries store, in the order of the deliveries. -/
def storedFixes (vehicles : Serial Vehicle) (deliveries : List Delivery) : List GPSMessage :=
  deliveries.filterMap (storedFix E settings d vehicles)

end

/-- Store these fixes. -/
def DB.ingestList (db : DB) (fixes : List GPSMessage) : DB := fixes.foldl DB.ingest db

section

variable {E : Engine} {settings : Settings} {d : Decoder} {db : DB} {m : GPSMessage}
  {delivery : Delivery} {deliveries : List Delivery} {fixes : List GPSMessage}

@[simp] theorem ingestList_nil : db.ingestList [] = db := rfl

@[simp] theorem ingestList_cons : db.ingestList (m :: fixes) = (db.ingest m).ingestList fixes := rfl

/-- Ingestion touches the two tables of fixes only. -/
theorem ingestList_frame : (db.ingestList fixes).vehicles = db.vehicles ∧
    (db.ingestList fixes).users = db.users ∧ (db.ingestList fixes).busRoutes = db.busRoutes := by
  induction fixes generalizing db with
  | nil => exact ⟨rfl, rfl, rfl⟩
  | cons m fixes ih => exact ih

/-- **One delivery** stores its fix, or nothing. -/
theorem processMessage_ingest : (processMessage E settings d none delivery db).2 =
    db.ingestList (storedFix E settings d db.vehicles delivery).toList := by
  rw [processMessage_none, storedFix]
  cases verdict E settings d db.vehicles delivery <;> rfl

/-- **A run** stores the fixes of its deliveries. -/
theorem processAll_eq : processAll E settings d deliveries db =
    db.ingestList (storedFixes E settings d db.vehicles deliveries) := by
  induction deliveries generalizing db with
  | nil => rfl
  | cons delivery deliveries ih =>
      rw [processAll, ih, processMessage_ingest, ingestList_frame.1]
      simp only [storedFixes, List.filterMap_cons]
      cases storedFix E settings d db.vehicles delivery <;> rfl

/-- What is stored, the engine takes and its vehicle accepts. -/
theorem stores_of_storedFix (stored : storedFix E settings d db.vehicles delivery = some m) :
    E.stores db.vehicles m = true := by
  unfold storedFix at stored
  cases stands : verdict E settings d db.vehicles delivery with
  | discarded => rw [stands] at stored; cases stored
  | failed => rw [stands] at stored; cases stored
  | stored m' =>
      rw [stands] at stored
      cases stored
      unfold verdict at stands
      split at stands
      · cases stands
      · split at stands
        · cases stands
        · cases stands
        · split at stands
          · cases stands
          · obtain ⟨rfl, vehicle, found, active⟩ := fixVerdict_stored stands
            simp only [fixVerdict, found, active, ne_eq, not_true_eq_false, if_false] at stands
            split_ifs at stands with bound time
            simp [Engine.stores, bound, time, found, active]

/-- A stored fix is an operation of the handler. -/
theorem Reachable.ingest (reachable : Reachable E settings db)
    (stores : E.stores db.vehicles m = true) : Reachable E settings (db.ingest m) := by
  obtain ⟨ops, rfl⟩ := reachable
  refine ⟨ops ++ [(plainAmbient, .call (.handleGpsMessage m))], ?_⟩
  rw [runOps_append, runOps, runOps, Op.after, after_handleGpsMessage, if_pos stores]

/-- **Run.**  What storing one fix keeps, a run of deliveries keeps. -/
theorem processAll_keep {P : DB → Prop}
    (step : ∀ {db : DB} {m : GPSMessage}, P db → E.stores db.vehicles m = true → P (db.ingest m))
    (deliveries : List Delivery) (start : P db) : P (processAll E settings d deliveries db) := by
  induction deliveries generalizing db with
  | nil => exact start
  | cons delivery deliveries ih =>
      refine ih ?_
      rw [processMessage_ingest]
      cases stored : storedFix E settings d db.vehicles delivery with
      | none => exact start
      | some m => exact step start (stores_of_storedFix stored)

theorem Reachable.processAll (reachable : Reachable E settings db) :
    Reachable E settings (processAll E settings d deliveries db) :=
  processAll_keep (fun reachable stores => reachable.ingest stores) deliveries reachable

/-! ## The time of the current location -/

/-- When the current location of `v` was recorded. -/
def DB.seenAt (db : DB) (v : Int) : Option Int :=
  (db.vehicleCurrentLocation.get v).map (·.recordedAt)

/-- The times of the fixes of `v`. -/
def timesOf (v : Int) (fixes : List GPSMessage) : List Int :=
  (fixes.filter fun m => m.vehicleId.1 = v).map GPSMessage.recordedAt

/-- One fix moves the time of its vehicle forward, or not at all. -/
theorem seenAt_ingest {v : Int} : (db.ingest m).seenAt v =
    if m.vehicleId.1 = v then ((db.seenAt v).toList ++ [m.recordedAt]).max? else db.seenAt v := by
  have location : (db.ingest m).vehicleCurrentLocation.get v = _ :=
    get_upsertLatest (t := db.vehicleCurrentLocation) (c := m.current) (k := v)
  simp only [DB.seenAt, location]
  by_cases own : v = m.current.vehicleId
  · have same : m.vehicleId.1 = v := own.symm
    rw [if_pos own, if_pos same, own]
    cases db.vehicleCurrentLocation.get m.current.vehicleId with
    | none => rfl
    | some current =>
        dsimp only
        split
        · next newer =>
            rw [GPSMessage.recordedAt_current] at newer
            simp [max_eq_right newer.le]
        · next older =>
            rw [GPSMessage.recordedAt_current] at older
            simp [max_eq_left (not_lt.mp older)]
  · have other : m.vehicleId.1 ≠ v := Ne.symm own
    rw [if_neg own, if_neg other]

/-- The current location is as recent as the newest of what was stored. -/
theorem seenAt_ingestList {v : Int} :
    (db.ingestList fixes).seenAt v = ((db.seenAt v).toList ++ timesOf v fixes).max? := by
  induction fixes generalizing db with
  | nil => cases seen : db.seenAt v <;> simp [timesOf, seen]
  | cons m fixes ih =>
      rw [ingestList_cons, ih, seenAt_ingest]
      by_cases own : m.vehicleId.1 = v
      · have times : timesOf v (m :: fixes) = m.recordedAt :: timesOf v fixes := by
          simp [timesOf, own]
        rw [if_pos own, times]
        cases db.seenAt v <;> rfl
      · rw [if_neg own]
        simp [timesOf, own]

end

end FleetTracking
