import FleetTracking.Models
import FleetTracking.Mqtt.Payload

/-!
# Storing a fix

A valid fix becomes a `gps_points` row, and the vehicle's current location unless that is at
least as recent.  `handleGpsMessage` is the call running alone; `handleGpsMessageTxn` is the
same call statement by statement, with SQLAlchemy's habits in it: the first `SELECT` joins
the current location in, a row that is loaded is not asked for again, pending rows are
flushed before the next query, one flush writes `vehicle_current_location` before
`gps_points`, and an `UPDATE` sets the columns that differ from the row as it was loaded.

`handleGpsMessage_eq` says what the call does, and that the constraints never stop it;
`handleGpsMessageTxn_solo` that the statements running alone are the call.
-/

namespace FleetTracking

open Relational Python ReadCommitted

namespace GPSMessage

variable (m : GPSMessage)

/-- `recorded_at = message.timestamp` -/
def recordedAt : Int := m.timestamp.1.instant

/-- The fix as both tables store it. -/
def fix : Fix := ⟨.of 6 m.lat.1, .of 6 m.lng.1, .of 2 m.speed.1, m.recordedAt⟩

def point : GPSPoint := { m.fix with id := 0, vehicleId := m.vehicleId }

def current : VehicleCurrentLocation := { m.fix with vehicleId := m.vehicleId }

/-- `row` with those columns set to the message's whose values differ from `loaded`. -/
def update (loaded row : VehicleCurrentLocation) : VehicleCurrentLocation where
  lat := if m.lat.1.eq loaded.lat.1 then row.lat else .of 6 m.lat.1
  lng := if m.lng.1.eq loaded.lng.1 then row.lng else .of 6 m.lng.1
  speed := if m.speed.1.eq loaded.speed.1 then row.speed else .of 2 m.speed.1
  recordedAt := if m.recordedAt = loaded.recordedAt then row.recordedAt else m.recordedAt
  vehicleId := row.vehicleId

/-- A column that was left alone holds the message's value already. -/
theorem keep_eq_of {scale : Nat} {x : Number} {stored : Numeric scale} :
    (if x.eq stored.1 then stored else .of scale x) = .of scale x := by
  split
  · next same => rw [(Number.eq_iff.mp same).1, Numeric.of_val]
  · rfl

@[simp] theorem recordedAt_current : m.current.recordedAt = m.recordedAt := rfl

@[simp] theorem vehicleId_current : m.current.vehicleId = m.vehicleId := rfl

/-- Updating the row as it was loaded stores the whole fix. -/
theorem update_self {row : VehicleCurrentLocation} (same : row.vehicleId = m.vehicleId) :
    m.update row row = m.current := by
  have time : (if m.recordedAt = row.recordedAt then row.recordedAt else m.recordedAt)
      = m.recordedAt := by
    split
    · next eq => exact eq.symm
    · rfl
  simp only [update, keep_eq_of, time, same, current, fix]

end GPSMessage

/-! ## The call -/

def handleGpsMessage (E : Engine) (db : DB) (m : GPSMessage) : Except Failure (Bool × DB) :=
  if E.bigint m.vehicleId then
    match db.vehicles.get m.vehicleId with
    | none => .ok (false, db)
    | some vehicle =>
        if vehicle.isActive ≠ some true then .ok (false, db)
        else if E.timestamptz m.recordedAt then
          match E.insertPointRow db m.point with
          | .error failure => .error failure
          | .ok db =>
              let saved :=
                match db.vehicleCurrentLocation.get m.vehicleId with
                | none => E.insertCurrentRow db m.current
                | some current =>
                    if m.recordedAt > current.recordedAt then
                      E.updateCurrentRow db (m.update current current)
                    else .ok db
              saved.map fun db => (true, db)
        else .error .dbapiError
  else .error .dbapiError

/-- Helper for diagnostics: the newest history point of a vehicle. -/
def latestFix (db : DB) (vehicleId : Int) : Option GPSPoint :=
  ((db.gpsPoints.rows.filter fun p => p.vehicleId = vehicleId).mergeSort fun p q =>
    p.recordedAt > q.recordedAt ∨ (p.recordedAt = q.recordedAt ∧ p.id ≥ q.id)).head?

/-! ## The call, statement by statement -/

/-- The locks of the handler's three statements, where sessions lock what `κ` names. -/
structure FixLocks (κ : Type) where
  point : GPSMessage → Option κ
  insert : GPSMessage → κ
  update : GPSMessage → κ

/-- Handlers wait for each other at the current location only. -/
def rowLocks : FixLocks RowLock where
  point _ := none
  insert m := .currentLocation m.vehicleId
  update m := .currentLocation m.vehicleId

section

variable {κ : Type} (E : Engine) (L : FixLocks κ) (m : GPSMessage)

/-- `INSERT INTO gps_points`; the id it drew stays drawn. -/
def insertPoint : Statement κ Bool where
  lock := L.point m
  stmt db := (E.insertPointRow db m.point).mapError .error
  residue db := if E.gapless then db else { db with gpsPoints := db.gpsPoints.skip }

/-- `INSERT INTO vehicle_current_location` -/
def insertCurrent : Statement κ Bool :=
  .plain (L.insert m) fun db => E.insertCurrentRow db m.current

/-- `UPDATE vehicle_current_location` of a row that was loaded as `loaded`. -/
def updateCurrent (loaded : VehicleCurrentLocation) : Statement κ Bool :=
  .plain (L.update m) fun db =>
    match db.vehicleCurrentLocation.get m.vehicleId with
    | none => .error .staleDataError
    | some row => E.updateCurrentRow db (m.update loaded row)

/-- What is left once the point is sent and the current location has been looked up. -/
def saveCurrent : Option VehicleCurrentLocation → Txn DB κ (Except Failure Bool)
  | none => .write (insertCurrent E L m) (.commit (.ok true))
  | some current =>
      if m.recordedAt > current.recordedAt then
        .write (updateCurrent E L m current) (.commit (.ok true))
      else .commit (.ok true)

/-- Store the fix.  If the first `SELECT` has joined the current location in, `db.get` answers
from the session, and the commit flushes everything at once, the `UPDATE` first.  Otherwise
`db.get` queries, and the query flushes the point. -/
def storeFix : Option VehicleCurrentLocation → Txn DB κ (Except Failure Bool)
  | some current =>
      if m.recordedAt > current.recordedAt then
        .write (updateCurrent E L m current) (.write (insertPoint E L m) (.commit (.ok true)))
      else .write (insertPoint E L m) (.commit (.ok true))
  | none =>
      .write (insertPoint E L m) (.select fun db =>
        saveCurrent E L m (db.vehicleCurrentLocation.get m.vehicleId))

def handleGpsMessageTxn : Txn DB κ (Except Failure Bool) :=
  if E.bigint m.vehicleId then
    .select fun db =>
      match db.vehicles.get m.vehicleId with
      | none => .rollback (.ok false)
      | some vehicle =>
          if vehicle.isActive ≠ some true then .rollback (.ok false)
          else if E.timestamptz m.recordedAt then
            storeFix E L m (db.vehicleCurrentLocation.get m.vehicleId)
          else .rollback (.error .dbapiError)
  else .rollback (.error .dbapiError)

variable {E L m}

/-- The call has three kinds of writes. -/
theorem handleGpsMessageTxn_eachWrite {P : Statement κ Bool → Prop} (point : P (insertPoint E L m))
    (create : P (insertCurrent E L m)) (update : ∀ loaded, P (updateCurrent E L m loaded)) :
    (handleGpsMessageTxn E L m).EachWrite P := by
  have save (current : Option VehicleCurrentLocation) :
      (saveCurrent E L m current).EachWrite P := by
    unfold saveCurrent
    split
    · exact ⟨create, trivial⟩
    · split
      · exact ⟨update _, trivial⟩
      · trivial
  have store (current : Option VehicleCurrentLocation) : (storeFix E L m current).EachWrite P := by
    unfold storeFix
    split
    · split
      · exact ⟨update _, point, trivial⟩
      · exact ⟨point, trivial⟩
    · exact ⟨point, fun _ => save _⟩
  unfold handleGpsMessageTxn
  split
  · intro db
    dsimp only
    cases db.vehicles.get m.vehicleId with
    | none => trivial
    | some vehicle =>
        dsimp only
        split
        · trivial
        · split
          · exact store _
          · trivial
  · trivial

end

/-! ## What a stored fix does to the tables -/

/-- The current locations after one more fix. -/
def upsertLatest (t : Table VehicleCurrentLocation) (c : VehicleCurrentLocation) :
    Table VehicleCurrentLocation :=
  match absent : t.get c.vehicleId with
  | none => t.insertNew c absent
  | some current => if c.recordedAt > current.recordedAt then t.put c else t

/-- The database after one more history point. -/
def DB.addPoint (db : DB) (m : GPSMessage) : DB :=
  { db with gpsPoints := db.gpsPoints.insert m.point }

/-- The database after one more fix. -/
def DB.ingest (db : DB) (m : GPSMessage) : DB :=
  { db.addPoint m with
    vehicleCurrentLocation := upsertLatest db.vehicleCurrentLocation m.current }

/-- The vehicle exists and is active. -/
def DB.Accepts (db : DB) (vehicleId : Int) : Prop :=
  ∃ vehicle, db.vehicles.get vehicleId = some vehicle ∧ vehicle.isActive = some true

/-- The driver takes the values of the message. -/
def Engine.Takes (E : Engine) (m : GPSMessage) : Prop :=
  E.bigint m.vehicleId = true ∧ E.timestamptz m.recordedAt = true

section

variable {κ : Type} {E : Engine} {L : FixLocks κ} {db : DB} {m : GPSMessage}
  {t : Table VehicleCurrentLocation} {c : VehicleCurrentLocation} {k : Int}

theorem upsertLatest_of_none (absent : t.get c.vehicleId = none) :
    upsertLatest t c = t.insertNew c absent := by
  unfold upsertLatest
  split
  · rfl
  · next present => cases absent.symm.trans present

theorem upsertLatest_of_some {current : VehicleCurrentLocation}
    (present : t.get c.vehicleId = some current) :
    upsertLatest t c = if c.recordedAt > current.recordedAt then t.put c else t := by
  unfold upsertLatest
  split
  · next absent => cases absent.symm.trans present
  · next other =>
      cases other.symm.trans present
      rfl

/-- One more fix moves the location of its own vehicle, and only forward in time. -/
theorem get_upsertLatest :
    (upsertLatest t c).get k =
      if k = c.vehicleId then
        match t.get c.vehicleId with
        | none => some c
        | some current => if c.recordedAt > current.recordedAt then some c else some current
      else t.get k := by
  cases found : t.get c.vehicleId with
  | none => rw [upsertLatest_of_none found, Table.get_insertNew, key_current]
  | some current =>
      rw [upsertLatest_of_some found]
      have own : (if k = c.vehicleId then some current else t.get k) = t.get k := by
        split
        · next same => rw [same, found]
        · rfl
      by_cases newer : c.recordedAt > current.recordedAt
      · simp only [if_pos newer, Table.get_put, key_current]
        exact if_congr ⟨And.left, fun same => ⟨same, same ▸ Table.HasKey.of_get found⟩⟩ rfl rfl
      · simp only [if_neg newer, own]

/-- A row is as it was, or it is the fix, which is newer than what was there. -/
theorem mem_upsertLatest {l : VehicleCurrentLocation} (member : l ∈ upsertLatest t c) :
    l ∈ t ∨ l = c ∧
      ∀ current, t.get c.vehicleId = some current → current.recordedAt < c.recordedAt := by
  cases found : t.get c.vehicleId with
  | none =>
      rw [upsertLatest_of_none found] at member
      rcases Table.mem_insertNew.mp member with rfl | old
      · exact .inr ⟨rfl, fun current present => by cases present⟩
      · exact .inl old
  | some current =>
      rw [upsertLatest_of_some found] at member
      split at member
      · next newer =>
          rcases Table.mem_put.mp member with ⟨old, _⟩ | ⟨rfl, _⟩
          · exact .inl old
          · exact .inr ⟨rfl, fun other present => Option.some.inj present ▸ newer⟩
      · exact .inl member

theorem hasKey_upsertLatest :
    (upsertLatest t c).HasKey k ↔ k = c.vehicleId ∨ t.HasKey k := by
  rw [Table.hasKey_iff_get, Table.hasKey_iff_get, get_upsertLatest]
  by_cases same : k = c.vehicleId
  · subst same
    cases t.get c.vehicleId <;> simp
    split <;> rfl
  · simp [same]

/-- `INSERT INTO gps_points` for an existing vehicle passes. -/
theorem insertPointRow_ok (present : db.vehicles.HasKey m.vehicleId) :
    E.insertPointRow db m.point = .ok (db.addPoint m) :=
  Engine.execute_of_ok (decide_eq_true present)

theorem insertCurrentRow_ok (db : DB) (present : db.vehicles.HasKey m.vehicleId)
    (absent : db.vehicleCurrentLocation.get m.vehicleId = none) :
    E.insertCurrentRow db m.current = .ok { db with
      vehicleCurrentLocation := db.vehicleCurrentLocation.insertNew m.current absent } := by
  unfold Engine.insertCurrentRow
  split
  · next found =>
      cases found.symm.trans absent
  · exact Engine.execute_of_ok (decide_eq_true present)

/-- **The call.**  It answers `False` for a vehicle that does not exist or is inactive and
stores the fix otherwise; no constraint stops it. -/
theorem handleGpsMessage_eq :
    handleGpsMessage E db m =
      if E.bigint m.vehicleId then
        match db.vehicles.get m.vehicleId with
        | none => .ok (false, db)
        | some vehicle =>
            if vehicle.isActive ≠ some true then .ok (false, db)
            else if E.timestamptz m.recordedAt then .ok (true, db.ingest m)
            else .error .dbapiError
      else .error .dbapiError := by
  unfold handleGpsMessage
  refine if_congr Iff.rfl ?_ rfl
  split
  · rfl
  · next vehicle found =>
      have present := Table.HasKey.of_get found
      refine if_congr Iff.rfl rfl (if_congr Iff.rfl ?_ rfl)
      rw [insertPointRow_ok present]
      dsimp only
      split
      · next absent =>
          rw [insertCurrentRow_ok (db.addPoint m) present absent, DB.ingest,
            upsertLatest_of_none absent]
          rfl
      · next current loaded =>
          rw [m.update_self (Table.get_eq_some.mp loaded).2, DB.ingest,
            upsertLatest_of_some loaded, m.recordedAt_current]
          split
          · exact congrArg _ (Engine.execute_of_ok rfl)
          · rfl

/-! ### The statements running alone -/

theorem stmt_insertPoint (present : db.vehicles.HasKey m.vehicleId) :
    (insertPoint E L m).stmt db = .ok (db.addPoint m) := by
  simp only [insertPoint, insertPointRow_ok present, Except.mapError]

theorem stmt_insertCurrent (db : DB) (present : db.vehicles.HasKey m.vehicleId)
    (absent : db.vehicleCurrentLocation.get m.vehicleId = none) :
    (insertCurrent E L m).stmt db = .ok { db with
      vehicleCurrentLocation := db.vehicleCurrentLocation.insertNew m.current absent } := by
  simp only [insertCurrent, Statement.plain, insertCurrentRow_ok db present absent,
    Except.mapError]

theorem stmt_updateCurrent (db : DB) (loaded : VehicleCurrentLocation)
    {row : VehicleCurrentLocation}
    (found : db.vehicleCurrentLocation.get m.vehicleId = some row) :
    (updateCurrent E L m loaded).stmt db = .ok { db with
      vehicleCurrentLocation := db.vehicleCurrentLocation.put (m.update loaded row) } := by
  simp only [updateCurrent, Statement.plain, found, Engine.updateCurrentRow,
    Engine.execute_of_ok, Except.mapError]

/-- A session that has sent its point sees it. -/
theorem visible_insertPoint (present : db.vehicles.HasKey m.vehicleId) :
    visible [insertPoint E L m] db = db.addPoint m :=
  Write.apply_of_ok (stmt_insertPoint present)

/-- Storing over the row `row` that was loaded as `loaded`. -/
theorem storeFix_solo_some {loaded row : VehicleCurrentLocation}
    (present : db.vehicles.HasKey m.vehicleId)
    (found : db.vehicleCurrentLocation.get m.vehicleId = some row) :
    (storeFix E L m (some loaded)).solo [] db =
      (.ok true, { db.addPoint m with
        vehicleCurrentLocation :=
          if m.recordedAt > loaded.recordedAt then
            db.vehicleCurrentLocation.put (m.update loaded row)
          else db.vehicleCurrentLocation }) := by
  have update := stmt_updateCurrent (E := E) (L := L) db loaded found
  let moved : DB := { db with
    vehicleCurrentLocation := db.vehicleCurrentLocation.put (m.update loaded row) }
  have point : (insertPoint E L m).stmt moved = .ok (moved.addPoint m) := stmt_insertPoint present
  simp only [storeFix]
  split
  · simp only [Txn.solo, visible_nil, update, visible_concat, Write.apply_of_ok update]
    rw [point, Write.apply_of_ok point]
    rfl
  · simp only [Txn.solo, visible_nil, visible_concat, stmt_insertPoint present,
      Write.apply_of_ok (stmt_insertPoint present)]
    rfl

/-- Saving where the database has no row. -/
theorem saveCurrent_solo_none (present : db.vehicles.HasKey m.vehicleId)
    (absent : db.vehicleCurrentLocation.get m.vehicleId = none) :
    (saveCurrent E L m none).solo [insertPoint E L m] db = (.ok true, db.ingest m) := by
  have stmt := stmt_insertCurrent (E := E) (L := L) (db.addPoint m) present absent
  rw [DB.ingest, upsertLatest_of_none absent]
  simp only [saveCurrent, Txn.solo, visible_concat, visible_insertPoint present, stmt,
    Write.apply_of_ok stmt]
  rfl

theorem storeFix_solo (present : db.vehicles.HasKey m.vehicleId) :
    (storeFix E L m (db.vehicleCurrentLocation.get m.vehicleId)).solo [] db =
      (.ok true, db.ingest m) := by
  cases found : db.vehicleCurrentLocation.get m.vehicleId with
  | none =>
      have still : (db.addPoint m).vehicleCurrentLocation.get m.vehicleId = none := found
      simp only [storeFix, Txn.solo, visible_nil, stmt_insertPoint present, List.nil_append,
        visible_insertPoint present, still]
      exact saveCurrent_solo_none present found
  | some row =>
      rw [storeFix_solo_some present found, m.update_self (Table.get_eq_some.mp found).2,
        DB.ingest, upsertLatest_of_some found]
      rfl

/-- The statements of the call, running alone, are the call. -/
theorem handleGpsMessageTxn_solo :
    (handleGpsMessageTxn E L m).solo [] db = settle db (handleGpsMessage E db m) := by
  rw [handleGpsMessage_eq]
  unfold handleGpsMessageTxn
  split
  · simp only [Txn.solo, visible_nil]
    split
    · rfl
    · next vehicle found =>
        split
        · rfl
        · split
          · exact storeFix_solo (Table.HasKey.of_get found)
          · rfl
  · rfl

end

end FleetTracking
