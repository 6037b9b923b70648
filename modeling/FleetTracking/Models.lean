import FleetTracking.Relational.ReadCommitted
import FleetTracking.Relational.Table
import FleetTracking.Exceptions
import FleetTracking.Schemas

/-!
# The five tables and their statements

The columns are the models' own.  A column that is `NOT NULL` and yet can be given an
explicit null by a partial update is an `Option` here, so that the constraint is something
the database checks and not something the type settles.  `created_at` of `gps_points` and
`updated_at` of `vehicle_current_location` are read by nothing and left out.

`Engine` is the database with its driver: whether it enforces the declared constraints,
which bound values it takes, and whether a rollback gives back what it drew from a sequence.
Each `INSERT`, `UPDATE` and `DELETE` names the constraints it is checked against, so that
results about every engine hold with and without their help.
-/

namespace FleetTracking

open Relational Python ReadCommitted

/-! ## Rows -/

structure BusRoute where
  id : Int
  name : Option String
  waypoints : List LatLng
  createdAt : Int
deriving DecidableEq

structure Vehicle where
  id : Int
  code : Option String
  name : Option String
  isActive : Option Bool
  createdAt : Int
deriving DecidableEq

structure User where
  id : Int
  email : Option String
  hashedPassword : String
  isAdmin : Bool
  routeId : Option Int
  vehicleId : Option Int
  createdAt : Int
deriving DecidableEq

/-- Where a vehicle was, how fast and when: the columns that `gps_points` and
`vehicle_current_location` share. -/
structure Fix where
  lat : Numeric 6
  lng : Numeric 6
  speed : Numeric 2
  recordedAt : Int
deriving DecidableEq

structure GPSPoint extends Fix where
  id : Int
  vehicleId : Int
deriving DecidableEq

/-- The primary key is the foreign key: one row per vehicle. -/
structure VehicleCurrentLocation extends Fix where
  vehicleId : Int
deriving DecidableEq

instance : SerialKeyed BusRoute where
  key := BusRoute.id
  withKey k r := { r with id := k }
  key_withKey _ _ := rfl

instance : SerialKeyed Vehicle where
  key := Vehicle.id
  withKey k v := { v with id := k }
  key_withKey _ _ := rfl

instance : SerialKeyed User where
  key := User.id
  withKey k u := { u with id := k }
  key_withKey _ _ := rfl

instance : SerialKeyed GPSPoint where
  key := GPSPoint.id
  withKey k p := { p with id := k }
  key_withKey _ _ := rfl

instance : Keyed VehicleCurrentLocation Int := ⟨VehicleCurrentLocation.vehicleId⟩

@[simp] theorem key_busRoute (r : BusRoute) : Keyed.key r = r.id := rfl
@[simp] theorem key_vehicle (v : Vehicle) : Keyed.key v = v.id := rfl
@[simp] theorem key_user (u : User) : Keyed.key u = u.id := rfl
@[simp] theorem key_gpsPoint (p : GPSPoint) : Keyed.key p = p.id := rfl
@[simp] theorem key_current (c : VehicleCurrentLocation) : Keyed.key c = c.vehicleId := rfl

@[simp] theorem withKey_busRoute (k : Int) (r : BusRoute) :
    SerialKeyed.withKey k r = { r with id := k } := rfl
@[simp] theorem withKey_vehicle (k : Int) (v : Vehicle) :
    SerialKeyed.withKey k v = { v with id := k } := rfl
@[simp] theorem withKey_user (k : Int) (u : User) :
    SerialKeyed.withKey k u = { u with id := k } := rfl
@[simp] theorem withKey_gpsPoint (k : Int) (p : GPSPoint) :
    SerialKeyed.withKey k p = { p with id := k } := rfl

/-- The database. -/
structure DB where
  busRoutes : Serial BusRoute
  vehicles : Serial Vehicle
  users : Serial User
  gpsPoints : Serial GPSPoint
  vehicleCurrentLocation : Table VehicleCurrentLocation

/-- The database right after the migration. -/
def DB.empty : DB := ⟨.empty, .empty, .empty, .empty, .empty⟩

/-- The result of a call and the database after it: a call that raised has changed
nothing. -/
def settle {α : Type} (db : DB) : Except Failure (α × DB) → Except Failure α × DB
  | .ok (a, db') => (.ok a, db')
  | .error failure => (.error failure, db)

/-! ## The engine -/

/-- The database with its driver. -/
structure Engine where
  /-- It rejects statements that violate a declared constraint. -/
  constraints : Bool
  /-- A rollback gives back the sequence values the transaction drew. -/
  gapless : Bool
  bigint : Int → Bool
  text : String → Bool
  jsonb : List LatLng → Bool
  timestamptz : Int → Bool

/-- PostgreSQL behind asyncpg. -/
def postgres : Engine where
  constraints := true
  gapless := false
  bigint n := -2 ^ 63 ≤ n ∧ n < 2 ^ 63
  text s := !s.toList.contains '\x00'
  jsonb waypoints := waypoints.all fun w => w.lat.isFinite && w.lng.isFinite
  timestamptz t := minWall ≤ t ∧ t < endWall

namespace Engine

variable (E : Engine)

/-- Run a statement that leads to `db` and satisfies the constraints if `ok`. -/
def execute (ok : Bool) (db : DB) : Except Failure DB :=
  if E.constraints && !ok then .error .integrityError else .ok db

variable {E}

theorem execute_eq_ok {ok : Bool} {db db' : DB} (done : E.execute ok db = .ok db') : db' = db := by
  unfold execute at done
  split at done
  · cases done
  · exact (Except.ok.inj done).symm

theorem execute_of_ok {ok : Bool} {db : DB} (satisfied : ok = true) : E.execute ok db = .ok db := by
  simp [execute, satisfied]

end Engine

/-! ## Constraints -/

namespace DB

variable (db : DB)

/-- `NOT NULL` and `UNIQUE` of `bus_routes`. -/
def acceptsRoute (r : BusRoute) : Bool :=
  r.name.isSome && db.busRoutes.noOther r.id fun s => s.name = r.name

/-- `NOT NULL` and `UNIQUE` of `vehicles`. -/
def acceptsVehicle (v : Vehicle) : Bool :=
  v.code.isSome && v.name.isSome && v.isActive.isSome &&
    db.vehicles.noOther v.id fun s => s.code = v.code

/-- A foreign key is checked when its value changes. -/
def acceptsReference {ρ : Type} [SerialKeyed ρ] (target : Serial ρ) (old new : Option Int) :
    Bool :=
  old = new || new.all fun k => target.HasKey k

/-- The foreign keys of `users`, for a row that was `old`. -/
def acceptsAssignment (old : Option User) (u : User) : Bool :=
  acceptsReference db.busRoutes (old.bind User.routeId) u.routeId &&
    acceptsReference db.vehicles (old.bind User.vehicleId) u.vehicleId

/-- `NOT NULL`, `UNIQUE` and the foreign keys of `users`, for a row that was `old`. -/
def acceptsUser (old : Option User) (u : User) : Bool :=
  u.email.isSome && (db.users.noOther u.id fun s => s.email = u.email) &&
    db.acceptsAssignment old u

/-- No row refers to the route. -/
def routeUnreferenced (routeId : Int) : Bool :=
  db.users.count (fun u => u.routeId = some routeId) = 0

/-- No row refers to the vehicle. -/
def vehicleUnreferenced (vehicleId : Int) : Bool :=
  db.users.count (fun u => u.vehicleId = some vehicleId) = 0 ∧
    db.gpsPoints.count (fun p => p.vehicleId = vehicleId) = 0 ∧
    (db.vehicleCurrentLocation.get vehicleId).isNone

end DB

/-! ## Statements -/

namespace Engine

variable (E : Engine) (db : DB)

/-- `INSERT INTO bus_routes`, answering the row with its id. -/
def insertRouteRow (r : BusRoute) : Except Failure (BusRoute × DB) :=
  (E.execute (db.acceptsRoute r) { db with busRoutes := db.busRoutes.insert r }).map
    fun db' => ({ r with id := db.busRoutes.next }, db')

/-- `UPDATE bus_routes`, unless nothing changed. -/
def updateRouteRow (old new : BusRoute) : Except Failure DB :=
  if new = old then .ok db
  else E.execute (db.acceptsRoute new) { db with busRoutes := db.busRoutes.put new }

/-- `DELETE FROM bus_routes` -/
def deleteRouteRow (routeId : Int) : Except Failure DB :=
  E.execute (db.routeUnreferenced routeId) { db with busRoutes := db.busRoutes.erase routeId }

/-- `INSERT INTO vehicles`, answering the row with its id. -/
def insertVehicleRow (v : Vehicle) : Except Failure (Vehicle × DB) :=
  (E.execute (db.acceptsVehicle v) { db with vehicles := db.vehicles.insert v }).map
    fun db' => ({ v with id := db.vehicles.next }, db')

/-- `UPDATE vehicles`, unless nothing changed. -/
def updateVehicleRow (old new : Vehicle) : Except Failure DB :=
  if new = old then .ok db
  else E.execute (db.acceptsVehicle new) { db with vehicles := db.vehicles.put new }

/-- `DELETE FROM vehicles` -/
def deleteVehicleRow (vehicleId : Int) : Except Failure DB :=
  E.execute (db.vehicleUnreferenced vehicleId)
    { db with vehicles := db.vehicles.erase vehicleId }

/-- `INSERT INTO users`, answering the row with its id. -/
def insertUserRow (u : User) : Except Failure (User × DB) :=
  (E.execute (db.acceptsUser none u) { db with users := db.users.insert u }).map
    fun db' => ({ u with id := db.users.next }, db')

/-- `UPDATE users`, unless nothing changed. -/
def updateUserRow (old new : User) : Except Failure DB :=
  if new = old then .ok db
  else E.execute (db.acceptsUser (some old) new) { db with users := db.users.put new }

/-- `UPDATE users` of the two foreign keys, unless nothing changed. -/
def updateAssignmentRow (old new : User) : Except Failure DB :=
  if new = old then .ok db
  else E.execute (db.acceptsAssignment (some old) new) { db with users := db.users.put new }

/-- `DELETE FROM users`; nothing refers to a user. -/
def deleteUserRow (userId : Int) : Except Failure DB :=
  E.execute true { db with users := db.users.erase userId }

/-- `INSERT INTO gps_points` -/
def insertPointRow (p : GPSPoint) : Except Failure DB :=
  E.execute (db.vehicles.HasKey p.vehicleId) { db with gpsPoints := db.gpsPoints.insert p }

/-- `INSERT INTO vehicle_current_location`; the primary key is checked by every engine. -/
def insertCurrentRow (c : VehicleCurrentLocation) : Except Failure DB :=
  match absent : db.vehicleCurrentLocation.get c.vehicleId with
  | some _ => .error .integrityError
  | none =>
      E.execute (db.vehicles.HasKey c.vehicleId)
        { db with vehicleCurrentLocation := db.vehicleCurrentLocation.insertNew c absent }

/-- `UPDATE vehicle_current_location` -/
def updateCurrentRow (c : VehicleCurrentLocation) : Except Failure DB :=
  E.execute true { db with vehicleCurrentLocation := db.vehicleCurrentLocation.put c }

/-! ### What a statement that passed has done -/

variable {E db}

theorem insertRouteRow_eq_ok {r row : BusRoute} {db' : DB}
    (done : E.insertRouteRow db r = .ok (row, db')) :
    row = { r with id := db.busRoutes.next } ∧
      db' = { db with busRoutes := db.busRoutes.insert r } := by
  obtain ⟨_, executed, out⟩ := map_eq_ok.mp done
  cases execute_eq_ok executed
  cases out
  exact ⟨rfl, rfl⟩

theorem insertVehicleRow_eq_ok {v row : Vehicle} {db' : DB}
    (done : E.insertVehicleRow db v = .ok (row, db')) :
    row = { v with id := db.vehicles.next } ∧
      db' = { db with vehicles := db.vehicles.insert v } := by
  obtain ⟨_, executed, out⟩ := map_eq_ok.mp done
  cases execute_eq_ok executed
  cases out
  exact ⟨rfl, rfl⟩

theorem insertUserRow_eq_ok {u row : User} {db' : DB}
    (done : E.insertUserRow db u = .ok (row, db')) :
    row = { u with id := db.users.next } ∧ db' = { db with users := db.users.insert u } := by
  obtain ⟨_, executed, out⟩ := map_eq_ok.mp done
  cases execute_eq_ok executed
  cases out
  exact ⟨rfl, rfl⟩

theorem updateRouteRow_eq_ok {old new : BusRoute} {db' : DB}
    (loaded : db.busRoutes.get new.id = some old)
    (done : E.updateRouteRow db old new = .ok db') :
    db' = { db with busRoutes := db.busRoutes.put new } := by
  unfold updateRouteRow at done
  split at done
  · next same =>
      subst same
      rw [← Except.ok.inj done, Serial.put_self loaded]
  · exact execute_eq_ok done

theorem updateVehicleRow_eq_ok {old new : Vehicle} {db' : DB}
    (loaded : db.vehicles.get new.id = some old)
    (done : E.updateVehicleRow db old new = .ok db') :
    db' = { db with vehicles := db.vehicles.put new } := by
  unfold updateVehicleRow at done
  split at done
  · next same =>
      subst same
      rw [← Except.ok.inj done, Serial.put_self loaded]
  · exact execute_eq_ok done

theorem updateUserRow_eq_ok {old new : User} {db' : DB}
    (loaded : db.users.get new.id = some old)
    (done : E.updateUserRow db old new = .ok db') :
    db' = { db with users := db.users.put new } := by
  unfold updateUserRow at done
  split at done
  · next same =>
      subst same
      rw [← Except.ok.inj done, Serial.put_self loaded]
  · exact execute_eq_ok done

theorem updateAssignmentRow_eq_ok {old new : User} {db' : DB}
    (loaded : db.users.get new.id = some old)
    (done : E.updateAssignmentRow db old new = .ok db') :
    db' = { db with users := db.users.put new } := by
  unfold updateAssignmentRow at done
  split at done
  · next same =>
      subst same
      rw [← Except.ok.inj done, Serial.put_self loaded]
  · exact execute_eq_ok done

/-! ### When a constraint cannot stop a statement -/

theorem insertRouteRow_ok {r : BusRoute} (named : r.name.isSome = true)
    (new : ∀ s ∈ db.busRoutes.toTable, s.name ≠ r.name) :
    E.insertRouteRow db r = .ok ({ r with id := db.busRoutes.next },
      { db with busRoutes := db.busRoutes.insert r }) := by
  have accepted : db.acceptsRoute r = true := by
    simp only [DB.acceptsRoute, named, Bool.true_and, Table.noOther_iff, decide_eq_true_eq]
    exact fun s member same => (new s member same).elim
  rw [insertRouteRow, execute_of_ok accepted]
  rfl

theorem insertVehicleRow_ok {v : Vehicle} (coded : v.code.isSome = true)
    (named : v.name.isSome = true) (active : v.isActive.isSome = true)
    (new : ∀ s ∈ db.vehicles.toTable, s.code ≠ v.code) :
    E.insertVehicleRow db v = .ok ({ v with id := db.vehicles.next },
      { db with vehicles := db.vehicles.insert v }) := by
  have accepted : db.acceptsVehicle v = true := by
    simp only [DB.acceptsVehicle, coded, named, active, Bool.true_and, Table.noOther_iff,
      decide_eq_true_eq]
    exact fun s member same => (new s member same).elim
  rw [insertVehicleRow, execute_of_ok accepted]
  rfl

theorem updateRouteRow_ok {old new : BusRoute} (loaded : db.busRoutes.get new.id = some old)
    (accepted : db.acceptsRoute new = true) :
    E.updateRouteRow db old new = .ok { db with busRoutes := db.busRoutes.put new } := by
  unfold updateRouteRow
  split
  · next same =>
      subst same
      rw [Serial.put_self loaded]
  · exact execute_of_ok accepted

theorem updateVehicleRow_ok {old new : Vehicle} (loaded : db.vehicles.get new.id = some old)
    (accepted : db.acceptsVehicle new = true) :
    E.updateVehicleRow db old new = .ok { db with vehicles := db.vehicles.put new } := by
  unfold updateVehicleRow
  split
  · next same =>
      subst same
      rw [Serial.put_self loaded]
  · exact execute_of_ok accepted

theorem updateUserRow_ok {old new : User} (loaded : db.users.get new.id = some old)
    (accepted : db.acceptsUser (some old) new = true) :
    E.updateUserRow db old new = .ok { db with users := db.users.put new } := by
  unfold updateUserRow
  split
  · next same =>
      subst same
      rw [Serial.put_self loaded]
  · exact execute_of_ok accepted

/-- A reference is accepted when it stays or names a row. -/
theorem acceptsReference_iff {ρ : Type} [SerialKeyed ρ] {target : Serial ρ}
    {old new : Option Int} : DB.acceptsReference target old new = true ↔
      new = old ∨ ∀ k, new = some k → target.HasKey k := by
  cases new with
  | none => simp [DB.acceptsReference]
  | some k => simp [DB.acceptsReference, eq_comm (a := old)]

theorem updateAssignmentRow_ok {old new : User} (loaded : db.users.get new.id = some old)
    (route : new.routeId = old.routeId ∨ ∀ k, new.routeId = some k → db.busRoutes.HasKey k)
    (vehicle : new.vehicleId = old.vehicleId ∨
      ∀ k, new.vehicleId = some k → db.vehicles.HasKey k) :
    E.updateAssignmentRow db old new = .ok { db with users := db.users.put new } := by
  have accepted : db.acceptsAssignment (some old) new = true := by
    simp only [DB.acceptsAssignment, Option.bind_some, acceptsReference_iff.mpr route,
      acceptsReference_iff.mpr vehicle, Bool.and_self]
  unfold updateAssignmentRow
  split
  · next same =>
      subst same
      rw [Serial.put_self loaded]
  · exact execute_of_ok accepted

theorem insertUserRow_ok {u : User} (mail : u.email.isSome = true)
    (new : ∀ s ∈ db.users.toTable, s.email ≠ u.email)
    (route : ∀ k, u.routeId = some k → db.busRoutes.HasKey k)
    (vehicle : ∀ k, u.vehicleId = some k → db.vehicles.HasKey k) :
    E.insertUserRow db u = .ok ({ u with id := db.users.next },
      { db with users := db.users.insert u }) := by
  have unique : (db.users.noOther u.id fun s => s.email = u.email) = true :=
    Table.noOther_iff.mpr fun s member same => (new s member (of_decide_eq_true same)).elim
  have accepted : db.acceptsUser none u = true := by
    simp only [DB.acceptsUser, DB.acceptsAssignment, mail, unique,
      acceptsReference_iff.mpr (.inr route), acceptsReference_iff.mpr (.inr vehicle),
      Bool.and_self]
  rw [insertUserRow, execute_of_ok accepted]
  rfl

end Engine

/-! ## Statements of a session -/

/-- The row locks that sessions wait for. -/
inductive RowLock
  | user (userId : Int)
  | currentLocation (vehicleId : Int)
deriving DecidableEq

/-- Statements that lock what `κ` names, of a session that ends with an `α` or a failure. -/
abbrev Statement (κ α : Type) := Write DB κ (Except Failure α)

/-- A statement that draws nothing from a sequence. -/
def Statement.plain {κ α : Type} (lock : κ) (run : DB → Except Failure DB) : Statement κ α where
  lock := some lock
  stmt db := (run db).mapError .error
  residue := id

theorem Statement.plain_within {κ α : Type} {R : DB → DB → Prop} (refl : ∀ db, R db db)
    {lock : κ} {run : DB → Except Failure DB}
    (accepted : ∀ db db', run db = .ok db' → R db db') :
    (Statement.plain (α := α) lock run).Within R := by
  refine fun db => ⟨?_, refl db⟩
  rcases (Statement.plain (α := α) lock run).apply_cases db with same | applied
  · rw [same]
    exact refl db
  · exact accepted db _ (mapError_eq_ok.mp applied)

end FleetTracking
