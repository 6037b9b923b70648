import FleetTracking.Mqtt.Handler

/-!
# What may happen to the fleet's tables

The abstract model of the component: a database changes by one `Edit` at a time, and
`Edit.Allowed` is the state of the tables in which the edit may be made.  The services'
guards are what makes every call an allowed edit (`Operations`); the invariants are
properties of allowed edits alone.

* `Consistent`: assignments are pairs, references name rows, names, codes and e-mails are
  taken once.  Every allowed edit keeps it.
* `Exclusive`: no route and no vehicle is held by two users.  An allowed edit keeps it
  unless it creates a user together with a route or a vehicle that somebody holds.
-/

namespace FleetTracking

open Relational

inductive Edit
  | addRoute (r : BusRoute)
  | setRoute (r : BusRoute)
  | dropRoute (routeId : Int)
  | addVehicle (v : Vehicle)
  | setVehicle (v : Vehicle)
  | dropVehicle (vehicleId : Int)
  | addUser (u : User)
  /-- Change a user's credentials or role. -/
  | setUser (u : User)
  | dropUser (userId : Int)
  /-- Unassign a user. -/
  | unassign (u : User)
  /-- Give a user the route and the vehicle, and take away what the user held. -/
  | assign (u : User) (routeId vehicleId : Int)
  | ingest (m : GPSMessage)
  | wipe

/-- All rows gone; the sequences go on. -/
def DB.wiped (db : DB) : DB :=
  ⟨db.busRoutes.clear, db.vehicles.clear, db.users.clear, db.gpsPoints.clear, .empty⟩

namespace Edit

def apply (db : DB) : Edit → DB
  | addRoute r => { db with busRoutes := db.busRoutes.insert r }
  | setRoute r => { db with busRoutes := db.busRoutes.put r }
  | dropRoute routeId => { db with busRoutes := db.busRoutes.erase routeId }
  | addVehicle v => { db with vehicles := db.vehicles.insert v }
  | setVehicle v => { db with vehicles := db.vehicles.put v }
  | dropVehicle vehicleId => { db with vehicles := db.vehicles.erase vehicleId }
  | addUser u => { db with users := db.users.insert u }
  | setUser u => { db with users := db.users.put u }
  | dropUser userId => { db with users := db.users.erase userId }
  | unassign u => { db with users := db.users.put { u with routeId := none, vehicleId := none } }
  | assign u routeId vehicleId =>
      { db with users :=
          db.users.put { u with routeId := some routeId, vehicleId := some vehicleId } }
  | ingest m => db.ingest m
  | wipe => db.wiped

/-- What the tables have to look like for the edit to be made. -/
def Allowed (db : DB) : Edit → Prop
  | addRoute r => ∀ s ∈ db.busRoutes.toTable, s.name ≠ r.name
  | setRoute r => ∃ old, db.busRoutes.get r.id = some old ∧
      (r.name = old.name ∨ ∀ s ∈ db.busRoutes.toTable, s.name ≠ r.name)
  | dropRoute routeId => ∀ u ∈ db.users.toTable, u.routeId ≠ some routeId
  | addVehicle v => ∀ w ∈ db.vehicles.toTable, w.code ≠ v.code
  | setVehicle v => ∃ old, db.vehicles.get v.id = some old ∧
      (v.code = old.code ∨ ∀ w ∈ db.vehicles.toTable, w.code ≠ v.code)
  | dropVehicle vehicleId =>
      (∀ u ∈ db.users.toTable, u.vehicleId ≠ some vehicleId) ∧
        (∀ p ∈ db.gpsPoints.toTable, p.vehicleId ≠ vehicleId) ∧
        db.vehicleCurrentLocation.get vehicleId = none
  | addUser u => (∀ w ∈ db.users.toTable, w.email ≠ u.email) ∧
      u.routeId.isNone = u.vehicleId.isNone ∧
      (∀ k, u.routeId = some k → db.busRoutes.HasKey k) ∧
      (∀ k, u.vehicleId = some k → db.vehicles.HasKey k)
  | setUser u => ∃ old, db.users.get u.id = some old ∧
      u.routeId = old.routeId ∧ u.vehicleId = old.vehicleId ∧
      (u.email = old.email ∨ ∀ w ∈ db.users.toTable, w.email ≠ u.email)
  | dropUser _ => True
  | unassign u => db.users.get u.id = some u
  | assign u routeId vehicleId => db.users.get u.id = some u ∧
      db.busRoutes.HasKey routeId ∧ db.vehicles.HasKey vehicleId ∧
      (∀ w ∈ db.users.toTable, w.routeId = some routeId → w.id = u.id) ∧
      (∀ w ∈ db.users.toTable, w.vehicleId = some vehicleId → w.id = u.id)
  | ingest m => db.Accepts m.vehicleId
  | wipe => True

end Edit

/-- The database goes from `db` to `db'` by these edits, each allowed when it is made. -/
inductive Edits : DB → List Edit → DB → Prop
  | nil {db : DB} : Edits db [] db
  | cons {db db' : DB} {e : Edit} {es : List Edit} :
    e.Allowed db → Edits (e.apply db) es db' → Edits db (e :: es) db'

namespace Edits

variable {db db' db'' : DB} {e : Edit} {es es' : List Edit}

theorem single (allowed : e.Allowed db) : Edits db [e] (e.apply db) := .cons allowed .nil

theorem append (first : Edits db es db') (second : Edits db' es' db'') :
    Edits db (es ++ es') db'' := by
  induction first with
  | nil => exact second
  | cons allowed _ ih => exact .cons allowed (ih second)

/-- What every allowed edit keeps, a run of edits keeps. -/
theorem keep {P : DB → Prop} {Q : Edit → Prop}
    (step : ∀ {db : DB} {e : Edit}, P db → Q e → e.Allowed db → P (e.apply db))
    (run : Edits db es db') (start : P db) (each : ∀ e ∈ es, Q e) : P db' := by
  induction run with
  | nil => exact start
  | cons allowed _ ih =>
      exact ih (step start (each _ List.mem_cons_self) allowed)
        fun e later => each e (List.mem_cons_of_mem _ later)

end Edits

/-! ## Consistency -/

/-- The tables fit together. -/
structure Consistent (db : DB) : Prop where
  /-- A user holds a route and a vehicle, or neither. -/
  pairs : ∀ u ∈ db.users.toTable, u.routeId.isNone = u.vehicleId.isNone
  userRoutes : db.users.RefersTo User.routeId db.busRoutes.toTable
  userVehicles : db.users.RefersTo User.vehicleId db.vehicles.toTable
  points : db.gpsPoints.RefersTo (fun p => some p.vehicleId) db.vehicles.toTable
  locations : db.vehicleCurrentLocation.RefersTo (fun c => some c.vehicleId) db.vehicles.toTable
  names : db.busRoutes.UniqueOn BusRoute.name
  codes : db.vehicles.UniqueOn Vehicle.code
  emails : db.users.UniqueOn User.email

/-- No two users hold one route or one vehicle. -/
structure Exclusive (db : DB) : Prop where
  routes : db.users.UniqueOn User.routeId
  vehicles : db.users.UniqueOn User.vehicleId

instance (db : DB) : Decidable (Exclusive db) :=
  decidable_of_iff (db.users.UniqueOn User.routeId ∧ db.users.UniqueOn User.vehicleId)
    ⟨fun h => ⟨h.1, h.2⟩, fun h => ⟨h.routes, h.vehicles⟩⟩

theorem Consistent.empty : Consistent DB.empty where
  pairs _ member := (Table.not_mem_empty member).elim
  userRoutes := Table.refersTo_empty
  userVehicles := Table.refersTo_empty
  points := Table.refersTo_empty
  locations := Table.refersTo_empty
  names := Table.uniqueOn_empty _
  codes := Table.uniqueOn_empty _
  emails := Table.uniqueOn_empty _

theorem Consistent.wiped (db : DB) : Consistent db.wiped where
  pairs _ member := (Table.not_mem_empty member).elim
  userRoutes := Table.refersTo_empty
  userVehicles := Table.refersTo_empty
  points := Table.refersTo_empty
  locations := Table.refersTo_empty
  names := Table.uniqueOn_empty _
  codes := Table.uniqueOn_empty _
  emails := Table.uniqueOn_empty _

theorem Exclusive.empty : Exclusive DB.empty :=
  ⟨Table.uniqueOn_empty _, Table.uniqueOn_empty _⟩

theorem Exclusive.wiped (db : DB) : Exclusive db.wiped :=
  ⟨Table.uniqueOn_empty _, Table.uniqueOn_empty _⟩

/-- A user row that is overwritten keeps the assignments pairs. -/
theorem pairs_put {db : DB} {u : User} (c : Consistent db)
    (pair : u.routeId.isNone = u.vehicleId.isNone) :
    ∀ w ∈ db.users.toTable.put u, w.routeId.isNone = w.vehicleId.isNone := by
  intro w member
  rcases Table.mem_put.mp member with ⟨old, _⟩ | ⟨rfl, _⟩
  · exact c.pairs w old
  · exact pair

/-- **Step.**  An allowed edit keeps the tables consistent. -/
theorem Consistent.apply {db : DB} {e : Edit} (c : Consistent db) (allowed : e.Allowed db) :
    Consistent (e.apply db) := by
  cases e with
  | addRoute r =>
      exact { c with
        userRoutes := c.userRoutes.mono fun _ => Serial.HasKey.insert
        names := Serial.uniqueOn_insert_new c.names rfl allowed }
  | setRoute r =>
      obtain ⟨old, found, named⟩ := allowed
      exact { c with
        userRoutes := c.userRoutes.mono fun _ => Table.hasKey_put.mpr
        names := c.names.put_change found named }
  | dropRoute routeId =>
      exact { c with
        userRoutes := c.userRoutes.eraseTarget allowed
        names := c.names.erase }
  | addVehicle v =>
      exact { c with
        userVehicles := c.userVehicles.mono fun _ => Serial.HasKey.insert
        points := c.points.mono fun _ => Serial.HasKey.insert
        locations := c.locations.mono fun _ => Serial.HasKey.insert
        codes := Serial.uniqueOn_insert_new c.codes rfl allowed }
  | setVehicle v =>
      obtain ⟨old, found, coded⟩ := allowed
      exact { c with
        userVehicles := c.userVehicles.mono fun _ => Table.hasKey_put.mpr
        points := c.points.mono fun _ => Table.hasKey_put.mpr
        locations := c.locations.mono fun _ => Table.hasKey_put.mpr
        codes := c.codes.put_change found coded }
  | dropVehicle vehicleId =>
      obtain ⟨unassigned, noPoints, noLocation⟩ := allowed
      exact { c with
        userVehicles := c.userVehicles.eraseTarget unassigned
        points := c.points.eraseTarget fun p member same =>
          noPoints p member (Option.some.inj same)
        locations := c.locations.eraseTarget fun l member same =>
          Table.get_eq_none.mp noLocation l member (Option.some.inj same)
        codes := c.codes.erase }
  | addUser u =>
      obtain ⟨new, pair, route, vehicle⟩ := allowed
      exact { c with
        pairs := fun w member => by
          rcases Serial.mem_insert.mp member with old | rfl
          · exact c.pairs w old
          · exact pair
        userRoutes := Serial.refersTo_insert c.userRoutes route
        userVehicles := Serial.refersTo_insert c.userVehicles vehicle
        emails := Serial.uniqueOn_insert_new c.emails rfl new }
  | setUser u =>
      obtain ⟨old, found, sameRoute, sameVehicle, mail⟩ := allowed
      have member := (Table.get_eq_some.mp found).1
      exact { c with
        pairs := pairs_put c (by rw [sameRoute, sameVehicle, c.pairs old member])
        userRoutes := c.userRoutes.put fun k has => c.userRoutes old member k (sameRoute ▸ has)
        userVehicles := c.userVehicles.put fun k has =>
          c.userVehicles old member k (sameVehicle ▸ has)
        emails := c.emails.put_change found mail }
  | dropUser userId =>
      exact { c with
        pairs := fun u member => c.pairs u (Table.mem_erase.mp member).1
        userRoutes := c.userRoutes.erase
        userVehicles := c.userVehicles.erase
        emails := c.emails.erase }
  | unassign u =>
      exact { c with
        pairs := pairs_put c rfl
        userRoutes := c.userRoutes.put nofun
        userVehicles := c.userVehicles.put nofun
        emails := c.emails.put_change allowed (.inl rfl) }
  | assign u routeId vehicleId =>
      obtain ⟨found, route, vehicle, _⟩ := allowed
      exact { c with
        pairs := pairs_put c rfl
        userRoutes := c.userRoutes.put fun _ has => Option.some.inj has ▸ route
        userVehicles := c.userVehicles.put fun _ has => Option.some.inj has ▸ vehicle
        emails := c.emails.put_change found (.inl rfl) }
  | ingest m =>
      obtain ⟨vehicle, found, _⟩ := allowed
      have present := Table.HasKey.of_get found
      exact { c with
        points := Serial.refersTo_insert c.points fun _ has => Option.some.inj has ▸ present
        locations := Table.refersTo_key.mpr fun k has => by
          rcases hasKey_upsertLatest.mp has with rfl | old
          · exact present
          · exact Table.refersTo_key.mp c.locations k old }
  | wipe => exact .wiped db

/-! ## Exclusivity -/

/-- The edit hands out no route or vehicle that somebody holds by creating a user. -/
def Edit.Unshared (db : DB) : Edit → Prop
  | .addUser u =>
      (∀ k, u.routeId = some k → ∀ w ∈ db.users.toTable, w.routeId ≠ some k) ∧
        ∀ k, u.vehicleId = some k → ∀ w ∈ db.users.toTable, w.vehicleId ≠ some k
  | _ => True

/-- **Step.**  An allowed edit that shares nothing keeps assignments exclusive: `assign` is
allowed only when nobody else holds the route or the vehicle. -/
theorem Exclusive.apply {db : DB} {e : Edit} (x : Exclusive db) (unshared : e.Unshared db)
    (allowed : e.Allowed db) : Exclusive (e.apply db) := by
  cases e with
  | addUser u =>
      exact ⟨Serial.uniqueOn_insert.mpr ⟨x.routes, unshared.1⟩,
        Serial.uniqueOn_insert.mpr ⟨x.vehicles, unshared.2⟩⟩
  | setUser u =>
      obtain ⟨old, found, sameRoute, sameVehicle, _⟩ := allowed
      exact ⟨x.routes.put_change found (.inl sameRoute),
        x.vehicles.put_change found (.inl sameVehicle)⟩
  | dropUser userId => exact ⟨x.routes.erase, x.vehicles.erase⟩
  | unassign u => exact ⟨x.routes.put nofun, x.vehicles.put nofun⟩
  | assign u routeId vehicleId =>
      obtain ⟨_, _, _, route, vehicle⟩ := allowed
      exact ⟨x.routes.put fun _ has w member holds => route w member (holds.trans has.symm),
        x.vehicles.put fun _ has w member holds => vehicle w member (holds.trans has.symm)⟩
  | wipe => exact .wiped db
  | _ => exact ⟨x.routes, x.vehicles⟩

end FleetTracking
