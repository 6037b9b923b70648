import FleetTracking.Mqtt.Handler

/-!
# The constraints of the schema

`Constrained` says that the tables satisfy what the migration declares: foreign keys, `UNIQUE`
and `NOT NULL`.  A statement that the engine accepts keeps it, whoever sent the statement and
whatever the session has checked before.
-/

namespace FleetTracking

open Relational

/-- The tables satisfy the constraints of the schema. -/
structure Constrained (db : DB) : Prop where
  userRoutes : db.users.RefersTo User.routeId db.busRoutes.toTable
  userVehicles : db.users.RefersTo User.vehicleId db.vehicles.toTable
  points : db.gpsPoints.RefersTo (fun p => some p.vehicleId) db.vehicles.toTable
  locations : db.vehicleCurrentLocation.RefersTo (fun c => some c.vehicleId) db.vehicles.toTable
  names : db.busRoutes.UniqueOn BusRoute.name
  codes : db.vehicles.UniqueOn Vehicle.code
  emails : db.users.UniqueOn User.email
  routesFilled : ∀ r ∈ db.busRoutes.toTable, r.name.isSome = true
  vehiclesFilled : ∀ v ∈ db.vehicles.toTable,
    (v.code.isSome && v.name.isSome && v.isActive.isSome) = true
  usersFilled : ∀ u ∈ db.users.toTable, u.email.isSome = true

theorem Constrained.empty : Constrained .empty where
  userRoutes := Table.refersTo_empty
  userVehicles := Table.refersTo_empty
  points := Table.refersTo_empty
  locations := Table.refersTo_empty
  names := Table.uniqueOn_empty _
  codes := Table.uniqueOn_empty _
  emails := Table.uniqueOn_empty _
  routesFilled _ member := (Table.not_mem_empty member).elim
  vehiclesFilled _ member := (Table.not_mem_empty member).elim
  usersFilled _ member := (Table.not_mem_empty member).elim

/-! ## What the engine has checked -/

section

variable {ρ α : Type} [SerialKeyed ρ] [DecidableEq α] {t target : Serial ρ} {k : Int}
  {col : ρ → α} {value : α} {old new : Option Int}

/-- Nobody has a value that is new to everyone but a row that is not there yet. -/
theorem new_of_noOther (new : k < 1) (free : (t.noOther k fun s => col s = value) = true) :
    ∀ s ∈ t.toTable, col s ≠ value := by
  intro s member same
  have key := Table.noOther_iff.mp free s member (decide_eq_true same)
  have := Serial.one_le_key member
  omega

omit [DecidableEq α] in
theorem acceptsReference_iff : DB.acceptsReference target old new = true ↔
    new = old ∨ ∀ k, new = some k → target.HasKey k := by
  rw [DB.acceptsReference, Bool.or_eq_true, decide_eq_true_eq, eq_comm]
  cases new <;> simp

end

section

variable {db : DB}

theorem acceptsRoute_iff {r : BusRoute} : db.acceptsRoute r = true ↔
    r.name.isSome = true ∧ (db.busRoutes.noOther r.id fun s => s.name = r.name) = true :=
  Bool.and_eq_true_iff

theorem acceptsVehicle_iff {v : Vehicle} : db.acceptsVehicle v = true ↔
    (v.code.isSome && v.name.isSome && v.isActive.isSome) = true ∧
      (db.vehicles.noOther v.id fun s => s.code = v.code) = true :=
  Bool.and_eq_true_iff

theorem acceptsUser_iff {old : Option User} {u : User} : db.acceptsUser old u = true ↔
    (u.email.isSome = true ∧ (db.users.noOther u.id fun s => s.email = u.email) = true) ∧
      db.acceptsAssignment old u = true :=
  Bool.and_eq_true_iff.trans (and_congr_left' Bool.and_eq_true_iff)

theorem acceptsAssignment_iff {old : Option User} {u : User} :
    db.acceptsAssignment old u = true ↔
      DB.acceptsReference db.busRoutes (old.bind User.routeId) u.routeId = true ∧
        DB.acceptsReference db.vehicles (old.bind User.vehicleId) u.vehicleId = true :=
  Bool.and_eq_true_iff

/-- References that do not change are in order. -/
theorem acceptsAssignment_self {row u : User} (route : u.routeId = row.routeId)
    (vehicle : u.vehicleId = row.vehicleId) : db.acceptsAssignment (some row) u = true :=
  acceptsAssignment_iff.mpr
    ⟨acceptsReference_iff.mpr (.inl route), acceptsReference_iff.mpr (.inl vehicle)⟩

theorem routeUnreferenced_iff {routeId : Int} : db.routeUnreferenced routeId = true ↔
    ∀ u ∈ db.users.toTable, u.routeId ≠ some routeId := by
  simp [DB.routeUnreferenced, Table.count_eq_zero]

theorem vehicleUnreferenced_iff {vehicleId : Int} : db.vehicleUnreferenced vehicleId = true ↔
    (∀ u ∈ db.users.toTable, u.vehicleId ≠ some vehicleId) ∧
      (∀ p ∈ db.gpsPoints.toTable, some p.vehicleId ≠ some vehicleId) ∧
      ∀ c ∈ db.vehicleCurrentLocation, some c.vehicleId ≠ some vehicleId := by
  simp only [DB.vehicleUnreferenced, decide_eq_true_eq, Table.count_eq_zero,
    decide_eq_false_iff_not, Option.isNone_iff_eq_none, Table.get_eq_none, Option.some.injEq, ne_eq]
  rfl

end

/-! ## Statements keep the constraints -/

section

variable {ρ : Type} [SerialKeyed ρ] {t : Serial ρ} {r old : ρ} {col : ρ → Option String}

/-- Overwriting a row keeps a column unique when no other row has the new value. -/
theorem uniqueOn_put_of_noOther (unique : t.UniqueOn col)
    (free : (t.noOther (Keyed.key r) fun s => col s = col r) = true) :
    (t.toTable.put r).UniqueOn col :=
  unique.put fun _ has s member taken =>
    Table.noOther_iff.mp free s member (decide_eq_true (taken.trans has.symm))

/-- A reference that was accepted is in order. -/
theorem reference_of_accepted {σ : Type} [SerialKeyed σ] {target : Serial σ} {k : Int}
    {reference : ρ → Option Int} (refers : t.toTable.RefersTo reference target.toTable)
    (there : old ∈ t.toTable)
    (accepted : DB.acceptsReference target (reference old) (reference r) = true)
    (has : reference r = some k) : target.HasKey k := by
  rcases acceptsReference_iff.mp accepted with kept | present
  · exact refers old there k (kept ▸ has)
  · exact present k has

end

namespace Constrained

variable {db db' : DB} (c : Constrained db)

include c

/-- The constraints speak of the rows only. -/
theorem of_tables (routes : db'.busRoutes.toTable = db.busRoutes.toTable)
    (vehicles : db'.vehicles.toTable = db.vehicles.toTable)
    (users : db'.users.toTable = db.users.toTable)
    (points : db'.gpsPoints.toTable = db.gpsPoints.toTable)
    (locations : db'.vehicleCurrentLocation = db.vehicleCurrentLocation) : Constrained db' where
  userRoutes := by rw [users, routes]; exact c.userRoutes
  userVehicles := by rw [users, vehicles]; exact c.userVehicles
  points := by rw [points, vehicles]; exact c.points
  locations := by rw [locations, vehicles]; exact c.locations
  names := by rw [routes]; exact c.names
  codes := by rw [vehicles]; exact c.codes
  emails := by rw [users]; exact c.emails
  routesFilled := by rw [routes]; exact c.routesFilled
  vehiclesFilled := by rw [vehicles]; exact c.vehiclesFilled
  usersFilled := by rw [users]; exact c.usersFilled

theorem insertRoute {r : BusRoute} (new : r.id = 0) (accepted : db.acceptsRoute r = true) :
    Constrained { db with busRoutes := db.busRoutes.insert r } := by
  obtain ⟨named, free⟩ := acceptsRoute_iff.mp accepted
  exact { c with
    userRoutes := c.userRoutes.mono fun _ => Serial.HasKey.insert
    names := Serial.uniqueOn_insert_new c.names rfl (new_of_noOther (by omega) free)
    routesFilled := Serial.all_insert c.routesFilled named }

theorem putRoute {old r : BusRoute} (found : db.busRoutes.get r.id = some old)
    (accepted : r = old ∨ db.acceptsRoute r = true) :
    Constrained { db with busRoutes := db.busRoutes.put r } := by
  rcases accepted with rfl | accepted
  · rwa [Serial.put_self found]
  obtain ⟨named, free⟩ := acceptsRoute_iff.mp accepted
  exact { c with
    userRoutes := c.userRoutes.mono fun _ => Table.hasKey_put.mpr
    names := uniqueOn_put_of_noOther c.names free
    routesFilled := Table.all_put c.routesFilled named }

theorem eraseRoute {routeId : Int} (unused : db.routeUnreferenced routeId = true) :
    Constrained { db with busRoutes := db.busRoutes.erase routeId } :=
  { c with
    userRoutes := c.userRoutes.eraseTarget (routeUnreferenced_iff.mp unused)
    names := c.names.erase
    routesFilled := Table.all_erase c.routesFilled }

theorem insertVehicle {v : Vehicle} (new : v.id = 0) (accepted : db.acceptsVehicle v = true) :
    Constrained { db with vehicles := db.vehicles.insert v } := by
  obtain ⟨filled, free⟩ := acceptsVehicle_iff.mp accepted
  exact { c with
    userVehicles := c.userVehicles.mono fun _ => Serial.HasKey.insert
    points := c.points.mono fun _ => Serial.HasKey.insert
    locations := c.locations.mono fun _ => Serial.HasKey.insert
    codes := Serial.uniqueOn_insert_new c.codes rfl (new_of_noOther (by omega) free)
    vehiclesFilled := Serial.all_insert c.vehiclesFilled filled }

theorem putVehicle {old v : Vehicle} (found : db.vehicles.get v.id = some old)
    (accepted : v = old ∨ db.acceptsVehicle v = true) :
    Constrained { db with vehicles := db.vehicles.put v } := by
  rcases accepted with rfl | accepted
  · rwa [Serial.put_self found]
  obtain ⟨filled, free⟩ := acceptsVehicle_iff.mp accepted
  exact { c with
    userVehicles := c.userVehicles.mono fun _ => Table.hasKey_put.mpr
    points := c.points.mono fun _ => Table.hasKey_put.mpr
    locations := c.locations.mono fun _ => Table.hasKey_put.mpr
    codes := uniqueOn_put_of_noOther c.codes free
    vehiclesFilled := Table.all_put c.vehiclesFilled filled }

theorem eraseVehicle {vehicleId : Int} (unused : db.vehicleUnreferenced vehicleId = true) :
    Constrained { db with vehicles := db.vehicles.erase vehicleId } := by
  obtain ⟨users, points, locations⟩ := vehicleUnreferenced_iff.mp unused
  exact { c with
    userVehicles := c.userVehicles.eraseTarget users
    points := c.points.eraseTarget points
    locations := c.locations.eraseTarget locations
    codes := c.codes.erase
    vehiclesFilled := Table.all_erase c.vehiclesFilled }

theorem insertUser {u : User} (new : u.id = 0) (accepted : db.acceptsUser none u = true) :
    Constrained { db with users := db.users.insert u } := by
  obtain ⟨⟨given, free⟩, references⟩ := acceptsUser_iff.mp accepted
  obtain ⟨route, vehicle⟩ := acceptsAssignment_iff.mp references
  have inOrder {ρ : Type} [SerialKeyed ρ] {target : Serial ρ} {k : Int} {value : Option Int}
      (accepted : DB.acceptsReference target none value = true) (has : value = some k) :
      target.HasKey k := by
    rcases acceptsReference_iff.mp accepted with absent | present
    · cases absent.symm.trans has
    · exact present k has
  exact { c with
    userRoutes := Serial.refersTo_insert c.userRoutes fun _ => inOrder route
    userVehicles := Serial.refersTo_insert c.userVehicles fun _ => inOrder vehicle
    emails := Serial.uniqueOn_insert_new c.emails rfl (new_of_noOther (by omega) free)
    usersFilled := Serial.all_insert c.usersFilled given }

theorem putAssignment {old u : User} (found : db.users.get u.id = some old)
    (email : u.email = old.email)
    (accepted : u = old ∨ db.acceptsAssignment (some old) u = true) :
    Constrained { db with users := db.users.put u } := by
  rcases accepted with rfl | accepted
  · rwa [Serial.put_self found]
  obtain ⟨there, own⟩ := Table.get_eq_some.mp found
  obtain ⟨route, vehicle⟩ := acceptsAssignment_iff.mp accepted
  exact { c with
    userRoutes := c.userRoutes.put fun _ => reference_of_accepted c.userRoutes there route
    userVehicles := c.userVehicles.put fun _ => reference_of_accepted c.userVehicles there vehicle
    emails := c.emails.put_change found (.inl email)
    usersFilled := Table.all_put c.usersFilled (email ▸ c.usersFilled old there) }

theorem putUser {old u : User} (found : db.users.get u.id = some old)
    (accepted : u = old ∨ db.acceptsUser (some old) u = true) :
    Constrained { db with users := db.users.put u } := by
  rcases accepted with rfl | accepted
  · rwa [Serial.put_self found]
  obtain ⟨⟨given, free⟩, references⟩ := acceptsUser_iff.mp accepted
  obtain ⟨there, own⟩ := Table.get_eq_some.mp found
  obtain ⟨route, vehicle⟩ := acceptsAssignment_iff.mp references
  exact { c with
    userRoutes := c.userRoutes.put fun _ => reference_of_accepted c.userRoutes there route
    userVehicles := c.userVehicles.put fun _ => reference_of_accepted c.userVehicles there vehicle
    emails := uniqueOn_put_of_noOther c.emails free
    usersFilled := Table.all_put c.usersFilled given }

theorem eraseUser {userId : Int} : Constrained { db with users := db.users.erase userId } :=
  { c with
    userRoutes := c.userRoutes.erase
    userVehicles := c.userVehicles.erase
    emails := c.emails.erase
    usersFilled := Table.all_erase c.usersFilled }

theorem addPoint {m : GPSMessage} (tracked : db.vehicles.HasKey m.vehicleId) :
    Constrained (db.addPoint m) :=
  { c with
    points := Serial.refersTo_insert c.points fun _ same => Option.some.inj same ▸ tracked }

theorem insertCurrent {location : VehicleCurrentLocation}
    (absent : db.vehicleCurrentLocation.get location.vehicleId = none)
    (tracked : db.vehicles.HasKey location.vehicleId) : Constrained { db with
      vehicleCurrentLocation := db.vehicleCurrentLocation.insertNew location absent } :=
  { c with
    locations := c.locations.insertNew absent fun _ same => Option.some.inj same ▸ tracked }

theorem putCurrent {old location : VehicleCurrentLocation}
    (found : db.vehicleCurrentLocation.get location.vehicleId = some old) :
    Constrained { db with vehicleCurrentLocation := db.vehicleCurrentLocation.put location } :=
  { c with
    locations := c.locations.put fun k same =>
      c.locations old (Table.get_eq_some.mp found).1 k <| by
        rw [← same]
        exact congrArg some (Table.get_eq_some.mp found).2 }

end Constrained

end FleetTracking
