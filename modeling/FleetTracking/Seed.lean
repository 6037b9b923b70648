import FleetTracking.Config
import FleetTracking.Models

/-!
# The demo seed

Create the demo routes, vehicles and users that are missing, each found by its name, code or
e-mail; with `fresh`, wipe all tables first, in a transaction of its own.  A demo user is
created together with its assignment, without a look at who holds the route or the vehicle.

`hashPassword n` is the password hasher with the salt it draws for the `n`-th user.
-/

namespace FleetTracking

open Relational Python

/-! ## The demo data -/

def adminEmail : String := "admin@fleet.com"

structure RouteSpec where
  name : String
  waypoints : List LatLng

structure VehicleSpec where
  code : String
  name : String

/-- E-mail, route name and vehicle code. -/
structure AssignmentSpec where
  email : String
  routeName : String
  vehicleCode : String

def latLng (lat lng : ℚ) : LatLng := ⟨.fin lat, .fin lng⟩

def demoRoutes : List RouteSpec := [
  ⟨"City Center to Airport",
    [latLng 13.0827 80.2707, latLng 13.0417 80.2345, latLng 12.9941 80.1709]⟩,
  ⟨"OMR Tech Corridor",
    [latLng 13.0093 80.2481, latLng 12.9600 80.2400, latLng 12.9010 80.2279]⟩,
  ⟨"Marina to Central",
    [latLng 13.0552 80.2824, latLng 13.0665 80.2685, latLng 13.0827 80.2707]⟩,
  ⟨"T. Nagar to Guindy",
    [latLng 13.0418 80.2341, latLng 13.0254 80.2274, latLng 13.0104 80.2206]⟩]

def demoVehicles : List VehicleSpec := [
  ⟨"BUS-001", "Chennai Express"⟩,
  ⟨"BUS-002", "OMR Flier"⟩,
  ⟨"BUS-003", "Marina Cruiser"⟩,
  ⟨"BUS-004", "Guindy Shuttle"⟩]

def demoAssignments : List AssignmentSpec := [
  ⟨"ravi@fleet.com", "City Center to Airport", "BUS-001"⟩,
  ⟨"priya@fleet.com", "OMR Tech Corridor", "BUS-002"⟩,
  ⟨"arun@fleet.com", "Marina to Central", "BUS-003"⟩,
  ⟨"divya@fleet.com", "T. Nagar to Guindy", "BUS-004"⟩]

/-! ## Wiping the tables -/

/-- `DELETE FROM vehicles`, all rows. -/
def deleteAllVehicles (E : Engine) (db : DB) : Except Failure DB :=
  E.execute (db.vehicles.rows.all fun v => db.vehicleUnreferenced v.id)
    { db with vehicles := db.vehicles.clear }

/-- `DELETE FROM bus_routes`, all rows. -/
def deleteAllRoutes (E : Engine) (db : DB) : Except Failure DB :=
  E.execute (db.busRoutes.rows.all fun r => db.routeUnreferenced r.id)
    { db with busRoutes := db.busRoutes.clear }

/-- `_truncate`: `DELETE` every row, in an order the foreign keys allow.  Nothing refers to
the first three tables. -/
def truncate (E : Engine) (db : DB) : Except Failure DB :=
  let db := { db with
    gpsPoints := db.gpsPoints.clear
    vehicleCurrentLocation := .empty
    users := db.users.clear }
  (deleteAllVehicles E db).bind (deleteAllRoutes E)

/-! ## Creating what is missing -/

/-- The counts of created rows. -/
structure Created where
  routes : Nat
  vehicles : Nat
  users : Nat
deriving DecidableEq

/-- One pass over a demo list: each entry answers its row and tells whether it created it. -/
def seedEach {α ρ : Type} (one : Nat → α → DB → Except Failure (ρ × Bool × DB)) :
    Nat → List α → DB → Except Failure (List ρ × Nat × DB)
  | _, [], db => .ok ([], 0, db)
  | n, spec :: specs, db =>
      match one n spec db with
      | .error failure => .error failure
      | .ok (row, isNew, db) =>
          match seedEach one (n + 1) specs db with
          | .error failure => .error failure
          | .ok (rows, created, db) => .ok (row :: rows, created + isNew.toNat, db)

section

variable (E : Engine) (settings : Settings) (hashPassword : Nat → String → String) (now : Int)

def seedRoute (spec : RouteSpec) (db : DB) : Except Failure (BusRoute × Bool × DB) :=
  match db.busRoutes.scalar fun r => r.name = some spec.name with
  | some route => .ok (route, false, db)
  | none =>
      (E.insertRouteRow db
        { id := 0, name := some spec.name, waypoints := spec.waypoints, createdAt := now }).map
        fun (row, db) => (row, true, db)

def seedVehicle (spec : VehicleSpec) (db : DB) : Except Failure (Vehicle × Bool × DB) :=
  match db.vehicles.scalar fun v => v.code = some spec.code with
  | some vehicle => .ok (vehicle, false, db)
  | none =>
      (E.insertVehicleRow db
        { id := 0, code := some spec.code, name := some spec.name, isActive := some true,
          createdAt := now }).map
        fun (row, db) => (row, true, db)

/-- `routes[route_name].id` and `vehicles[vehicle_code].id` -/
def demoPair (routes : List BusRoute) (vehicles : List Vehicle) (spec : AssignmentSpec) :
    Except Failure (Option Int × Option Int) :=
  match routes.find? fun r => r.name = some spec.routeName,
      vehicles.find? fun v => v.code = some spec.vehicleCode with
  | some route, some vehicle => .ok (some route.id, some vehicle.id)
  | _, _ => .error .keyError

/-- The user with this e-mail, created with this role and assignment when missing. -/
def seedUser (n : Nat) (email : String) (isAdmin : Bool)
    (assignment : Except Failure (Option Int × Option Int)) (db : DB) :
    Except Failure (User × Bool × DB) :=
  match db.users.scalar fun u => u.email = some email with
  | some user => .ok (user, false, db)
  | none =>
      match assignment with
      | .error failure => .error failure
      | .ok (routeId, vehicleId) =>
          (E.insertUserRow db
            { id := 0, email := some email,
              hashedPassword := hashPassword n settings.seedPassword,
              isAdmin, routeId, vehicleId, createdAt := now }).map
            fun (row, db) => (row, true, db)

def seedAssignment (routes : List BusRoute) (vehicles : List Vehicle) (n : Nat)
    (spec : AssignmentSpec) (db : DB) : Except Failure (User × Bool × DB) :=
  seedUser E settings hashPassword now n spec.email false (demoPair routes vehicles spec) db

/-- The second transaction: everything after the wipe. -/
def seedMissing (db : DB) : Except Failure (Created × DB) :=
  match seedEach (fun _ => seedRoute E now) 0 demoRoutes db with
  | .error failure => .error failure
  | .ok (routes, newRoutes, db) =>
      match seedEach (fun _ => seedVehicle E now) 0 demoVehicles db with
      | .error failure => .error failure
      | .ok (vehicles, newVehicles, db) =>
          match seedUser E settings hashPassword now 0 adminEmail true (.ok (none, none)) db with
          | .error failure => .error failure
          | .ok (_, newAdmin, db) =>
              match seedEach (seedAssignment E settings hashPassword now routes vehicles) 1
                  demoAssignments db with
              | .error failure => .error failure
              | .ok (_, newUsers, db) =>
                  .ok (⟨newRoutes, newVehicles, newAdmin.toNat + newUsers⟩, db)

/-- The counts of created rows, and the database afterwards. -/
def seed (fresh : Bool) (db : DB) : Except Failure Created × DB :=
  if fresh then
    match truncate E db with
    | .error failure => (.error failure, db)
    | .ok wiped => settle wiped (seedMissing E settings hashPassword now wiped)
  else settle db (seedMissing E settings hashPassword now db)

end

end FleetTracking
