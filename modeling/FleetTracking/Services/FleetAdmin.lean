import FleetTracking.Services.Tracking

/-!
# Fleet administration

CRUD for routes, vehicles and users, and the assignment of one route and one vehicle to a
user.  Each call runs in a session of its own: it answers with its result and the database
it commits, or it raises and its transaction is rolled back.  The calls on an existing row
take the row the endpoint has loaded.

`hashPassword` is the password hasher with the salt it draws for this call.
-/

namespace FleetTracking

open Relational Python Pydantic

def notFound (message : Message) (code : String) : Failure := .app ⟨.notFoundError, message, code⟩

def conflict (message : Message) (code : String) : Failure := .app ⟨.conflictError, message, code⟩

/-- What a partial update says about a nullable column: nothing, or its new value. -/
def change {α β : Type} (f : α → β) : Patch α → Option (Option β)
  | .unset => none
  | .null => some none
  | .value a => some (some (f a))

/-- `if key in changes and changes[key] != row.key:` look for another row that has the
value already. -/
def changeUnique {ρ : Type} [SerialKeyed ρ] (E : Engine) (t : Serial ρ)
    (col : ρ → Option String) (taken : Option String → Failure) (current : Option String) :
    Option (Option String) → Except Failure (Option String)
  | none => .ok current
  | some new =>
      if new = current then .ok current
      else if new.all E.text then
        match t.scalar fun r => col r = new with
        | some _ => .error (taken new)
        | none => .ok new
      else .error .dbapiError

/-- `await db.get(table, k)`, or the error that tells what is missing. -/
def getOrMissing {ρ : Type} [SerialKeyed ρ] (E : Engine) (t : Serial ρ)
    (missing : Int → Failure) (k : Int) : Except Failure ρ :=
  if E.bigint k then
    match t.get k with
    | some row => .ok row
    | none => .error (missing k)
  else .error .dbapiError

section

variable (E : Engine) (db : DB)

/-! ## Routes -/

def routeNameTaken (name : Option String) : Failure :=
  conflict (.routeNameTaken name) "route_name_taken"

def createRoute (now : Int) (data : RouteCreate) : Except Failure (BusRoute × DB) :=
  if E.text data.name then
    match db.busRoutes.scalar fun r => r.name = some data.name.1 with
    | some _ => .error (routeNameTaken (some data.name))
    | none =>
        let waypoints := data.waypoints.1.map Waypoint.modelDump
        if E.jsonb waypoints then
          E.insertRouteRow db { id := 0, name := some data.name, waypoints, createdAt := now }
        else .error .dbapiError
  else .error .dbapiError

def listRoutes : List BusRoute := db.busRoutes.rows

def getRoute (routeId : Int) : Except Failure BusRoute :=
  getOrMissing E db.busRoutes (fun k => notFound (.routeNotFound k) "route_not_found") routeId

def updateRoute (route : BusRoute) (data : RouteUpdate) : Except Failure (BusRoute × DB) :=
  match changeUnique E db.busRoutes BusRoute.name routeNameTaken route.name
      (change Subtype.val data.name) with
  | .error failure => .error failure
  | .ok name =>
      let given := data.waypoints.toOption.map fun waypoints => waypoints.1.map Waypoint.modelDump
      let waypoints := given.getD route.waypoints
      let changed := { route with name, waypoints }
      if waypoints = route.waypoints ∨ E.jsonb waypoints then
        (E.updateRouteRow db route changed).map fun db' => (changed, db')
      else .error .dbapiError

def deleteRoute (route : BusRoute) : Except Failure DB :=
  let inUse := db.users.count fun u => u.routeId = some route.id
  if inUse ≠ 0 then .error (conflict (.routeInUse inUse) "route_in_use")
  else E.deleteRouteRow db route.id

/-! ## Vehicles -/

def vehicleCodeTaken (code : Option String) : Failure :=
  conflict (.vehicleCodeTaken code) "vehicle_code_taken"

def createVehicle (now : Int) (data : VehicleCreate) : Except Failure (Vehicle × DB) :=
  match db.vehicles.scalar fun v => v.code = some data.code.1.1 with
  | some _ => .error (vehicleCodeTaken (some data.code))
  | none =>
      if E.text data.name then
        E.insertVehicleRow db
          { id := 0, code := some data.code, name := some data.name,
            isActive := some data.isActive, createdAt := now }
      else .error .dbapiError

def listVehicles : List Vehicle := db.vehicles.rows

/-- A row of the admin fleet view. -/
structure AdminVehicleOut where
  id : Int
  code : String
  name : String
  isActive : Bool
  createdAt : Int
  currentLocation : Option VehicleLiveOut
deriving DecidableEq

/-- `_admin_vehicle_out` -/
def adminVehicleOut (now : Int) (vehicle : Vehicle) : Except Failure AdminVehicleOut := do
  let live ← (db.vehicleCurrentLocation.get vehicle.id).mapM fun loc => do
    return {
      vehicleId := vehicle.id
      vehicleCode := ← requireStr vehicle.code
      lat := some loc.lat.1
      lng := some loc.lng.1
      speed := some loc.speed.1
      recordedAt := some loc.recordedAt
      status := ← deriveStatus (some loc.recordedAt) (some loc.speed.1) now : VehicleLiveOut }
  let isActive ←
    match vehicle.isActive with
    | some isActive => .ok isActive
    | none => .error .responseValidationError
  return {
    id := vehicle.id
    code := ← requireStr vehicle.code
    name := ← requireStr vehicle.name
    isActive
    createdAt := vehicle.createdAt
    currentLocation := live }

def listVehiclesWithLocation (now : Int) : Except Failure (List AdminVehicleOut) :=
  db.vehicles.rows.mapM (adminVehicleOut db now)

def getVehicle (vehicleId : Int) : Except Failure Vehicle :=
  getOrMissing E db.vehicles (fun k => notFound (.vehicleNotFound k) "vehicle_not_found")
    vehicleId

def updateVehicle (vehicle : Vehicle) (data : VehicleUpdate) : Except Failure (Vehicle × DB) :=
  match changeUnique E db.vehicles Vehicle.code vehicleCodeTaken vehicle.code
      (change (fun code => code.1.1) data.code) with
  | .error failure => .error failure
  | .ok code =>
      let name := (change Subtype.val data.name).getD vehicle.name
      let isActive := (change id data.isActive).getD vehicle.isActive
      let changed := { vehicle with code, name, isActive }
      if name = vehicle.name ∨ name.all E.text then
        (E.updateVehicleRow db vehicle changed).map fun db' => (changed, db')
      else .error .dbapiError

def deleteVehicle (vehicle : Vehicle) : Except Failure DB :=
  let assigned := db.users.count fun u => u.vehicleId = some vehicle.id
  if assigned ≠ 0 then .error (conflict (.vehicleAssigned assigned) "vehicle_in_use")
  else
    let hasHistory := db.gpsPoints.count fun p => p.vehicleId = vehicle.id
    let hasCurrent := db.vehicleCurrentLocation.get vehicle.id
    if hasHistory ≠ 0 ∨ hasCurrent.isSome then
      .error (conflict .vehicleHasTrackingData "vehicle_in_use")
    else E.deleteVehicleRow db vehicle.id

/-! ## Users -/

def emailTaken (email : Option String) : Failure := conflict (.emailTaken email) "email_taken"

def createUser (hashPassword : String → String) (now : Int) (data : UserCreate) :
    Except Failure (User × DB) :=
  if E.text data.email then
    match db.users.scalar fun u => u.email = some data.email with
    | some _ => .error (emailTaken (some data.email))
    | none =>
        E.insertUserRow db
          { id := 0, email := some data.email, hashedPassword := hashPassword data.password,
            isAdmin := data.isAdmin, routeId := none, vehicleId := none, createdAt := now }
  else .error .dbapiError

def listUsers : List User := db.users.rows

def getUser (userId : Int) : Except Failure User :=
  getOrMissing E db.users (fun k => notFound (.userNotFound k) "user_not_found") userId

def updateUser (hashPassword : String → String) (user : User) (data : UserUpdate) :
    Except Failure (User × DB) :=
  match changeUnique E db.users User.email emailTaken user.email (change id data.email) with
  | .error failure => .error failure
  | .ok email =>
      let given := data.password.toOption.map fun password => hashPassword password
      let hashedPassword := given.getD user.hashedPassword
      let isAdmin := data.isAdmin.toOption.getD user.isAdmin
      let changed := { user with email, hashedPassword, isAdmin }
      (E.updateUserRow db user changed).map fun db' => (changed, db')

def deleteUser (user : User) : Except Failure DB := E.deleteUserRow db user.id

/-! ## Assignment -/

def routeAlreadyAssigned (other : User) : Failure :=
  conflict (.routeAlreadyAssigned other.email) "route_already_assigned"

def vehicleAlreadyAssigned (other : User) : Failure :=
  conflict (.vehicleAlreadyAssigned other.email) "vehicle_already_assigned"

/-- `select(User).where(User.route_id == route_id, User.id != user_id)` -/
def otherRouteUser (routeId userId : Int) : Option User :=
  db.users.scalar fun u => u.routeId = some routeId ∧ u.id ≠ userId

/-- `select(User).where(User.vehicle_id == vehicle_id, User.id != user_id)` -/
def otherVehicleUser (vehicleId userId : Int) : Option User :=
  db.users.scalar fun u => u.vehicleId = some vehicleId ∧ u.id ≠ userId

def setAssignment (userId : Int) (data : AssignmentUpdate) : Except Failure (User × DB) :=
  match getUser E db userId with
  | .error failure => .error failure
  | .ok user =>
      match data.routeId, data.vehicleId with
      | some routeId, some vehicleId =>
          match getRoute E db routeId with
          | .error failure => .error failure
          | .ok route =>
              match getVehicle E db vehicleId with
              | .error failure => .error failure
              | .ok vehicle =>
                  match otherRouteUser db route.id user.id with
                  | some other => .error (routeAlreadyAssigned other)
                  | none =>
                      match otherVehicleUser db vehicle.id user.id with
                      | some other => .error (vehicleAlreadyAssigned other)
                      | none =>
                          let changed := { user with
                            routeId := some route.id, vehicleId := some vehicle.id }
                          (E.updateAssignmentRow db user changed).map fun db' => (changed, db')
      -- `AssignmentUpdate.pair`: the other three cases are null/null.
      | _, _ =>
          let changed := { user with routeId := none, vehicleId := none }
          (E.updateAssignmentRow db user changed).map fun db' => (changed, db')

end

end FleetTracking
