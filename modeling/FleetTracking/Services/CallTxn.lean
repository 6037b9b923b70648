import FleetTracking.Operations
import FleetTracking.Relational.Locking
import FleetTracking.Services.AssignmentTxn

/-!
# Every call, statement by statement

The calls of `Operations`, one database statement at a time and with the locks that PostgreSQL
takes for each.  A session loads its row, looks for what would clash, and sends one `INSERT`,
`UPDATE` or `DELETE`; the GPS handler sends two.  An `UPDATE` sets the columns that differ from
the row as it was loaded, and finds the row gone or as it is by then; a `DELETE` of a row that is
gone deletes nothing.  The `refresh` after a commit is left out: it reads the row once more, which
raises if somebody has deleted it by then, and changes no table.

`Call.txn_solo` says that the statements of a call, running alone, are the call.
-/

namespace FleetTracking

open Relational ReadCommitted Pydantic

/-- What sessions lock: rows, and values of unique columns. -/
inductive Lockable
  | route (routeId : Int)
  | vehicle (vehicleId : Int)
  | user (userId : Int)
  | currentLocation (vehicleId : Int)
  | routeName (name : Option String)
  | vehicleCode (code : Option String)
  | email (email : Option String)
deriving DecidableEq

/-- Statements of a call.  A call answers whether it did what it was asked. -/
abbrev CallStatement := Write DB (Locks Lockable) (Except Failure Bool)

abbrev CallTxn := Txn DB (Locks Lockable) (Except Failure Bool)

/-! ## Statements -/

namespace Sql

/-- An `INSERT` that draws its id from a sequence. -/
def insert (E : Engine) (locks : Locks Lockable) (run : DB → Except Failure DB)
    (drawn : DB → DB) : CallStatement where
  lock := some locks
  stmt db := (run db).mapError .error
  residue db := if E.gapless then db else drawn db

/-- A statement that draws nothing from a sequence. -/
def plain (locks : Locks Lockable) (run : DB → Except Failure DB) : CallStatement where
  lock := some locks
  stmt db := (run db).mapError .error
  residue := id

/-- `UPDATE` of a row by its id; one that is gone is stale. -/
def update {ρ : Type} [SerialKeyed ρ] (locks : Locks Lockable) (table : DB → Serial ρ) (k : Int)
    (run : DB → ρ → Except Failure DB) : CallStatement :=
  plain locks fun db =>
    match (table db).get k with
    | none => .error .staleDataError
    | some row => run db row

/-- The row, and the entry of the unique index when the value changes: the row is locked then as
for a `DELETE`. -/
def rowAndEntry (row : Lockable) (value : Option String → Lockable) (old new : Option String) :
    Locks Lockable :=
  if new = old then [(row, .noKeyUpdate)] else [(row, .update), (value new, .update)]

/-- The row that a changed foreign key refers to. -/
def reference (lockable : Int → Lockable) (old : Option Int) : Option Int → Locks Lockable
  | some k => if some k = old then [] else [(lockable k, .keyShare)]
  | none => []

/-- `row` with the columns in which `new` differs from `loaded`. -/
def setRoute (loaded new row : BusRoute) : BusRoute :=
  { row with
    name := if new.name = loaded.name then row.name else new.name
    waypoints := if new.waypoints = loaded.waypoints then row.waypoints else new.waypoints }

@[inherit_doc setRoute]
def setVehicle (loaded new row : Vehicle) : Vehicle :=
  { row with
    code := if new.code = loaded.code then row.code else new.code
    name := if new.name = loaded.name then row.name else new.name
    isActive := if new.isActive = loaded.isActive then row.isActive else new.isActive }

@[inherit_doc setRoute]
def setUser (loaded new row : User) : User :=
  { row with
    email := if new.email = loaded.email then row.email else new.email
    hashedPassword :=
      if new.hashedPassword = loaded.hashedPassword then row.hashedPassword
      else new.hashedPassword
    isAdmin := if new.isAdmin = loaded.isAdmin then row.isAdmin else new.isAdmin }

variable (E : Engine)

def insertRoute (r : BusRoute) : CallStatement :=
  insert E [(.routeName r.name, .update)] (fun db => (E.insertRouteRow db r).map Prod.snd)
    fun db => { db with busRoutes := db.busRoutes.skip }

def updateRoute (loaded new : BusRoute) : CallStatement :=
  update (rowAndEntry (.route loaded.id) .routeName loaded.name new.name)
    DB.busRoutes loaded.id fun db row => E.updateRouteRow db row (setRoute loaded new row)

def deleteRoute (routeId : Int) : CallStatement :=
  plain [(.route routeId, .update)] fun db => E.deleteRouteRow db routeId

def insertVehicle (v : Vehicle) : CallStatement :=
  insert E [(.vehicleCode v.code, .update)] (fun db => (E.insertVehicleRow db v).map Prod.snd)
    fun db => { db with vehicles := db.vehicles.skip }

def updateVehicle (loaded new : Vehicle) : CallStatement :=
  update (rowAndEntry (.vehicle loaded.id) .vehicleCode loaded.code new.code)
    DB.vehicles loaded.id fun db row => E.updateVehicleRow db row (setVehicle loaded new row)

def deleteVehicle (vehicleId : Int) : CallStatement :=
  plain [(.vehicle vehicleId, .update)] fun db => E.deleteVehicleRow db vehicleId

def insertUser (u : User) : CallStatement :=
  insert E [(.email u.email, .update)] (fun db => (E.insertUserRow db u).map Prod.snd)
    fun db => { db with users := db.users.skip }

def updateUser (loaded new : User) : CallStatement :=
  update (rowAndEntry (.user loaded.id) .email loaded.email new.email)
    DB.users loaded.id fun db row => E.updateUserRow db row (setUser loaded new row)

def deleteUser (userId : Int) : CallStatement :=
  plain [(.user userId, .update)] fun db => E.deleteUserRow db userId

/-- `UPDATE users` of the foreign keys that differ from `user` as it was loaded. -/
def updateAssignment (user : User) (routeId vehicleId : Option Int) : CallStatement :=
  update ((.user user.id, .noKeyUpdate) ::
      (reference .route user.routeId routeId ++ reference .vehicle user.vehicleId vehicleId))
    DB.users user.id fun db row =>
      E.updateAssignmentRow db row (user.reassigned routeId vehicleId row)

end Sql

/-! ## Transactions -/

section

variable (E : Engine)

/-- `await db.get(table, k)`, or the error that tells what is missing. -/
def fetch {ρ : Type} [SerialKeyed ρ] (table : DB → Serial ρ) (missing : Int → Failure) (k : Int)
    (next : DB → ρ → CallTxn) : CallTxn :=
  if E.bigint k then
    .select fun db =>
      match (table db).get k with
      | some row => next db row
      | none => .rollback (.error (missing k))
  else .rollback (.error .dbapiError)

/-- `if await db.scalar(query): raise failure` -/
def rejectIf {α : Type} (query : DB → Option α) (failure : α → Failure) (next : CallTxn) :
    CallTxn :=
  .select fun db =>
    match query db with
    | some found => .rollback (.error (failure found))
    | none => next

/-- Look for another row that has the value already, if it changes. -/
def changeUniqueTxn {ρ : Type} [SerialKeyed ρ] (table : DB → Serial ρ) (col : ρ → Option String)
    (taken : Option String → Failure) (current : Option String) (next : Option String → CallTxn) :
    Option (Option String) → CallTxn
  | none => next current
  | some new =>
      if new = current then next current
      else if new.all E.text then
        rejectIf (fun db => (table db).scalar fun r => col r = new) (fun _ => taken new) (next new)
      else .rollback (.error .dbapiError)

/-- Send the statement, if there is one, and commit. -/
def save (statement : Option CallStatement) : CallTxn :=
  match statement with
  | none => .commit (.ok true)
  | some w => .write w (.commit (.ok true))

def fetchRoute (routeId : Int) (next : DB → BusRoute → CallTxn) : CallTxn :=
  fetch E DB.busRoutes (fun k => notFound (.routeNotFound k) "route_not_found") routeId next

def fetchVehicle (vehicleId : Int) (next : DB → Vehicle → CallTxn) : CallTxn :=
  fetch E DB.vehicles (fun k => notFound (.vehicleNotFound k) "vehicle_not_found") vehicleId next

def fetchUser (userId : Int) (next : DB → User → CallTxn) : CallTxn :=
  fetch E DB.users (fun k => notFound (.userNotFound k) "user_not_found") userId next

/-! ### Routes -/

def createRouteTxn (now : Int) (data : RouteCreate) : CallTxn :=
  if E.text data.name then
    rejectIf (fun db => db.busRoutes.scalar fun r => r.name = some data.name.1)
        (fun _ => routeNameTaken (some data.name)) <|
      let waypoints := data.waypoints.1.map Waypoint.modelDump
      if E.jsonb waypoints then
        save (some (Sql.insertRoute E
          { id := 0, name := some data.name, waypoints, createdAt := now }))
      else .rollback (.error .dbapiError)
  else .rollback (.error .dbapiError)

def updateRouteTxn (routeId : Int) (data : RouteUpdate) : CallTxn :=
  fetchRoute E routeId fun _ route =>
    changeUniqueTxn E DB.busRoutes BusRoute.name routeNameTaken route.name
      (fun name =>
        let given := data.waypoints.toOption.map fun waypoints =>
          waypoints.1.map Waypoint.modelDump
        let waypoints := given.getD route.waypoints
        let changed := { route with name, waypoints }
        if waypoints = route.waypoints ∨ E.jsonb waypoints then
          save (if changed = route then none else some (Sql.updateRoute E route changed))
        else .rollback (.error .dbapiError))
      (change Subtype.val data.name)

def deleteRouteTxn (routeId : Int) : CallTxn :=
  fetchRoute E routeId fun _ route =>
    .select fun db =>
      let inUse := db.users.count fun u => u.routeId = some route.id
      if inUse ≠ 0 then .rollback (.error (conflict (.routeInUse inUse) "route_in_use"))
      else save (some (Sql.deleteRoute E route.id))

/-! ### Vehicles -/

def createVehicleTxn (now : Int) (data : VehicleCreate) : CallTxn :=
  rejectIf (fun db => db.vehicles.scalar fun v => v.code = some data.code.1.1)
      (fun _ => vehicleCodeTaken (some data.code)) <|
    if E.text data.name then
      save (some (Sql.insertVehicle E
        { id := 0, code := some data.code, name := some data.name,
          isActive := some data.isActive, createdAt := now }))
    else .rollback (.error .dbapiError)

def updateVehicleTxn (vehicleId : Int) (data : VehicleUpdate) : CallTxn :=
  fetchVehicle E vehicleId fun _ vehicle =>
    changeUniqueTxn E DB.vehicles Vehicle.code vehicleCodeTaken vehicle.code
      (fun code =>
        let name := (change Subtype.val data.name).getD vehicle.name
        let isActive := (change id data.isActive).getD vehicle.isActive
        let changed := { vehicle with code, name, isActive }
        if name = vehicle.name ∨ name.all E.text then
          save (if changed = vehicle then none else some (Sql.updateVehicle E vehicle changed))
        else .rollback (.error .dbapiError))
      (change (fun code => code.1.1) data.code)

/-- The last query of `delete_vehicle`: a current location that was joined in is in the session
already. -/
def deleteUntracked (vehicle : Vehicle) (hasHistory : Nat) (hasCurrent : Bool) : CallTxn :=
  if hasHistory ≠ 0 ∨ hasCurrent then
    .rollback (.error (conflict .vehicleHasTrackingData "vehicle_in_use"))
  else save (some (Sql.deleteVehicle E vehicle.id))

def deleteVehicleTxn (vehicleId : Int) : CallTxn :=
  fetchVehicle E vehicleId fun loaded vehicle =>
    .select fun db =>
      let assigned := db.users.count fun u => u.vehicleId = some vehicle.id
      if assigned ≠ 0 then
        .rollback (.error (conflict (.vehicleAssigned assigned) "vehicle_in_use"))
      else
        .select fun db =>
          let hasHistory := db.gpsPoints.count fun p => p.vehicleId = vehicle.id
          if (loaded.vehicleCurrentLocation.get vehicle.id).isSome then
            deleteUntracked E vehicle hasHistory true
          else
            .select fun db =>
              deleteUntracked E vehicle hasHistory
                (db.vehicleCurrentLocation.get vehicle.id).isSome

/-! ### Users -/

def createUserTxn (hashPassword : String → String) (now : Int) (data : UserCreate) : CallTxn :=
  if E.text data.email then
    rejectIf (fun db => db.users.scalar fun u => u.email = some data.email)
        (fun _ => emailTaken (some data.email)) <|
      save (some (Sql.insertUser E
        { id := 0, email := some data.email, hashedPassword := hashPassword data.password,
          isAdmin := data.isAdmin, routeId := none, vehicleId := none, createdAt := now }))
  else .rollback (.error .dbapiError)

def updateUserTxn (hashPassword : String → String) (userId : Int) (data : UserUpdate) :
    CallTxn :=
  fetchUser E userId fun _ user =>
    changeUniqueTxn E DB.users User.email emailTaken user.email
      (fun email =>
        let given := data.password.toOption.map fun password => hashPassword password
        let hashedPassword := given.getD user.hashedPassword
        let isAdmin := data.isAdmin.toOption.getD user.isAdmin
        let changed := { user with email, hashedPassword, isAdmin }
        save (if changed = user then none else some (Sql.updateUser E user changed)))
      (change id data.email)

def deleteUserTxn (userId : Int) : CallTxn :=
  fetchUser E userId fun _ user => save (some (Sql.deleteUser E user.id))

/-! ### Assignment -/

/-- `await db.get(table, k)` in a session that has loaded `loaded`. -/
def fetchAgain {ρ : Type} [SerialKeyed ρ] (table : DB → Serial ρ) (missing : Int → Failure)
    (loaded : Option ρ) (k : Int) (next : ρ → CallTxn) : CallTxn :=
  if E.bigint k then
    match loaded.filter fun row => Keyed.key row = k with
    | some row => next row
    | none =>
        .select fun db =>
          match (table db).get k with
          | some row => next row
          | none => .rollback (.error (missing k))
  else .rollback (.error .dbapiError)

/-- Set the foreign keys and commit. -/
def saveForeignKeys (user : User) (routeId vehicleId : Option Int) : CallTxn :=
  save (if routeId = user.routeId ∧ vehicleId = user.vehicleId then none
    else some (Sql.updateAssignment E user routeId vehicleId))

def assignTxn (userId : Int) (data : AssignmentUpdate) : CallTxn :=
  fetchUser E userId fun db user =>
    match data.routeId, data.vehicleId with
    | some routeId, some vehicleId =>
        fetchAgain E DB.busRoutes (fun k => notFound (.routeNotFound k) "route_not_found")
            (user.routeId.bind db.busRoutes.get) routeId fun route =>
          fetchAgain E DB.vehicles (fun k => notFound (.vehicleNotFound k) "vehicle_not_found")
              (user.vehicleId.bind db.vehicles.get) vehicleId fun vehicle =>
            rejectIf (otherRouteUser · route.id user.id) routeAlreadyAssigned <|
              rejectIf (otherVehicleUser · vehicle.id user.id) vehicleAlreadyAssigned <|
                saveForeignKeys E user (some route.id) (some vehicle.id)
    | _, _ => saveForeignKeys E user none none

/-! ### The handler -/

/-- A new row refers to its vehicle; a current location is inserted or overwritten. -/
def fixLocks : FixLocks (Locks Lockable) where
  point m := some [(.vehicle m.vehicleId, .keyShare)]
  insert m := [(.currentLocation m.vehicleId, .update), (.vehicle m.vehicleId, .keyShare)]
  update m := [(.currentLocation m.vehicleId, .noKeyUpdate)]

def ingestTxn (m : GPSMessage) : CallTxn := handleGpsMessageTxn E fixLocks m

end

/-- The statements of a call. -/
def Call.txn (E : Engine) (a : Ambient) : Call → CallTxn
  | createRoute data => createRouteTxn E a.now data
  | updateRoute routeId data => updateRouteTxn E routeId data
  | deleteRoute routeId => deleteRouteTxn E routeId
  | createVehicle data => createVehicleTxn E a.now data
  | updateVehicle vehicleId data => updateVehicleTxn E vehicleId data
  | deleteVehicle vehicleId => deleteVehicleTxn E vehicleId
  | createUser data => createUserTxn E (a.hashPassword 0) a.now data
  | updateUser userId data => updateUserTxn E (a.hashPassword 0) userId data
  | deleteUser userId => deleteUserTxn E userId
  | setAssignment userId data => assignTxn E userId data
  | handleGpsMessage m => ingestTxn E m

/-! ## The statements running alone are the call -/

/-- What a call answers and the database it commits, or what it raises. -/
def Call.reply (E : Engine) (a : Ambient) (db : DB) : Call → Except Failure (Bool × DB)
  | handleGpsMessage m => FleetTracking.handleGpsMessage E db m
  | c => (c.perform E a db).map fun db' => (true, db')

section

variable {E : Engine} {db : DB}

/-- A call that has nothing left to do but to answer. -/
def answered (db : DB) (result : Except Failure DB) : Except Failure Bool × DB :=
  settle db (result.map fun db' => (true, db'))

theorem select_solo {next : DB → CallTxn} :
    (Txn.select next).solo [] db = (next db).solo [] db := rfl

theorem rejectIf_solo {α : Type} {query : DB → Option α} {failure : α → Failure}
    {next : CallTxn} : (rejectIf query failure next).solo [] db =
      match query db with
      | some found => (.error (failure found), db)
      | none => next.solo [] db := by
  simp only [rejectIf, Txn.solo, visible_nil]
  cases query db <;> rfl

theorem fetch_solo {ρ : Type} [SerialKeyed ρ] {table : DB → Serial ρ} {missing : Int → Failure}
    {k : Int} {next : DB → ρ → CallTxn} :
    (fetch E table missing k next).solo [] db =
      match getOrMissing E (table db) missing k with
      | .ok row => (next db row).solo [] db
      | .error failure => (.error failure, db) := by
  unfold fetch getOrMissing
  split
  · simp only [Txn.solo, visible_nil]
    cases (table db).get k <;> rfl
  · rfl

theorem changeUniqueTxn_solo {ρ : Type} [SerialKeyed ρ] {table : DB → Serial ρ}
    {col : ρ → Option String} {taken : Option String → Failure} {current : Option String}
    {next : Option String → CallTxn} {changed : Option (Option String)} :
    (changeUniqueTxn E table col taken current next changed).solo [] db =
      match changeUnique E (table db) col taken current changed with
      | .ok value => (next value).solo [] db
      | .error failure => (.error failure, db) := by
  cases changed with
  | none => rfl
  | some new =>
      simp only [changeUniqueTxn, changeUnique]
      split
      · rfl
      · split
        · rw [rejectIf_solo]
          cases (table db).scalar fun r => col r = new <;> rfl
        · rfl

theorem save_solo_ok {w : CallStatement} {db' : DB} (stmt : w.stmt db = .ok db') :
    (save (some w)).solo [] db = (.ok true, db') := by
  simp only [save, Txn.solo, visible_nil, stmt, List.nil_append]
  exact congrArg _ (Write.apply_of_ok stmt)

/-- A statement that leaves nothing behind when it is rejected. -/
theorem save_solo {w : CallStatement} {result : Except Failure DB}
    (stmt : w.stmt db = result.mapError .error) (spared : w.residue db = db) :
    (save (some w)).solo [] db = answered db result := by
  cases result with
  | error failure =>
      simp only [save, Txn.solo, visible_nil, stmt, Except.mapError]
      exact congrArg _ spared
  | ok db' => exact save_solo_ok stmt

/-- An `INSERT` that no constraint rejects. -/
theorem insert_solo {ρ : Type} {locks : Locks Lockable} {run : DB → Except Failure (ρ × DB)}
    {drawn : DB → DB} {row : ρ} {db' : DB} (accepted : run db = .ok (row, db')) :
    (save (some (Sql.insert E locks (fun db => (run db).map Prod.snd) drawn))).solo [] db =
      answered db ((run db).map Prod.snd) := by
  have stmt : (Sql.insert E locks (fun db => (run db).map Prod.snd) drawn).stmt db = .ok db' := by
    simp only [Sql.insert, accepted, Except.map, Except.mapError]
  rw [accepted]
  exact save_solo_ok stmt

/-- What comes after the row was fetched. -/
theorem answered_bind {ρ : Type} {row : Except Failure ρ} {f : ρ → Except Failure DB} :
    answered db (row.bind f) =
      match row with
      | .ok row => answered db (f row)
      | .error failure => (.error failure, db) := by
  cases row <;> rfl

/-- A column that was set holds the new value. -/
theorem keep_or_set {α : Type} [DecidableEq α] {old new : α} :
    (if new = old then old else new) = new := by
  split
  · next same => exact same.symm
  · rfl

theorem createRouteTxn_solo {now : Int} {data : RouteCreate} :
    (createRouteTxn E now data).solo [] db =
      answered db ((createRoute E db now data).map Prod.snd) := by
  unfold createRouteTxn createRoute
  split
  · rw [rejectIf_solo]
    cases found : db.busRoutes.scalar fun r => r.name = some data.name.1 with
    | some taken => rfl
    | none =>
        dsimp only
        split
        · exact insert_solo (Engine.insertRouteRow_ok rfl (Table.ne_of_scalar found))
        · rfl
  · rfl

/-- An `UPDATE` of the row as it was loaded. -/
theorem stmt_update {ρ : Type} [SerialKeyed ρ] {table : DB → Serial ρ} {row : ρ} {k : Int}
    {locks : Locks Lockable} {run : DB → ρ → Except Failure DB}
    (found : (table db).get k = some row) :
    (Sql.update locks table k run).stmt db = (run db row).mapError .error := by
  simp only [Sql.update, Sql.plain, found]

/-- The row that a call answers is not committed. -/
theorem answered_pair {α : Type} {result : Except Failure DB} {row : α} :
    answered db ((result.map fun db' => (row, db')).map Prod.snd) = answered db result := by
  cases result <;> rfl

theorem updateRoute_solo {route : BusRoute} {name : Option String} {waypoints : List LatLng}
    (found : db.busRoutes.get route.id = some route) :
    (save (if { route with name, waypoints } = route then none
      else some (Sql.updateRoute E route { route with name, waypoints }))).solo [] db =
      answered db (E.updateRouteRow db route { route with name, waypoints }) := by
  split
  · next same =>
      rw [same, Engine.updateRouteRow, if_pos rfl]
      rfl
  · refine save_solo ?_ rfl
    rw [Sql.updateRoute, stmt_update found]
    simp only [Sql.setRoute, keep_or_set]

theorem updateRouteTxn_solo {routeId : Int} {data : RouteUpdate} :
    (updateRouteTxn E routeId data).solo [] db =
      answered db ((getRoute E db routeId).bind fun route =>
        (updateRoute E db route data).map Prod.snd) := by
  rw [updateRouteTxn, fetchRoute, fetch_solo, ← getRoute, answered_bind]
  cases loaded : getRoute E db routeId with
  | error failure => rfl
  | ok route =>
      obtain ⟨found, rfl⟩ := getOrMissing_eq_ok loaded
      dsimp only
      rw [changeUniqueTxn_solo, updateRoute]
      cases changeUnique E db.busRoutes BusRoute.name routeNameTaken route.name
          (change Subtype.val data.name) with
      | error failure => rfl
      | ok name =>
          dsimp only
          split
          · rw [updateRoute_solo found, answered_pair]
          · rfl

theorem deleteRouteTxn_solo {routeId : Int} :
    (deleteRouteTxn E routeId).solo [] db =
      answered db ((getRoute E db routeId).bind fun route => deleteRoute E db route) := by
  rw [deleteRouteTxn, fetchRoute, fetch_solo, ← getRoute, answered_bind]
  cases getRoute E db routeId with
  | error failure => rfl
  | ok route =>
      simp only [select_solo, deleteRoute]
      by_cases used : db.users.count (fun u => u.routeId = some route.id) ≠ 0
      · rw [if_pos used, if_pos used]
        rfl
      · rw [if_neg used, if_neg used]
        exact save_solo rfl rfl

theorem createVehicleTxn_solo {now : Int} {data : VehicleCreate} :
    (createVehicleTxn E now data).solo [] db =
      answered db ((createVehicle E db now data).map Prod.snd) := by
  unfold createVehicleTxn createVehicle
  rw [rejectIf_solo]
  cases found : db.vehicles.scalar fun v => v.code = some data.code.1.1 with
  | some taken => rfl
  | none =>
      dsimp only
      split
      · exact insert_solo (Engine.insertVehicleRow_ok rfl rfl rfl (Table.ne_of_scalar found))
      · rfl

theorem updateVehicle_solo {vehicle : Vehicle} {code name : Option String}
    {isActive : Option Bool} (found : db.vehicles.get vehicle.id = some vehicle) :
    (save (if { vehicle with code, name, isActive } = vehicle then none
      else some (Sql.updateVehicle E vehicle { vehicle with code, name, isActive }))).solo [] db =
      answered db (E.updateVehicleRow db vehicle { vehicle with code, name, isActive }) := by
  split
  · next same =>
      rw [same, Engine.updateVehicleRow, if_pos rfl]
      rfl
  · refine save_solo ?_ rfl
    rw [Sql.updateVehicle, stmt_update found]
    simp only [Sql.setVehicle, keep_or_set]

theorem updateVehicleTxn_solo {vehicleId : Int} {data : VehicleUpdate} :
    (updateVehicleTxn E vehicleId data).solo [] db =
      answered db ((getVehicle E db vehicleId).bind fun vehicle =>
        (updateVehicle E db vehicle data).map Prod.snd) := by
  rw [updateVehicleTxn, fetchVehicle, fetch_solo, ← getVehicle, answered_bind]
  cases loaded : getVehicle E db vehicleId with
  | error failure => rfl
  | ok vehicle =>
      obtain ⟨found, rfl⟩ := getOrMissing_eq_ok loaded
      dsimp only
      rw [changeUniqueTxn_solo, updateVehicle]
      cases changeUnique E db.vehicles Vehicle.code vehicleCodeTaken vehicle.code
          (change (fun code => code.1.1) data.code) with
      | error failure => rfl
      | ok code =>
          dsimp only
          split
          · rw [updateVehicle_solo found, answered_pair]
          · rfl

theorem deleteUntracked_solo {vehicle : Vehicle} {hasHistory : Nat} {hasCurrent : Bool} :
    (deleteUntracked E vehicle hasHistory hasCurrent).solo [] db =
      answered db (if hasHistory ≠ 0 ∨ hasCurrent then
        .error (conflict .vehicleHasTrackingData "vehicle_in_use")
      else E.deleteVehicleRow db vehicle.id) := by
  unfold deleteUntracked
  split
  · rfl
  · exact save_solo rfl rfl

theorem deleteVehicleTxn_solo {vehicleId : Int} :
    (deleteVehicleTxn E vehicleId).solo [] db =
      answered db ((getVehicle E db vehicleId).bind fun vehicle => deleteVehicle E db vehicle) := by
  rw [deleteVehicleTxn, fetchVehicle, fetch_solo, ← getVehicle, answered_bind]
  cases getVehicle E db vehicleId with
  | error failure => rfl
  | ok vehicle =>
      simp only [select_solo, deleteVehicle]
      by_cases used : db.users.count (fun u => u.vehicleId = some vehicle.id) ≠ 0
      · rw [if_pos used, if_pos used]
        rfl
      · rw [if_neg used, if_neg used, select_solo]
        cases joined : (db.vehicleCurrentLocation.get vehicle.id).isSome with
        | true => exact deleteUntracked_solo
        | false =>
            rw [if_neg Bool.false_ne_true, select_solo, joined]
            exact deleteUntracked_solo

theorem createUserTxn_solo {hashPassword : String → String} {now : Int} {data : UserCreate} :
    (createUserTxn E hashPassword now data).solo [] db =
      answered db ((createUser E db hashPassword now data).map Prod.snd) := by
  unfold createUserTxn createUser
  split
  · rw [rejectIf_solo]
    cases found : db.users.scalar fun u => u.email = some data.email with
    | some taken => rfl
    | none =>
        exact insert_solo (Engine.insertUserRow_ok rfl (Table.ne_of_scalar found)
          (fun _ has => by cases has) fun _ has => by cases has)
  · rfl

theorem updateUser_solo {user : User} {email : Option String} {hashedPassword : String}
    {isAdmin : Bool} (found : db.users.get user.id = some user) :
    (save (if { user with email, hashedPassword, isAdmin } = user then none
      else some (Sql.updateUser E user { user with email, hashedPassword, isAdmin }))).solo [] db =
      answered db (E.updateUserRow db user { user with email, hashedPassword, isAdmin }) := by
  split
  · next same =>
      rw [same, Engine.updateUserRow, if_pos rfl]
      rfl
  · refine save_solo ?_ rfl
    rw [Sql.updateUser, stmt_update found]
    simp only [Sql.setUser, keep_or_set]

theorem updateUserTxn_solo {hashPassword : String → String} {userId : Int} {data : UserUpdate} :
    (updateUserTxn E hashPassword userId data).solo [] db =
      answered db ((getUser E db userId).bind fun user =>
        (updateUser E db hashPassword user data).map Prod.snd) := by
  rw [updateUserTxn, fetchUser, fetch_solo, ← getUser, answered_bind]
  cases loaded : getUser E db userId with
  | error failure => rfl
  | ok user =>
      obtain ⟨found, rfl⟩ := getOrMissing_eq_ok loaded
      dsimp only
      rw [changeUniqueTxn_solo, updateUser]
      cases changeUnique E db.users User.email emailTaken user.email (change id data.email) with
      | error failure => rfl
      | ok email =>
          dsimp only
          rw [updateUser_solo found, answered_pair]

theorem deleteUserTxn_solo {userId : Int} :
    (deleteUserTxn E userId).solo [] db =
      answered db ((getUser E db userId).bind fun user => deleteUser E db user) := by
  rw [deleteUserTxn, fetchUser, fetch_solo, ← getUser, answered_bind]
  cases getUser E db userId with
  | error failure => rfl
  | ok user => exact save_solo rfl rfl

/-- Locks and answer apart, the statements are those of `AssignmentTxn`. -/
def SameStatements (txn : CallTxn) (txn' : AssignmentTxn) : Prop :=
  txn.relock (fun _ => (none : Option Unit)) =
    (txn'.map fun result => result.map fun _ => true).relock fun _ => none

namespace SameStatements

theorem solo {txn : CallTxn} {txn' : AssignmentTxn} (same : SameStatements txn txn') :
    txn.solo [] db =
      ((txn'.solo [] db).1.map fun _ => true, (txn'.solo [] db).2) := by
  have alone : (txn.relock fun _ => (none : Option Unit)).solo [] db = txn.solo [] db :=
    Txn.relock_solo txn [] db
  rw [same] at alone
  rw [← alone]
  exact (Txn.relock_solo _ [] db).trans (Txn.map_solo _ txn' [] db)

theorem rollback {failure : Failure} :
    SameStatements (.rollback (.error failure)) (.rollback (.error failure)) := rfl

theorem select {next : DB → CallTxn} {next' : DB → AssignmentTxn}
    (same : ∀ db, SameStatements (next db) (next' db)) :
    SameStatements (.select next) (.select next') :=
  congrArg Txn.select (funext same)

theorem rejectIf {α : Type} {query : DB → Option α} {failure : α → Failure} {next : CallTxn}
    {next' : AssignmentTxn} (same : SameStatements next next') :
    SameStatements (FleetTracking.rejectIf query failure next) (refuseIf query failure next') := by
  refine select fun db => ?_
  cases query db with
  | some found => exact rollback
  | none => exact same

theorem fetchAgain {ρ : Type} [SerialKeyed ρ] {table : DB → Serial ρ} {missing : Int → Failure}
    {loaded : Option ρ} {k : Int} {next : ρ → CallTxn} {next' : ρ → AssignmentTxn}
    (same : ∀ row, SameStatements (next row) (next' row)) :
    SameStatements (FleetTracking.fetchAgain E table missing loaded k next)
      (getOrSelect E table missing loaded k next') := by
  unfold FleetTracking.fetchAgain getOrSelect
  split
  · cases loaded.filter fun row => Keyed.key row = k with
    | some row => exact same row
    | none =>
        refine select fun db => ?_
        cases (table db).get k with
        | some row => exact same row
        | none => exact rollback
  · exact rollback

theorem saveForeignKeys {user : User} {routeId vehicleId : Option Int} :
    SameStatements (FleetTracking.saveForeignKeys E user routeId vehicleId)
      (saveAssignment E user routeId vehicleId) := by
  unfold FleetTracking.saveForeignKeys saveAssignment
  split
  · rfl
  · refine congrArg (Txn.write · _) ?_
    refine congrArg₂ (Write.mk none) (funext fun db => ?_) rfl
    have retag (result : Except Failure DB) :
        result.mapError (.error : Failure → Except Failure Bool) =
          (result.mapError .error).mapError fun result : Except Failure Unit =>
            result.map fun _ => true := by
      cases result <;> rfl
    simp only [Sql.updateAssignment, Sql.update, Sql.plain, updateAssignment, Statement.plain,
      Write.map, retag]
    cases db.users.get user.id <;> rfl

end SameStatements

theorem assignTxn_solo {userId : Int} {data : AssignmentUpdate} :
    (assignTxn E userId data).solo [] db =
      answered db ((setAssignment E db userId data).map Prod.snd) := by
  have same : SameStatements (assignTxn E userId data) (setAssignmentTxn E userId data) := by
    unfold assignTxn fetchUser fetch setAssignmentTxn
    split
    · refine .select fun db => ?_
      cases db.users.get userId with
      | none => exact .rollback
      | some user =>
          rcases data.eq_unassign_or_assign with rfl | ⟨routeId, vehicleId, rfl⟩
          · exact .saveForeignKeys
          · exact .fetchAgain fun route => .fetchAgain fun vehicle =>
              .rejectIf (.rejectIf .saveForeignKeys)
    · exact .rollback
  rw [same.solo, setAssignmentTxn_solo]
  cases setAssignment E db userId data <;> rfl

theorem ingestTxn_solo {m : GPSMessage} :
    (ingestTxn E m).solo [] db = settle db (handleGpsMessage E db m) :=
  handleGpsMessageTxn_solo

/-- **Refinement.**  The statements of a call, running alone, are the call: the same answer or
failure, and the same database after it. -/
theorem Call.txn_solo (E : Engine) (a : Ambient) (db : DB) (c : Call) :
    (c.txn E a).solo [] db = settle db (c.reply E a db) ∧
      (c.reply E a db).map Prod.snd = c.perform E a db := by
  have rest (result : Except Failure DB) :
      (result.map fun db' => (true, db')).map Prod.snd = result := by cases result <;> rfl
  cases c with
  | createRoute data => exact ⟨createRouteTxn_solo, rest _⟩
  | updateRoute routeId data => exact ⟨updateRouteTxn_solo, rest _⟩
  | deleteRoute routeId => exact ⟨deleteRouteTxn_solo, rest _⟩
  | createVehicle data => exact ⟨createVehicleTxn_solo, rest _⟩
  | updateVehicle vehicleId data => exact ⟨updateVehicleTxn_solo, rest _⟩
  | deleteVehicle vehicleId => exact ⟨deleteVehicleTxn_solo, rest _⟩
  | createUser data => exact ⟨createUserTxn_solo, rest _⟩
  | updateUser userId data => exact ⟨updateUserTxn_solo, rest _⟩
  | deleteUser userId => exact ⟨deleteUserTxn_solo, rest _⟩
  | setAssignment userId data => exact ⟨assignTxn_solo, rest _⟩
  | handleGpsMessage m => exact ⟨ingestTxn_solo, rfl⟩

end

end FleetTracking
