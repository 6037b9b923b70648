import FleetTracking.Services.FleetAdmin

/-!
# `set_assignment`, statement by statement

The same call as `setAssignment`, one database statement at a time.  The first `SELECT`
joins the user's own route and vehicle in, and a row the session has loaded is not asked for
again; the `UPDATE` at commit sets the columns that differ from the row as it was loaded.
The `refresh` after the commit reads once more and is left out.

`setAssignmentTxn_solo` says that the statements running alone are the call,
`setAssignmentTxn_split` what comes out when another session commits in between.
-/

namespace FleetTracking

open Relational ReadCommitted

/-- The rest of a `set_assignment` session; the row it answers is read after the commit. -/
abbrev AssignmentTxn := Txn DB RowLock (Except Failure Unit)

/-- `row` with those foreign keys set to the new ones that differ from `loaded`'s. -/
def User.reassigned (loaded : User) (routeId vehicleId : Option Int) (row : User) : User :=
  { row with
    routeId := if routeId = loaded.routeId then row.routeId else routeId
    vehicleId := if vehicleId = loaded.vehicleId then row.vehicleId else vehicleId }

section

variable (E : Engine)

/-- `await db.get(table, k)` in a session that has loaded `loaded`. -/
def getOrSelect {ρ : Type} [SerialKeyed ρ] (table : DB → Serial ρ) (missing : Int → Failure)
    (loaded : Option ρ) (k : Int) (next : ρ → AssignmentTxn) : AssignmentTxn :=
  if E.bigint k then
    match loaded.filter fun row => Keyed.key row = k with
    | some row => next row
    | none =>
        .select fun db =>
          match (table db).get k with
          | some row => next row
          | none => .rollback (.error (missing k))
  else .rollback (.error .dbapiError)

/-- `if await db.scalar(query): raise failure` -/
def refuseIf {α : Type} (query : DB → Option α) (failure : α → Failure) (next : AssignmentTxn) :
    AssignmentTxn :=
  .select fun db =>
    match query db with
    | some found => .rollback (.error (failure found))
    | none => next

/-- `UPDATE users`, of the columns that differ from `user` as it was loaded. -/
def updateAssignment (user : User) (routeId vehicleId : Option Int) : Statement RowLock Unit :=
  .plain (.user user.id) fun db =>
    match db.users.get user.id with
    | none => .error .staleDataError
    | some row => E.updateAssignmentRow db row (user.reassigned routeId vehicleId row)

/-- Set the foreign keys and commit. -/
def saveAssignment (user : User) (routeId vehicleId : Option Int) : AssignmentTxn :=
  if routeId = user.routeId ∧ vehicleId = user.vehicleId then .commit (.ok ())
  else .write (updateAssignment E user routeId vehicleId) (.commit (.ok ()))

/-- Both holder queries, and the assignment when nobody else holds either. -/
def assignIfFree (user : User) (routeId vehicleId : Int) : AssignmentTxn :=
  refuseIf (otherRouteUser · routeId user.id) routeAlreadyAssigned <|
    refuseIf (otherVehicleUser · vehicleId user.id) vehicleAlreadyAssigned <|
      saveAssignment E user (some routeId) (some vehicleId)

/-- Assign a full pair; `db` is what the first `SELECT` has seen. -/
def assignPair (db : DB) (user : User) (routeId vehicleId : Int) : AssignmentTxn :=
  getOrSelect E DB.busRoutes (fun k => notFound (.routeNotFound k) "route_not_found")
    (user.routeId.bind db.busRoutes.get) routeId fun route =>
      getOrSelect E DB.vehicles (fun k => notFound (.vehicleNotFound k) "vehicle_not_found")
        (user.vehicleId.bind db.vehicles.get) vehicleId fun vehicle =>
          assignIfFree E user route.id vehicle.id

def setAssignmentTxn (userId : Int) (data : AssignmentUpdate) : AssignmentTxn :=
  if E.bigint userId then
    .select fun db =>
      match db.users.get userId with
      | none => .rollback (.error (notFound (.userNotFound userId) "user_not_found"))
      | some user =>
          match data.routeId, data.vehicleId with
          | some routeId, some vehicleId => assignPair E db user routeId vehicleId
          | _, _ => saveAssignment E user none none
  else .rollback (.error .dbapiError)

end

/-! ## What a request needs -/

/-- The ids in the request name rows. -/
structure Names (E : Engine) (db : DB) (userId : Int) (data : AssignmentUpdate) : Prop where
  user : E.bigint userId = true ∧ db.users.HasKey userId
  route : ∀ k, data.routeId = some k → E.bigint k = true ∧ db.busRoutes.HasKey k
  vehicle : ∀ k, data.vehicleId = some k → E.bigint k = true ∧ db.vehicles.HasKey k

/-- Nobody but the user holds what is wanted. -/
def FreeFor (held : User → Option Int) (wanted : Option Int) (db : DB) (userId : Int) : Prop :=
  ∀ k, wanted = some k → ∀ w ∈ db.users.toTable, held w = some k → w.id = userId

/-- Nobody but the user holds the route in the request. -/
def RouteFree (db : DB) (userId : Int) (data : AssignmentUpdate) : Prop :=
  FreeFor User.routeId data.routeId db userId

/-- Nobody but the user holds the vehicle in the request. -/
def VehicleFree (db : DB) (userId : Int) (data : AssignmentUpdate) : Prop :=
  FreeFor User.vehicleId data.vehicleId db userId

/-- The request can be granted. -/
structure Grants (E : Engine) (db : DB) (userId : Int) (data : AssignmentUpdate) : Prop where
  names : Names E db userId data
  routeFree : RouteFree db userId data
  vehicleFree : VehicleFree db userId data

/-- The database with the request's changes to `loaded` made to `row`. -/
def DB.assigned (db : DB) (loaded row : User) (data : AssignmentUpdate) : DB :=
  { db with users := db.users.put (loaded.reassigned data.routeId data.vehicleId row) }

/-- `after` is `before` with some assignments changed. -/
structure Reassigned (before after : DB) : Prop where
  busRoutes : after.busRoutes = before.busRoutes
  vehicles : after.vehicles = before.vehicles
  users : ∀ k, after.users.HasKey k ↔ before.users.HasKey k

/-- What a session that succeeds has seen: the user's row in `w`, then that nobody else holds
the route in `x`, then that nobody else holds the vehicle in `y`. -/
structure Saw (E : Engine) (before after : DB) (userId : Int) (data : AssignmentUpdate)
    (w x y : DB) (loaded : User) : Prop where
  first : Txn.Onward after before w
  second : Txn.Onward after w x
  third : Txn.Onward after x y
  user : w.users.get userId = some loaded
  names : Names E before userId data
  routeFree : RouteFree x userId data
  vehicleFree : VehicleFree y userId data

section

variable {E : Engine} {db before after : DB} {user row : User} {userId : Int}
  {data : AssignmentUpdate} {out : Except Failure Unit × DB}

theorem otherRouteUser_eq_none {routeId : Int} : otherRouteUser db routeId userId = none ↔
    ∀ w ∈ db.users.toTable, w.routeId = some routeId → w.id = userId := by
  simp [otherRouteUser, Table.scalar_eq_none]

theorem otherVehicleUser_eq_none {vehicleId : Int} :
    otherVehicleUser db vehicleId userId = none ↔
      ∀ w ∈ db.users.toTable, w.vehicleId = some vehicleId → w.id = userId := by
  simp [otherVehicleUser, Table.scalar_eq_none]

@[simp] theorem reassigned_id {routeId vehicleId : Option Int} :
    (user.reassigned routeId vehicleId row).id = row.id := rfl

/-- A row that nobody has changed takes the new pair. -/
theorem reassigned_self {routeId vehicleId : Option Int} :
    user.reassigned routeId vehicleId user = { user with routeId, vehicleId } := by
  have keep : ∀ {old new : Option Int}, (if new = old then old else new) = new := by
    intro old new
    split
    · next same => exact same.symm
    · rfl
  simp only [User.reassigned, keep]

/-! ## The last statements -/

/-- The `UPDATE` passes when what it sets names rows. -/
theorem stmt_updateAssignment (found : db.users.get user.id = some row)
    (route : ∀ k, data.routeId = some k → db.busRoutes.HasKey k)
    (vehicle : ∀ k, data.vehicleId = some k → db.vehicles.HasKey k) :
    (updateAssignment E user data.routeId data.vehicleId).stmt db =
      .ok (db.assigned user row data) := by
  have own : row.id = user.id := (Table.get_eq_some.mp found).2
  have passed : E.updateAssignmentRow db row
      (user.reassigned data.routeId data.vehicleId row) = .ok (db.assigned user row data) := by
    refine Engine.updateAssignmentRow_ok (by rw [reassigned_id, own, found]) ?_ ?_
    · by_cases same : data.routeId = user.routeId
      · exact .inl (if_pos same)
      · exact .inr fun k has => route k ((if_neg same).symm.trans has)
    · by_cases same : data.vehicleId = user.vehicleId
      · exact .inl (if_pos same)
      · exact .inr fun k has => vehicle k ((if_neg same).symm.trans has)
  simp only [updateAssignment, Statement.plain, found, passed, Except.mapError]

/-- Saving works on the row as it is by then. -/
theorem saveAssignment_split
    (split : (saveAssignment E user data.routeId data.vehicleId).Split before after [] out)
    (found : after.users.get user.id = some row)
    (route : ∀ k, data.routeId = some k → after.busRoutes.HasKey k)
    (vehicle : ∀ k, data.vehicleId = some k → after.vehicles.HasKey k) :
    out = (.ok (), after.assigned user row data) := by
  unfold saveAssignment at split
  split_ifs at split with same
  · have unchanged : user.reassigned data.routeId data.vehicleId row = row := by
      simp only [User.reassigned, same, if_true]
    have own : row.id = user.id := (Table.get_eq_some.mp found).2
    rw [split.of_commit, DB.assigned, unchanged, Serial.put_self (by rw [key_user, own, found])]
    rfl
  · have stmt := stmt_updateAssignment (E := E) found route vehicle
    obtain ⟨_, _, rest⟩ := split.of_write stmt
    rw [rest.of_commit, List.nil_append]
    exact congrArg _ (Write.apply_of_ok stmt)

/-! ## Between another session's reads and commits -/

/-- The failures of a session leave the database to the other one. -/
def Refused (after : DB) (out : Except Failure Unit × DB) : Prop :=
  ∃ failure, out = (.error failure, after)

theorem refused_of_rollback {failure : Failure}
    (split : (Txn.rollback (.error failure) : AssignmentTxn).Split before after [] out) :
    Refused after out :=
  ⟨failure, split.of_rollback⟩

theorem refuseIf_split {α : Type} {query : DB → Option α} {failure : α → Failure}
    {next : AssignmentTxn} (split : (refuseIf query failure next).Split before after [] out) :
    Refused after out ∨
      ∃ x, Txn.Onward after before x ∧ query x = none ∧ next.Split x after [] out := by
  obtain ⟨x, onward, rest⟩ := split.of_select
  rw [visible_nil] at rest
  cases answer : query x with
  | some found =>
      rw [answer] at rest
      exact .inl (refused_of_rollback rest)
  | none =>
      rw [answer] at rest
      exact .inr ⟨x, onward, answer, rest⟩

/-- A row of a table that the other session leaves alone is found whenever it is looked for. -/
theorem getOrSelect_split {ρ : Type} [SerialKeyed ρ] {table : DB → Serial ρ}
    {missing : Int → Failure} {loaded : Option ρ} {k : Int} {next : ρ → AssignmentTxn}
    (split : (getOrSelect E table missing loaded k next).Split before after [] out)
    (fixed : table after = table before)
    (own : ∀ r, loaded = some r → r ∈ (table before).toTable) :
    Refused after out ∨ ∃ x r, Txn.Onward after before x ∧ E.bigint k = true ∧
      (table before).HasKey k ∧ Keyed.key r = k ∧ (next r).Split x after [] out := by
  unfold getOrSelect at split
  split_ifs at split with fits
  · cases kept : loaded.filter fun row => Keyed.key row = k with
    | some r =>
        rw [kept] at split
        obtain ⟨known, key⟩ := Option.filter_eq_some_iff.mp kept
        have key := of_decide_eq_true key
        exact .inr ⟨before, r, .refl _ _, fits, ⟨r, own r known, key⟩, key, split⟩
    | none =>
        rw [kept] at split
        obtain ⟨x, onward, rest⟩ := split.of_select
        rw [visible_nil] at rest
        rw [onward.agree fixed] at rest
        cases found : (table before).get k with
        | none =>
            rw [found] at rest
            exact .inl (refused_of_rollback rest)
        | some r =>
            rw [found] at rest
            exact .inr ⟨x, r, onward, fits, .of_get found, (Table.get_eq_some.mp found).2, rest⟩
  · exact .inl (refused_of_rollback split)

theorem assignIfFree_split {routeId vehicleId : Int}
    (split : (assignIfFree E user routeId vehicleId).Split before after [] out)
    (found : after.users.get user.id = some row) (route : after.busRoutes.HasKey routeId)
    (vehicle : after.vehicles.HasKey vehicleId) :
    Refused after out ∨ ∃ x y, Txn.Onward after before x ∧ Txn.Onward after x y ∧
      RouteFree x user.id (.assign routeId vehicleId) ∧
      VehicleFree y user.id (.assign routeId vehicleId) ∧
      out = (.ok (), after.assigned user row (.assign routeId vehicleId)) := by
  obtain refused | ⟨x, second, routeFree, split⟩ := refuseIf_split split
  · exact .inl refused
  obtain refused | ⟨y, third, vehicleFree, split⟩ := refuseIf_split split
  · exact .inl refused
  refine .inr ⟨x, y, second, third, fun k has => ?_, fun k has => ?_, ?_⟩
  · cases has
    exact otherRouteUser_eq_none.mp routeFree
  · cases has
    exact otherVehicleUser_eq_none.mp vehicleFree
  · exact saveAssignment_split split found
      (fun k has => by cases has; exact route) (fun k has => by cases has; exact vehicle)

/-- What was joined in is a row of its table. -/
theorem mem_of_joined {ρ : Type} [SerialKeyed ρ] {t : Serial ρ} {k : Option Int} {r : ρ}
    (joined : k.bind t.get = some r) : r ∈ t.toTable := by
  obtain ⟨_, _, found⟩ := Option.bind_eq_some_iff.mp joined
  exact (Table.get_eq_some.mp found).1

theorem assignPair_split {routeId vehicleId : Int}
    (split : (assignPair E before user routeId vehicleId).Split before after [] out)
    (routes : after.busRoutes = before.busRoutes) (vehicles : after.vehicles = before.vehicles)
    (found : after.users.get user.id = some row) :
    Refused after out ∨ ∃ x y, Txn.Onward after before x ∧ Txn.Onward after x y ∧
      (E.bigint routeId = true ∧ before.busRoutes.HasKey routeId) ∧
      (E.bigint vehicleId = true ∧ before.vehicles.HasKey vehicleId) ∧
      RouteFree x user.id (.assign routeId vehicleId) ∧
      VehicleFree y user.id (.assign routeId vehicleId) ∧
      out = (.ok (), after.assigned user row (.assign routeId vehicleId)) := by
  obtain refused | ⟨w₁, route, on₁, fitsRoute, hasRoute, keyRoute, split₁⟩ :=
    getOrSelect_split split routes fun _ => mem_of_joined
  · exact .inl refused
  have vehicles₁ : w₁.vehicles = before.vehicles := on₁.agree vehicles
  obtain refused | ⟨w₂, vehicle, on₂, fitsVehicle, hasVehicle, keyVehicle, split₂⟩ :=
    getOrSelect_split split₁ (vehicles.trans vehicles₁.symm) fun v joined => by
      rw [vehicles₁]
      exact mem_of_joined joined
  · exact .inl refused
  rw [vehicles₁] at hasVehicle
  rw [key_busRoute] at keyRoute
  rw [key_vehicle] at keyVehicle
  rw [keyRoute, keyVehicle] at split₂
  obtain refused | ⟨x, y, second, third, free⟩ :=
    assignIfFree_split split₂ found (routes ▸ hasRoute) (vehicles ▸ hasVehicle)
  · exact .inl refused
  · exact .inr ⟨x, y, (on₁.trans on₂).trans second, third, ⟨fitsRoute, hasRoute⟩,
      ⟨fitsVehicle, hasVehicle⟩, free⟩

/-- **Whatever another session commits in between**, a session is refused and leaves the
database as the other one left it, or it has seen all it needs, some of it before and the
rest after, and makes its changes to its user's row as it is by then. -/
theorem setAssignmentTxn_split
    (split : (setAssignmentTxn E userId data).Split before after [] out)
    (fixed : Reassigned before after) :
    Refused after out ∨ ∃ w x y loaded row, Saw E before after userId data w x y loaded ∧
      after.users.get userId = some row ∧ out = (.ok (), after.assigned loaded row data) := by
  unfold setAssignmentTxn at split
  split_ifs at split with fits
  swap
  · exact .inl (refused_of_rollback split)
  obtain ⟨w, first, split⟩ := split.of_select
  rw [visible_nil] at split
  have routes : w.busRoutes = before.busRoutes := first.agree fixed.busRoutes
  have vehicles : w.vehicles = before.vehicles := first.agree fixed.vehicles
  have users : ∀ k, w.users.HasKey k ↔ before.users.HasKey k := by
    rcases first with rfl | rfl
    · exact fun _ => Iff.rfl
    · exact fixed.users
  cases found : w.users.get userId with
  | none =>
      rw [found] at split
      exact .inl (refused_of_rollback split)
  | some user =>
      rw [found] at split
      have own : user.id = userId := (Table.get_eq_some.mp found).2
      have named := (users userId).mp (.of_get found)
      obtain ⟨row, found'⟩ := Option.isSome_iff_exists.mp
        (Table.hasKey_iff_get.mp ((fixed.users userId).mpr named))
      have there : after.users.get user.id = some row := own ▸ found'
      rcases data.eq_unassign_or_assign with rfl | ⟨routeId, vehicleId, rfl⟩
      · refine .inr ⟨w, w, w, user, row, ⟨first, .refl _ _, .refl _ _, found,
          ⟨⟨fits, named⟩, nofun, nofun⟩, nofun, nofun⟩, found', ?_⟩
        exact saveAssignment_split split there nofun nofun
      · obtain refused | ⟨x, y, second, third, route, vehicle, routeFree, vehicleFree, done⟩ :=
          assignPair_split split (fixed.busRoutes.trans routes.symm)
            (fixed.vehicles.trans vehicles.symm) there
        · exact .inl refused
        rw [routes] at route
        rw [vehicles] at vehicle
        refine .inr ⟨w, x, y, user, row, ⟨first, second, third, found,
          ⟨⟨fits, named⟩, fun k has => ?_, fun k has => ?_⟩, own ▸ routeFree,
          own ▸ vehicleFree⟩, found', done⟩
        · cases has
          exact route
        · cases has
          exact vehicle

/-! ## Reads that can be had -/

theorem refuseIf_reads {α : Type} {query : DB → Option α} {failure : α → Failure}
    {next : AssignmentTxn} (passed : query before = none)
    (rest : next.FreeSplit before after [] out) :
    (refuseIf query failure next).FreeSplit before after [] out :=
  .select (by rw [visible_nil, passed]; exact rest)

theorem getOrSelect_reads {ρ : Type} [SerialKeyed ρ] {table : DB → Serial ρ}
    {missing : Int → Failure} {loaded : Option ρ} {k : Int} {next : ρ → AssignmentTxn} {r : ρ}
    (fits : E.bigint k = true) (found : (table before).get k = some r)
    (own : ∀ r, loaded = some r → r ∈ (table before).toTable)
    (rest : (next r).FreeSplit before after [] out) :
    (getOrSelect E table missing loaded k next).FreeSplit before after [] out := by
  unfold getOrSelect
  rw [if_pos fits]
  cases kept : loaded.filter fun row => Keyed.key row = k with
  | none => exact .select (by rw [visible_nil, found]; exact rest)
  | some r' =>
      obtain ⟨known, key⟩ := Option.filter_eq_some_iff.mp kept
      obtain ⟨member, key'⟩ := Table.get_eq_some.mp found
      have same : r' = r :=
        Table.eq_of_key (own r' known) member ((of_decide_eq_true key).trans key'.symm)
      rw [same]
      exact rest

theorem saveAssignment_solo (E : Engine) (user : User) (data : AssignmentUpdate)
    (found : db.users.get user.id = some row)
    (route : ∀ k, data.routeId = some k → db.busRoutes.HasKey k)
    (vehicle : ∀ k, data.vehicleId = some k → db.vehicles.HasKey k) :
    (saveAssignment E user data.routeId data.vehicleId).solo [] db =
      (.ok (), db.assigned user row data) := by
  have split : (saveAssignment E user data.routeId data.vehicleId).Split db db [] _ := .switch
  exact saveAssignment_split split found route vehicle

theorem assignIfFree_reads {routeId vehicleId : Int} {y : DB}
    (routeFree : RouteFree before user.id (.assign routeId vehicleId))
    (onward : Txn.Onward after before y)
    (vehicleFree : VehicleFree y user.id (.assign routeId vehicleId))
    (saved : (saveAssignment E user (some routeId) (some vehicleId)).solo [] after = out) :
    (assignIfFree E user routeId vehicleId).FreeSplit before after [] out := by
  refine refuseIf_reads (otherRouteUser_eq_none.mpr (routeFree routeId rfl)) ?_
  have free := otherVehicleUser_eq_none.mpr (vehicleFree vehicleId rfl)
  rcases onward with rfl | rfl
  · exact refuseIf_reads free (saved ▸ .switch)
  · have rest : (refuseIf (otherVehicleUser · vehicleId user.id) vehicleAlreadyAssigned
        (saveAssignment E user (some routeId) (some vehicleId))).solo [] y = out := by
      rw [← saved]
      simp only [refuseIf, Txn.solo, visible_nil, free]
    exact rest ▸ .switch

/-- **A grant can slip in.**  When the request's ids name rows and nobody else holds its
route, a session that has seen that much can still look for its vehicle's holder before or
after the other one commits. -/
theorem setAssignmentTxn_reads {loaded : User} {y : DB} (fixed : Reassigned before after)
    (saw : Saw E before after userId data before before y loaded)
    (found : after.users.get userId = some row) :
    (setAssignmentTxn E userId data).FreeSplit before after []
      (.ok (), after.assigned loaded row data) := by
  have own : loaded.id = userId := (Table.get_eq_some.mp saw.user).2
  have saved := saveAssignment_solo E loaded data (own ▸ found)
    (fun k has => fixed.busRoutes ▸ (saw.names.route k has).2)
    (fun k has => fixed.vehicles ▸ (saw.names.vehicle k has).2)
  unfold setAssignmentTxn
  rw [if_pos saw.names.user.1]
  refine .select ?_
  rw [visible_nil, saw.user]
  rcases data.eq_unassign_or_assign with rfl | ⟨routeId, vehicleId, rfl⟩
  · exact saved ▸ .switch
  · obtain ⟨fitsRoute, route⟩ := saw.names.route routeId rfl
    obtain ⟨fitsVehicle, vehicle⟩ := saw.names.vehicle vehicleId rfl
    obtain ⟨r, foundRoute⟩ := Option.isSome_iff_exists.mp (Table.hasKey_iff_get.mp route)
    obtain ⟨v, foundVehicle⟩ := Option.isSome_iff_exists.mp (Table.hasKey_iff_get.mp vehicle)
    refine getOrSelect_reads fitsRoute foundRoute (fun _ => mem_of_joined) ?_
    refine getOrSelect_reads fitsVehicle foundVehicle (fun _ => mem_of_joined) ?_
    rw [← key_busRoute, ← key_vehicle, (Table.get_eq_some.mp foundRoute).2,
      (Table.get_eq_some.mp foundVehicle).2]
    exact assignIfFree_reads (own.symm ▸ saw.routeFree) saw.third (own.symm ▸ saw.vehicleFree)
      saved

theorem Reassigned.refl (db : DB) : Reassigned db db := ⟨rfl, rfl, fun _ => Iff.rfl⟩

/-- Overwriting a user's row changes assignments at most. -/
theorem reassigned_assigned {loaded : User} : Reassigned db (db.assigned loaded row data) :=
  ⟨rfl, rfl, fun _ => Table.hasKey_put⟩

/-- **Running alone**, a request succeeds exactly when it can be granted. -/
theorem setAssignmentTxn_grants (E : Engine) (db : DB) (userId : Int) (data : AssignmentUpdate) :
    (Refused db ((setAssignmentTxn E userId data).solo [] db) ∧ ¬ Grants E db userId data) ∨
      ∃ loaded, db.users.get userId = some loaded ∧ Grants E db userId data ∧
        (setAssignmentTxn E userId data).solo [] db = (.ok (), db.assigned loaded loaded data) := by
  by_cases grants : Grants E db userId data
  · obtain ⟨loaded, found⟩ := Option.isSome_iff_exists.mp
      (Table.hasKey_iff_get.mp grants.names.user.2)
    refine .inr ⟨loaded, found, grants, ?_⟩
    exact (setAssignmentTxn_reads (.refl db) ⟨.refl _ _, .refl _ _, .refl _ _, found,
      grants.names, grants.routeFree, grants.vehicleFree⟩ found).split.eq_solo.symm
  · obtain refused | ⟨w, x, y, loaded, row, saw, _, _⟩ :=
      setAssignmentTxn_split .switch (.refl db)
    · exact .inl ⟨refused, grants⟩
    · have second : x = db := by
        rcases saw.first.trans saw.second with h | h <;> exact h
      have third : y = db := by
        rcases (saw.first.trans saw.second).trans saw.third with h | h <;> exact h
      exact (grants ⟨saw.names, second ▸ saw.routeFree, third ▸ saw.vehicleFree⟩).elim

/-! ## The statements running alone are the call -/

theorem refuseIf_solo {α : Type} {query : DB → Option α} {failure : α → Failure}
    {next : AssignmentTxn} : (refuseIf query failure next).solo [] db =
      match query db with
      | some found => (.error (failure found), db)
      | none => next.solo [] db := by
  simp only [refuseIf, Txn.solo, visible_nil]
  cases query db <;> rfl

theorem getOrSelect_solo {ρ : Type} [SerialKeyed ρ] {table : DB → Serial ρ}
    {missing : Int → Failure} {loaded : Option ρ} {k : Int} {next : ρ → AssignmentTxn}
    (own : ∀ r, loaded = some r → r ∈ (table db).toTable) :
    (getOrSelect E table missing loaded k next).solo [] db =
      match getOrMissing E (table db) missing k with
      | .ok r => (next r).solo [] db
      | .error failure => (.error failure, db) := by
  unfold getOrMissing
  by_cases fits : E.bigint k = true
  · rw [if_pos fits]
    cases found : (table db).get k with
    | some r =>
        exact (getOrSelect_reads fits found own .switch).split.eq_solo.symm
    | none =>
        have unknown : (loaded.filter fun row => Keyed.key row = k) = none := by
          refine Option.filter_eq_none_iff.mpr fun r known key => ?_
          exact Table.get_eq_none.mp found r (own r known) (of_decide_eq_true key)
        simp only [getOrSelect, if_pos fits, unknown, Txn.solo, visible_nil, found]
        rfl
  · simp only [getOrSelect, if_neg fits, Txn.solo]
    rfl

theorem saveAssignment_settle {routeId vehicleId : Option Int}
    (found : db.users.get user.id = some user) :
    (saveAssignment E user routeId vehicleId).solo [] db =
      settle db ((E.updateAssignmentRow db user { user with routeId, vehicleId }).map
        fun db' => ((), db')) := by
  unfold saveAssignment
  split_ifs with same
  · obtain ⟨rfl, rfl⟩ := same
    simp only [Engine.updateAssignmentRow, if_true]
    rfl
  · have stmt : (updateAssignment E user routeId vehicleId).stmt db =
        (E.updateAssignmentRow db user { user with routeId, vehicleId }).mapError .error := by
      simp only [updateAssignment, Statement.plain, found, reassigned_self]
    cases done : E.updateAssignmentRow db user { user with routeId, vehicleId } with
    | ok db' =>
        rw [done] at stmt
        simp only [Txn.solo, visible_nil, stmt, Except.mapError, List.nil_append, Except.map,
          settle]
        exact congrArg _ (Write.apply_of_ok stmt)
    | error failure =>
        rw [done] at stmt
        simp only [Txn.solo, visible_nil, stmt, Except.mapError, Except.map, settle]
        rfl

theorem assignPair_solo {routeId vehicleId : Int} (found : db.users.get user.id = some user) :
    (assignPair E db user routeId vehicleId).solo [] db =
      match getRoute E db routeId with
      | .error failure => (.error failure, db)
      | .ok route =>
          match getVehicle E db vehicleId with
          | .error failure => (.error failure, db)
          | .ok vehicle =>
              match otherRouteUser db route.id user.id with
              | some other => (.error (routeAlreadyAssigned other), db)
              | none =>
                  match otherVehicleUser db vehicle.id user.id with
                  | some other => (.error (vehicleAlreadyAssigned other), db)
                  | none =>
                      settle db ((E.updateAssignmentRow db user { user with
                        routeId := some route.id, vehicleId := some vehicle.id }).map
                          fun db' => ((), db')) := by
  unfold assignPair
  rw [getOrSelect_solo fun _ => mem_of_joined, ← getRoute]
  cases getRoute E db routeId with
  | error failure => rfl
  | ok route =>
      dsimp only
      rw [getOrSelect_solo fun _ => mem_of_joined, ← getVehicle]
      cases getVehicle E db vehicleId with
      | error failure => rfl
      | ok vehicle =>
          simp only [assignIfFree, refuseIf_solo, saveAssignment_settle found]
          cases otherRouteUser db route.id user.id with
          | some other => rfl
          | none => cases otherVehicleUser db vehicle.id user.id <;> rfl

/-- The statements of the call, running alone, are the call. -/
theorem setAssignmentTxn_solo :
    (setAssignmentTxn E userId data).solo [] db =
      settle db ((setAssignment E db userId data).map fun done => ((), done.2)) := by
  by_cases fits : E.bigint userId = true
  · cases found : db.users.get userId with
    | none =>
        simp only [setAssignmentTxn, setAssignment, getUser, getOrMissing, if_pos fits, Txn.solo,
          visible_nil, found]
        rfl
    | some user =>
        have own : user.id = userId := (Table.get_eq_some.mp found).2
        simp only [setAssignmentTxn, setAssignment, getUser, getOrMissing, if_pos fits, Txn.solo,
          visible_nil, found]
        rcases data.eq_unassign_or_assign with rfl | ⟨routeId, vehicleId, rfl⟩
        · simp only [AssignmentUpdate.unassign]
          rw [saveAssignment_settle (own ▸ found)]
          cases E.updateAssignmentRow db user { user with routeId := none, vehicleId := none } <;>
            rfl
        · simp only [AssignmentUpdate.assign]
          rw [assignPair_solo (own ▸ found)]
          cases getRoute E db routeId with
          | error failure => rfl
          | ok route =>
              cases getVehicle E db vehicleId with
              | error failure => rfl
              | ok vehicle =>
                  dsimp only
                  cases otherRouteUser db route.id user.id with
                  | some other => rfl
                  | none =>
                      cases otherVehicleUser db vehicle.id user.id with
                      | some other => rfl
                      | none =>
                          cases E.updateAssignmentRow db user { user with
                            routeId := some route.id, vehicleId := some vehicle.id } <;> rfl
  · simp only [setAssignmentTxn, setAssignment, getUser, getOrMissing, if_neg fits, Txn.solo]
    rfl

end

end FleetTracking
