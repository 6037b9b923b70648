import FleetTracking.Relational.Footprint
import FleetTracking.Services.CallTxn

/-!
# What a call sends

Every call reads first, and then rolls back or goes on with one of the transactions of
`Call.Goes`: a single statement and the commit, or the two statements of the handler.
`Call.txn_reads` says so for every call, and `Call.txn_ensures` what it has sent by the time it
commits.
-/

namespace FleetTracking

open Relational ReadCommitted Pydantic

variable {E : Engine}

/-! ## Reading first -/

/-- The call has not done what it was asked. -/
abbrev NotDone (result : Except Failure Bool) : Prop := result ≠ .ok true

section

variable {Q : CallTxn → Prop} {next : CallTxn}

theorem notDone_error {failure : Failure} : NotDone (.error failure) := nofun

theorem reads_rejectIf {α : Type} {query : DB → Option α} {failure : α → Failure}
    (reads : next.Reads NotDone Q) : (rejectIf query failure next).Reads NotDone Q := by
  refine .select fun db => ?_
  cases query db with
  | some found => exact .rollback notDone_error
  | none => exact reads

theorem reads_fetch {ρ : Type} [SerialKeyed ρ] {table : DB → Serial ρ} {missing : Int → Failure}
    {k : Int} {next : DB → ρ → CallTxn}
    (reads : ∀ db row, Keyed.key row = k → (next db row).Reads NotDone Q) :
    (fetch E table missing k next).Reads NotDone Q := by
  unfold fetch
  split
  · refine .select fun db => ?_
    cases found : (table db).get k with
    | some row => exact reads db row (Table.get_eq_some.mp found).2
    | none => exact .rollback notDone_error
  · exact .rollback notDone_error

theorem reads_fetchAgain {ρ : Type} [SerialKeyed ρ] {table : DB → Serial ρ}
    {missing : Int → Failure} {loaded : Option ρ} {k : Int} {next : ρ → CallTxn}
    (reads : ∀ row, Keyed.key row = k → (next row).Reads NotDone Q) :
    (fetchAgain E table missing loaded k next).Reads NotDone Q := by
  unfold fetchAgain
  split
  · cases kept : loaded.filter fun row => Keyed.key row = k with
    | some row =>
        obtain ⟨_, own⟩ := Option.filter_eq_some_iff.mp kept
        exact reads row (of_decide_eq_true own)
    | none =>
        refine .select fun db => ?_
        cases found : (table db).get k with
        | some row => exact reads row (Table.get_eq_some.mp found).2
        | none => exact .rollback notDone_error
  · exact .rollback notDone_error

theorem reads_changeUniqueTxn {ρ : Type} [SerialKeyed ρ] {table : DB → Serial ρ}
    {col : ρ → Option String} {taken : Option String → Failure} {current : Option String}
    {next : Option String → CallTxn} {new : Option (Option String)}
    (reads : ∀ value, (new = none → value = current) → (next value).Reads NotDone Q) :
    (changeUniqueTxn E table col taken current next new).Reads NotDone Q := by
  unfold changeUniqueTxn
  cases new with
  | none => exact reads _ fun _ => rfl
  | some new =>
      dsimp only
      split
      · exact reads _ fun _ => rfl
      · split
        · exact reads_rejectIf (reads _ nofun)
        · exact .rollback notDone_error

/-- A transaction behind a check. -/
theorem reads_ite {p : Prop} [Decidable p] {failure : Failure} (reads : next.Reads NotDone Q) :
    (if p then next else .rollback (.error failure)).Reads NotDone Q := by
  split
  · exact reads
  · exact .rollback notDone_error

end

/-! ## What the calls go on with -/

section

variable (E)

/-- The statements of the handler, under their locks. -/
def pointOf (m : GPSMessage) : CallStatement := insertPoint E fixLocks m

@[inherit_doc pointOf]
def currentOf (m : GPSMessage) : CallStatement := insertCurrent E fixLocks m

@[inherit_doc pointOf]
def moveOf (m : GPSMessage) (loaded : VehicleCurrentLocation) : CallStatement :=
  updateCurrent E fixLocks m loaded

/-- What a call has sent when it commits, if it was not refused.  The handler leaves the current
location of the vehicle alone only if there is one, and moves it before or after it has stored the
point. -/
def Call.Commits (a : Ambient) : Call → List CallStatement → DB → Prop
  | createRoute data, pending, _ => pending = [Sql.insertRoute E
      { id := 0, name := some data.name, waypoints := data.waypoints.1.map Waypoint.modelDump,
        createdAt := a.now }]
  | updateRoute routeId data, pending, _ => pending = [] ∨ ∃ loaded new, loaded.id = routeId ∧
      (change Subtype.val data.name = none → new.name = loaded.name) ∧
      pending = [Sql.updateRoute E loaded new]
  | deleteRoute routeId, pending, _ => pending = [Sql.deleteRoute E routeId]
  | createVehicle data, pending, _ => pending = [Sql.insertVehicle E
      { id := 0, code := some data.code, name := some data.name, isActive := some data.isActive,
        createdAt := a.now }]
  | updateVehicle vehicleId data, pending, _ => pending = [] ∨
      ∃ loaded new, loaded.id = vehicleId ∧
        (change (fun code => code.1.1) data.code = none → new.code = loaded.code) ∧
        pending = [Sql.updateVehicle E loaded new]
  | deleteVehicle vehicleId, pending, _ => pending = [Sql.deleteVehicle E vehicleId]
  | createUser data, pending, _ => pending = [Sql.insertUser E
      { id := 0, email := some data.email, hashedPassword := a.hashPassword 0 data.password,
        isAdmin := data.isAdmin, routeId := none, vehicleId := none, createdAt := a.now }]
  | updateUser userId data, pending, _ => pending = [] ∨ ∃ loaded new, loaded.id = userId ∧
      (change id data.email = none → new.email = loaded.email) ∧
      pending = [Sql.updateUser E loaded new]
  | deleteUser userId, pending, _ => pending = [Sql.deleteUser E userId]
  | setAssignment userId data, pending, _ => pending = [] ∨ ∃ user, user.id = userId ∧
      pending = [Sql.updateAssignment E user data.routeId data.vehicleId]
  | handleGpsMessage m, pending, db =>
      (pending = [pointOf E m] ∧ db.vehicleCurrentLocation.HasKey m.vehicleId) ∨
        pending = [pointOf E m, currentOf E m] ∨
        ∃ loaded, pending = [moveOf E m loaded, pointOf E m] ∨
          pending = [pointOf E m, moveOf E m loaded]

/-- What a call goes on with once it has read. -/
def Call.Goes (a : Ambient) (c : Call) (txn : CallTxn) : Prop :=
  (∃ statement, txn = save statement ∧ ∀ db, c.Commits E a statement.toList db) ∨
    ∃ m current, c = .handleGpsMessage m ∧ txn = storeFix E fixLocks m current

end

section

variable {a : Ambient}

theorem goes_save {c : Call} {w : CallStatement} (commits : ∀ db, c.Commits E a [w] db) :
    c.Goes E a (save (some w)) :=
  .inl ⟨some w, rfl, commits⟩

/-- An `UPDATE` is sent if something changes. -/
theorem goes_save_ite {c : Call} {p : Prop} [Decidable p] {w : CallStatement}
    (nothing : ∀ db, c.Commits E a [] db) (commits : ∀ db, c.Commits E a [w] db) :
    c.Goes E a (save (if p then none else some w)) := by
  split
  · exact .inl ⟨none, rfl, nothing⟩
  · exact goes_save commits

theorem updateRouteTxn_reads {routeId : Int} {data : RouteUpdate} :
    (updateRouteTxn E routeId data).Reads NotDone (Call.Goes E a (.updateRoute routeId data)) := by
  unfold updateRouteTxn fetchRoute
  refine reads_fetch fun db route own => reads_changeUniqueTxn fun name kept => reads_ite (.goes ?_)
  exact goes_save_ite (fun _ => .inl rfl) fun _ => .inr ⟨route, _, own, kept, rfl⟩

theorem deleteRouteTxn_reads {routeId : Int} :
    (deleteRouteTxn E routeId).Reads NotDone (Call.Goes E a (.deleteRoute routeId)) := by
  unfold deleteRouteTxn fetchRoute
  refine reads_fetch fun db route own => .select fun db => ?_
  dsimp only
  split
  · exact .rollback notDone_error
  · exact .goes (goes_save fun _ => own ▸ rfl)

theorem updateVehicleTxn_reads {vehicleId : Int} {data : VehicleUpdate} :
    (updateVehicleTxn E vehicleId data).Reads NotDone
      (Call.Goes E a (.updateVehicle vehicleId data)) := by
  unfold updateVehicleTxn fetchVehicle
  refine reads_fetch fun db vehicle own => reads_changeUniqueTxn fun code kept =>
    reads_ite (.goes ?_)
  exact goes_save_ite (fun _ => .inl rfl) fun _ => .inr ⟨vehicle, _, own, kept, rfl⟩

theorem deleteVehicleTxn_reads {vehicleId : Int} :
    (deleteVehicleTxn E vehicleId).Reads NotDone (Call.Goes E a (.deleteVehicle vehicleId)) := by
  have last (vehicle : Vehicle) (own : vehicle.id = vehicleId) (hasHistory : Nat)
      (hasCurrent : Bool) : (deleteUntracked E vehicle hasHistory hasCurrent).Reads NotDone
        (Call.Goes E a (.deleteVehicle vehicleId)) := by
    unfold deleteUntracked
    split
    · exact .rollback notDone_error
    · exact .goes (goes_save fun _ => own ▸ rfl)
  unfold deleteVehicleTxn fetchVehicle
  refine reads_fetch fun loaded vehicle own => .select fun db => ?_
  dsimp only
  split
  · exact .rollback notDone_error
  · refine .select fun db => ?_
    split
    · exact last vehicle own _ _
    · exact .select fun db => last vehicle own _ _

theorem updateUserTxn_reads {userId : Int} {data : UserUpdate} :
    (updateUserTxn E (a.hashPassword 0) userId data).Reads NotDone
      (Call.Goes E a (.updateUser userId data)) := by
  unfold updateUserTxn fetchUser
  refine reads_fetch fun db user own => reads_changeUniqueTxn fun email kept => .goes ?_
  exact goes_save_ite (fun _ => .inl rfl) fun _ => .inr ⟨user, _, own, kept, rfl⟩

theorem deleteUserTxn_reads {userId : Int} :
    (deleteUserTxn E userId).Reads NotDone (Call.Goes E a (.deleteUser userId)) := by
  unfold deleteUserTxn fetchUser
  exact reads_fetch fun db user own => .goes (goes_save fun _ => own ▸ rfl)

theorem assignTxn_reads {userId : Int} {data : AssignmentUpdate} :
    (assignTxn E userId data).Reads NotDone (Call.Goes E a (.setAssignment userId data)) := by
  have last (user : User) (own : user.id = userId) (routeId vehicleId : Option Int)
      (route : routeId = data.routeId) (vehicle : vehicleId = data.vehicleId) :
      (saveForeignKeys E user routeId vehicleId).Reads NotDone
        (Call.Goes E a (.setAssignment userId data)) := by
    subst route vehicle
    exact .goes (goes_save_ite (fun _ => .inl rfl) fun _ => .inr ⟨user, own, rfl⟩)
  unfold assignTxn fetchUser
  refine reads_fetch fun db user own => ?_
  rcases data.eq_unassign_or_assign with rfl | ⟨routeId, vehicleId, rfl⟩
  · exact last user own _ _ rfl rfl
  · exact reads_fetchAgain fun route mine => reads_fetchAgain fun vehicle mine' =>
      reads_rejectIf (reads_rejectIf (last user own _ _ (congrArg some mine)
        (congrArg some mine')))

theorem ingestTxn_reads {m : GPSMessage} :
    (ingestTxn E m).Reads NotDone (Call.Goes E a (.handleGpsMessage m)) := by
  unfold ingestTxn handleGpsMessageTxn
  split
  · refine .select fun db => ?_
    cases db.vehicles.get m.vehicleId with
    | none => exact .rollback nofun
    | some vehicle =>
        dsimp only
        split
        · exact .rollback nofun
        · split
          · exact .goes (.inr ⟨m, _, rfl, rfl⟩)
          · exact .rollback notDone_error
  · exact .rollback notDone_error

/-- Every call reads, and then rolls back or goes on with its statements. -/
theorem Call.txn_reads (E : Engine) (a : Ambient) (c : Call) :
    (c.txn E a).Reads NotDone (c.Goes E a) := by
  cases c with
  | createRoute data =>
      exact reads_ite (reads_rejectIf (reads_ite (.goes (goes_save fun _ => rfl))))
  | updateRoute routeId data => exact updateRouteTxn_reads
  | deleteRoute routeId => exact deleteRouteTxn_reads
  | createVehicle data => exact reads_rejectIf (reads_ite (.goes (goes_save fun _ => rfl)))
  | updateVehicle vehicleId data => exact updateVehicleTxn_reads
  | deleteVehicle vehicleId => exact deleteVehicleTxn_reads
  | createUser data => exact reads_ite (reads_rejectIf (.goes (goes_save fun _ => rfl)))
  | updateUser userId data => exact updateUserTxn_reads
  | deleteUser userId => exact deleteUserTxn_reads
  | setAssignment userId data => exact assignTxn_reads
  | handleGpsMessage m => exact ingestTxn_reads

/-! ## What the calls ensure -/

/-- What a constraint raises is not an answer. -/
def OnlyRaises (w : CallStatement) : Prop :=
  ∀ db result, w.stmt db = .error result → NotDone result

theorem onlyRaises_of_mapError {locks : Option (Locks Lockable)} {run : DB → Except Failure DB}
    {residue : DB → DB} : OnlyRaises ⟨locks, fun db => (run db).mapError .error, residue⟩ := by
  intro db result raised
  dsimp only at raised
  cases ran : run db with
  | ok db' =>
      rw [ran] at raised
      cases raised
  | error failure =>
      rw [ran] at raised
      cases raised
      exact notDone_error

theorem Call.commits_raises {c : Call} {pending : List CallStatement} {db : DB}
    (commits : c.Commits E a pending db) : ∀ w ∈ pending, OnlyRaises w := by
  have nothing : ∀ w ∈ ([] : List CallStatement), OnlyRaises w :=
    fun _ member => (List.not_mem_nil member).elim
  have one {w : CallStatement} (raises : OnlyRaises w) : ∀ w' ∈ [w], OnlyRaises w' :=
    List.forall_mem_singleton.mpr raises
  cases c with
  | createRoute data => exact commits ▸ one onlyRaises_of_mapError
  | updateRoute routeId data =>
      rcases commits with rfl | ⟨loaded, new, _, _, rfl⟩
      · exact nothing
      · exact one onlyRaises_of_mapError
  | deleteRoute routeId => exact commits ▸ one onlyRaises_of_mapError
  | createVehicle data => exact commits ▸ one onlyRaises_of_mapError
  | updateVehicle vehicleId data =>
      rcases commits with rfl | ⟨loaded, new, _, _, rfl⟩
      · exact nothing
      · exact one onlyRaises_of_mapError
  | deleteVehicle vehicleId => exact commits ▸ one onlyRaises_of_mapError
  | createUser data => exact commits ▸ one onlyRaises_of_mapError
  | updateUser userId data =>
      rcases commits with rfl | ⟨loaded, new, _, _, rfl⟩
      · exact nothing
      · exact one onlyRaises_of_mapError
  | deleteUser userId => exact commits ▸ one onlyRaises_of_mapError
  | setAssignment userId data =>
      rcases commits with rfl | ⟨user, _, rfl⟩
      · exact nothing
      · exact one onlyRaises_of_mapError
  | handleGpsMessage m =>
      have point : OnlyRaises (pointOf E m) := onlyRaises_of_mapError
      rcases commits with ⟨rfl, _⟩ | rfl | ⟨loaded, rfl | rfl⟩
      · exact one point
      · exact List.forall_mem_cons.mpr ⟨point, one onlyRaises_of_mapError⟩
      · exact List.forall_mem_cons.mpr ⟨onlyRaises_of_mapError, one point⟩
      · exact List.forall_mem_cons.mpr ⟨point, one onlyRaises_of_mapError⟩

section

variable {R : DB → DB → Prop}

theorem save_ensures {statement : Option CallStatement} {db : DB}
    {done : List CallStatement → Except Failure Bool → DB → Prop}
    (each : ∀ w ∈ statement.toList, OnlyRaises w)
    (commits : ∀ db, done statement.toList (.ok true) db) :
    (save statement).Ensures R done (fun result _ => NotDone result) [] db := by
  cases statement with
  | none => exact fun db' _ => commits db'
  | some w =>
      exact fun db' _ => ⟨each w List.mem_cons_self db', fun _ db'' _ => commits db''⟩

/-- The point is not a current location. -/
theorem pointOf_locations {m : GPSMessage} {db : DB} :
    (visible [pointOf E m] db).vehicleCurrentLocation = db.vehicleCurrentLocation := by
  change ((pointOf E m).apply db).vehicleCurrentLocation = _
  rcases (pointOf E m).apply_cases db with kept | stored
  · rw [kept]
  · rw [Engine.execute_eq_ok (mapError_eq_ok.mp stored)]

variable (keeps : ∀ {db db' : DB}, R db db' →
  db.vehicleCurrentLocation.KeepsKeys (fun _ => False) db'.vehicleCurrentLocation)
include keeps

/-- With the point sent. -/
theorem saveCurrent_ensures {m : GPSMessage} {current : Option VehicleCurrentLocation} {db : DB}
    (found : current.isSome = true → db.vehicleCurrentLocation.HasKey m.vehicleId) :
    (saveCurrent E fixLocks m current).Ensures R
      (fun pending result db => Call.Commits E a (.handleGpsMessage m) pending db ∧
        result = .ok true)
      (fun result _ => NotDone result) [pointOf E m] db := by
  cases current with
  | none =>
      exact fun db' _ => ⟨fun _ => onlyRaises_of_mapError _ _,
        fun _ db'' _ => ⟨.inr (.inl rfl), rfl⟩⟩
  | some current =>
      unfold saveCurrent
      dsimp only
      split
      · exact fun db' _ => ⟨fun _ => onlyRaises_of_mapError _ _,
          fun _ db'' _ => ⟨.inr (.inr ⟨current, .inr rfl⟩), rfl⟩⟩
      · exact fun db' later => ⟨.inl ⟨rfl, keeps later _ id (found rfl)⟩, rfl⟩

theorem storeFix_ensures {m : GPSMessage} {current : Option VehicleCurrentLocation} {db : DB}
    (loaded : current.isSome = true → db.vehicleCurrentLocation.HasKey m.vehicleId) :
    (storeFix E fixLocks m current).Ensures R
      (fun pending result db => Call.Commits E a (.handleGpsMessage m) pending db ∧
        result = .ok true)
      (fun result _ => NotDone result) [] db := by
  cases current with
  | none =>
      refine fun db'' _ => ⟨fun _ => onlyRaises_of_mapError _ _, fun _ db' _ => ?_⟩
      refine saveCurrent_ensures keeps fun present => ?_
      have same : (visible [pointOf E m] db').vehicleCurrentLocation =
          db'.vehicleCurrentLocation := pointOf_locations
      exact same ▸ Table.hasKey_iff_get.mpr present
  | some current =>
      unfold storeFix
      dsimp only
      split
      · exact fun db' _ => ⟨fun _ => onlyRaises_of_mapError _ _, fun _ db'' _ =>
          ⟨fun _ => onlyRaises_of_mapError _ _, fun _ db' _ =>
            ⟨.inr (.inr ⟨current, .inl rfl⟩), rfl⟩⟩⟩
      · exact fun db' later => ⟨fun _ => onlyRaises_of_mapError _ _, fun _ db'' later' =>
          ⟨.inl ⟨rfl, keeps later' _ id (keeps later _ id (loaded rfl))⟩, rfl⟩⟩

/-- The handler leaves the current location alone only if there is one. -/
theorem ingestTxn_ensures {m : GPSMessage} {db : DB} :
    (ingestTxn E m).Ensures R
      (fun pending result db => Call.Commits E a (.handleGpsMessage m) pending db ∧
        result = .ok true)
      (fun result _ => NotDone result) [] db := by
  unfold ingestTxn handleGpsMessageTxn
  split
  · intro db' _
    dsimp only [visible, List.foldl_nil]
    cases db'.vehicles.get m.vehicleId with
    | none => exact fun _ _ => nofun
    | some vehicle =>
        dsimp only
        split
        · exact fun _ _ => nofun
        · split
          · exact storeFix_ensures keeps fun present => Table.hasKey_iff_get.mpr present
          · exact fun _ _ => nofun
  · exact fun _ _ => nofun

/-- **Effects.**  A call that is not refused commits its statements, and one that is, nothing. -/
theorem Call.txn_ensures (c : Call) (db : DB) : (c.txn E a).Ensures R
    (fun pending result db => c.Commits E a pending db ∧ result = .ok true)
    (fun result _ => NotDone result) [] db := by
  by_cases handler : ∃ m, c = .handleGpsMessage m
  · obtain ⟨m, rfl⟩ := handler
    exact ingestTxn_ensures keeps
  · refine (c.txn_reads E a).ensures (fun txn goes db => ?_) (fun _ fail _ => fail) db
    rcases goes with ⟨statement, rfl, commits⟩ | ⟨m, _, same, _⟩
    · exact save_ensures (commits_raises (commits .empty)) fun db => ⟨commits db, rfl⟩
    · exact (handler ⟨m, same⟩).elim

end

end

end FleetTracking
