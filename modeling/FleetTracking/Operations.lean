import FleetTracking.Seeding
import FleetTracking.Services.FleetAdmin

/-!
# The operations, one after another

`Call` is one call of an admin service or of the GPS handler, made the way the endpoints and
the subscriber make it: the calls on a row load it first.  An `Op` is a call or a seed run.
`after` is the database an operation leaves, `runCalls` and `runOps` that of a run.

`Call.perform_edits` and `Op.after_edits` connect the services and the seed to the abstract
model: an operation makes allowed edits of its own kind, or none.  The guards of the services
are used here and nowhere else; no step appeals to a constraint of the database.
-/

namespace FleetTracking

open Relational Pydantic

/-- What a call finds around it: the clock, and the password hasher with its salts. -/
structure Ambient where
  now : Int
  hashPassword : Nat → String → String

/-- A clock that stands still, and a hasher that shows what it was given. -/
def plainAmbient : Ambient := ⟨0, fun _ password => password⟩

inductive Call
  | createRoute (data : RouteCreate)
  | updateRoute (routeId : Int) (data : RouteUpdate)
  | deleteRoute (routeId : Int)
  | createVehicle (data : VehicleCreate)
  | updateVehicle (vehicleId : Int) (data : VehicleUpdate)
  | deleteVehicle (vehicleId : Int)
  | createUser (data : UserCreate)
  | updateUser (userId : Int) (data : UserUpdate)
  | deleteUser (userId : Int)
  | setAssignment (userId : Int) (data : AssignmentUpdate)
  | handleGpsMessage (m : GPSMessage)

namespace Call

variable (E : Engine) (a : Ambient) (db : DB)

/-- The database a call commits, or what it raises. -/
def perform : Call → Except Failure DB
  | createRoute data => (FleetTracking.createRoute E db a.now data).map Prod.snd
  | updateRoute routeId data =>
      (getRoute E db routeId).bind fun route =>
        (FleetTracking.updateRoute E db route data).map Prod.snd
  | deleteRoute routeId =>
      (getRoute E db routeId).bind fun route =>
        FleetTracking.deleteRoute E db route
  | createVehicle data => (FleetTracking.createVehicle E db a.now data).map Prod.snd
  | updateVehicle vehicleId data =>
      (getVehicle E db vehicleId).bind fun vehicle =>
        (FleetTracking.updateVehicle E db vehicle data).map Prod.snd
  | deleteVehicle vehicleId =>
      (getVehicle E db vehicleId).bind fun vehicle =>
        FleetTracking.deleteVehicle E db vehicle
  | createUser data =>
      (FleetTracking.createUser E db (a.hashPassword 0) a.now data).map Prod.snd
  | updateUser userId data =>
      (getUser E db userId).bind fun user =>
        (FleetTracking.updateUser E db (a.hashPassword 0) user data).map Prod.snd
  | deleteUser userId =>
      (getUser E db userId).bind fun user =>
        FleetTracking.deleteUser E db user
  | setAssignment userId data => (FleetTracking.setAssignment E db userId data).map Prod.snd
  | handleGpsMessage m => (FleetTracking.handleGpsMessage E db m).map Prod.snd

/-- The database after the call; a call that raised leaves it as it was. -/
def after (c : Call) : DB :=
  match c.perform E a db with
  | .ok db' => db'
  | .error _ => db

end Call

/-- The edits a call may make. -/
def Call.Makes : Call → Edit → Prop
  | createRoute _, .addRoute _ => True
  | updateRoute routeId _, .setRoute r => r.id = routeId
  | deleteRoute routeId, .dropRoute k => k = routeId
  | createVehicle _, .addVehicle _ => True
  | updateVehicle vehicleId _, .setVehicle v => v.id = vehicleId
  | deleteVehicle vehicleId, .dropVehicle k => k = vehicleId
  | createUser _, .addUser u => u.routeId = none ∧ u.vehicleId = none
  | updateUser userId _, .setUser u => u.id = userId
  | deleteUser userId, .dropUser k => k = userId
  | setAssignment userId _, .unassign u => u.id = userId
  | setAssignment userId _, .assign u _ _ => u.id = userId
  | handleGpsMessage m, .ingest m' => m' = m
  | _, _ => False

/-- The database after a run of calls. -/
def runCalls (E : Engine) (db : DB) : List (Ambient × Call) → DB
  | [] => db
  | (a, c) :: calls => runCalls E (c.after E a db) calls

/-- A call, or a run of the seed. -/
inductive Op
  | call (c : Call)
  | seed (fresh : Bool)

namespace Op

def after (E : Engine) (settings : Settings) (a : Ambient) (db : DB) : Op → DB
  | call c => c.after E a db
  | seed fresh => (FleetTracking.seed E settings a.hashPassword a.now fresh db).2

/-- The edits an operation may make. -/
def Makes : Op → Edit → Prop
  | call c, e => c.Makes e
  | seed false, e => e.Adds
  | seed true, e => e = .wipe ∨ e.Adds

end Op

/-- The database after a run of operations. -/
def runOps (E : Engine) (settings : Settings) (db : DB) : List (Ambient × Op) → DB
  | [] => db
  | (a, op) :: ops => runOps E settings (op.after E settings a db) ops

theorem runOps_append (E : Engine) (settings : Settings) (db : DB)
    (ops later : List (Ambient × Op)) :
    runOps E settings db (ops ++ later) = runOps E settings (runOps E settings db ops) later := by
  induction ops generalizing db with
  | nil => rfl
  | cons head ops ih => exact ih _

/-- The database after the first boot: user 1 is the admin, users 2 to 5 hold the routes and
vehicles 1 to 4. -/
def DB.demo : DB := runOps postgres {} .empty [(plainAmbient, .seed false)]

/-- The first demo user, as seeded. -/
def raviRow : User where
  id := 2
  email := some "ravi@fleet.com"
  hashedPassword := "password123"
  isAdmin := false
  routeId := some 1
  vehicleId := some 1
  createdAt := 0

theorem raviRow_member : raviRow ∈ DB.demo.users.toTable := by
  have found : DB.demo.users.get 2 = some raviRow := by decide +kernel
  exact (Table.get_eq_some.mp found).1

/-- The first demo vehicle, as seeded. -/
def expressRow : Vehicle where
  id := 1
  code := some "BUS-001"
  name := some "Chennai Express"
  isActive := some true
  createdAt := 0

/-- Some run from the empty database leads to `db`. -/
def Reachable (E : Engine) (settings : Settings) (db : DB) : Prop :=
  ∃ ops, runOps E settings .empty ops = db

/-! ## What the services' guards say -/

section

variable {E : Engine} {db db' : DB} {a : Ambient}

/-- What was found is the row with that key. -/
theorem getOrMissing_eq_ok {ρ : Type} [SerialKeyed ρ] {t : Serial ρ} {missing : Int → Failure}
    {k : Int} {row : ρ} (found : getOrMissing E t missing k = .ok row) :
    t.get k = some row ∧ Keyed.key row = k := by
  unfold getOrMissing at found
  split at found
  · split at found
    · next h =>
        cases found
        exact ⟨h, (Table.get_eq_some.mp h).2⟩
    · cases found
  · cases found

/-- A unique column keeps its value or takes one that no row has. -/
theorem changeUnique_eq_ok {ρ : Type} [SerialKeyed ρ] {t : Serial ρ} {col : ρ → Option String}
    {taken : Option String → Failure} {current value : Option String}
    {new : Option (Option String)}
    (passed : changeUnique E t col taken current new = .ok value) :
    value = current ∨ ∀ r ∈ t.toTable, col r ≠ value := by
  unfold changeUnique at passed
  split at passed
  · cases passed
    exact .inl rfl
  · split at passed
    · cases passed
      exact .inl rfl
    · split at passed
      · split at passed
        · cases passed
        · next free =>
            cases passed
            exact .inr (Table.ne_of_scalar free)
      · cases passed

/-! ## Every call is an edit -/

/-- `db'` is what the allowed edit `e` makes of `db`. -/
def Edit.Leads (e : Edit) (db db' : DB) : Prop := e.Allowed db ∧ db' = e.apply db

theorem createRoute_edit {data : RouteCreate} {now : Int} {row : BusRoute}
    (done : createRoute E db now data = .ok (row, db')) :
    ∃ r, (Edit.addRoute r).Leads db db' := by
  unfold createRoute at done
  split at done
  · split at done
    · cases done
    · next free =>
        dsimp only at done
        split at done
        · exact ⟨_, Table.ne_of_scalar free, (Engine.insertRouteRow_eq_ok done).2⟩
        · cases done
  · cases done

theorem updateRoute_edit {route row : BusRoute} {data : RouteUpdate}
    (loaded : db.busRoutes.get route.id = some route)
    (done : updateRoute E db route data = .ok (row, db')) :
    row.id = route.id ∧ (Edit.setRoute row).Leads db db' := by
  unfold updateRoute at done
  split at done
  · cases done
  · next name passed =>
      dsimp only at done
      split at done
      · obtain ⟨_, saved, out⟩ := map_eq_ok.mp done
        cases out
        exact ⟨rfl, ⟨route, loaded, changeUnique_eq_ok passed⟩,
          Engine.updateRouteRow_eq_ok loaded saved⟩
      · cases done

theorem deleteRoute_edit {route : BusRoute} (done : deleteRoute E db route = .ok db') :
    (Edit.dropRoute route.id).Leads db db' := by
  unfold deleteRoute at done
  dsimp only at done
  split at done
  · cases done
  · next unused =>
      refine ⟨fun u member => ?_, Engine.execute_eq_ok done⟩
      simpa using Table.count_eq_zero.mp (not_not.mp unused) u member

theorem createVehicle_edit {data : VehicleCreate} {now : Int} {row : Vehicle}
    (done : createVehicle E db now data = .ok (row, db')) :
    ∃ v, (Edit.addVehicle v).Leads db db' := by
  unfold createVehicle at done
  split at done
  · cases done
  · next free =>
      split at done
      · exact ⟨_, Table.ne_of_scalar free, (Engine.insertVehicleRow_eq_ok done).2⟩
      · cases done

theorem updateVehicle_edit {vehicle row : Vehicle} {data : VehicleUpdate}
    (loaded : db.vehicles.get vehicle.id = some vehicle)
    (done : updateVehicle E db vehicle data = .ok (row, db')) :
    row.id = vehicle.id ∧ (Edit.setVehicle row).Leads db db' := by
  unfold updateVehicle at done
  split at done
  · cases done
  · next code passed =>
      dsimp only at done
      split at done
      · obtain ⟨_, saved, out⟩ := map_eq_ok.mp done
        cases out
        exact ⟨rfl, ⟨vehicle, loaded, changeUnique_eq_ok passed⟩,
          Engine.updateVehicleRow_eq_ok loaded saved⟩
      · cases done

theorem deleteVehicle_edit {vehicle : Vehicle} (done : deleteVehicle E db vehicle = .ok db') :
    (Edit.dropVehicle vehicle.id).Leads db db' := by
  unfold deleteVehicle at done
  dsimp only at done
  split at done
  · cases done
  · next unassigned =>
      split at done
      · cases done
      · next untracked =>
          obtain ⟨noHistory, noCurrent⟩ := not_or.mp untracked
          refine ⟨⟨fun u member => ?_, fun p member => ?_, ?_⟩, Engine.execute_eq_ok done⟩
          · simpa using Table.count_eq_zero.mp (not_not.mp unassigned) u member
          · simpa using Table.count_eq_zero.mp (not_not.mp noHistory) p member
          · simpa using noCurrent

theorem createUser_edit {data : UserCreate} {hashPassword : String → String} {now : Int}
    {row : User} (done : createUser E db hashPassword now data = .ok (row, db')) :
    ∃ u : User, u.routeId = none ∧ u.vehicleId = none ∧ (Edit.addUser u).Leads db db' := by
  unfold createUser at done
  split at done
  · split at done
    · cases done
    · next free =>
        obtain ⟨_, out⟩ := Engine.insertUserRow_eq_ok done
        refine ⟨_, rfl, rfl, ⟨Table.ne_of_scalar free, rfl, ?_, ?_⟩, out⟩
        · simp
        · simp
  · cases done

theorem updateUser_edit {user row : User} {data : UserUpdate} {hashPassword : String → String}
    (loaded : db.users.get user.id = some user)
    (done : updateUser E db hashPassword user data = .ok (row, db')) :
    row.id = user.id ∧ (Edit.setUser row).Leads db db' := by
  unfold updateUser at done
  split at done
  · cases done
  · next email passed =>
      obtain ⟨_, saved, out⟩ := map_eq_ok.mp done
      cases out
      exact ⟨rfl, ⟨user, loaded, rfl, rfl, changeUnique_eq_ok passed⟩,
        Engine.updateUserRow_eq_ok loaded saved⟩

theorem deleteUser_edit {user : User} (done : deleteUser E db user = .ok db') :
    (Edit.dropUser user.id).Leads db db' :=
  ⟨trivial, Engine.execute_eq_ok done⟩

theorem setAssignment_edit {userId : Int} {data : AssignmentUpdate} {row : User}
    (done : setAssignment E db userId data = .ok (row, db')) :
    ∃ u, db.users.get userId = some u ∧ u.id = userId ∧
      ((data = .unassign ∧ (Edit.unassign u).Leads db db') ∨
        ∃ routeId vehicleId, data = .assign routeId vehicleId ∧
          (Edit.assign u routeId vehicleId).Leads db db') := by
  unfold setAssignment at done
  split at done
  · cases done
  · next user found =>
      obtain ⟨loaded, same⟩ := getOrMissing_eq_ok found
      rw [key_user] at same
      have own : db.users.get user.id = some user := same ▸ loaded
      refine ⟨user, loaded, same, ?_⟩
      rcases data.eq_unassign_or_assign with rfl | ⟨routeId, vehicleId, rfl⟩
      · obtain ⟨_, saved, out⟩ := map_eq_ok.mp done
        cases out
        exact .inl ⟨rfl, own, Engine.updateAssignmentRow_eq_ok own saved⟩
      · refine .inr ⟨routeId, vehicleId, rfl, ?_⟩
        simp only [AssignmentUpdate.assign] at done
        split at done
        · cases done
        · next route foundRoute =>
            split at done
            · cases done
            · next vehicle foundVehicle =>
                split at done
                · cases done
                · next routeFree =>
                    split at done
                    · cases done
                    · next vehicleFree =>
                        obtain ⟨_, saved, out⟩ := map_eq_ok.mp done
                        obtain ⟨route', rfl⟩ := getOrMissing_eq_ok foundRoute
                        obtain ⟨vehicle', rfl⟩ := getOrMissing_eq_ok foundVehicle
                        cases out
                        refine ⟨⟨own, .of_get route', .of_get vehicle', fun w member holds => ?_,
                          fun w member holds => ?_⟩, Engine.updateAssignmentRow_eq_ok own saved⟩
                        · simpa [holds] using Table.scalar_eq_none.mp routeFree w member
                        · simpa [holds] using Table.scalar_eq_none.mp vehicleFree w member

theorem handleGpsMessage_edit {m : GPSMessage} {stored : Bool}
    (done : handleGpsMessage E db m = .ok (stored, db')) :
    if stored then (Edit.ingest m).Leads db db' else db' = db := by
  rw [handleGpsMessage_eq] at done
  split at done
  · split at done
    · cases done
      rfl
    · next vehicle found =>
        split at done
        · cases done
          rfl
        · next active =>
            split at done
            · cases done
              exact ⟨⟨vehicle, found, not_not.mp active⟩, rfl⟩
            · cases done
  · cases done

/-- **Refinement.**  A call that succeeded has made one allowed edit of its kind, or has
changed nothing. -/
theorem Call.perform_edits {c : Call} (done : c.perform E a db = .ok db') :
    db' = db ∨ ∃ e, c.Makes e ∧ e.Leads db db' := by
  cases c with
  | createRoute data =>
      obtain ⟨_, created, rfl⟩ := map_eq_ok.mp done
      obtain ⟨r, leads⟩ := createRoute_edit created
      exact .inr ⟨.addRoute r, trivial, leads⟩
  | updateRoute routeId data =>
      obtain ⟨route, found, done⟩ := bind_eq_ok.mp done
      obtain ⟨⟨row, _⟩, updated, rfl⟩ := map_eq_ok.mp done
      obtain ⟨loaded, rfl⟩ := getOrMissing_eq_ok found
      obtain ⟨same, leads⟩ := updateRoute_edit loaded updated
      exact .inr ⟨.setRoute row, same, leads⟩
  | deleteRoute routeId =>
      obtain ⟨route, found, deleted⟩ := bind_eq_ok.mp done
      exact .inr ⟨.dropRoute route.id, (getOrMissing_eq_ok found).2, deleteRoute_edit deleted⟩
  | createVehicle data =>
      obtain ⟨_, created, rfl⟩ := map_eq_ok.mp done
      obtain ⟨v, leads⟩ := createVehicle_edit created
      exact .inr ⟨.addVehicle v, trivial, leads⟩
  | updateVehicle vehicleId data =>
      obtain ⟨vehicle, found, done⟩ := bind_eq_ok.mp done
      obtain ⟨⟨row, _⟩, updated, rfl⟩ := map_eq_ok.mp done
      obtain ⟨loaded, rfl⟩ := getOrMissing_eq_ok found
      obtain ⟨same, leads⟩ := updateVehicle_edit loaded updated
      exact .inr ⟨.setVehicle row, same, leads⟩
  | deleteVehicle vehicleId =>
      obtain ⟨vehicle, found, deleted⟩ := bind_eq_ok.mp done
      exact .inr ⟨.dropVehicle vehicle.id, (getOrMissing_eq_ok found).2,
        deleteVehicle_edit deleted⟩
  | createUser data =>
      obtain ⟨_, created, rfl⟩ := map_eq_ok.mp done
      obtain ⟨u, noRoute, noVehicle, leads⟩ := createUser_edit created
      exact .inr ⟨.addUser u, ⟨noRoute, noVehicle⟩, leads⟩
  | updateUser userId data =>
      obtain ⟨user, found, done⟩ := bind_eq_ok.mp done
      obtain ⟨⟨row, _⟩, updated, rfl⟩ := map_eq_ok.mp done
      obtain ⟨loaded, rfl⟩ := getOrMissing_eq_ok found
      obtain ⟨same, leads⟩ := updateUser_edit loaded updated
      exact .inr ⟨.setUser row, same, leads⟩
  | deleteUser userId =>
      obtain ⟨user, found, deleted⟩ := bind_eq_ok.mp done
      exact .inr ⟨.dropUser user.id, (getOrMissing_eq_ok found).2, deleteUser_edit deleted⟩
  | setAssignment userId data =>
      obtain ⟨_, assigned, rfl⟩ := map_eq_ok.mp done
      obtain ⟨u, _, same, ⟨_, leads⟩ | ⟨routeId, vehicleId, _, leads⟩⟩ :=
        setAssignment_edit assigned
      · exact .inr ⟨.unassign u, same, leads⟩
      · exact .inr ⟨.assign u routeId vehicleId, same, leads⟩
  | handleGpsMessage m =>
      obtain ⟨⟨stored, _⟩, handled, rfl⟩ := map_eq_ok.mp done
      have edit := handleGpsMessage_edit handled
      cases stored with
      | false => exact .inl edit
      | true => exact .inr ⟨.ingest m, rfl, edit⟩

theorem Call.after_edits (c : Call) (E : Engine) (a : Ambient) (db : DB) :
    c.after E a db = db ∨ ∃ e, c.Makes e ∧ e.Leads db (c.after E a db) := by
  unfold after
  cases done : c.perform E a db with
  | error failure => exact .inl rfl
  | ok db' => exact c.perform_edits done

/-! ## Runs -/

/-- What every edit of a call keeps, a run of calls keeps. -/
theorem runCalls_keep {P : DB → Prop}
    (step : ∀ {db : DB} {c : Call} {e : Edit}, P db → c.Makes e → e.Allowed db → P (e.apply db))
    (calls : List (Ambient × Call)) (start : P db) : P (runCalls E db calls) := by
  induction calls generalizing db with
  | nil => exact start
  | cons call calls ih =>
      obtain ⟨a, c⟩ := call
      refine ih ?_
      rcases c.after_edits E a db with same | ⟨e, makes, allowed, leads⟩
      · rwa [same]
      · rw [leads]
        exact step start makes allowed

variable {settings : Settings}

/-- A plain seed run makes what `Seeded` says. -/
theorem seed_seeded (E : Engine) (settings : Settings) (a : Ambient) (db : DB) :
    Seeded db (seed E settings a.hashPassword a.now false db).2 := by
  obtain ⟨created, db', done, seeded⟩ :=
    seedMissing_spec E settings a.hashPassword a.now db
  simp only [seed, Bool.false_eq_true, if_false, done, settle]
  exact seeded

/-- A fresh seed run is a plain one on wiped tables. -/
theorem seed_fresh (E : Engine) (settings : Settings) (a : Ambient) (db : DB) :
    seed E settings a.hashPassword a.now true db =
      seed E settings a.hashPassword a.now false db.wiped := by
  simp only [seed, if_true, truncate_eq, Bool.false_eq_true, if_false]

/-- **Refinement.**  An operation is a run of allowed edits of its kind. -/
theorem Op.after_edits (op : Op) (E : Engine) (settings : Settings) (a : Ambient) (db : DB) :
    ∃ es, Edits db es (op.after E settings a db) ∧ ∀ e ∈ es, op.Makes e := by
  match op with
  | call c =>
      rcases c.after_edits E a db with same | ⟨e, makes, allowed, leads⟩
      · exact ⟨[], by rw [after, same]; exact .nil, fun _ member => by cases member⟩
      · exact ⟨[e], by rw [after, leads]; exact .single allowed,
          fun _ member => List.mem_singleton.mp member ▸ makes⟩
  | seed false => exact (seed_seeded E settings a db).added
  | seed true =>
      obtain ⟨es, run, adds⟩ := (seed_seeded E settings a db.wiped).added
      rw [after, seed_fresh]
      exact ⟨.wipe :: es, .cons trivial run, fun e member =>
        (List.mem_cons.mp member).imp id (adds e)⟩

/-- What every edit keeps, a run of operations keeps. -/
theorem runOps_keep {P : DB → Prop}
    (step : ∀ {db : DB} {e : Edit}, P db → e.Allowed db → P (e.apply db))
    (ops : List (Ambient × Op)) (start : P db) : P (runOps E settings db ops) := by
  induction ops generalizing db with
  | nil => exact start
  | cons head ops ih =>
      obtain ⟨a, op⟩ := head
      obtain ⟨es, run, _⟩ := op.after_edits E settings a db
      exact ih (run.keep (Q := fun _ => True) (fun p _ allowed => step p allowed) start
        fun _ _ => trivial)

/-- No edit hands out the id of a user again. -/
theorem Edit.apply_follows (db : DB) (e : Edit) : db.users.Follows (e.apply db).users := by
  cases e with
  | addUser u => exact .insert db.users u
  | setUser u => exact .put db.users u
  | dropUser userId => exact .erase db.users userId
  | unassign u => exact .put db.users _
  | assign u routeId vehicleId => exact .put db.users _
  | wipe => exact .clear db.users
  | _ => exact .refl db.users

theorem Op.after_follows (op : Op) (E : Engine) (settings : Settings) (a : Ambient) (db : DB) :
    db.users.Follows (op.after E settings a db).users := by
  obtain ⟨es, run, _⟩ := op.after_edits E settings a db
  exact run.keep (P := fun db' => db.users.Follows db'.users) (Q := fun _ => True)
    (fun {db' e} follows _ _ => follows.trans (e.apply_follows db')) (.refl db.users)
    fun _ _ => trivial

theorem runOps_follows (ops : List (Ambient × Op)) (E : Engine) (settings : Settings) (db : DB) :
    db.users.Follows (runOps E settings db ops).users := by
  induction ops generalizing db with
  | nil => exact .refl db.users
  | cons head ops ih => exact (head.2.after_follows E settings head.1 db).trans (ih _)

/-- Calls are operations. -/
theorem reachable_runCalls (E : Engine) (settings : Settings) (calls : List (Ambient × Call)) :
    Reachable E settings (runCalls E .empty calls) := by
  have run (db : DB) : runOps E settings db (calls.map fun call => (call.1, .call call.2)) =
      runCalls E db calls := by
    induction calls generalizing db with
    | nil => rfl
    | cons call calls ih => exact ih _
  exact ⟨_, run .empty⟩

/-- Every reachable database is consistent. -/
theorem Reachable.consistent (reachable : Reachable E settings db) : Consistent db := by
  obtain ⟨ops, rfl⟩ := reachable
  exact runOps_keep Consistent.apply ops .empty

end

end FleetTracking
