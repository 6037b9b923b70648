import FleetTracking.Raising
import FleetTracking.Relational.Footprint

/-!
# What the response models accept

While the tables are `Shown` no response model rejects a row, and no call brings them out of it.
A call that stores a row answers with a row of the tables that it leaves.
-/

namespace FleetTracking

open Relational Python Pydantic Routing Api

/-- pydantic has made the e-mail that the call stores, if any. -/
def Call.Addressed (c : Coerce) : Call → Prop
  | createUser data => ∃ value, c.email value = some data.email
  | updateUser _ data => ∀ email, data.email = .value email → ∃ value, c.email value = some email
  | _ => True

/-- What `EmailStr` has made it accepts. -/
def StableEmails (c : Coerce) : Prop :=
  ∀ value email, c.email value = some email → ∃ address, c.email (.str email) = some address

/-- The users' e-mails are accepted. -/
def EmailsAccepted (c : Coerce) (db : DB) : Prop :=
  ∀ u ∈ db.users.toTable, EmailAccepted c u.email

/-- Nothing in the tables is rejected by a response model, and it stays so: the engine enforces
the constraints, and `EmailStr` accepts what it has made. -/
structure Shown (A : App) (db : DB) : Prop where
  filled : Filled db
  emails : EmailsAccepted A.coerce db
  enforced : A.engine.constraints = true
  stable : StableEmails A.coerce

section

variable {A : App} {a : Ambient} {db db' : DB} {E : Engine} {c : Coerce}

theorem EmailsAccepted.insert {u : User} (emails : EmailsAccepted c db)
    (own : EmailAccepted c u.email) :
    EmailsAccepted c { db with users := db.users.insert u } := by
  intro w member
  rcases Serial.mem_insert.mp member with old | rfl
  · exact emails w old
  · exact own

theorem EmailsAccepted.put {u : User} (emails : EmailsAccepted c db)
    (own : EmailAccepted c u.email) : EmailsAccepted c { db with users := db.users.put u } := by
  intro w member
  rcases Table.mem_put.mp member with ⟨old, _⟩ | ⟨rfl, _⟩
  · exact emails w old
  · exact own

/-- A changed column keeps its value or takes the one given. -/
theorem changeUnique_value {ρ : Type} [SerialKeyed ρ] {t : Serial ρ} {col : ρ → Option String}
    {taken : Option String → Failure} {current value : Option String}
    {new : Option (Option String)}
    (passed : changeUnique E t col taken current new = .ok value) :
    value = current ∨ new = some value := by
  unfold changeUnique at passed
  split at passed
  · exact .inl (Except.ok.inj passed).symm
  · split at passed
    · exact .inl (Except.ok.inj passed).symm
    · split at passed
      · split at passed
        · cases passed
        · exact .inr (congrArg some (Except.ok.inj passed))
      · cases passed

theorem updateUser_email {hashPassword : String → String} {user row : User} {data : UserUpdate}
    (done : updateUser E db hashPassword user data = .ok (row, db')) :
    row.email = user.email ∨ change id data.email = some row.email := by
  unfold updateUser at done
  split at done
  · cases done
  · next passed =>
      obtain ⟨_, _, out⟩ := map_eq_ok.mp done
      cases out
      exact changeUnique_value passed

theorem createUser_email {hashPassword : String → String} {now : Int} {row : User}
    {data : UserCreate} (done : createUser E db hashPassword now data = .ok (row, db')) :
    ∃ u : User, u.email = some data.email ∧ db' = (Edit.addUser u).apply db := by
  unfold createUser at done
  split at done
  · split at done
    · cases done
    · exact ⟨_, rfl, (Engine.insertUserRow_eq_ok done).2⟩
  · cases done

/-- The other edits give no user another e-mail. -/
theorem EmailsAccepted.edit {e : Edit} {call : Call} (emails : EmailsAccepted c db)
    (makes : call.Makes e) (leads : e.Leads db db')
    (other : ∀ data, call ≠ .createUser data) (other' : ∀ k data, call ≠ .updateUser k data) :
    EmailsAccepted c db' := by
  obtain ⟨allowed, rfl⟩ := leads
  cases e with
  | addUser u => cases call <;> first | exact (other _ rfl).elim | exact makes.elim
  | setUser u => cases call <;> first | exact (other' _ _ rfl).elim | exact makes.elim
  | dropUser userId => exact fun w member => emails w (Table.mem_erase.mp member).1
  | unassign u => exact emails.put (emails u (Table.get_eq_some.mp allowed).1)
  | assign u routeId vehicleId => exact emails.put (emails u (Table.get_eq_some.mp allowed.1).1)
  | wipe => exact fun w member => (Table.not_mem_empty member).elim
  | _ => exact emails

/-- **Step.** -/
theorem EmailsAccepted.after {call : Call} (emails : EmailsAccepted A.coerce db)
    (enforced : A.engine.constraints = true) (filled : Filled db)
    (stable : StableEmails A.coerce) (addressed : call.Addressed A.coerce) :
    EmailsAccepted A.coerce (call.after A.engine a db) := by
  unfold Call.after
  cases done : call.perform A.engine a db with
  | error failure => exact emails
  | ok db' =>
      dsimp only
      cases call with
      | createUser data =>
          obtain ⟨⟨_, _⟩, created, rfl⟩ := map_eq_ok.mp done
          obtain ⟨u, has, rfl⟩ := createUser_email created
          obtain ⟨value, made⟩ := addressed
          obtain ⟨address, passes⟩ := stable value data.email made
          refine emails.insert ⟨address, ?_⟩
          rw [has]
          exact passes
      | updateUser userId data =>
          obtain ⟨user, found, done⟩ := bind_eq_ok.mp done
          obtain ⟨⟨row, _⟩, updated, rfl⟩ := map_eq_ok.mp done
          obtain ⟨loaded, rfl⟩ := getOrMissing_eq_ok found
          obtain ⟨_, _, rfl⟩ := updateUser_edit loaded updated
          have has : row.email.isSome = true := updateUser_fills enforced filled loaded updated
          refine emails.put ?_
          rcases updateUser_email updated with kept | given
          · rw [kept]
            exact emails user (Table.get_eq_some.mp loaded).1
          · cases new : data.email with
            | unset =>
                rw [new] at given
                cases given
            | null =>
                rw [new] at given
                rw [← Option.some.inj given] at has
                cases has
            | value email =>
                rw [new] at given
                obtain ⟨value, made⟩ := addressed email new
                obtain ⟨address, passes⟩ := stable value email made
                rw [← Option.some.inj given]
                exact ⟨address, passes⟩
      | _ =>
          rcases Call.perform_edits done with rfl | ⟨e, makes, leads⟩
          · exact emails
          · exact emails.edit makes leads nofun nofun

/-! ### The row that is answered is the one written -/

/-- Of the fleet's tables, only one row of the routes is written. -/
structure DB.SavesRoute (db db' : DB) (row : BusRoute) : Prop where
  saves : db.busRoutes.Saves db'.busRoutes row
  vehicles : db'.vehicles = db.vehicles
  users : db'.users = db.users

structure DB.SavesVehicle (db db' : DB) (row : Vehicle) : Prop where
  routes : db'.busRoutes = db.busRoutes
  saves : db.vehicles.Saves db'.vehicles row
  users : db'.users = db.users

structure DB.SavesUser (db db' : DB) (row : User) : Prop where
  routes : db'.busRoutes = db.busRoutes
  vehicles : db'.vehicles = db.vehicles
  saves : db.users.Saves db'.users row

theorem createRoute_saves {now : Int} {data : RouteCreate} {row : BusRoute}
    (done : createRoute E db now data = .ok (row, db')) : db.SavesRoute db' row := by
  unfold createRoute at done
  split at done
  · split at done
    · cases done
    · dsimp only at done
      split at done
      · obtain ⟨rfl, rfl⟩ := Engine.insertRouteRow_eq_ok done
        exact ⟨Serial.saves_insert, rfl, rfl⟩
      · cases done
  · cases done

theorem createVehicle_saves {now : Int} {data : VehicleCreate} {row : Vehicle}
    (done : createVehicle E db now data = .ok (row, db')) : db.SavesVehicle db' row := by
  unfold createVehicle at done
  split at done
  · cases done
  · split at done
    · obtain ⟨rfl, rfl⟩ := Engine.insertVehicleRow_eq_ok done
      exact ⟨rfl, Serial.saves_insert, rfl⟩
    · cases done

theorem createUser_saves {hashPassword : String → String} {now : Int} {data : UserCreate}
    {row : User} (done : createUser E db hashPassword now data = .ok (row, db')) :
    db.SavesUser db' row := by
  unfold createUser at done
  split at done
  · split at done
    · cases done
    · obtain ⟨rfl, rfl⟩ := Engine.insertUserRow_eq_ok done
      exact ⟨rfl, rfl, Serial.saves_insert⟩
  · cases done

/-- A row that is overwritten is there. -/
theorem saves_loaded {ρ : Type} [SerialKeyed ρ] {t : Serial ρ} {old row : ρ}
    (loaded : t.get (Keyed.key old) = some old) (own : Keyed.key row = Keyed.key old) :
    t.Saves (t.put row) row :=
  Serial.saves_put (by rw [own]; exact loaded)

theorem updateRoute_saves {route row : BusRoute} {data : RouteUpdate}
    (loaded : db.busRoutes.get route.id = some route)
    (done : updateRoute E db route data = .ok (row, db')) : db.SavesRoute db' row := by
  obtain ⟨own, _, rfl⟩ := updateRoute_edit loaded done
  exact ⟨saves_loaded loaded own, rfl, rfl⟩

theorem updateVehicle_saves {vehicle row : Vehicle} {data : VehicleUpdate}
    (loaded : db.vehicles.get vehicle.id = some vehicle)
    (done : updateVehicle E db vehicle data = .ok (row, db')) : db.SavesVehicle db' row := by
  obtain ⟨own, _, rfl⟩ := updateVehicle_edit loaded done
  exact ⟨rfl, saves_loaded loaded own, rfl⟩

theorem updateUser_saves {hashPassword : String → String} {user row : User} {data : UserUpdate}
    (loaded : db.users.get user.id = some user)
    (done : updateUser E db hashPassword user data = .ok (row, db')) : db.SavesUser db' row := by
  obtain ⟨own, _, rfl⟩ := updateUser_edit loaded done
  exact ⟨rfl, rfl, saves_loaded loaded own⟩

/-- The row that an assignment is written to. -/
theorem updateAssignmentRow_saves {user row : User} (changed : User)
    (loaded : db.users.get user.id = some user) (own : changed.id = user.id)
    (done : (E.updateAssignmentRow db user changed).map (fun db' => (changed, db')) =
      .ok (row, db')) : db.SavesUser db' row := by
  obtain ⟨written, saved, out⟩ := map_eq_ok.mp done
  obtain ⟨rfl, rfl⟩ := Prod.mk.inj out
  rw [Engine.updateAssignmentRow_eq_ok (by rw [own, loaded]) saved]
  exact ⟨rfl, rfl, saves_loaded loaded own⟩

theorem setAssignment_saves {userId : Int} {data : AssignmentUpdate} {row : User}
    (done : setAssignment E db userId data = .ok (row, db')) : db.SavesUser db' row := by
  unfold setAssignment at done
  split at done
  · cases done
  · next user found =>
      have loaded : db.users.get user.id = some user := by
        obtain ⟨loaded, rfl⟩ := getOrMissing_eq_ok found
        exact loaded
      split at done
      · split at done
        · cases done
        · split at done
          · cases done
          · split at done
            · cases done
            · split at done
              · cases done
              · exact updateAssignmentRow_saves _ loaded (by rfl) done
      · dsimp only at done
        exact updateAssignmentRow_saves _ loaded (by rfl) done

/-- **Step.**  What a call leaves is shown. -/
theorem Shown.after {call : Call} (shown : Shown A db) (addressed : call.Addressed A.coerce) :
    Shown A (call.after A.engine a db) where
  filled := by
    have filled : Filled ((Op.call call).after A.engine A.settings a db) :=
      Op.after_filled shown.enforced shown.filled
    exact filled
  emails := EmailsAccepted.after shown.emails shown.enforced shown.filled shown.stable addressed
  enforced := shown.enforced
  stable := shown.stable

end

/-! ## The e-mails in a body -/

section

variable {c : Coerce} {json : Json} {r : Request}

theorem under_eq_ok {α : Type} {key : String} {value : Validated α} {a : α}
    (passed : value.under key = .ok a) : value = .ok a := by
  cases value with
  | ok a' => exact passed
  | error errors => cases passed

theorem patch_eq_value {α : Type} {key : String} {check : Json → Validated α} {a : α}
    (passed : patch key check json = .ok (.value a)) :
    ∃ value, json.field? key = some value ∧ check value = .ok a := by
  unfold patch at passed
  split at passed
  · cases passed
  · next value _ has =>
      obtain ⟨_, checked, same⟩ := map_eq_ok.mp (under_eq_ok passed)
      cases same
      exact ⟨value, has, checked⟩
  · cases passed

theorem UserCreate.email_of_validate {body : UserCreate} (valid : validate c json = .ok body) :
    ∃ value, c.email value = some body.email := by
  obtain ⟨_, isAdmin, built, _, rfl⟩ := field_eq_ok valid
  obtain ⟨_, password, begun, _, rfl⟩ := field_eq_ok built
  obtain ⟨_, email, started, checked, rfl⟩ := field_eq_ok begun
  obtain ⟨value, _, typed⟩ := required_eq_ok checked
  cases started
  exact ⟨value, convert_of_typed typed⟩

theorem UserUpdate.email_of_validate {body : UserUpdate} (valid : validate c json = .ok body)
    {email : String} (given : body.email = .value email) :
    ∃ value, c.email value = some email := by
  obtain ⟨_, isAdmin, built, _, rfl⟩ := field_eq_ok valid
  obtain ⟨_, password, begun, _, rfl⟩ := field_eq_ok built
  obtain ⟨_, new, started, checked, rfl⟩ := field_eq_ok begun
  cases started
  cases given
  obtain ⟨value, _, typed⟩ := patch_eq_value checked
  exact ⟨value, convert_of_typed typed⟩

theorem Request.bodyAs_eq_ok {α : Type} {validate : Json → Validated α} {body : α}
    (passed : r.bodyAs validate = .ok body) : ∃ json, validate json = .ok body := by
  unfold Request.bodyAs at passed
  split at passed
  · next members _ => exact ⟨.obj members, under_eq_ok passed⟩
  · cases passed
  · cases passed
  · cases passed
  · cases passed

theorem body_of_rowAndBody {A : App} {α : Type} {name : String} {params : List String}
    {validate : Json → Validated α} {k : Int} {body : α}
    (passed : rowAndBody A r name params validate = .ok (k, body)) :
    ∃ json, validate json = .ok body := by
  obtain ⟨_, _, started, checked, built⟩ := field_eq_ok passed
  obtain ⟨_, _, begun, _, rfl⟩ := field_eq_ok started
  cases begun
  cases built
  exact Request.bodyAs_eq_ok checked

end

end FleetTracking
