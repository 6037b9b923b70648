import FleetTracking.Columns

/-!
# Partial updates

A field of an update is left out, null or given.  `UpdateLaw` is what an update should do with
that: a null is as good as nothing, and only a value that another row has is a conflict.

The services have two idioms for a field that was not given.  `attribute is not None` follows
the law.  `key in model_dump(exclude_unset=True)` takes an explicit null for a value, and the
commit then violates a `NOT NULL` constraint; `partial_updates` says exactly when.
-/

namespace FleetTracking

open Relational Pydantic

/-! ## The law -/

/-- Another row has the value that is asked for, and the row itself has not. -/
def TakenBy {ρ : Type} [SerialKeyed ρ] (t : Serial ρ) (col : ρ → Option String) (row : ρ)
    (wanted : Option String) : Prop :=
  ∃ value, wanted = some value ∧ col row ≠ some value ∧
    ∃ other ∈ t.toTable, Keyed.key other ≠ Keyed.key row ∧ col other = some value

/-- A conflict and an unchanged database when the value is taken, and otherwise the patched
row and the database with it. -/
def UpdateLaw {ρ : Type} (taken : Prop) (db : DB) (patched : ρ) (saved : DB)
    (result : Except Failure (ρ × DB)) : Prop :=
  (taken → ∃ e, settle db result = (.error (.app e), db) ∧ e.errorClass = .conflictError) ∧
    (¬ taken → settle db result = (.ok patched, saved))

/-- The value given for a column, or the one it has. -/
def patchColumn {α β : Type} (f : α → β) (given : Patch α) (current : β) : β :=
  (given.toOption.map f).getD current

/-- The row with the values that the body gives. -/
def BusRoute.patched (route : BusRoute) (data : RouteUpdate) : BusRoute :=
  { route with
    name := patchColumn (fun name => some name.1) data.name route.name
    waypoints := patchColumn (fun waypoints => waypoints.1.map Waypoint.modelDump)
      data.waypoints route.waypoints }

def Vehicle.patched (vehicle : Vehicle) (data : VehicleUpdate) : Vehicle :=
  { vehicle with
    code := patchColumn (fun code => some code.1.1) data.code vehicle.code
    name := patchColumn (fun name => some name.1) data.name vehicle.name
    isActive := patchColumn some data.isActive vehicle.isActive }

def User.patched (hashPassword : String → String) (user : User) (data : UserUpdate) : User :=
  { user with
    email := patchColumn some data.email user.email
    hashedPassword := patchColumn (fun password => hashPassword password.1)
      data.password user.hashedPassword
    isAdmin := data.isAdmin.toOption.getD user.isAdmin }

/-- The database takes the text and the waypoints that the body gives. -/
structure RouteUpdate.Fits (E : Engine) (data : RouteUpdate) : Prop where
  name : ∀ name, data.name = .value name → E.text name.1 = true
  waypoints : ∀ waypoints, data.waypoints = .value waypoints →
    E.jsonb (waypoints.1.map Waypoint.modelDump) = true

structure VehicleUpdate.Fits (E : Engine) (data : VehicleUpdate) : Prop where
  code : ∀ code, data.code = .value code → E.text code.1.1 = true
  name : ∀ name, data.name = .value name → E.text name.1 = true

def UserUpdate.Fits (E : Engine) (data : UserUpdate) : Prop :=
  ∀ email, data.email = .value email → E.text email = true

section

variable {E : Engine} {db saved : DB}

/-- Where the value is taken, a conflict is the law. -/
theorem UpdateLaw.of_conflict {ρ : Type} {taken : Prop} {row : ρ} {message : Message}
    {code : String} (isTaken : taken) :
    UpdateLaw taken db row saved (.error (conflict message code)) :=
  ⟨fun _ => ⟨_, rfl, rfl⟩, fun free => (free isTaken).elim⟩

/-- Where it is not, a success is. -/
theorem UpdateLaw.of_ok {ρ : Type} {taken : Prop} {row : ρ} (free : ¬ taken) :
    UpdateLaw taken db row saved (.ok (row, saved)) :=
  ⟨fun isTaken => (free isTaken).elim, fun _ => rfl⟩

/-- A violated constraint never is. -/
theorem not_updateLaw_integrityError {ρ : Type} {taken : Prop} {row : ρ} (free : ¬ taken) :
    ¬ UpdateLaw taken db row saved (.error .integrityError) := by
  intro law
  cases (Prod.mk.inj (law.2 free)).1

/-! ## Looking for the value in other rows -/

/-- How the check of a unique column goes. -/
inductive UniqueCheck {ρ α : Type} [SerialKeyed ρ] (t : Serial ρ) (col : ρ → Option String)
    (taken : Option String → Failure) (row : ρ) (f : α → String) (given : Patch α) :
    Except Failure (Option String) → Prop
  | taken {value : α} (asked : given = .value value)
      (conflict : TakenBy t col row (given.toOption.map f)) :
      UniqueCheck t col taken row f given (.error (taken (some (f value))))
  | null (asked : given = .null) : UniqueCheck t col taken row f given (.ok none)
  | free (asked : given ≠ .null) (free : ¬ TakenBy t col row (given.toOption.map f))
      (own : ∀ r ∈ t.toTable,
        col r = patchColumn (fun a => some (f a)) given (col row) → Keyed.key r = Keyed.key row)
      (present : (patchColumn (fun a => some (f a)) given (col row)).isSome = true) :
      UniqueCheck t col taken row f given (.ok (patchColumn (fun a => some (f a)) given (col row)))

theorem not_takenBy_none {ρ : Type} [SerialKeyed ρ] {t : Serial ρ} {col : ρ → Option String}
    {row : ρ} : ¬ TakenBy t col row none := by
  intro taken
  rcases taken with ⟨_, wanted, _⟩
  cases wanted

/-- **The check**, on a column without nulls and without repetitions. -/
theorem changeUnique_check {ρ α : Type} [SerialKeyed ρ] {t : Serial ρ}
    {col : ρ → Option String} {row : ρ} (taken : Option String → Failure) (f : α → String)
    (given : Patch α) (unique : t.UniqueOn col)
    (filled : ∀ r ∈ t.toTable, (col r).isSome = true) (member : row ∈ t.toTable)
    (fits : ∀ a, given = .value a → E.text (f a) = true) :
    UniqueCheck t col taken row f given
      (changeUnique E t col taken (col row) (change f given)) := by
  have own : ∀ r ∈ t.toTable, col r = col row → Keyed.key r = Keyed.key row := by
    intro r there same
    obtain ⟨value, has⟩ := Option.isSome_iff_exists.mp (filled row member)
    exact unique r there row member value (same.trans has) has
  cases given with
  | unset => exact .free nofun not_takenBy_none own (filled row member)
  | null =>
      have absent : (t.scalar fun r => col r = none) = none := by
        refine Table.scalar_eq_none.mpr fun r there => ?_
        simpa [Option.isSome_iff_ne_none] using filled r there
      have differs : (none : Option String) ≠ col row := fun same => by
        have present := filled row member
        rw [← same] at present
        cases present
      simp only [changeUnique, change, if_neg differs, absent, Option.all_none, if_true]
      exact .null rfl
  | value a =>
      simp only [changeUnique, change]
      split
      · next same =>
          have free : ¬ TakenBy t col row (some (f a)) := by
            intro conflict
            rcases conflict with ⟨value, wanted, differs, _⟩
            exact differs (same.symm.trans wanted)
          rw [← same]
          exact .free nofun free (fun r there has => own r there (has.trans same)) rfl
      · next differs =>
          rw [if_pos (show (some (f a)).all E.text = true from fits a rfl)]
          cases answer : t.scalar fun r => col r = some (f a) with
          | some other =>
              obtain ⟨there, has⟩ := Table.scalar_some answer
              have has := of_decide_eq_true has
              refine .taken rfl ⟨f a, rfl, Ne.symm differs, other, there, fun same => ?_, has⟩
              rw [Table.eq_of_key there member same] at has
              exact differs has.symm
          | none =>
              have absent : ∀ r ∈ t.toTable, col r ≠ some (f a) := Table.ne_of_scalar answer
              have free : ¬ TakenBy t col row (some (f a)) := by
                intro conflict
                rcases conflict with ⟨value, wanted, _, other, there, _, has⟩
                exact absent other there (has.trans wanted.symm)
              exact .free nofun free (fun r there has => (absent r there has).elim) rfl

/-! ## The three updates -/

/-- An enforced constraint rejects a statement that violates it. -/
theorem execute_rejects (enforced : E.constraints = true) {ok : Bool} (violated : ok ≠ true)
    (saved : DB) : E.execute ok saved = .error .integrityError := by
  unfold Engine.execute
  rw [if_pos (by simp [enforced, violated])]

/-- A row whose unique column nobody else has is accepted. -/
theorem noOther_of_own {ρ : Type} [SerialKeyed ρ] {t : Serial ρ} {col : ρ → Option String}
    {k : Int} {value : Option String}
    (own : ∀ r ∈ t.toTable, col r = value → Keyed.key r = k) :
    (t.noOther k fun r => col r = value) = true :=
  Table.noOther_iff.mpr fun r member has => own r member (of_decide_eq_true has)

theorem updateRoute_law {route : BusRoute} {data : RouteUpdate} (enforced : E.constraints = true)
    (filled : Filled db) (consistent : Consistent db) (member : route ∈ db.busRoutes.toTable)
    (fits : data.Fits E) :
    UpdateLaw (TakenBy db.busRoutes BusRoute.name route (data.name.toOption.map Subtype.val)) db
      (route.patched data) { db with busRoutes := db.busRoutes.put (route.patched data) }
      (updateRoute E db route data) ↔ data.name ≠ .null := by
  have check := changeUnique_check (E := E) routeNameTaken Subtype.val data.name
    consistent.names (fun r there => (filled.routes r there).1) member fits.name
  have taken : (data.waypoints.toOption.map fun waypoints =>
        waypoints.1.map Waypoint.modelDump).getD route.waypoints = route.waypoints ∨
      E.jsonb ((data.waypoints.toOption.map fun waypoints =>
        waypoints.1.map Waypoint.modelDump).getD route.waypoints) = true := by
    cases given : data.waypoints with
    | value waypoints => exact .inr (fits.waypoints waypoints given)
    | _ => exact .inl rfl
  unfold updateRoute
  generalize changeUnique E db.busRoutes BusRoute.name routeNameTaken route.name
    (change Subtype.val data.name) = result at check ⊢
  cases check with
  | taken asked conflict =>
      refine iff_of_true (.of_conflict conflict) ?_
      rw [asked]
      exact nofun
  | null asked =>
      refine iff_of_false ?_ fun given => given asked
      dsimp only
      have changed : ∀ waypoints, ({ route with name := none, waypoints } : BusRoute) ≠ route := by
        intro waypoints same
        have present := (filled.routes route member).1
        rw [← same] at present
        cases present
      rw [if_pos taken, Engine.updateRouteRow, if_neg (changed _),
        execute_rejects enforced (by simp [DB.acceptsRoute]), asked]
      exact not_updateLaw_integrityError not_takenBy_none
  | free asked free own present =>
      refine iff_of_true ?_ asked
      have accepted : db.acceptsRoute (route.patched data) = true :=
        Bool.and_eq_true_iff.mpr ⟨present, noOther_of_own own⟩
      have loaded : db.busRoutes.get (route.patched data).id = some route := Table.get_key member
      dsimp only
      rw [if_pos taken]
      change UpdateLaw _ _ _ _ ((E.updateRouteRow db route (route.patched data)).map _)
      rw [Engine.updateRouteRow_ok loaded accepted]
      exact .of_ok free

/-- The value of a column without nulls after an update: an explicit null, or the patched
one. -/
theorem change_cases {α β : Type} (f : α → β) (given : Patch α) {current : Option β}
    (present : current.isSome = true) :
    ((change f given).getD current = none ∧ given = .null) ∨
    ((change f given).getD current = patchColumn (fun a => some (f a)) given current ∧
      (patchColumn (fun a => some (f a)) given current).isSome = true ∧ given ≠ .null) := by
  cases given with
  | null => exact .inl ⟨rfl, rfl⟩
  | unset => exact .inr ⟨rfl, present, nofun⟩
  | value a => exact .inr ⟨rfl, rfl, nofun⟩

/-- A vehicle with a null violates a constraint, and it is not the row that is there. -/
theorem updateVehicleRow_rejects {vehicle : Vehicle} (enforced : E.constraints = true)
    (filled : Filled db) (member : vehicle ∈ db.vehicles.toTable) {code name : Option String}
    {isActive : Option Bool} (null : code = none ∨ name = none ∨ isActive = none) :
    E.updateVehicleRow db vehicle { vehicle with code, name, isActive } =
      .error .integrityError := by
  have changed : ({ vehicle with code, name, isActive } : Vehicle) ≠ vehicle := by
    intro same
    obtain ⟨hasCode, hasName, hasActive⟩ := filled.vehicles vehicle member
    rw [← same] at hasCode hasName hasActive
    rcases null with rfl | rfl | rfl
    · cases hasCode
    · cases hasName
    · cases hasActive
  rw [Engine.updateVehicleRow, if_neg changed]
  refine execute_rejects enforced ?_ _
  rcases null with rfl | rfl | rfl <;> simp [DB.acceptsVehicle]

theorem updateVehicle_law {vehicle : Vehicle} {data : VehicleUpdate}
    (enforced : E.constraints = true) (filled : Filled db) (consistent : Consistent db)
    (member : vehicle ∈ db.vehicles.toTable) (fits : data.Fits E) :
    UpdateLaw (TakenBy db.vehicles Vehicle.code vehicle
        (data.code.toOption.map fun code => code.1.1)) db
      (vehicle.patched data) { db with vehicles := db.vehicles.put (vehicle.patched data) }
      (updateVehicle E db vehicle data) ↔
    TakenBy db.vehicles Vehicle.code vehicle (data.code.toOption.map fun code => code.1.1) ∨
      data.code ≠ .null ∧ data.name ≠ .null ∧ data.isActive ≠ .null := by
  obtain ⟨_, hasName, hasActive⟩ := filled.vehicles vehicle member
  have check := changeUnique_check (E := E) vehicleCodeTaken
    (fun code : Code => code.1.1) data.code consistent.codes
    (fun v there => (filled.vehicles v there).1) member fits.code
  have taken : (change Subtype.val data.name).getD vehicle.name = vehicle.name ∨
      ((change Subtype.val data.name).getD vehicle.name).all E.text = true := by
    cases given : data.name with
    | value name => exact .inr (fits.name name given)
    | null => exact .inr rfl
    | unset => exact .inl rfl
  unfold updateVehicle
  generalize changeUnique E db.vehicles Vehicle.code vehicleCodeTaken vehicle.code
    (change (fun code => code.1.1) data.code) = result at check ⊢
  cases check with
  | taken asked conflict => exact iff_of_true (.of_conflict conflict) (.inl conflict)
  | null asked =>
      rw [asked]
      dsimp only
      rw [if_pos taken, updateVehicleRow_rejects enforced filled member (.inl rfl)]
      refine iff_of_false (not_updateLaw_integrityError not_takenBy_none) ?_
      exact not_or.mpr ⟨not_takenBy_none, fun given => given.1 rfl⟩
  | free asked free own present =>
      dsimp only
      rw [if_pos taken]
      rcases change_cases Subtype.val data.name hasName with
        ⟨noName, nullName⟩ | ⟨newName, someName, givenName⟩
      · rw [updateVehicleRow_rejects enforced filled member (.inr (.inl noName))]
        refine iff_of_false (not_updateLaw_integrityError free) ?_
        exact not_or.mpr ⟨free, fun given => given.2.1 nullName⟩
      rcases change_cases id data.isActive hasActive with
        ⟨noFlag, nullFlag⟩ | ⟨newFlag, someFlag, givenFlag⟩
      · rw [updateVehicleRow_rejects enforced filled member (.inr (.inr noFlag))]
        refine iff_of_false (not_updateLaw_integrityError free) ?_
        exact not_or.mpr ⟨free, fun given => given.2.2 nullFlag⟩
      refine iff_of_true ?_ (.inr ⟨asked, givenName, givenFlag⟩)
      have accepted : db.acceptsVehicle (vehicle.patched data) = true := by
        simp only [DB.acceptsVehicle, Bool.and_eq_true]
        exact ⟨⟨⟨present, someName⟩, someFlag⟩, noOther_of_own own⟩
      have loaded : db.vehicles.get (vehicle.patched data).id = some vehicle :=
        Table.get_key member
      rw [newName, newFlag]
      change UpdateLaw _ _ _ _ ((E.updateVehicleRow db vehicle (vehicle.patched data)).map _)
      rw [Engine.updateVehicleRow_ok loaded accepted]
      exact .of_ok free

theorem updateUser_law {hashPassword : String → String} {user : User} {data : UserUpdate}
    (enforced : E.constraints = true) (filled : Filled db) (consistent : Consistent db)
    (member : user ∈ db.users.toTable) (fits : data.Fits E) :
    UpdateLaw (TakenBy db.users User.email user (data.email.toOption.map id)) db
      (user.patched hashPassword data)
      { db with users := db.users.put (user.patched hashPassword data) }
      (updateUser E db hashPassword user data) ↔ data.email ≠ .null := by
  have check := changeUnique_check (E := E) emailTaken id data.email
    consistent.emails filled.users member fits
  unfold updateUser
  generalize changeUnique E db.users User.email emailTaken user.email (change id data.email) =
    result at check ⊢
  cases check with
  | taken asked conflict =>
      refine iff_of_true (.of_conflict conflict) ?_
      rw [asked]
      exact nofun
  | null asked =>
      refine iff_of_false ?_ fun given => given asked
      dsimp only
      have changed : ∀ hashedPassword isAdmin,
          ({ user with email := none, hashedPassword, isAdmin } : User) ≠ user := by
        intro hashedPassword isAdmin same
        have present := filled.users user member
        rw [← same] at present
        cases present
      rw [Engine.updateUserRow, if_neg (changed _ _),
        execute_rejects enforced (by simp [DB.acceptsUser]), asked]
      exact not_updateLaw_integrityError not_takenBy_none
  | free asked free own present =>
      refine iff_of_true ?_ asked
      have references : db.acceptsAssignment (some user) (user.patched hashPassword data) = true :=
        Bool.and_eq_true_iff.mpr
          ⟨Engine.acceptsReference_iff.mpr (.inl rfl), Engine.acceptsReference_iff.mpr (.inl rfl)⟩
      have accepted : db.acceptsUser (some user) (user.patched hashPassword data) = true := by
        rw [DB.acceptsUser, references, Bool.and_true]
        exact Bool.and_eq_true_iff.mpr ⟨present, noOther_of_own own⟩
      have loaded : db.users.get (user.patched hashPassword data).id = some user :=
        Table.get_key member
      have row : { user with
            email := patchColumn (fun a => some (id a)) data.email user.email
            hashedPassword :=
              (data.password.toOption.map fun password => hashPassword password).getD
                user.hashedPassword
            isAdmin := data.isAdmin.toOption.getD user.isAdmin } =
          user.patched hashPassword data := by
        unfold User.patched patchColumn
        cases data.password <;> rfl
      dsimp only
      rw [row, Engine.updateUserRow_ok loaded accepted]
      exact .of_ok free

/-- **When partial updates follow the law.**  On a row of a reachable state an update of a
route does exactly when its name is not null, of a user exactly when its e-mail is not null,
and of a vehicle exactly when its code is another vehicle's or no field is null. -/
theorem partial_updates (E : Engine) (settings : Settings) (enforced : E.constraints = true)
    (reachable : Reachable E settings db) :
    (∀ route ∈ db.busRoutes.toTable, ∀ data : RouteUpdate, data.Fits E →
      (UpdateLaw
          (TakenBy db.busRoutes BusRoute.name route (data.name.toOption.map Subtype.val)) db
          (route.patched data) { db with busRoutes := db.busRoutes.put (route.patched data) }
          (updateRoute E db route data) ↔
        data.name ≠ .null)) ∧
    (∀ vehicle ∈ db.vehicles.toTable, ∀ data : VehicleUpdate, data.Fits E →
      (UpdateLaw
          (TakenBy db.vehicles Vehicle.code vehicle
            (data.code.toOption.map fun code => code.1.1)) db
          (vehicle.patched data) { db with vehicles := db.vehicles.put (vehicle.patched data) }
          (updateVehicle E db vehicle data) ↔
        TakenBy db.vehicles Vehicle.code vehicle (data.code.toOption.map fun code => code.1.1) ∨
          data.code ≠ .null ∧ data.name ≠ .null ∧ data.isActive ≠ .null)) ∧
    ∀ hashPassword, ∀ user ∈ db.users.toTable, ∀ data : UserUpdate, data.Fits E →
      (UpdateLaw (TakenBy db.users User.email user (data.email.toOption.map id)) db
          (user.patched hashPassword data)
          { db with users := db.users.put (user.patched hashPassword data) }
          (updateUser E db hashPassword user data) ↔
        data.email ≠ .null) := by
  have filled := reachable.filled enforced
  have consistent := reachable.consistent
  exact ⟨fun _ member _ fits => updateRoute_law enforced filled consistent member fits,
    fun _ member _ fits => updateVehicle_law enforced filled consistent member fits,
    fun _ _ member _ fits => updateUser_law enforced filled consistent member fits⟩

end

/-! ## Updates of the demo rows -/

/-- The first demo route, as seeded. -/
def airportRow : BusRoute where
  id := 1
  name := some "City Center to Airport"
  waypoints := [latLng 13.0827 80.2707, latLng 13.0417 80.2345, latLng 12.9941 80.1709]
  createdAt := 0

theorem airportRow_member : airportRow ∈ DB.demo.busRoutes.toTable := by
  have found : DB.demo.busRoutes.get 1 = some airportRow := by decide +kernel
  exact (Table.get_eq_some.mp found).1

theorem expressRow_member : expressRow ∈ DB.demo.vehicles.toTable := by
  have found : DB.demo.vehicles.get 1 = some expressRow := by decide +kernel
  exact (Table.get_eq_some.mp found).1

/-- A new name, and a polyline that stays where it is. -/
def reroute : RouteUpdate :=
  let origin : Waypoint := ⟨.ofRat 0 (by norm_num), .ofRat 0 (by norm_num)⟩
  ⟨.value ⟨"Airport Shuttle", by decide⟩, .value ⟨[origin, origin], by decide⟩⟩

/-- Another code, for a vehicle out of service. -/
def recode (code : Code) : VehicleUpdate := ⟨.value code, .unset, .value false⟩

def newCode : Code := ⟨⟨"BUS-101", by decide⟩, by decide⟩

/-- The code of the second demo vehicle. -/
def secondCode : Code := ⟨⟨"BUS-002", by decide⟩, by decide⟩

/-- Another e-mail and password, and more rights. -/
def promote : UserUpdate :=
  ⟨.value "driver@fleet.com", .value ⟨"new-password", by decide⟩, .value true⟩

theorem recode_fits (code : Code) (text : postgres.text code.1.1 = true) :
    (recode code).Fits postgres where
  code other given := by
    cases given
    exact text
  name _ given := by cases given

theorem not_takenBy_of_free {ρ : Type} [SerialKeyed ρ] {t : Serial ρ} {col : ρ → Option String}
    {row : ρ} {value : String} (free : ∀ r ∈ t.toTable.rows, col r ≠ some value) :
    ¬ TakenBy t col row (some value) := by
  rintro ⟨_, same, _, other, member, _, has⟩
  cases same
  exact free other member has

/-- Every column that is given is set; a code that another vehicle has is refused. -/
theorem partial_updates_demo :
    settle .demo (updateRoute postgres .demo airportRow reroute) =
      (.ok (airportRow.patched reroute),
        { DB.demo with busRoutes := DB.demo.busRoutes.put (airportRow.patched reroute) }) ∧
    settle .demo (updateVehicle postgres .demo expressRow (recode newCode)) =
      (.ok (expressRow.patched (recode newCode)),
        { DB.demo with vehicles := DB.demo.vehicles.put (expressRow.patched (recode newCode)) }) ∧
    (∃ e, settle .demo (updateVehicle postgres .demo expressRow (recode secondCode)) =
      (.error (.app e), .demo) ∧ e.errorClass = .conflictError) ∧
    settle .demo (updateUser postgres .demo id raviRow promote) =
      (.ok (raviRow.patched id promote),
        { DB.demo with users := DB.demo.users.put (raviRow.patched id promote) }) := by
  obtain ⟨routes, vehicles, users⟩ :=
    partial_updates postgres {} rfl (⟨_, rfl⟩ : Reachable postgres {} .demo)
  have fits : reroute.Fits postgres :=
    ⟨fun _ given => by cases given; decide, fun _ given => by cases given; decide +kernel⟩
  have taken : TakenBy DB.demo.vehicles Vehicle.code expressRow (some "BUS-002") := by
    have second :
        DB.demo.vehicles.get 2 = some ⟨2, some "BUS-002", some "OMR Flier", some true, 0⟩ := by
      decide +kernel
    exact ⟨_, rfl, by decide, _, (Table.get_eq_some.mp second).1, by decide, rfl⟩
  refine ⟨((routes _ airportRow_member reroute fits).mpr ?_).2 ?_,
    ((vehicles _ expressRow_member _ (recode_fits newCode rfl)).mpr (.inr ?_)).2 ?_,
    ((vehicles _ expressRow_member _ (recode_fits secondCode rfl)).mpr (.inl taken)).1 taken,
    ((users id _ raviRow_member promote fun _ given => ?_).mpr ?_).2 ?_⟩
  · decide
  · exact not_takenBy_of_free (by decide +kernel)
  · decide
  · exact not_takenBy_of_free (by decide +kernel)
  · cases given
    decide
  · decide
  · exact not_takenBy_of_free (by decide +kernel)

/-- **An explicit null.**  Updating a user's e-mail to null violates a constraint. -/
theorem null_email_violates :
    ¬ ∀ (db : DB) (user : User) (data : UserUpdate), Reachable postgres {} db →
      user ∈ db.users.toTable → data.Fits postgres →
        UpdateLaw (TakenBy db.users User.email user (data.email.toOption.map id)) db
          (user.patched id data) { db with users := db.users.put (user.patched id data) }
          (updateUser postgres db id user data) := by
  intro law
  have saved := (law .demo raviRow ⟨.null, .unset, .unset⟩ ⟨_, rfl⟩ raviRow_member nofun).2
    not_takenBy_none
  have failed : (updateUser postgres .demo id raviRow ⟨.null, .unset, .unset⟩).toOption.isNone =
      true := by decide +kernel
  cases result : updateUser postgres .demo id raviRow ⟨.null, .unset, .unset⟩ with
  | ok done =>
      rw [result] at failed
      cases failed
  | error failure =>
      rw [result] at saved
      cases (Prod.mk.inj saved).1

end FleetTracking
