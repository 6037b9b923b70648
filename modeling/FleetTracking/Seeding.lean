import FleetTracking.Edits
import FleetTracking.Seed

/-!
# What the seed does to the tables

The seed never fails, whatever it finds: `seedMissing_spec` gives the database it commits as
a run of allowed edits that only add rows, with every demo row present and every new user
accounted for.  Nothing here says that the assignments stay exclusive; they need not.
-/

namespace FleetTracking

open Relational

/-! ## Adding rows -/

/-- The edit adds a row of its own. -/
def Edit.Adds : Edit → Prop
  | .addRoute _ => True
  | .addVehicle _ => True
  | .addUser _ => True
  | _ => False

/-- The tables of `db'` are those of `db` with rows added; no fix came in. -/
structure DB.Grows (db db' : DB) : Prop where
  busRoutes : db.busRoutes.Grows db'.busRoutes
  vehicles : db.vehicles.Grows db'.vehicles
  users : db.users.Grows db'.users
  gpsPoints : db'.gpsPoints = db.gpsPoints
  locations : db'.vehicleCurrentLocation = db.vehicleCurrentLocation

theorem DB.Grows.refl (db : DB) : db.Grows db :=
  ⟨.refl _, .refl _, .refl _, rfl, rfl⟩

theorem DB.Grows.trans {db db' db'' : DB} (first : db.Grows db') (second : db'.Grows db'') :
    db.Grows db'' :=
  ⟨first.busRoutes.trans second.busRoutes, first.vehicles.trans second.vehicles,
    first.users.trans second.users, second.gpsPoints.trans first.gpsPoints,
    second.locations.trans first.locations⟩

theorem Edit.Adds.grows {db : DB} {e : Edit} (adds : e.Adds) : db.Grows (e.apply db) := by
  cases e with
  | addRoute r => exact ⟨Serial.grows_insert, .refl _, .refl _, rfl, rfl⟩
  | addVehicle v => exact ⟨.refl _, Serial.grows_insert, .refl _, rfl, rfl⟩
  | addUser u => exact ⟨.refl _, .refl _, Serial.grows_insert, rfl, rfl⟩
  | _ => exact adds.elim

/-- `db'` comes from `db` by allowed edits that add rows. -/
def Added (db db' : DB) : Prop := ∃ es, Edits db es db' ∧ ∀ e ∈ es, e.Adds

namespace Added

variable {db db' db'' : DB}

theorem refl (db : DB) : Added db db :=
  ⟨[], .nil, fun _ member => (List.not_mem_nil member).elim⟩

theorem trans (first : Added db db') (second : Added db' db'') : Added db db'' := by
  obtain ⟨es, run, adds⟩ := first
  obtain ⟨es', run', adds'⟩ := second
  exact ⟨es ++ es', run.append run', fun e member =>
    (List.mem_append.mp member).elim (adds e) (adds' e)⟩

theorem single {e : Edit} (allowed : e.Allowed db) (adds : e.Adds) : Added db (e.apply db) :=
  ⟨[e], .single allowed, fun _ member => List.mem_singleton.mp member ▸ adds⟩

theorem grows (added : Added db db') : db.Grows db' := by
  obtain ⟨es, run, adds⟩ := added
  exact run.keep (P := fun d => db.Grows d) (Q := Edit.Adds)
    (fun grows adds _ => grows.trans adds.grows) (.refl db) adds

theorem consistent (added : Added db db') (c : Consistent db) : Consistent db' := by
  obtain ⟨es, run, _⟩ := added
  exact run.keep (Q := fun _ => True) (fun c _ allowed => c.apply allowed) c fun _ _ => trivial

end Added

/-! ## The wipe -/

theorem deleteAllVehicles_ok {E : Engine} {db : DB} (noPoints : db.gpsPoints.toTable = .empty)
    (noLocations : db.vehicleCurrentLocation = .empty) (noUsers : db.users.toTable = .empty) :
    deleteAllVehicles E db = .ok { db with vehicles := db.vehicles.clear } := by
  refine Engine.execute_of_ok ?_
  simp [DB.vehicleUnreferenced, noPoints, noLocations, noUsers, Table.count, Table.empty,
    Table.get]

theorem deleteAllRoutes_ok {E : Engine} {db : DB} (noUsers : db.users.toTable = .empty) :
    deleteAllRoutes E db = .ok { db with busRoutes := db.busRoutes.clear } := by
  refine Engine.execute_of_ok ?_
  simp [DB.routeUnreferenced, noUsers, Table.count, Table.empty]

/-- The order of `_truncate` satisfies the foreign keys. -/
theorem truncate_eq (E : Engine) (db : DB) : truncate E db = .ok db.wiped :=
  bind_eq_ok.mpr ⟨_, deleteAllVehicles_ok rfl rfl rfl, deleteAllRoutes_ok rfl⟩

/-! ## A pass over a demo list -/

/-- **Run.**  When every entry of the list succeeds from any state with `P`, keeps `P` and
establishes a lasting fact about its row, the pass does so for all of them. -/
theorem seedEach_spec {α ρ : Type} {one : Nat → α → DB → Except Failure (ρ × Bool × DB)}
    {P : DB → Prop} {F : α → ρ → DB → Prop} {S : α → Prop}
    (step : ∀ n spec db, S spec → P db → ∃ row new db', one n spec db = .ok (row, new, db') ∧
      Added db db' ∧ P db' ∧ F spec row db')
    (stable : ∀ {spec row db db'}, Added db db' → F spec row db → F spec row db') :
    ∀ specs n db, (∀ spec ∈ specs, S spec) → P db →
      ∃ rows created db', seedEach one n specs db = .ok (rows, created, db') ∧
        Added db db' ∧ P db' ∧ (∀ spec ∈ specs, ∃ row ∈ rows, F spec row db') ∧
        ∀ row ∈ rows, ∃ spec ∈ specs, F spec row db' := by
  intro specs
  induction specs with
  | nil =>
      intro n db _ start
      exact ⟨[], 0, db, rfl, .refl db, start, fun _ member => (List.not_mem_nil member).elim,
        fun _ member => (List.not_mem_nil member).elim⟩
  | cons spec specs ih =>
      intro n db each start
      obtain ⟨row, new, middle, one, added, kept, fact⟩ :=
        step n spec db (each spec List.mem_cons_self) start
      obtain ⟨rows, created, db', rest, added', kept', facts, facts'⟩ :=
        ih (n + 1) middle (fun s member => each s (List.mem_cons_of_mem _ member)) kept
      refine ⟨row :: rows, created + new.toNat, db', ?_, added.trans added', kept', ?_, ?_⟩
      · simp only [seedEach, one, rest]
      · intro s member
        rcases List.mem_cons.mp member with rfl | later
        · exact ⟨row, List.mem_cons_self, stable added' fact⟩
        · obtain ⟨r, found, holds⟩ := facts s later
          exact ⟨r, List.mem_cons_of_mem _ found, holds⟩
      · intro r member
        rcases List.mem_cons.mp member with rfl | later
        · exact ⟨spec, List.mem_cons_self, stable added' fact⟩
        · obtain ⟨s, found, holds⟩ := facts' r later
          exact ⟨s, List.mem_cons_of_mem _ found, holds⟩

/-- A relation between a state, a count and a later state that every entry of a list is in with
its own count, the pass is in with the total. -/
theorem seedEach_counts {α ρ : Type} {one : Nat → α → DB → Except Failure (ρ × Bool × DB)}
    {R : DB → Nat → DB → Prop} {S : α → Prop} (refl : ∀ db, R db 0 db)
    (trans : ∀ {db db' db'' count count'}, R db count db' → R db' count' db'' →
      R db (count' + count) db'')
    (step : ∀ {n spec db row new db'}, S spec → one n spec db = .ok (row, new, db') →
      R db new.toNat db') :
    ∀ {specs n db rows created db'}, (∀ spec ∈ specs, S spec) →
      seedEach one n specs db = .ok (rows, created, db') → R db created db' := by
  intro specs
  induction specs with
  | nil =>
      intro n db rows created db' _ done
      cases done
      exact refl db
  | cons spec specs ih =>
      intro n db rows created db' each done
      rw [seedEach] at done
      split at done
      · cases done
      · next row new middle one =>
          split at done
          · cases done
          · next rows created final rest =>
              cases done
              exact trans (step (each spec List.mem_cons_self) one)
                (ih (fun s member => each s (List.mem_cons_of_mem _ member)) rest)

/-- What every entry of a list keeps, the pass keeps. -/
theorem seedEach_keep {α ρ : Type} {one : Nat → α → DB → Except Failure (ρ × Bool × DB)}
    {P : DB → Prop} {S : α → Prop}
    (step : ∀ {n spec db row new db'}, S spec → P db →
      one n spec db = .ok (row, new, db') → P db')
    {specs : List α} {n : Nat} {db : DB} {rows : List ρ} {created : Nat} {db' : DB}
    (each : ∀ spec ∈ specs, S spec) (start : P db)
    (done : seedEach one n specs db = .ok (rows, created, db')) : P db' :=
  seedEach_counts (R := fun db _ db' => P db → P db') (fun _ => id)
    (fun first second start => second (first start))
    (fun wanted one start => step wanted start one) each done start

/-! ## One entry of the demo data -/

section

variable {E : Engine} {settings : Settings} {hashPassword : Nat → String → String} {now : Int}
  {db db' : DB} {new : Bool}

/-- An entry finds its route, or adds it where no route has the name. -/
theorem seedRoute_eq_ok {spec : RouteSpec} {row : BusRoute}
    (done : seedRoute E now spec db = .ok (row, new, db')) :
    (new = false ∧ db' = db) ∨
      (new = true ∧ (∀ r ∈ db.busRoutes.toTable, r.name ≠ some spec.name) ∧
        db' = { db with
          busRoutes := db.busRoutes.insert
            { id := 0, name := some spec.name, waypoints := spec.waypoints,
              createdAt := now } }) := by
  unfold seedRoute at done
  split at done
  · cases done
    exact .inl ⟨rfl, rfl⟩
  · next absent =>
      obtain ⟨⟨_, _⟩, inserted, out⟩ := map_eq_ok.mp done
      cases out
      exact .inr ⟨rfl, Table.ne_of_scalar absent, (Engine.insertRouteRow_eq_ok inserted).2⟩

theorem seedVehicle_eq_ok {spec : VehicleSpec} {row : Vehicle}
    (done : seedVehicle E now spec db = .ok (row, new, db')) :
    (new = false ∧ db' = db) ∨
      (new = true ∧ (∀ v ∈ db.vehicles.toTable, v.code ≠ some spec.code) ∧
        db' = { db with
          vehicles := db.vehicles.insert
            { id := 0, code := some spec.code, name := some spec.name, isActive := some true,
              createdAt := now } }) := by
  unfold seedVehicle at done
  split at done
  · cases done
    exact .inl ⟨rfl, rfl⟩
  · next absent =>
      obtain ⟨⟨_, _⟩, inserted, out⟩ := map_eq_ok.mp done
      cases out
      exact .inr ⟨rfl, Table.ne_of_scalar absent, (Engine.insertVehicleRow_eq_ok inserted).2⟩

/-- A user is found, or added with the assignment where no user has the e-mail. -/
theorem seedUser_eq_ok {n : Nat} {email : String} {isAdmin : Bool}
    {assignment : Except Failure (Option Int × Option Int)} {row : User}
    (done : seedUser E settings hashPassword now n email isAdmin assignment db =
      .ok (row, new, db')) :
    (new = false ∧ db' = db ∧ row ∈ db.users.toTable ∧ row.email = some email) ∨
      (new = true ∧ (∀ u ∈ db.users.toTable, u.email ≠ some email) ∧
        ∃ routeId vehicleId, assignment = .ok (routeId, vehicleId) ∧
          db' = { db with
            users := db.users.insert
              { id := 0, email := some email,
                hashedPassword := hashPassword n settings.seedPassword,
                isAdmin, routeId, vehicleId, createdAt := now } }) := by
  unfold seedUser at done
  split at done
  · next found =>
      cases done
      obtain ⟨member, mail⟩ := Table.scalar_some found
      exact .inl ⟨rfl, rfl, member, of_decide_eq_true mail⟩
  · next absent =>
      split at done
      · cases done
      · next routeId vehicleId =>
          obtain ⟨⟨_, _⟩, inserted, out⟩ := map_eq_ok.mp done
          cases out
          exact .inr ⟨rfl, Table.ne_of_scalar absent, routeId, vehicleId, rfl,
            (Engine.insertUserRow_eq_ok inserted).2⟩

end

section

variable (E : Engine) (settings : Settings) (hashPassword : Nat → String → String) (now : Int)

theorem seedRoute_spec (spec : RouteSpec) (db : DB) :
    ∃ row new db', seedRoute E now spec db = .ok (row, new, db') ∧ Added db db' ∧
      db'.users = db.users ∧ row ∈ db'.busRoutes.toTable ∧ row.name = some spec.name := by
  unfold seedRoute
  cases found : db.busRoutes.scalar fun r => r.name = some spec.name with
  | some route =>
      obtain ⟨member, named⟩ := Table.scalar_some found
      exact ⟨route, false, db, rfl, .refl db, rfl, member, of_decide_eq_true named⟩
  | none =>
      have free : ∀ s ∈ db.busRoutes.toTable, s.name ≠ some spec.name :=
        Table.ne_of_scalar found
      refine ⟨_, true, _, map_eq_ok.mpr ⟨_, Engine.insertRouteRow_ok rfl free, rfl⟩,
        .single (e := .addRoute _) free trivial, rfl, Serial.mem_insert.mpr (.inr rfl), rfl⟩

theorem seedVehicle_spec (spec : VehicleSpec) (db : DB) :
    ∃ row new db', seedVehicle E now spec db = .ok (row, new, db') ∧ Added db db' ∧
      db'.users = db.users ∧ row ∈ db'.vehicles.toTable ∧ row.code = some spec.code := by
  unfold seedVehicle
  cases found : db.vehicles.scalar fun v => v.code = some spec.code with
  | some vehicle =>
      obtain ⟨member, coded⟩ := Table.scalar_some found
      exact ⟨vehicle, false, db, rfl, .refl db, rfl, member, of_decide_eq_true coded⟩
  | none =>
      have free : ∀ s ∈ db.vehicles.toTable, s.code ≠ some spec.code :=
        Table.ne_of_scalar found
      refine ⟨_, true, _, map_eq_ok.mpr ⟨_, Engine.insertVehicleRow_ok rfl rfl rfl free, rfl⟩,
        .single (e := .addVehicle _) free trivial, rfl, Serial.mem_insert.mpr (.inr rfl), rfl⟩

theorem seedUser_spec (n : Nat) (email : String) (isAdmin : Bool)
    (routeId vehicleId : Option Int) (db : DB) (pair : routeId.isNone = vehicleId.isNone)
    (route : ∀ k, routeId = some k → db.busRoutes.HasKey k)
    (vehicle : ∀ k, vehicleId = some k → db.vehicles.HasKey k) :
    ∃ row new db', seedUser E settings hashPassword now n email isAdmin
        (.ok (routeId, vehicleId)) db = .ok (row, new, db') ∧ Added db db' ∧
      row ∈ db'.users.toTable ∧ row.email = some email ∧
      ∀ u ∈ db'.users.toTable, u ∈ db.users.toTable ∨
        (u.email = some email ∧ u.routeId = routeId ∧ u.vehicleId = vehicleId ∧
          ∀ w ∈ db.users.toTable, w.email ≠ some email) := by
  unfold seedUser
  cases found : db.users.scalar fun u => u.email = some email with
  | some user =>
      obtain ⟨member, mail⟩ := Table.scalar_some found
      exact ⟨user, false, db, rfl, .refl db, member, of_decide_eq_true mail, fun _ => .inl⟩
  | none =>
      have free : ∀ w ∈ db.users.toTable, w.email ≠ some email :=
        Table.ne_of_scalar found
      refine ⟨_, true, _, map_eq_ok.mpr ⟨_, Engine.insertUserRow_ok rfl free route vehicle, rfl⟩,
        .single (e := .addUser _) ⟨free, pair, route, vehicle⟩ trivial,
        Serial.mem_insert.mpr (.inr rfl), rfl, fun u member => ?_⟩
      rcases Serial.mem_insert.mp member with old | rfl
      · exact .inl old
      · exact .inr ⟨rfl, rfl, rfl, free⟩

end

/-- The four parts of a run of the seed. -/
theorem seedMissing_eq_ok {E : Engine} {settings : Settings}
    {hashPassword : Nat → String → String} {now : Int} {db db' : DB} {created : Created}
    (done : seedMissing E settings hashPassword now db = .ok (created, db')) :
    ∃ routes newRoutes db₁ vehicles newVehicles db₂ admin newAdmin db₃ users newUsers,
      seedEach (fun _ => seedRoute E now) 0 demoRoutes db = .ok (routes, newRoutes, db₁) ∧
      seedEach (fun _ => seedVehicle E now) 0 demoVehicles db₁ =
        .ok (vehicles, newVehicles, db₂) ∧
      seedUser E settings hashPassword now 0 adminEmail true (.ok (none, none)) db₂ =
        .ok (admin, newAdmin, db₃) ∧
      seedEach (seedAssignment E settings hashPassword now routes vehicles) 1 demoAssignments db₃ =
        .ok (users, newUsers, db') ∧
      created = ⟨newRoutes, newVehicles, newAdmin.toNat + newUsers⟩ := by
  unfold seedMissing at done
  split at done
  · cases done
  next routes newRoutes db₁ routesDone =>
  split at done
  · cases done
  next vehicles newVehicles db₂ vehiclesDone =>
  split at done
  · cases done
  next admin newAdmin db₃ adminDone =>
  split at done
  · cases done
  next users newUsers db₄ usersDone =>
  cases done
  exact ⟨routes, newRoutes, db₁, vehicles, newVehicles, db₂, admin, newAdmin, db₃, users, newUsers,
    routesDone, vehiclesDone, adminDone, usersDone, rfl⟩

/-- What every entry of the demo data keeps, the seed keeps. -/
theorem seedMissing_keep {E : Engine} {settings : Settings}
    {hashPassword : Nat → String → String} {now : Int} {P : DB → Prop}
    (route : ∀ {spec row new db db'}, spec ∈ demoRoutes → P db →
      seedRoute E now spec db = .ok (row, new, db') → P db')
    (vehicle : ∀ {spec row new db db'}, P db →
      seedVehicle E now spec db = .ok (row, new, db') → P db')
    (user : ∀ {n email isAdmin assignment row new db db'}, P db →
      seedUser E settings hashPassword now n email isAdmin assignment db =
        .ok (row, new, db') → P db')
    {db db' : DB} {created : Created} (start : P db)
    (done : seedMissing E settings hashPassword now db = .ok (created, db')) : P db' := by
  obtain ⟨_, _, db₁, _, _, db₂, _, _, db₃, _, _, routesDone, vehiclesDone, adminDone, usersDone,
    _⟩ := seedMissing_eq_ok done
  have kept₁ : P db₁ := seedEach_keep (S := (· ∈ demoRoutes)) route (fun _ => id) start routesDone
  have kept₂ : P db₂ := seedEach_keep (S := fun _ => True) (fun _ => vehicle)
    (fun _ _ => trivial) kept₁ vehiclesDone
  have kept₃ : P db₃ := user kept₂ adminDone
  exact seedEach_keep (S := fun _ => True) (fun _ => user) (fun _ _ => trivial) kept₃ usersDone

/-! ## The whole seed -/

/-- A user that the seed created: the administrator, or a demo user with its assignment. -/
def DemoUser (db db' : DB) (u : User) : Prop :=
  (∀ w ∈ db.users.toTable, w.email ≠ u.email) ∧
    ((u.email = some adminEmail ∧ u.routeId = none ∧ u.vehicleId = none) ∨
      ∃ spec ∈ demoAssignments, u.email = some spec.email ∧
        (∃ r ∈ db'.busRoutes.toTable, r.name = some spec.routeName ∧ u.routeId = some r.id) ∧
        ∃ v ∈ db'.vehicles.toTable, v.code = some spec.vehicleCode ∧ u.vehicleId = some v.id)

/-- Rows that are added later change nothing about a demo user. -/
theorem DemoUser.grows {db db' db'' : DB} {u : User} (demo : DemoUser db db' u)
    (grows : db'.Grows db'') : DemoUser db db'' u := by
  refine ⟨demo.1, demo.2.imp id ?_⟩
  intro shared
  rcases shared with ⟨spec, member, mail, ⟨r, route, named⟩, v, vehicle, coded⟩
  exact ⟨spec, member, mail, ⟨r, grows.busRoutes.kept r route, named⟩, v,
    grows.vehicles.kept v vehicle, coded⟩

/-- What the seed leaves: rows were added, every demo row is there, and every new user is a
demo user. -/
structure Seeded (db db' : DB) : Prop where
  added : Added db db'
  routes : ∀ spec ∈ demoRoutes, ∃ r ∈ db'.busRoutes.toTable, r.name = some spec.name
  vehicles : ∀ spec ∈ demoVehicles, ∃ v ∈ db'.vehicles.toTable, v.code = some spec.code
  users : ∀ spec ∈ demoAssignments, ∃ u ∈ db'.users.toTable, u.email = some spec.email
  new : ∀ u ∈ db'.users.toTable, u ∈ db.users.toTable ∨ DemoUser db db' u

/-- Every demo assignment names a demo route and a demo vehicle. -/
theorem demoAssignments_named : ∀ spec ∈ demoAssignments,
    (∃ r ∈ demoRoutes, r.name = spec.routeName) ∧
      ∃ v ∈ demoVehicles, v.code = spec.vehicleCode := by
  decide

/-- The dictionaries of the seed have the route and the vehicle of every demo assignment. -/
theorem demoPair_ok {routes : List BusRoute} {vehicles : List Vehicle} {spec : AssignmentSpec}
    (hasRoute : ∀ s ∈ demoRoutes, ∃ r ∈ routes, r.name = some s.name)
    (hasVehicle : ∀ s ∈ demoVehicles, ∃ v ∈ vehicles, v.code = some s.code)
    (member : spec ∈ demoAssignments) :
    ∃ r ∈ routes, ∃ v ∈ vehicles, r.name = some spec.routeName ∧
      v.code = some spec.vehicleCode ∧
      demoPair routes vehicles spec = .ok (some r.id, some v.id) := by
  obtain ⟨⟨routeSpec, listed, route⟩, vehicleSpec, listed', vehicle⟩ :=
    demoAssignments_named spec member
  obtain ⟨r, inRoutes, named⟩ := hasRoute routeSpec listed
  obtain ⟨v, inVehicles, coded⟩ := hasVehicle vehicleSpec listed'
  rw [route] at named
  rw [vehicle] at coded
  unfold demoPair
  cases foundRoute : routes.find? fun r => r.name = some spec.routeName with
  | none => exact absurd (decide_eq_true named) (List.find?_eq_none.mp foundRoute r inRoutes)
  | some r' =>
      cases foundVehicle : vehicles.find? fun v => v.code = some spec.vehicleCode with
      | none =>
          exact absurd (decide_eq_true coded) (List.find?_eq_none.mp foundVehicle v inVehicles)
      | some v' =>
          exact ⟨r', List.mem_of_find?_eq_some foundRoute, v',
            List.mem_of_find?_eq_some foundVehicle,
            by simpa using List.find?_some foundRoute,
            by simpa using List.find?_some foundVehicle, rfl⟩

/-- The dictionaries of the seed: every demo name has a row of the database. -/
structure Dictionaries (db : DB) (routes : List BusRoute) (vehicles : List Vehicle) : Prop where
  hasRoute : ∀ s ∈ demoRoutes, ∃ r ∈ routes, r.name = some s.name
  hasVehicle : ∀ s ∈ demoVehicles, ∃ v ∈ vehicles, v.code = some s.code
  isRoute : ∀ r ∈ routes, r ∈ db.busRoutes.toTable
  isVehicle : ∀ v ∈ vehicles, v ∈ db.vehicles.toTable

theorem Dictionaries.grows {db db' : DB} {routes : List BusRoute} {vehicles : List Vehicle}
    (dicts : Dictionaries db routes vehicles) (grows : db.Grows db') :
    Dictionaries db' routes vehicles :=
  { dicts with
    isRoute := fun r member => grows.busRoutes.kept r (dicts.isRoute r member)
    isVehicle := fun v member => grows.vehicles.kept v (dicts.isVehicle v member) }

/-- One demo user, when the users so far are those of `db` and demo users. -/
theorem seedAssignment_spec (E : Engine) (settings : Settings)
    (hashPassword : Nat → String → String) (now : Int) {db d : DB} {routes : List BusRoute}
    {vehicles : List Vehicle} (n : Nat) {spec : AssignmentSpec} (listed : spec ∈ demoAssignments)
    (since : Added db d) (dicts : Dictionaries d routes vehicles)
    (known : ∀ u ∈ d.users.toTable, u ∈ db.users.toTable ∨ DemoUser db d u) :
    ∃ row new d',
      seedAssignment E settings hashPassword now routes vehicles n spec d = .ok (row, new, d') ∧
        Added d d' ∧ (∀ u ∈ d'.users.toTable, u ∈ db.users.toTable ∨ DemoUser db d' u) ∧
        row ∈ d'.users.toTable ∧ row.email = some spec.email := by
  obtain ⟨r, inRoutes, v, inVehicles, named, coded, pair⟩ :=
    demoPair_ok dicts.hasRoute dicts.hasVehicle listed
  have route := dicts.isRoute r inRoutes
  have vehicle := dicts.isVehicle v inVehicles
  obtain ⟨row, new, d', done, added, member, mail, users⟩ :=
    seedUser_spec E settings hashPassword now n spec.email false (some r.id) (some v.id) d rfl
      (fun k same => ⟨r, route, Option.some.inj same⟩)
      (fun k same => ⟨v, vehicle, Option.some.inj same⟩)
  refine ⟨row, new, d', ?_, added, fun u isUser => ?_, member, mail⟩
  · rw [seedAssignment, pair, done]
  · rcases users u isUser with old | ⟨mail, routeId, vehicleId, free⟩
    · exact (known u old).imp id (·.grows added.grows)
    · exact .inr ⟨fun w inDb => mail ▸ free w (since.grows.users.kept w inDb),
        .inr ⟨spec, listed, mail, ⟨r, added.grows.busRoutes.kept r route, named, routeId⟩,
          v, added.grows.vehicles.kept v vehicle, coded, vehicleId⟩⟩

/-- The passes over routes and vehicles fill the dictionaries and leave the users alone. -/
theorem seedEach_dictionaries (E : Engine) (now : Int) (db : DB) :
    ∃ routes newRoutes db₁ vehicles newVehicles db₂,
      seedEach (fun _ => seedRoute E now) 0 demoRoutes db = .ok (routes, newRoutes, db₁) ∧
      seedEach (fun _ => seedVehicle E now) 0 demoVehicles db₁ =
        .ok (vehicles, newVehicles, db₂) ∧
      Added db db₂ ∧ db₂.users = db.users ∧ Dictionaries db₂ routes vehicles := by
  obtain ⟨routes, newRoutes, db₁, routesDone, added₁, users₁, hasRoute, isRoute⟩ :=
    seedEach_spec (P := fun d => d.users = db.users) (S := fun _ => True)
      (F := fun (spec : RouteSpec) row d =>
        row ∈ d.busRoutes.toTable ∧ row.name = some spec.name)
      (fun _ spec d _ same => by
        obtain ⟨row, new, d', done, added, users, fact⟩ := seedRoute_spec E now spec d
        exact ⟨row, new, d', done, added, users.trans same, fact⟩)
      (fun added fact => ⟨added.grows.busRoutes.kept _ fact.1, fact.2⟩)
      demoRoutes 0 db (fun _ _ => trivial) rfl
  obtain ⟨vehicles, newVehicles, db₂, vehiclesDone, added₂, users₂, hasVehicle, isVehicle⟩ :=
    seedEach_spec (P := fun d => d.users = db.users) (S := fun _ => True)
      (F := fun (spec : VehicleSpec) row d =>
        row ∈ d.vehicles.toTable ∧ row.code = some spec.code)
      (fun _ spec d _ same => by
        obtain ⟨row, new, d', done, added, users, fact⟩ := seedVehicle_spec E now spec d
        exact ⟨row, new, d', done, added, users.trans same, fact⟩)
      (fun added fact => ⟨added.grows.vehicles.kept _ fact.1, fact.2⟩)
      demoVehicles 0 db₁ (fun _ _ => trivial) users₁
  refine ⟨routes, newRoutes, db₁, vehicles, newVehicles, db₂, routesDone, vehiclesDone,
    added₁.trans added₂, users₂, {
      hasRoute := fun s member => (hasRoute s member).imp fun _ h => ⟨h.1, h.2.2⟩
      hasVehicle := fun s member => (hasVehicle s member).imp fun _ h => ⟨h.1, h.2.2⟩
      isRoute := fun r member => ?_
      isVehicle := fun v member => ?_ }⟩
  · obtain ⟨_, _, inDb, _⟩ := isRoute r member
    exact added₂.grows.busRoutes.kept r inDb
  · obtain ⟨_, _, inDb, _⟩ := isVehicle v member
    exact inDb

/-- **The seed.**  From any database it succeeds and leaves the demo data in place. -/
theorem seedMissing_spec (E : Engine) (settings : Settings)
    (hashPassword : Nat → String → String) (now : Int) (db : DB) :
    ∃ created db', seedMissing E settings hashPassword now db = .ok (created, db') ∧
      Seeded db db' := by
  obtain ⟨routes, newRoutes, db₁, vehicles, newVehicles, db₂, routesDone, vehiclesDone, added₂,
    users₂, dicts₂⟩ := seedEach_dictionaries E now db
  obtain ⟨_, newAdmin, db₃, adminDone, added₃, _, _, admin⟩ :=
    seedUser_spec E settings hashPassword now 0 adminEmail true none none db₂ rfl
      (by simp) (by simp)
  have toUsers : Added db db₃ := added₂.trans added₃
  have dicts : Dictionaries db₃ routes vehicles := dicts₂.grows added₃.grows
  -- The users of `db₃` are those of `db` and perhaps the administrator.
  have start : ∀ u ∈ db₃.users.toTable, u ∈ db.users.toTable ∨ DemoUser db db₃ u := by
    intro u member
    rw [users₂] at admin
    rcases admin u member with old | ⟨mail, noRoute, noVehicle, free⟩
    · exact .inl old
    · exact .inr ⟨mail ▸ free, .inl ⟨mail, noRoute, noVehicle⟩⟩
  obtain ⟨users, newUsers, db₄, usersDone, added₄, ⟨_, new⟩, hasUser, _⟩ :=
    seedEach_spec (S := (· ∈ demoAssignments))
      (P := fun d => Added db₃ d ∧
        ∀ u ∈ d.users.toTable, u ∈ db.users.toTable ∨ DemoUser db d u)
      (F := fun (spec : AssignmentSpec) row d =>
        row ∈ d.users.toTable ∧ row.email = some spec.email)
      (fun n spec d listed ⟨since, known⟩ => by
        obtain ⟨row, new, d', done, added, known', fact⟩ :=
          seedAssignment_spec E settings hashPassword now n listed (toUsers.trans since)
            (dicts.grows since.grows) known
        exact ⟨row, new, d', done, added, ⟨since.trans added, known'⟩, fact⟩)
      (fun added fact => ⟨added.grows.users.kept _ fact.1, fact.2⟩)
      demoAssignments 1 db₃ (fun _ => id) ⟨.refl db₃, start⟩
  have last := (dicts.grows added₄.grows)
  refine ⟨⟨newRoutes, newVehicles, newAdmin.toNat + newUsers⟩, db₄, ?_, toUsers.trans added₄,
    fun s member => ?_, fun s member => ?_, fun s member => ?_, new⟩
  · simp only [seedMissing, routesDone, vehiclesDone, adminDone, usersDone]
  · obtain ⟨r, inRoutes, named⟩ := last.hasRoute s member
    exact ⟨r, last.isRoute r inRoutes, named⟩
  · obtain ⟨v, inVehicles, coded⟩ := last.hasVehicle s member
    exact ⟨v, last.isVehicle v inVehicles, coded⟩
  · obtain ⟨u, _, fact⟩ := hasUser s member
    exact ⟨u, fact⟩

end FleetTracking
