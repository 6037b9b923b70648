import FleetTracking.Operations

/-!
# Seeding again

The seed only appends rows, and only for what it misses: `DB.Extends` is what a run of it does
to the tables, with its counts (`seedMissing_extends`).  Afterwards the demo data is
`Complete`, and a run on such a database finds every entry (`seedMissing_complete`).
-/

namespace FleetTracking

open Relational

/-! ## What a run adds -/

def IsDemoName (name : Option String) : Prop := ∃ spec ∈ demoRoutes, name = some spec.name

def IsDemoCode (code : Option String) : Prop := ∃ spec ∈ demoVehicles, code = some spec.code

def IsDemoEmail (email : Option String) : Prop :=
  email = some adminEmail ∨ ∃ spec ∈ demoAssignments, email = some spec.email

/-- Every row of `db` is in `db'` as it was; the others there are as many as is said, and are
for demo names, codes and e-mails that `db` did not have. -/
structure DB.Extends (db db' : DB) (routes vehicles users : Nat) : Prop where
  busRoutes : db.busRoutes.Appends db'.busRoutes BusRoute.name IsDemoName routes
  vehicles : db.vehicles.Appends db'.vehicles Vehicle.code IsDemoCode vehicles
  users : db.users.Appends db'.users User.email IsDemoEmail users
  gpsPoints : db'.gpsPoints = db.gpsPoints
  locations : db'.vehicleCurrentLocation = db.vehicleCurrentLocation

namespace DB.Extends

theorem refl (db : DB) : db.Extends db 0 0 0 := ⟨.refl _, .refl _, .refl _, rfl, rfl⟩

theorem trans {db db' db'' : DB} {routes vehicles users routes' vehicles' users' : Nat}
    (first : db.Extends db' routes vehicles users)
    (second : db'.Extends db'' routes' vehicles' users') :
    db.Extends db'' (routes' + routes) (vehicles' + vehicles) (users' + users) :=
  ⟨first.busRoutes.trans second.busRoutes, first.vehicles.trans second.vehicles,
    first.users.trans second.users, second.gpsPoints.trans first.gpsPoints,
    second.locations.trans first.locations⟩

end DB.Extends

section

variable {E : Engine} {settings : Settings} {hashPassword : Nat → String → String} {now : Int}
  {db db' : DB} {new : Bool}

theorem seedRoute_extends {spec : RouteSpec} {row : BusRoute} (listed : spec ∈ demoRoutes)
    (done : seedRoute E now spec db = .ok (row, new, db')) : db.Extends db' new.toNat 0 0 := by
  rcases seedRoute_eq_ok done with ⟨rfl, rfl⟩ | ⟨rfl, absent, rfl⟩
  · exact .refl db'
  · exact ⟨.insert ⟨spec, listed, rfl⟩ absent, .refl _, .refl _, rfl, rfl⟩

theorem seedVehicle_extends {spec : VehicleSpec} {row : Vehicle} (listed : spec ∈ demoVehicles)
    (done : seedVehicle E now spec db = .ok (row, new, db')) : db.Extends db' 0 new.toNat 0 := by
  rcases seedVehicle_eq_ok done with ⟨rfl, rfl⟩ | ⟨rfl, absent, rfl⟩
  · exact .refl db'
  · exact ⟨.refl _, .insert ⟨spec, listed, rfl⟩ absent, .refl _, rfl, rfl⟩

/-- The user with this e-mail is there afterwards, found or added. -/
theorem seedUser_extends {n : Nat} {email : String} {isAdmin : Bool}
    {assignment : Except Failure (Option Int × Option Int)} {row : User}
    (listed : IsDemoEmail (some email))
    (done : seedUser E settings hashPassword now n email isAdmin assignment db =
      .ok (row, new, db')) :
    db.Extends db' 0 0 new.toNat ∧ ∃ u ∈ db'.users.toTable, u.email = some email := by
  rcases seedUser_eq_ok done with ⟨rfl, rfl, member, mail⟩ | ⟨rfl, absent, _, _, _, rfl⟩
  · exact ⟨.refl db', row, member, mail⟩
  · exact ⟨⟨.refl _, .refl _, .insert listed absent, rfl, rfl⟩,
      _, Serial.mem_insert.mpr (.inr rfl), rfl⟩

/-- What a run of the seed does to the tables; the administrator is there afterwards. -/
theorem seedMissing_extends {created : Created}
    (done : seedMissing E settings hashPassword now db = .ok (created, db')) :
    db.Extends db' created.routes created.vehicles created.users ∧
      ∃ u ∈ db'.users.toTable, u.email = some adminEmail := by
  obtain ⟨_, newRoutes, db₁, _, newVehicles, db₂, _, newAdmin, db₃, _, newUsers, routesDone,
    vehiclesDone, adminDone, usersDone, rfl⟩ := seedMissing_eq_ok done
  have routesAdded : db.Extends db₁ newRoutes 0 0 :=
    seedEach_counts (R := fun db count db' => db.Extends db' count 0 0) (S := (· ∈ demoRoutes))
      .refl .trans seedRoute_extends (fun _ => id) routesDone
  have vehiclesAdded : db₁.Extends db₂ 0 newVehicles 0 :=
    seedEach_counts (R := fun db count db' => db.Extends db' 0 count 0)
      (S := (· ∈ demoVehicles)) .refl .trans seedVehicle_extends (fun _ => id) vehiclesDone
  obtain ⟨adminAdded, u, member, mail⟩ := seedUser_extends (.inl rfl) adminDone
  have usersAdded : db₃.Extends db' 0 0 newUsers :=
    seedEach_counts (R := fun db count db' => db.Extends db' 0 0 count)
      (S := (· ∈ demoAssignments)) .refl .trans
      (fun listed one => (seedUser_extends (.inr ⟨_, listed, rfl⟩) one).1) (fun _ => id) usersDone
  have all := ((routesAdded.trans vehiclesAdded).trans adminAdded).trans usersAdded
  simp only [Nat.zero_add, Nat.add_zero] at all
  exact ⟨Nat.add_comm newUsers _ ▸ all, u, usersAdded.users.kept u member, mail⟩

/-! ## A run that finds everything -/

/-- All demo data is there. -/
structure Complete (db : DB) : Prop where
  routes : ∀ spec ∈ demoRoutes, ∃ r ∈ db.busRoutes.toTable, r.name = some spec.name
  vehicles : ∀ spec ∈ demoVehicles, ∃ v ∈ db.vehicles.toTable, v.code = some spec.code
  admin : ∃ u ∈ db.users.toTable, u.email = some adminEmail
  users : ∀ spec ∈ demoAssignments, ∃ u ∈ db.users.toTable, u.email = some spec.email

/-- Entries that are found change nothing. -/
theorem seedEach_found {α ρ : Type} {one : Nat → α → DB → Except Failure (ρ × Bool × DB)}
    {specs : List α} (found : ∀ spec ∈ specs, ∀ n, ∃ row, one n spec db = .ok (row, false, db))
    (n : Nat) : ∃ rows, seedEach one n specs db = .ok (rows, 0, db) := by
  induction specs generalizing n with
  | nil => exact ⟨[], rfl⟩
  | cons spec specs ih =>
      obtain ⟨row, one⟩ := found spec List.mem_cons_self n
      obtain ⟨rows, rest⟩ := ih (fun s member => found s (List.mem_cons_of_mem _ member)) (n + 1)
      exact ⟨row :: rows, by simp only [seedEach, one, rest, Bool.toNat_false]⟩

theorem seedRoute_found {spec : RouteSpec}
    (present : ∃ r ∈ db.busRoutes.toTable, r.name = some spec.name) :
    ∃ row, seedRoute E now spec db = .ok (row, false, db) := by
  unfold seedRoute
  split
  · exact ⟨_, rfl⟩
  · next absent =>
      obtain ⟨r, member, named⟩ := present
      exact (Table.ne_of_scalar absent r member named).elim

theorem seedVehicle_found {spec : VehicleSpec}
    (present : ∃ v ∈ db.vehicles.toTable, v.code = some spec.code) :
    ∃ row, seedVehicle E now spec db = .ok (row, false, db) := by
  unfold seedVehicle
  split
  · exact ⟨_, rfl⟩
  · next absent =>
      obtain ⟨v, member, coded⟩ := present
      exact (Table.ne_of_scalar absent v member coded).elim

/-- A user that is there is not given the assignment, which is not even looked at. -/
theorem seedUser_found {email : String}
    (present : ∃ u ∈ db.users.toTable, u.email = some email) (n : Nat) (isAdmin : Bool)
    (assignment : Except Failure (Option Int × Option Int)) :
    ∃ row, seedUser E settings hashPassword now n email isAdmin assignment db =
      .ok (row, false, db) := by
  unfold seedUser
  split
  · exact ⟨_, rfl⟩
  · next absent =>
      obtain ⟨u, member, mail⟩ := present
      exact (Table.ne_of_scalar absent u member mail).elim

theorem seedMissing_complete (complete : Complete db) :
    seedMissing E settings hashPassword now db = .ok (⟨0, 0, 0⟩, db) := by
  have routesFound : ∃ rows, seedEach (fun _ => seedRoute E now) 0 demoRoutes db =
      .ok (rows, 0, db) :=
    seedEach_found (fun spec listed _ => seedRoute_found (complete.routes spec listed)) 0
  obtain ⟨routes, routesDone⟩ := routesFound
  have vehiclesFound : ∃ rows, seedEach (fun _ => seedVehicle E now) 0 demoVehicles db =
      .ok (rows, 0, db) :=
    seedEach_found (fun spec listed _ => seedVehicle_found (complete.vehicles spec listed)) 0
  obtain ⟨vehicles, vehiclesDone⟩ := vehiclesFound
  have adminFound : ∃ row, seedUser E settings hashPassword now 0 adminEmail true
      (.ok (none, none)) db = .ok (row, false, db) := seedUser_found complete.admin 0 true _
  obtain ⟨admin, adminDone⟩ := adminFound
  have usersFound : ∃ rows, seedEach (seedAssignment E settings hashPassword now routes vehicles)
      1 demoAssignments db = .ok (rows, 0, db) :=
    seedEach_found (fun spec listed n => seedUser_found (complete.users spec listed) n false _) 1
  obtain ⟨users, usersDone⟩ := usersFound
  simp only [seedMissing, routesDone, vehiclesDone, adminDone, usersDone, Bool.toNat_false]

/-- A run of the seed leaves nothing for the next. -/
theorem Seeded.complete (seeded : Seeded db db')
    (admin : ∃ u ∈ db'.users.toTable, u.email = some adminEmail) : Complete db' :=
  ⟨seeded.routes, seeded.vehicles, admin, seeded.users⟩

end

/-- **The seed is non-destructive and idempotent.**  On every database, in whatever state the
demo rows are, it succeeds, leaves every row as it was and appends rows only for what was not
there, as many as it says, so that nothing is missing afterwards; run again, with any clock and
salts, it does nothing. -/
theorem seed_idempotent (E : Engine) (settings : Settings) (first second : Ambient) (db : DB) :
    ∃ created db',
      seed E settings first.hashPassword first.now false db = (.ok created, db') ∧
      db.Extends db' created.routes created.vehicles created.users ∧ Complete db' ∧
      seed E settings second.hashPassword second.now false db' = (.ok ⟨0, 0, 0⟩, db') := by
  obtain ⟨created, db', done, seeded⟩ :=
    seedMissing_spec E settings first.hashPassword first.now db
  obtain ⟨extended, admin⟩ := seedMissing_extends done
  have complete := seeded.complete admin
  have again : seedMissing E settings second.hashPassword second.now db' =
      .ok (⟨0, 0, 0⟩, db') := seedMissing_complete complete
  exact ⟨created, db', by rw [seed, if_neg Bool.false_ne_true, done, settle], extended, complete,
    by rw [seed, if_neg Bool.false_ne_true, again, settle]⟩

end FleetTracking
