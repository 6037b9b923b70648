import FleetTracking.Operations

/-!
# One route and one vehicle, one user

Over serial runs.  The calls keep assignments exclusive from the empty database and from a
fresh seed (`runCalls_sound`).  A plain seed run need not: it hands a missing demo user its
route and vehicle without looking at who holds them, and `seed_exclusive` says exactly when
that goes well.

Routes and vehicles play the same part here, so the lemmas are about a `Resource`.
-/

namespace FleetTracking

open Relational

/-- Something a user holds one of, and the seed hands out by name. -/
structure Resource (ρ : Type) [SerialKeyed ρ] where
  table : DB → Serial ρ
  held : User → Option Int
  name : ρ → Option String
  demoName : AssignmentSpec → String

def routeResource : Resource BusRoute :=
  ⟨DB.busRoutes, User.routeId, BusRoute.name, AssignmentSpec.routeName⟩

def vehicleResource : Resource Vehicle :=
  ⟨DB.vehicles, User.vehicleId, Vehicle.code, AssignmentSpec.vehicleCode⟩

/-- No user has the e-mail. -/
def DB.Missing (db : DB) (email : String) : Prop :=
  ∀ u ∈ db.users.toTable, u.email ≠ some email

namespace Resource

variable {ρ : Type} [SerialKeyed ρ] (R : Resource ρ)

/-- Nobody holds what the seed is about to hand to a missing demo user. -/
def DemoFree (db : DB) : Prop :=
  ∀ spec ∈ demoAssignments, db.Missing spec.email →
    ∀ r ∈ (R.table db).toTable, R.name r = some (R.demoName spec) →
      ∀ u ∈ db.users.toTable, R.held u ≠ some (Keyed.key r)

instance [DecidableEq ρ] (db : DB) : Decidable (R.DemoFree db) :=
  inferInstanceAs (Decidable (∀ spec ∈ demoAssignments,
    (∀ u ∈ db.users.toTable.rows, u.email ≠ some spec.email) →
      ∀ r ∈ (R.table db).toTable.rows, R.name r = some (R.demoName spec) →
        ∀ u ∈ db.users.toTable.rows, R.held u ≠ some (Keyed.key r)))

/-- What the seed does to the resource and its holders. -/
structure Handed (db db' : DB) : Prop where
  unique : db.users.UniqueOn R.held
  held : db.users.RefersTo R.held (R.table db).toTable
  grows : (R.table db).Grows (R.table db')
  users : db.users.Grows db'.users
  emails : db'.users.UniqueOn User.email
  names : (R.table db').UniqueOn R.name
  created : ∀ spec ∈ demoAssignments, ∃ u ∈ db'.users.toTable, u.email = some spec.email
  new : ∀ u ∈ db'.users.toTable, u ∈ db.users.toTable ∨
    (∀ w ∈ db.users.toTable, w.email ≠ u.email) ∧
      ((u.email = some adminEmail ∧ R.held u = none) ∨
        ∃ spec ∈ demoAssignments, u.email = some spec.email ∧
          ∃ r ∈ (R.table db').toTable, R.name r = some (R.demoName spec) ∧
            R.held u = some (Keyed.key r))
  /-- No two demo users are meant to get the same. -/
  distinct : ∀ s ∈ demoAssignments, ∀ s' ∈ demoAssignments,
    R.demoName s = R.demoName s' → s.email = s'.email

variable {R} {db db' : DB}

/-- A resource that somebody held before is the row of then. -/
theorem Handed.mem_of_held (h : R.Handed db db') {r : ρ} {u : User}
    (member : r ∈ (R.table db').toTable) (user : u ∈ db.users.toTable)
    (holds : R.held u = some (Keyed.key r)) : r ∈ (R.table db).toTable := by
  obtain ⟨r₀, old, same⟩ := h.held u user _ holds
  rwa [← Table.eq_of_key (h.grows.kept r₀ old) member same]

/-- When nobody holds what is handed out, nothing is held twice afterwards. -/
theorem Handed.uniqueOn (h : R.Handed db db') (free : R.DemoFree db) :
    db'.users.UniqueOn R.held := by
  -- A user of before and a new one never hold the same.
  have apart : ∀ u ∈ db.users.toTable, ∀ w : User,
      (∀ x ∈ db.users.toTable, x.email ≠ w.email) →
      ∀ spec ∈ demoAssignments, w.email = some spec.email →
      ∀ r ∈ (R.table db').toTable, R.name r = some (R.demoName spec) →
      R.held u ≠ some (Keyed.key r) := by
    intro u user w absent spec listed mail r member named holds
    exact free spec listed (fun x inDb same => absent x inDb (same.trans mail.symm)) r
      (h.mem_of_held member user holds) named u user holds
  intro u left w right k hasU hasW
  rcases h.new u left with oldU | ⟨absentU, ⟨_, noneU⟩ | ⟨s, listed, mail, r, member, named, holds⟩⟩
  · rcases h.new w right with oldW | ⟨absentW, ⟨_, noneW⟩ | ⟨s', listed', mail', r', member',
      named', holds'⟩⟩
    · exact h.unique u oldU w oldW k hasU hasW
    · cases noneW.symm.trans hasW
    · exact (apart u oldU w absentW s' listed' mail' r' member' named'
        (hasU.trans (hasW.symm.trans holds'))).elim
  · cases noneU.symm.trans hasU
  · rcases h.new w right with oldW | ⟨_, ⟨_, noneW⟩ | ⟨s', listed', mail', r', member', named',
      holds'⟩⟩
    · exact (apart w oldW u absentU s listed mail r member named
        (hasW.trans (hasU.symm.trans holds))).elim
    · cases noneW.symm.trans hasW
    · have same : r = r' := by
        refine Table.eq_of_key member member' (Option.some.inj ?_)
        rw [← holds, ← holds', hasU, hasW]
      subst same
      have names := Option.some.inj (named.symm.trans named')
      have mails := h.distinct s listed s' listed' names
      exact h.emails u left w right s.email mail (mails ▸ mail')

/-- When nothing is held twice afterwards, nobody held what was handed out. -/
theorem Handed.demoFree (h : R.Handed db db') (unique : db'.users.UniqueOn R.held)
    (mails : ∀ s ∈ demoAssignments, ∀ s' ∈ demoAssignments, s.email = s'.email → s = s')
    (notAdmin : ∀ s ∈ demoAssignments, s.email ≠ adminEmail) : R.DemoFree db := by
  intro spec listed missing r member named u user holds
  obtain ⟨w, created, mail⟩ := h.created spec listed
  rcases h.new w created with old | ⟨absent, ⟨admin, _⟩ | ⟨s, listed', mail', r', member', named',
    holds'⟩⟩
  · exact missing w old mail
  · exact notAdmin spec listed (Option.some.inj (mail.symm.trans admin))
  · obtain rfl := mails spec listed s listed' (Option.some.inj (mail.symm.trans mail'))
    have kept := h.grows.kept r member
    have same : r = r' := Table.eq_of_key kept member' (h.names r kept r' member' _ named named')
    subst same
    have keys := unique u (h.users.kept u user) w created _ holds holds'
    have both : u = w := Table.eq_of_key (h.users.kept u user) created keys
    subst both
    exact absent u user rfl

end Resource

/-! ## The seed -/

theorem demoAssignments_emails : ∀ s ∈ demoAssignments, ∀ s' ∈ demoAssignments,
    s.email = s'.email → s = s' := by
  simp [demoAssignments]

theorem demoAssignments_routes : ∀ s ∈ demoAssignments, ∀ s' ∈ demoAssignments,
    s.routeName = s'.routeName → s.email = s'.email := by
  decide

theorem demoAssignments_vehicles : ∀ s ∈ demoAssignments, ∀ s' ∈ demoAssignments,
    s.vehicleCode = s'.vehicleCode → s.email = s'.email := by
  decide

theorem demoAssignments_not_admin : ∀ s ∈ demoAssignments, s.email ≠ adminEmail := by
  decide

section

variable {db db' : DB}

theorem Seeded.routes_handed (seeded : Seeded db db') (c : Consistent db) (x : Exclusive db) :
    routeResource.Handed db db' where
  unique := x.routes
  held := c.userRoutes
  grows := seeded.added.grows.busRoutes
  users := seeded.added.grows.users
  emails := (seeded.added.consistent c).emails
  names := (seeded.added.consistent c).names
  created := seeded.users
  new u member := by
    rcases seeded.new u member with
      old | ⟨absent, ⟨mail, noRoute, _⟩ | ⟨spec, listed, mail, route, _⟩⟩
    · exact .inl old
    · exact .inr ⟨absent, .inl ⟨mail, noRoute⟩⟩
    · exact .inr ⟨absent, .inr ⟨spec, listed, mail, route⟩⟩
  distinct := demoAssignments_routes

theorem Seeded.vehicles_handed (seeded : Seeded db db') (c : Consistent db) (x : Exclusive db) :
    vehicleResource.Handed db db' where
  unique := x.vehicles
  held := c.userVehicles
  grows := seeded.added.grows.vehicles
  users := seeded.added.grows.users
  emails := (seeded.added.consistent c).emails
  names := (seeded.added.consistent c).codes
  created := seeded.users
  new u member := by
    rcases seeded.new u member with
      old | ⟨absent, ⟨mail, _, noVehicle⟩ | ⟨spec, listed, mail, _, vehicle⟩⟩
    · exact .inl old
    · exact .inr ⟨absent, .inl ⟨mail, noVehicle⟩⟩
    · exact .inr ⟨absent, .inr ⟨spec, listed, mail, vehicle⟩⟩
  distinct := demoAssignments_vehicles

/-- For each demo user that is missing, nobody holds its route or its vehicle. -/
def DB.DemoFree (db : DB) : Prop := routeResource.DemoFree db ∧ vehicleResource.DemoFree db

instance (db : DB) : Decidable db.DemoFree :=
  inferInstanceAs (Decidable (routeResource.DemoFree db ∧ vehicleResource.DemoFree db))

/-- The seed keeps assignments exclusive exactly when what it hands out is free. -/
theorem Seeded.exclusive_iff (seeded : Seeded db db') (c : Consistent db) (x : Exclusive db) :
    Exclusive db' ↔ db.DemoFree := by
  have routes := seeded.routes_handed c x
  have vehicles := seeded.vehicles_handed c x
  constructor
  · intro x'
    exact ⟨routes.demoFree x'.routes demoAssignments_emails demoAssignments_not_admin,
      vehicles.demoFree x'.vehicles demoAssignments_emails demoAssignments_not_admin⟩
  · intro free
    exact ⟨routes.uniqueOn free.1, vehicles.uniqueOn free.2⟩

/-- In wiped tables everything is free. -/
theorem DB.demoFree_wiped (db : DB) : db.wiped.DemoFree :=
  ⟨fun _ _ _ _ member => (Table.not_mem_empty member).elim,
    fun _ _ _ _ member => (Table.not_mem_empty member).elim⟩

end

/-! ## Runs -/

section

variable {E : Engine} {settings : Settings} {a : Ambient} {db : DB}

/-- A call hands out nothing by creating a user. -/
theorem Call.Makes.unshared {c : Call} {e : Edit} (makes : c.Makes e) : e.Unshared db := by
  cases e with
  | addUser u =>
      cases c with
      | createUser data =>
          obtain ⟨noRoute, noVehicle⟩ := makes
          refine ⟨fun _ has => ?_, fun _ has => ?_⟩
          · cases noRoute.symm.trans has
          · cases noVehicle.symm.trans has
      | _ => exact makes.elim
  | _ => trivial

/-- **Step.**  A call keeps the tables consistent and the assignments exclusive. -/
theorem Call.after_sound {c : Call} (sound : Consistent db ∧ Exclusive db) :
    Consistent (c.after E a db) ∧ Exclusive (c.after E a db) := by
  rcases c.after_edits E a db with same | ⟨e, makes, allowed, leads⟩
  · rwa [same]
  · rw [leads]
    exact ⟨sound.1.apply allowed, sound.2.apply makes.unshared allowed⟩

/-- A fresh seed leaves consistent tables and exclusive assignments. -/
theorem seed_fresh_sound (E : Engine) (settings : Settings) (a : Ambient) (db : DB) :
    Consistent (seed E settings a.hashPassword a.now true db).2 ∧
      Exclusive (seed E settings a.hashPassword a.now true db).2 := by
  rw [seed_fresh]
  have seeded := seed_seeded E settings a db.wiped
  exact ⟨seeded.added.consistent (.wiped db),
    (seeded.exclusive_iff (.wiped db) (.wiped db)).mpr db.demoFree_wiped⟩

theorem runCalls_keeps_sound (calls : List (Ambient × Call))
    (start : Consistent db ∧ Exclusive db) :
    Consistent (runCalls E db calls) ∧ Exclusive (runCalls E db calls) :=
  runCalls_keep (P := fun db => Consistent db ∧ Exclusive db)
    (fun sound makes allowed => ⟨sound.1.apply allowed, sound.2.apply makes.unshared allowed⟩)
    calls start

/-- **Soundness of the guards.**  Whatever calls are made from the empty database or from a
fresh seed, the tables are consistent and the assignments exclusive.  The engine need not
enforce a single constraint for it. -/
theorem runCalls_sound (E : Engine) (settings : Settings) (a : Ambient) (db : DB)
    (calls : List (Ambient × Call)) :
    (Consistent (runCalls E .empty calls) ∧ Exclusive (runCalls E .empty calls)) ∧
      Consistent (runCalls E (seed E settings a.hashPassword a.now true db).2 calls) ∧
      Exclusive (runCalls E (seed E settings a.hashPassword a.now true db).2 calls) :=
  ⟨runCalls_keeps_sound calls ⟨.empty, .empty⟩,
    runCalls_keeps_sound calls (seed_fresh_sound E settings a db)⟩

/-- In a run of operations, every plain seed finds what it hands out free. -/
def SeedsFree (E : Engine) (settings : Settings) : DB → List (Ambient × Op) → Prop
  | _, [] => True
  | db, (a, op) :: ops =>
      (op = .seed false → db.DemoFree) ∧ SeedsFree E settings (op.after E settings a db) ops

/-- **Step.**  An operation keeps the assignments exclusive, a plain seed when it finds what
it hands out free. -/
theorem Op.after_sound {op : Op} (sound : Consistent db ∧ Exclusive db)
    (free : op = .seed false → db.DemoFree) :
    Consistent (op.after E settings a db) ∧ Exclusive (op.after E settings a db) := by
  match op with
  | call c => exact Call.after_sound sound
  | seed true => exact seed_fresh_sound E settings a db
  | seed false =>
      have seeded := seed_seeded E settings a db
      exact ⟨seeded.added.consistent sound.1,
        (seeded.exclusive_iff sound.1 sound.2).mpr (free rfl)⟩

theorem runOps_sound (ops : List (Ambient × Op)) (start : Consistent db ∧ Exclusive db)
    (free : SeedsFree E settings db ops) : Exclusive (runOps E settings db ops) := by
  induction ops generalizing db with
  | nil => exact start.2
  | cons head ops ih => exact ih (Op.after_sound start free.1) free.2

/-- **When the seed keeps assignments exclusive.**  From a reachable state with exclusive
assignments it does exactly when, for each demo user that is missing, nobody holds its route
or its vehicle; and a run in which every plain seed finds that so is exclusive throughout. -/
theorem seed_exclusive (E : Engine) (settings : Settings) :
    (∀ ops (a : Ambient), Exclusive (runOps E settings .empty ops) →
      (Exclusive (seed E settings a.hashPassword a.now false (runOps E settings .empty ops)).2 ↔
        (runOps E settings .empty ops).DemoFree)) ∧
    ∀ ops, SeedsFree E settings .empty ops → Exclusive (runOps E settings .empty ops) := by
  constructor
  · intro ops a exclusive
    have consistent : Consistent (runOps E settings .empty ops) :=
      Reachable.consistent ⟨ops, rfl⟩
    exact (seed_seeded E settings a _).exclusive_iff consistent exclusive
  · intro ops free
    exact runOps_sound ops ⟨.empty, .empty⟩ free

/-- A boot after a demo user was deleted: the seed hands the new one what the old one had. -/
theorem seed_exclusive_again :
    Exclusive (seed postgres {} plainAmbient.hashPassword 0 false
      (runOps postgres {} .empty
        [(plainAmbient, .seed false), (plainAmbient, .call (.deleteUser 2))])).2 ∧
    Exclusive (runOps postgres {} .empty [(plainAmbient, .seed false),
      (plainAmbient, .call (.deleteUser 2)), (plainAmbient, .seed false)]) := by
  have before : Exclusive (runOps postgres {} .empty
      [(plainAmbient, .seed false), (plainAmbient, .call (.deleteUser 2))]) := by decide +kernel
  have free : (runOps postgres {} .empty
      [(plainAmbient, .seed false), (plainAmbient, .call (.deleteUser 2))]).DemoFree := by
    decide +kernel
  exact ⟨((seed_exclusive postgres {}).1 _ plainAmbient before).mpr free,
    (seed_exclusive postgres {}).2 _
      ⟨fun _ => DB.demoFree_wiped .empty, fun same => Op.noConfusion same, fun _ => free, trivial⟩⟩

/-- Give the second user another e-mail. -/
def renameRavi : Call :=
  .updateUser 2 { email := .value "driver@fleet.com", password := .unset, isAdmin := .unset }

/-- Seeding again after a demo user was given another e-mail assigns its route twice. -/
theorem seed_shares_route :
    ¬ ∀ (ops : List (Ambient × Op)) (a : Ambient), Exclusive (runOps postgres {} .empty ops) →
      Exclusive
        (seed postgres {} a.hashPassword a.now false (runOps postgres {} .empty ops)).2 := by
  intro preserved
  have before : Exclusive (runOps postgres {} .empty
      [(plainAmbient, .seed false), (plainAmbient, .call renameRavi)]) := by
    decide +kernel
  have after := preserved _ plainAmbient before
  revert after
  decide +kernel

end

end FleetTracking
