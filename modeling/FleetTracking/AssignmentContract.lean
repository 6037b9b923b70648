import FleetTracking.Exclusivity

/-!
# The contract of `set_assignment`

`AssignmentOutcome` lists how the call may end, in the order in which it looks: the user, the
route, the vehicle, the route's holder, the vehicle's holder.  The outcomes exclude each other,
so each error is raised in its case and in no other (`AssignmentContract`).

That the outcomes are exact is what makes a release count: where assignments are exclusive,
nobody else held what a user gave up.
-/

namespace FleetTracking

open Relational Pydantic

/-- Somebody else holds it. -/
def DB.HeldByOther (db : DB) (held : User → Option Int) (k userId : Int) : Prop :=
  ∃ other ∈ db.users.toTable, held other = some k ∧ other.id ≠ userId

/-- The user's row with this pair. -/
def User.withPair (user : User) (routeId vehicleId : Option Int) : User :=
  { user with routeId, vehicleId }

/-- The database with this row of a user. -/
def DB.withUser (db : DB) (user : User) : DB := { db with users := db.users.put user }

/-- How `set_assignment` may end. -/
inductive AssignmentOutcome (db : DB) (userId : Int) :
    AssignmentUpdate → Except Failure (User × DB) → Prop
  | userMissing {data : AssignmentUpdate} (missing : ¬ db.users.HasKey userId) :
      AssignmentOutcome db userId data
        (.error (notFound (.userNotFound userId) "user_not_found"))
  | unassigned {user : User} (found : db.users.get userId = some user) :
      AssignmentOutcome db userId .unassign
        (.ok (user.withPair none none, db.withUser (user.withPair none none)))
  | routeMissing {routeId vehicleId : Int} (user : db.users.HasKey userId)
      (missing : ¬ db.busRoutes.HasKey routeId) :
      AssignmentOutcome db userId (.assign routeId vehicleId)
        (.error (notFound (.routeNotFound routeId) "route_not_found"))
  | vehicleMissing {routeId vehicleId : Int} (user : db.users.HasKey userId)
      (route : db.busRoutes.HasKey routeId) (missing : ¬ db.vehicles.HasKey vehicleId) :
      AssignmentOutcome db userId (.assign routeId vehicleId)
        (.error (notFound (.vehicleNotFound vehicleId) "vehicle_not_found"))
  | routeHeld {routeId vehicleId : Int} {other : User} (user : db.users.HasKey userId)
      (route : db.busRoutes.HasKey routeId) (vehicle : db.vehicles.HasKey vehicleId)
      (held : db.HeldByOther User.routeId routeId userId) :
      AssignmentOutcome db userId (.assign routeId vehicleId)
        (.error (routeAlreadyAssigned other))
  | vehicleHeld {routeId vehicleId : Int} {other : User} (user : db.users.HasKey userId)
      (route : db.busRoutes.HasKey routeId) (vehicle : db.vehicles.HasKey vehicleId)
      (routeFree : ¬ db.HeldByOther User.routeId routeId userId)
      (held : db.HeldByOther User.vehicleId vehicleId userId) :
      AssignmentOutcome db userId (.assign routeId vehicleId)
        (.error (vehicleAlreadyAssigned other))
  | assigned {routeId vehicleId : Int} {user : User} (found : db.users.get userId = some user)
      (route : db.busRoutes.HasKey routeId) (vehicle : db.vehicles.HasKey vehicleId)
      (routeFree : ¬ db.HeldByOther User.routeId routeId userId)
      (vehicleFree : ¬ db.HeldByOther User.vehicleId vehicleId userId) :
      AssignmentOutcome db userId (.assign routeId vehicleId)
        (.ok (user.withPair (some routeId) (some vehicleId),
          db.withUser (user.withPair (some routeId) (some vehicleId))))

section

variable {E : Engine} {db db' : DB} {userId : Int} {data : AssignmentUpdate}

/-- A lookup by an id that the driver takes finds the row or says that it is missing. -/
theorem getOrMissing_cases {ρ : Type} [SerialKeyed ρ] {t : Serial ρ} {missing : Int → Failure}
    {k : Int} (fits : E.bigint k = true) :
    (∃ row, t.get k = some row ∧ Keyed.key row = k ∧ getOrMissing E t missing k = .ok row) ∨
      ¬ t.HasKey k ∧ getOrMissing E t missing k = .error (missing k) := by
  unfold getOrMissing
  rw [if_pos fits]
  cases found : t.get k with
  | some row => exact .inl ⟨row, rfl, (Table.get_eq_some.mp found).2, rfl⟩
  | none =>
      refine .inr ⟨fun present => ?_, rfl⟩
      rw [Table.hasKey_iff_get, found] at present
      cases present

/-- A holder query finds a holder exactly when somebody else holds it. -/
theorem holder_cases (db : DB) (held : User → Option Int) (k userId : Int) :
    (∃ other, (db.users.scalar fun u => held u = some k ∧ u.id ≠ userId) = some other ∧
        db.HeldByOther held k userId) ∨
      (db.users.scalar fun u => held u = some k ∧ u.id ≠ userId) = none ∧
        ¬ db.HeldByOther held k userId := by
  cases answer : db.users.scalar fun u => held u = some k ∧ u.id ≠ userId with
  | some other =>
      obtain ⟨member, holds⟩ := Table.scalar_some answer
      exact .inl ⟨other, rfl, other, member, of_decide_eq_true holds⟩
  | none =>
      refine .inr ⟨rfl, fun taken => ?_⟩
      rcases taken with ⟨other, member, holds, apart⟩
      simpa [holds, apart] using Table.scalar_eq_none.mp answer other member

/-- Both foreign keys may be cleared. -/
theorem saved_unassign {user : User} (loaded : db.users.get user.id = some user) :
    E.updateAssignmentRow db user (user.withPair none none) =
      .ok (db.withUser (user.withPair none none)) :=
  Engine.updateAssignmentRow_ok loaded (.inr fun _ has => by cases has)
    (.inr fun _ has => by cases has)

/-- Both foreign keys may be set to rows that are there. -/
theorem saved_assign {user : User} {routeId vehicleId : Int}
    (loaded : db.users.get user.id = some user) (route : db.busRoutes.HasKey routeId)
    (vehicle : db.vehicles.HasKey vehicleId) :
    E.updateAssignmentRow db user (user.withPair (some routeId) (some vehicleId)) =
      .ok (db.withUser (user.withPair (some routeId) (some vehicleId))) :=
  Engine.updateAssignmentRow_ok loaded (.inr fun _ has => Option.some.inj has ▸ route)
    (.inr fun _ has => Option.some.inj has ▸ vehicle)

/-- **The outcome.**  For ids that the driver takes, the call ends as its guards say. -/
theorem setAssignment_outcome (fits : E.bigint userId = true)
    (fitsRoute : ∀ k, data.routeId = some k → E.bigint k = true)
    (fitsVehicle : ∀ k, data.vehicleId = some k → E.bigint k = true) :
    AssignmentOutcome db userId data (setAssignment E db userId data) := by
  unfold setAssignment getUser getRoute getVehicle otherRouteUser otherVehicleUser
  rcases getOrMissing_cases (t := db.users) fits with
    ⟨user, loaded, same, found⟩ | ⟨missing, raised⟩
  swap
  · rw [raised]
    exact .userMissing missing
  rw [key_user] at same
  have own : db.users.get user.id = some user := same ▸ loaded
  rw [found]
  rcases data.eq_unassign_or_assign with rfl | ⟨routeId, vehicleId, rfl⟩
  · have saved := saved_unassign (E := E) own
    dsimp only [AssignmentUpdate.unassign]
    unfold User.withPair at saved
    rw [saved]
    exact .unassigned loaded
  have present : db.users.HasKey userId := .of_get loaded
  dsimp only [AssignmentUpdate.assign]
  rcases getOrMissing_cases (t := db.busRoutes) (fitsRoute routeId rfl) with
    ⟨route, loadedRoute, rfl, foundRoute⟩ | ⟨missing, raised⟩
  swap
  · rw [raised]
    exact .routeMissing present missing
  have hasRoute := Table.HasKey.of_get loadedRoute
  rw [foundRoute]
  rcases getOrMissing_cases (t := db.vehicles) (fitsVehicle vehicleId rfl) with
    ⟨vehicle, loadedVehicle, rfl, foundVehicle⟩ | ⟨missing, raised⟩
  swap
  · rw [raised]
    exact .vehicleMissing present hasRoute missing
  have hasVehicle := Table.HasKey.of_get loadedVehicle
  rw [foundVehicle]
  dsimp only
  rw [← same]
  rw [← same] at present
  rcases holder_cases db User.routeId route.id user.id with
    ⟨other, answer, held⟩ | ⟨answer, free⟩
  · rw [answer]
    exact .routeHeld present hasRoute hasVehicle held
  rw [answer]
  rcases holder_cases db User.vehicleId vehicle.id user.id with
    ⟨other, answer, held⟩ | ⟨answer, free'⟩
  · rw [answer]
    exact .vehicleHeld present hasRoute hasVehicle free held
  have saved := saved_assign (E := E) own hasRoute hasVehicle
  unfold User.withPair at saved
  rw [answer]
  dsimp only
  rw [← key_busRoute, ← key_vehicle, saved]
  exact .assigned own hasRoute hasVehicle free free'

/-! ## The contract -/

/-- The call raises the deliberate error with this code. -/
def Raises {α : Type} (result : Except Failure α) (code : String) : Prop :=
  ∃ e, result = .error (.app e) ∧ e.code = code

/-- Ids within 64 bits. -/
structure FitsColumns (E : Engine) (userId : Int) (data : AssignmentUpdate) : Prop where
  user : E.bigint userId = true
  route : ∀ k, data.routeId = some k → E.bigint k = true
  vehicle : ∀ k, data.vehicleId = some k → E.bigint k = true

/-- When each error is raised, when the call succeeds, and what it changes then. -/
structure AssignmentContract (db : DB) (userId : Int) (data : AssignmentUpdate)
    (result : Except Failure (User × DB)) : Prop where
  userNotFound : Raises result "user_not_found" ↔ ¬ db.users.HasKey userId
  routeNotFound : Raises result "route_not_found" ↔ db.users.HasKey userId ∧
    ∃ routeId vehicleId, data = .assign routeId vehicleId ∧ ¬ db.busRoutes.HasKey routeId
  vehicleNotFound : Raises result "vehicle_not_found" ↔ db.users.HasKey userId ∧
    ∃ routeId vehicleId, data = .assign routeId vehicleId ∧ db.busRoutes.HasKey routeId ∧
      ¬ db.vehicles.HasKey vehicleId
  routeAlreadyAssigned : Raises result "route_already_assigned" ↔ db.users.HasKey userId ∧
    ∃ routeId vehicleId, data = .assign routeId vehicleId ∧ db.busRoutes.HasKey routeId ∧
      db.vehicles.HasKey vehicleId ∧ db.HeldByOther User.routeId routeId userId
  vehicleAlreadyAssigned : Raises result "vehicle_already_assigned" ↔ db.users.HasKey userId ∧
    ∃ routeId vehicleId, data = .assign routeId vehicleId ∧ db.busRoutes.HasKey routeId ∧
      db.vehicles.HasKey vehicleId ∧ ¬ db.HeldByOther User.routeId routeId userId ∧
      db.HeldByOther User.vehicleId vehicleId userId
  succeeds : (∃ done, result = .ok done) ↔ db.users.HasKey userId ∧ (data = .unassign ∨
    ∃ routeId vehicleId, data = .assign routeId vehicleId ∧ db.busRoutes.HasKey routeId ∧
      db.vehicles.HasKey vehicleId ∧ ¬ db.HeldByOther User.routeId routeId userId ∧
      ¬ db.HeldByOther User.vehicleId vehicleId userId)
  effect : ∀ row db', result = .ok (row, db') → ∃ user, db.users.get userId = some user ∧
    row = user.withPair data.routeId data.vehicleId ∧ db' = db.withUser row

@[simp] theorem not_raises_ok {α : Type} {a : α} {code : String} :
    ¬ Raises (.ok a : Except Failure α) code := by
  simp [Raises]

@[simp] theorem raises_error {α : Type} {e : AppError} {code : String} :
    Raises (.error (.app e) : Except Failure α) code ↔ e.code = code := by
  simp [Raises]

@[simp] theorem routeId_unassign : AssignmentUpdate.unassign.routeId = none := rfl
@[simp] theorem vehicleId_unassign : AssignmentUpdate.unassign.vehicleId = none := rfl

@[simp] theorem routeId_assign {routeId vehicleId : Int} :
    (AssignmentUpdate.assign routeId vehicleId).routeId = some routeId := rfl
@[simp] theorem vehicleId_assign {routeId vehicleId : Int} :
    (AssignmentUpdate.assign routeId vehicleId).vehicleId = some vehicleId := rfl

@[simp] theorem assign_inj {routeId vehicleId routeId' vehicleId' : Int} :
    AssignmentUpdate.assign routeId vehicleId = .assign routeId' vehicleId' ↔
      routeId = routeId' ∧ vehicleId = vehicleId' := by
  simp [AssignmentUpdate.assign]

@[simp] theorem unassign_ne_assign {routeId vehicleId : Int} :
    AssignmentUpdate.unassign ≠ .assign routeId vehicleId := nofun

@[simp] theorem assign_ne_unassign {routeId vehicleId : Int} :
    AssignmentUpdate.assign routeId vehicleId ≠ .unassign := nofun

/-- The outcomes are the contract: each makes one of its conditions true and the others
false. -/
theorem AssignmentOutcome.contract {result : Except Failure (User × DB)}
    (outcome : AssignmentOutcome db userId data result) :
    AssignmentContract db userId data result := by
  cases outcome with
  | userMissing missing =>
      constructor <;> simp [notFound, missing]
  | unassigned found =>
      have user := Table.HasKey.of_get found
      constructor <;> simp [user, found]
  | routeMissing user missing =>
      constructor <;> simp [notFound, user, missing]
  | vehicleMissing user route missing =>
      constructor <;> simp [notFound, user, route, missing]
  | routeHeld user route vehicle held =>
      constructor <;>
        simp [FleetTracking.routeAlreadyAssigned, conflict, user, route, vehicle, held]
  | vehicleHeld user route vehicle routeFree held =>
      constructor <;>
        simp [FleetTracking.vehicleAlreadyAssigned, conflict, user, route, vehicle, routeFree, held]
  | assigned found route vehicle routeFree vehicleFree =>
      have user := Table.HasKey.of_get found
      constructor <;>
        simp [user, found, route, vehicle, routeFree, vehicleFree]

theorem setAssignment_meets (fits : FitsColumns E userId data) :
    AssignmentContract db userId data (setAssignment E db userId data) :=
  (setAssignment_outcome fits.user fits.route fits.vehicle).contract

/-! ## Doing it again -/

/-- Whether somebody else holds it does not depend on the user's own row. -/
theorem heldByOther_of_withUser {row : User} {held : User → Option Int} {k : Int}
    (taken : (db.withUser row).HeldByOther held k userId) (own : row.id = userId) :
    db.HeldByOther held k userId := by
  rcases taken with ⟨other, member, holds, apart⟩
  rcases Table.mem_put.mp member with ⟨old, _⟩ | ⟨rfl, _⟩
  · exact ⟨other, old, holds, apart⟩
  · exact (apart own).elim

/-- **Idempotence.**  Repeating a call that succeeded succeeds and changes nothing. -/
theorem setAssignment_again {row : User} (fits : FitsColumns E userId data)
    (done : setAssignment E db userId data = .ok (row, db')) :
    setAssignment E db' userId data = .ok (row, db') := by
  have contract : AssignmentContract db userId data (setAssignment E db userId data) :=
    setAssignment_meets fits
  have again : AssignmentContract db' userId data (setAssignment E db' userId data) :=
    setAssignment_meets fits
  obtain ⟨user, found, rfl, rfl⟩ := contract.effect row db' done
  have own : user.id = userId := (Table.get_eq_some.mp found).2
  subst own
  have stored : (db.withUser (user.withPair data.routeId data.vehicleId)).users.get user.id =
      some (user.withPair data.routeId data.vehicleId) :=
    Table.get_put.trans (if_pos ⟨rfl, .of_get found⟩)
  obtain ⟨_, wanted⟩ := contract.succeeds.mp ⟨_, done⟩
  obtain ⟨⟨row, db''⟩, done'⟩ := again.succeeds.mpr ⟨.of_get stored, wanted.imp id fun pair => by
    obtain ⟨routeId, vehicleId, same, route, vehicle, routeFree, vehicleFree⟩ := pair
    exact ⟨routeId, vehicleId, same, route, vehicle,
      fun held => routeFree (heldByOther_of_withUser held rfl),
      fun held => vehicleFree (heldByOther_of_withUser held rfl)⟩⟩
  obtain ⟨user', found', rfl, rfl⟩ := again.effect row db'' done'
  cases stored.symm.trans found'
  rw [done']
  have unchanged : (db.withUser (user.withPair data.routeId data.vehicleId)).users.put
      (user.withPair data.routeId data.vehicleId) =
        (db.withUser (user.withPair data.routeId data.vehicleId)).users := Serial.put_self stored
  simp only [User.withPair, DB.withUser] at unchanged ⊢
  rw [unchanged]

/-! ## Giving up -/

/-- The user was assigned something else, or nothing, or was deleted. -/
def GaveUp (E : Engine) (db db' : DB) (userId : Int) : Prop :=
  (∃ data row, FitsColumns E userId data ∧ setAssignment E db userId data = .ok (row, db')) ∨
    ∃ user, getUser E db userId = .ok user ∧ deleteUser E db user = .ok db'

/-- The user held it and holds it no longer. -/
def DB.Released (db' : DB) (held : User → Option Int) (user : User) (k : Int) : Prop :=
  held user = some k ∧ ∀ u, db'.users.get user.id = some u → held u ≠ some k

/-- The routes, the vehicles and the other users are as they were. -/
theorem GaveUp.frame (gaveUp : GaveUp E db db' userId) :
    db'.busRoutes = db.busRoutes ∧ db'.vehicles = db.vehicles ∧
      ∀ w ∈ db'.users.toTable, w.id ≠ userId → w ∈ db.users.toTable := by
  rcases gaveUp with ⟨data, row, fits, done⟩ | ⟨user, found, done⟩
  · obtain ⟨user, found, rfl, rfl⟩ := (setAssignment_meets fits).effect row db' done
    refine ⟨rfl, rfl, fun w member apart => ?_⟩
    rcases Table.mem_put.mp member with ⟨old, _⟩ | ⟨rfl, _⟩
    · exact old
    · exact (apart (Table.get_eq_some.mp found).2).elim
  · obtain ⟨_, rfl⟩ := deleteUser_edit done
    exact ⟨rfl, rfl, fun w member _ => (Table.mem_erase.mp member).1⟩

/-- Where nothing is held twice, nobody holds what was given up. -/
theorem GaveUp.free {held : User → Option Int} {user : User} {k : Int}
    (gaveUp : GaveUp E db db' userId) (found : db.users.get userId = some user)
    (unique : db.users.UniqueOn held) (released : db'.Released held user k) :
    ∀ w ∈ db'.users.toTable, held w ≠ some k := by
  obtain ⟨member, own⟩ := Table.get_eq_some.mp found
  rw [key_user] at own
  intro w there holds
  by_cases same : w.id = user.id
  · exact released.2 w (same ▸ Table.get_key there) holds
  · have old := gaveUp.frame.2.2 w there (own ▸ same)
    exact same (unique w old user member k holds released.1)

/-- Calls alone lead to `db`, from the empty database or from a fresh seed. -/
def Administered (E : Engine) (settings : Settings) (db : DB) : Prop :=
  ∃ calls, runCalls E .empty calls = db ∨
    ∃ (a : Ambient) (db₀ : DB),
      runCalls E (seed E settings a.hashPassword a.now true db₀).2 calls = db

theorem Administered.sound {settings : Settings} (administered : Administered E settings db) :
    Consistent db ∧ Exclusive db := by
  obtain ⟨calls, rfl | ⟨a, db₀, rfl⟩⟩ := administered
  · exact runCalls_keeps_sound calls ⟨.empty, .empty⟩
  · exact runCalls_keeps_sound calls (seed_fresh_sound E settings a db₀)

/-- **The contract of `set_assignment`**, for ids within 64 bits: every error in its case and
in no other, and on success the requested pair in that user's row.  An error changes nothing;
a success can be repeated; and whatever a user gave up can be assigned to anybody, together
with something that nobody else holds. -/
theorem set_assignment_contract (E : Engine) (settings : Settings)
    (administered : Administered E settings db) (userId : Int) (data : AssignmentUpdate) :
    (FitsColumns E userId data →
      AssignmentContract db userId data (setAssignment E db userId data) ∧
      ∀ row db', setAssignment E db userId data = .ok (row, db') →
        setAssignment E db' userId data = .ok (row, db')) ∧
    (∀ a failure, setAssignment E db userId data = .error failure →
      (Call.setAssignment userId data).after E a db = db) ∧
    ∀ db' user, GaveUp E db db' userId → db.users.get userId = some user →
      ∀ w ∈ db'.users.toTable, ∀ routeId vehicleId, FitsColumns E w.id (.assign routeId vehicleId) →
        (db'.Released User.routeId user routeId ∧ db'.vehicles.HasKey vehicleId ∧
            ¬ db'.HeldByOther User.vehicleId vehicleId w.id ∨
          db'.Released User.vehicleId user vehicleId ∧ db'.busRoutes.HasKey routeId ∧
            ¬ db'.HeldByOther User.routeId routeId w.id) →
        ∃ done, setAssignment E db' w.id (.assign routeId vehicleId) = .ok done := by
  obtain ⟨consistent, exclusive⟩ := administered.sound
  refine ⟨fun fits => ⟨setAssignment_meets fits, fun row db' => setAssignment_again fits⟩,
    fun a failure raised => ?_, ?_⟩
  · simp only [Call.after, Call.perform, raised, Except.map]
  · intro db' user gaveUp found w member routeId vehicleId fits released
    obtain ⟨routes, vehicles, _⟩ := gaveUp.frame
    have holder := (Table.get_eq_some.mp found).1
    refine (setAssignment_meets fits).succeeds.mpr ⟨⟨w, member, rfl⟩, .inr ⟨routeId, vehicleId,
      rfl, ?_⟩⟩
    rcases released with ⟨route, vehicle, free⟩ | ⟨vehicle, route, free⟩
    · have nobody := gaveUp.free found exclusive.routes route
      refine ⟨?_, vehicle, fun held => ?_, free⟩
      · rw [routes]
        exact consistent.userRoutes user holder routeId route.1
      · rcases held with ⟨other, there, holds, _⟩
        exact nobody other there holds
    · have nobody := gaveUp.free found exclusive.vehicles vehicle
      refine ⟨route, ?_, free, fun held => ?_⟩
      · rw [vehicles]
        exact consistent.userVehicles user holder vehicleId vehicle.1
      · rcases held with ⟨other, there, holds, _⟩
        exact nobody other there holds

end

/-- A demo user asks again for what it holds. -/
theorem set_assignment_contract_demo :
    AssignmentContract .demo 2 (.assign 1 1) (setAssignment postgres .demo 2 (.assign 1 1)) := by
  have administered : Administered postgres {} .demo :=
    ⟨[], .inr ⟨plainAmbient, .empty, by rw [runCalls, seed_fresh]; rfl⟩⟩
  have fits : FitsColumns postgres 2 (.assign 1 1) :=
    ⟨rfl, fun k same => Option.some.inj same ▸ rfl, fun k same => Option.some.inj same ▸ rfl⟩
  exact ((set_assignment_contract postgres {} administered 2 (.assign 1 1)).1 fits).1

/-- **An id that no column holds.**  The driver refuses it before anybody looks for the user. -/
theorem huge_id_refused :
    ¬ ∀ (db : DB) (userId : Int) (data : AssignmentUpdate), Administered postgres {} db →
      (Raises (setAssignment postgres db userId data) "user_not_found" ↔
        ¬ db.users.HasKey userId) := by
  intro exact
  have missing : ¬ DB.empty.users.HasKey (2 ^ 63) := by decide +kernel
  obtain ⟨e, raised, _⟩ := (exact .empty (2 ^ 63) .unassign ⟨[], .inl rfl⟩).mpr missing
  have refused : setAssignment postgres .empty (2 ^ 63) .unassign = .error .dbapiError := rfl
  cases refused.symm.trans raised

end FleetTracking
