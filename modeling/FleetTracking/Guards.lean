import FleetTracking.AssignmentContract

/-!
# The guards leave the constraints nothing to reject

The services that create, delete, assign and ingest, and the seed, look before they write.
`Concludes` is how such a call may end: in a result, or in a not-found or conflict error.  One
lemma for each service says that it concludes on every database, reachable or not; none of them
appeals to a constraint, each uses the statement lemma that a guard makes applicable.
-/

namespace FleetTracking

open Relational Pydantic

/-- A result, or a deliberate not-found or conflict error. -/
def Concludes {α : Type} (result : Except Failure α) : Prop :=
  (∃ a, result = .ok a) ∨ ∃ e, result = .error (.app e) ∧
    (e.errorClass = .notFoundError ∨ e.errorClass = .conflictError)

/-- A call with a guard for each constraint, and with values that the database takes: ids
within 64 bits, text without NUL, finite waypoints, a representable timestamp. -/
def Call.Guarded (E : Engine) : Call → Prop
  | createRoute data =>
      E.text data.name = true ∧ E.jsonb (data.waypoints.1.map Waypoint.modelDump) = true
  | createVehicle data => E.text data.name = true
  | createUser data => E.text data.email = true
  | deleteRoute routeId => E.bigint routeId = true
  | deleteVehicle vehicleId => E.bigint vehicleId = true
  | deleteUser userId => E.bigint userId = true
  | setAssignment userId data => E.bigint userId = true ∧
      (∀ k, data.routeId = some k → E.bigint k = true) ∧
      ∀ k, data.vehicleId = some k → E.bigint k = true
  | handleGpsMessage m => E.Takes m
  | _ => False

namespace Concludes

variable {α β : Type}

theorem ok (a : α) : Concludes (.ok a : Except Failure α) := .inl ⟨a, rfl⟩

theorem conflict (message : Message) (code : String) :
    Concludes (.error (FleetTracking.conflict message code) : Except Failure α) :=
  .inr ⟨_, rfl, .inr rfl⟩

theorem notFound (message : Message) (code : String) :
    Concludes (.error (FleetTracking.notFound message code) : Except Failure α) :=
  .inr ⟨_, rfl, .inl rfl⟩

theorem map {result : Except Failure α} {f : α → β} (concludes : Concludes result) :
    Concludes (result.map f) := by
  rcases concludes with ⟨a, rfl⟩ | ⟨e, rfl, deliberate⟩
  · exact .ok (f a)
  · exact .inr ⟨e, rfl, deliberate⟩

theorem bind {result : Except Failure α} {f : α → Except Failure β} (concludes : Concludes result)
    (rest : ∀ a, result = .ok a → Concludes (f a)) : Concludes (result.bind f) := by
  rcases concludes with ⟨a, rfl⟩ | ⟨e, rfl, deliberate⟩
  · exact rest a rfl
  · exact .inr ⟨e, rfl, deliberate⟩

end Concludes

/-! ## One lemma a service -/

section

variable {E : Engine} {db : DB}

theorem getOrMissing_concludes {ρ : Type} [SerialKeyed ρ] (t : Serial ρ)
    (message : Int → Message) (code : String) {k : Int} (fits : E.bigint k = true) :
    Concludes (getOrMissing E t (fun k => notFound (message k) code) k) := by
  unfold getOrMissing
  rw [if_pos fits]
  cases t.get k with
  | some row => exact .ok row
  | none => exact .notFound (message k) code

theorem createRoute_concludes {now : Int} {data : RouteCreate} (text : E.text data.name = true)
    (jsonb : E.jsonb (data.waypoints.1.map Waypoint.modelDump) = true) :
    Concludes (createRoute E db now data) := by
  unfold createRoute
  rw [if_pos text]
  cases found : db.busRoutes.scalar fun r => r.name = some data.name.1 with
  | some taken => exact .conflict _ _
  | none =>
      dsimp only
      rw [if_pos jsonb, Engine.insertRouteRow_ok rfl (Table.ne_of_scalar found)]
      exact .ok _

theorem createVehicle_concludes {now : Int} {data : VehicleCreate}
    (text : E.text data.name = true) : Concludes (createVehicle E db now data) := by
  unfold createVehicle
  cases found : db.vehicles.scalar fun v => v.code = some data.code.1.1 with
  | some taken => exact .conflict _ _
  | none =>
      dsimp only
      rw [if_pos text, Engine.insertVehicleRow_ok rfl rfl rfl (Table.ne_of_scalar found)]
      exact .ok _

theorem createUser_concludes {hashPassword : String → String} {now : Int} {data : UserCreate}
    (text : E.text data.email = true) : Concludes (createUser E db hashPassword now data) := by
  unfold createUser
  rw [if_pos text]
  cases found : db.users.scalar fun u => u.email = some data.email with
  | some taken => exact .conflict _ _
  | none =>
      dsimp only
      rw [Engine.insertUserRow_ok rfl (Table.ne_of_scalar found)
        (fun _ has => by cases has) (fun _ has => by cases has)]
      exact .ok _

theorem deleteRoute_concludes {route : BusRoute} : Concludes (deleteRoute E db route) := by
  unfold deleteRoute
  dsimp only
  split
  · exact .conflict _ _
  · next unused =>
      have accepted : db.routeUnreferenced route.id = true := decide_eq_true (not_not.mp unused)
      rw [Engine.deleteRouteRow, Engine.execute_of_ok accepted]
      exact .ok _

theorem deleteVehicle_concludes {vehicle : Vehicle} : Concludes (deleteVehicle E db vehicle) := by
  unfold deleteVehicle
  dsimp only
  split
  · exact .conflict _ _
  · next unassigned =>
      split
      · exact .conflict _ _
      · next untracked =>
          obtain ⟨noHistory, noCurrent⟩ := not_or.mp untracked
          have accepted : db.vehicleUnreferenced vehicle.id = true :=
            decide_eq_true ⟨not_not.mp unassigned, not_not.mp noHistory,
              Option.isNone_iff_eq_none.mpr (Option.not_isSome_iff_eq_none.mp noCurrent)⟩
          rw [Engine.deleteVehicleRow, Engine.execute_of_ok accepted]
          exact .ok _

theorem deleteUser_concludes {user : User} : Concludes (deleteUser E db user) := by
  rw [deleteUser, Engine.deleteUserRow, Engine.execute_of_ok rfl]
  exact .ok _

theorem AssignmentOutcome.concludes {userId : Int} {data : AssignmentUpdate}
    {result : Except Failure (User × DB)} (outcome : AssignmentOutcome db userId data result) :
    Concludes result := by
  cases outcome with
  | userMissing | routeMissing | vehicleMissing => exact .notFound _ _
  | routeHeld | vehicleHeld => exact .conflict _ _
  | unassigned | assigned => exact .ok _

theorem handleGpsMessage_concludes {m : GPSMessage} (takes : E.Takes m) :
    ∃ stored db', handleGpsMessage E db m = .ok (stored, db') ∧ (stored = false → db' = db) := by
  rw [handleGpsMessage_eq, if_pos takes.1]
  cases db.vehicles.get m.vehicleId with
  | none => exact ⟨false, db, rfl, fun _ => rfl⟩
  | some vehicle =>
      dsimp only
      split
      · exact ⟨false, db, rfl, fun _ => rfl⟩
      · rw [if_pos takes.2]
        exact ⟨true, db.ingest m, rfl, fun stored => by cases stored⟩

theorem Call.perform_concludes {c : Call} (guarded : c.Guarded E) (a : Ambient) (db : DB) :
    Concludes (c.perform E a db) := by
  cases c with
  | createRoute data => exact (createRoute_concludes guarded.1 guarded.2).map
  | createVehicle data => exact (createVehicle_concludes guarded).map
  | createUser data => exact (createUser_concludes guarded).map
  | deleteRoute routeId =>
      exact (getOrMissing_concludes _ _ _ guarded).bind fun _ _ => deleteRoute_concludes
  | deleteVehicle vehicleId =>
      exact (getOrMissing_concludes _ _ _ guarded).bind fun _ _ => deleteVehicle_concludes
  | deleteUser userId =>
      exact (getOrMissing_concludes _ _ _ guarded).bind fun _ _ => deleteUser_concludes
  | setAssignment userId data =>
      exact (setAssignment_outcome guarded.1 guarded.2.1 guarded.2.2).concludes.map
  | handleGpsMessage m =>
      obtain ⟨stored, db', handled, _⟩ : ∃ stored db',
          FleetTracking.handleGpsMessage E db m = .ok (stored, db') ∧
            (stored = false → db' = db) := handleGpsMessage_concludes guarded
      simp only [perform, handled]
      exact .ok _
  | updateRoute | updateVehicle | updateUser => exact guarded.elim

/-- The seed succeeds, fresh or not. -/
theorem seed_ok (E : Engine) (settings : Settings) (a : Ambient) (fresh : Bool) (db : DB) :
    ∃ created, (seed E settings a.hashPassword a.now fresh db).1 = .ok created := by
  have plain : ∀ db, ∃ created,
      (seed E settings a.hashPassword a.now false db).1 = .ok created := by
    intro db
    obtain ⟨created, db', done, _⟩ := seedMissing_spec E settings a.hashPassword a.now db
    exact ⟨created, by simp only [seed, Bool.false_eq_true, if_false, done, settle]⟩
  cases fresh with
  | false => exact plain db
  | true =>
      rw [seed_fresh]
      exact plain db.wiped

end

/-- **The guards are complete.**  On every database, each call that creates, deletes, assigns
or ingests, and each run of the seed, ends in success or in a not-found or conflict error that
leaves the tables as they were; an ingestion ends in an answer, and `False` leaves them so. -/
theorem guards_complete (E : Engine) (settings : Settings) (a : Ambient) (db : DB) :
    (∀ c : Call, c.Guarded E →
      (∃ db', c.perform E a db = .ok db' ∧ c.after E a db = db') ∨
        ∃ e, c.perform E a db = .error (.app e) ∧
          (e.errorClass = .notFoundError ∨ e.errorClass = .conflictError) ∧
          c.after E a db = db) ∧
    (∀ m, E.Takes m → ∃ stored db', handleGpsMessage E db m = .ok (stored, db') ∧
      (stored = false → db' = db)) ∧
    ∀ fresh, ∃ created, (seed E settings a.hashPassword a.now fresh db).1 = .ok created := by
  refine ⟨fun c guarded => ?_, fun m takes => handleGpsMessage_concludes takes,
    fun fresh => seed_ok E settings a fresh db⟩
  rcases c.perform_concludes guarded a db with ⟨db', done⟩ | ⟨e, raised, deliberate⟩
  · exact .inl ⟨db', done, by rw [Call.after, done]⟩
  · exact .inr ⟨e, raised, deliberate, by rw [Call.after, raised]⟩

/-- Deleting a route that a demo user holds is a conflict. -/
theorem guards_complete_demo :
    ∃ e, (Call.deleteRoute 1).perform postgres plainAmbient .demo = .error (.app e) ∧
      (e.errorClass = .notFoundError ∨ e.errorClass = .conflictError) ∧
      (Call.deleteRoute 1).after postgres plainAmbient .demo = .demo := by
  rcases (guards_complete postgres {} plainAmbient .demo).1 (.deleteRoute 1) rfl with
    ⟨db', done, _⟩ | refused
  · have raised : ((Call.deleteRoute 1).perform postgres plainAmbient .demo).toOption.isNone =
        true := by decide +kernel
    rw [done] at raised
    cases raised
  · exact refused

end FleetTracking
