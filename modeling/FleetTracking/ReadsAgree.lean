import FleetTracking.Columns
import FleetTracking.Exclusivity

/-!
# The four reads agree

The `/me` reads have four guards of their own: both ids null, the route id null, the vehicle
id null, and again the vehicle id null.  They come to the same because assignments are pairs,
and their further branches for a route or a vehicle that is gone are never taken because
references name rows.

Whether a user is assigned is a fact about the run: `lastAssignment` is what the last
operation that changed the user's assignment asked for.
-/

namespace FleetTracking

open Relational Python Pydantic

/-! ## What the reads raise -/

def RaisesNoAssignment {α : Type} (result : Except Failure α) : Prop :=
  ∃ message, result = .error (noAssignmentError message)

/-- Whatever the call raises, it is not a deliberate error. -/
def NoAppError {α : Type} (result : Except Failure α) : Prop :=
  ∀ e, result ≠ .error (.app e)

namespace NoAppError

variable {α β : Type} {result : Except Failure α}

theorem ok (a : α) : NoAppError (.ok a : Except Failure α) := by simp [NoAppError]

/-- A failure that is not deliberate. -/
theorem error {failure : Failure} (accidental : ∀ e, failure ≠ .app e) :
    NoAppError (.error failure : Except Failure α) :=
  fun e same => accidental e (Except.error.inj same)

theorem bind {f : α → Except Failure β} (first : NoAppError result)
    (rest : ∀ a, NoAppError (f a)) : NoAppError (result >>= f) := by
  cases result with
  | error failure => exact fun e same => first e (congrArg _ (Except.error.inj same))
  | ok a => exact rest a

theorem map {f : α → β} (first : NoAppError result) : NoAppError (result.map f) := by
  cases result with
  | error failure => exact fun e same => first e (congrArg _ (Except.error.inj same))
  | ok a => exact .ok (f a)

theorem mapM {one : α → Except Failure β} (each : ∀ a, NoAppError (one a)) (rows : List α) :
    NoAppError (rows.mapM one) := by
  induction rows with
  | nil => exact .ok []
  | cons a rows ih =>
      rw [List.mapM_cons]
      exact (each a).bind fun b => ih.bind fun out => .ok (b :: out)

theorem not_raises (noApp : NoAppError result) : ¬ RaisesNoAssignment result := by
  intro raises
  rcases raises with ⟨message, raised⟩
  exact noApp _ raised

end NoAppError

theorem requireStr_noApp (s : Option String) : NoAppError (requireStr s) := by
  cases s with
  | none => exact .error (by simp)
  | some value => exact .ok value

theorem routePolyline_noApp (route : BusRoute) :
    NoAppError (RoutePolylineOut.modelValidate route) := by
  have waypoint : ∀ w, NoAppError (Waypoint.modelValidate w) := by
    intro w
    unfold Waypoint.modelValidate
    split
    · exact .ok _
    · exact .error (by simp)
  exact (requireStr_noApp _).bind fun name => (NoAppError.mapM waypoint _).bind fun _ => .ok _

theorem deriveStatus_noApp (recordedAt : Option Int) (speed : Option Number) (now : Int) :
    NoAppError (deriveStatus recordedAt speed now) := by
  have compare : NoAppError (decimalGt (speed.getD (.fin 0)) movingThresholdKmh) := by
    unfold decimalGt
    split
    · exact .error (by simp)
    · exact .ok _
  unfold deriveStatus
  split
  · exact .ok _
  · split
    · exact .ok _
    · exact compare.map

theorem historyWindow_noApp (E : Engine) (now : Datetime) (params : HistoryParams) :
    NoAppError (historyWindow E now params) := by
  have bound : ∀ d, NoAppError (bindDatetime E d) := by
    intro d
    unfold bindDatetime
    dsimp only
    split <;> split
    · exact .ok _
    · exact .error (by simp)
    · exact .ok _
    · exact .error (by simp)
  have window : ∀ d d', NoAppError (do return (← bindDatetime E d, ← bindDatetime E d')) :=
    fun d d' => (bound d).bind fun _ => (bound d').bind fun _ => .ok _
  unfold historyWindow
  dsimp only
  cases params.dateFrom with
  | some dateFrom => exact window dateFrom (params.dateTo.getD now)
  | none =>
      cases ((params.dateTo.getD now).add (-defaultHistoryWindow)) with
      | some dateFrom => exact window dateFrom (params.dateTo.getD now)
      | none => exact .error (by simp)

section

variable {E : Engine} {db : DB} {u : User} {now : Datetime} {params : HistoryParams}

/-- What the four reads of `u` do, depending on whether it is assigned. -/
structure FourReads (E : Engine) (now : Datetime) (params : HistoryParams) (db : DB) (u : User)
    (assigned : Prop) : Prop where
  raise : ¬ assigned → RaisesNoAssignment (getAssignment db u) ∧
    RaisesNoAssignment (getRoutePolyline db u) ∧
    RaisesNoAssignment (getCurrentLocation now.instant db u) ∧
    RaisesNoAssignment (getHistory E now db u params)
  both : assigned → ∃ route vehicle, getAssignment db u = .ok ⟨some route, some vehicle⟩
  none : assigned → ¬ RaisesNoAssignment (getRoutePolyline db u) ∧
    ¬ RaisesNoAssignment (getCurrentLocation now.instant db u) ∧
    ¬ RaisesNoAssignment (getHistory E now db u params)
  route : getRoutePolyline db u ≠ .error (noAssignmentError .assignedRouteGone)
  vehicle : getCurrentLocation now.instant db u ≠
    .error (noAssignmentError .assignedVehicleGone)

/-- The reads of a user without an assignment. -/
theorem fourReads_unassigned (E : Engine) (now : Datetime) (params : HistoryParams) (db : DB)
    (noRoute : u.routeId = none) (noVehicle : u.vehicleId = none) :
    FourReads E now params db u False := by
  have polyline : getRoutePolyline db u = .error (noAssignmentError .noRouteAssigned) := by
    rw [getRoutePolyline, noRoute]
  have location : getCurrentLocation now.instant db u =
      .error (noAssignmentError .noVehicleAssigned) := by
    rw [getCurrentLocation, noVehicle]
  refine ⟨fun _ => ⟨⟨.noAssignment, ?_⟩, ⟨_, polyline⟩, ⟨_, location⟩, .noVehicleAssigned, ?_⟩,
    False.elim, False.elim, ?_, ?_⟩
  · simp only [getAssignment, requireAssignment, noRoute, noVehicle, and_self, if_true]
    rfl
  · rw [getHistory, noVehicle]
  · rw [polyline]
    exact nofun
  · rw [location]
    exact nofun

/-- A row that is there is found under its key, which is not 0. -/
theorem getIfSet_some {ρ : Type} [SerialKeyed ρ] {t : Serial ρ} {k : Int} {row : ρ}
    (found : t.get k = some row) : getIfSet t (some k) = some row := by
  obtain ⟨member, rfl⟩ := Table.get_eq_some.mp found
  have positive := Serial.one_le_key member
  rw [getIfSet, if_neg (by omega), found]

/-- The reads of a user with an assignment. -/
theorem fourReads_assigned {routeId vehicleId : Int} {route : BusRoute} {vehicle : Vehicle}
    (filled : Filled db) (holdsRoute : u.routeId = some routeId)
    (holdsVehicle : u.vehicleId = some vehicleId)
    (foundRoute : db.busRoutes.get routeId = some route)
    (foundVehicle : db.vehicles.get vehicleId = some vehicle) :
    FourReads E now params db u True := by
  obtain ⟨routeName, named⟩ := Option.isSome_iff_exists.mp
    (filled.routes route (Table.get_eq_some.mp foundRoute).1).1
  obtain ⟨code, name, _, coded, vehicleNamed, _⟩ :=
    filled.vehicle (Table.get_eq_some.mp foundVehicle).1
  have polyline : NoAppError (getRoutePolyline db u) := by
    rw [getRoutePolyline, holdsRoute]
    dsimp only
    rw [foundRoute]
    exact routePolyline_noApp route
  have location : NoAppError (getCurrentLocation now.instant db u) := by
    rw [getCurrentLocation, holdsVehicle]
    dsimp only
    rw [foundVehicle]
    exact (deriveStatus_noApp _ _ _).bind fun status => (requireStr_noApp _).bind fun _ => .ok _
  have history : NoAppError (getHistory E now db u params) := by
    rw [getHistory, holdsVehicle]
    dsimp only
    refine (historyWindow_noApp E now params).bind fun window => ?_
    split
    · exact .ok _
    · exact .error (by simp)
  refine ⟨fun absent => (absent trivial).elim, fun _ => ?_, fun _ =>
    ⟨polyline.not_raises, location.not_raises, history.not_raises⟩, polyline _, location _⟩
  refine ⟨⟨route.id, routeName⟩, ⟨vehicle.id, code, name⟩, ?_⟩
  simp only [getAssignment, requireAssignment, holdsRoute, holdsVehicle, reduceCtorEq, and_self,
    if_false, getIfSet_some foundRoute, getIfSet_some foundVehicle, Option.mapM_some,
    RouteSummary.modelValidate, VehicleSummary.modelValidate, named, coded, vehicleNamed,
    requireStr]
  rfl

/-- **The guards coincide** in consistent, filled tables. -/
theorem fourReads (now : Datetime) (params : HistoryParams) (filled : Filled db)
    (consistent : Consistent db) (member : u ∈ db.users.toTable) :
    FourReads E now params db u (u.routeId.isSome = true) := by
  have pair := consistent.pairs u member
  cases holdsRoute : u.routeId with
  | none =>
      rw [holdsRoute] at pair
      have holdsVehicle : u.vehicleId = none := Option.isNone_iff_eq_none.mp pair.symm
      simpa using fourReads_unassigned E now params db holdsRoute holdsVehicle
  | some routeId =>
      rw [holdsRoute] at pair
      obtain ⟨vehicleId, holdsVehicle⟩ : ∃ vehicleId, u.vehicleId = some vehicleId :=
        Option.ne_none_iff_exists'.mp fun absent => by simp [absent] at pair
      obtain ⟨route, foundRoute⟩ := Option.isSome_iff_exists.mp
        (Table.hasKey_iff_get.mp (consistent.userRoutes u member routeId holdsRoute))
      obtain ⟨vehicle, foundVehicle⟩ := Option.isSome_iff_exists.mp
        (Table.hasKey_iff_get.mp (consistent.userVehicles u member vehicleId holdsVehicle))
      simpa using fourReads_assigned filled holdsRoute holdsVehicle foundRoute foundVehicle

end

/-! ## The last change of an assignment -/

/-- Whether user `userId` is there and holds a route. -/
def DB.hasPair (db : DB) (userId : Int) : Bool := (db.users.get userId).any (·.routeId.isSome)

/-- Whether the operation changes the assignment of user `userId`, and if so, whether it sets
a pair: a `set_assignment` that goes through, or the seed run that creates the user. -/
def Op.assigns (E : Engine) (settings : Settings) (a : Ambient) (db : DB) (userId : Int) :
    Op → Option Bool
  | call (.setAssignment k data) =>
      match setAssignment E db k data with
      | .ok _ => if k = userId then some data.routeId.isSome else none
      | .error _ => none
  | call _ => none
  | seed fresh =>
      match db.users.get userId, ((seed fresh).after E settings a db).users.get userId with
      | none, some u => some (demoAssignments.any fun spec => u.email = some spec.email)
      | _, _ => none

/-- The last change of the assignment of user `userId` in a run. -/
def lastAssignment (E : Engine) (settings : Settings) (userId : Int) :
    DB → List (Ambient × Op) → Option Bool
  | _, [] => none
  | db, (a, op) :: ops =>
      (lastAssignment E settings userId (op.after E settings a db) ops).or
        (op.assigns E settings a db userId)

/-- The edit neither gives user `userId` an assignment nor takes one away. -/
def Edit.Spares (userId : Int) : Edit → Prop
  | .addUser u => u.routeId = none
  | .unassign u => u.id ≠ userId
  | .assign u _ _ => u.id ≠ userId
  | .wipe => False
  | _ => True

section

variable {E : Engine} {settings : Settings} {a : Ambient} {db db' : DB} {userId : Int}

theorem DB.hasPair_of_get {u : User} (found : db.users.get userId = some u) :
    db.hasPair userId = u.routeId.isSome := by
  simp only [hasPair, found, Option.any_some]

theorem DB.hasPair_of_absent (absent : ¬ db.users.HasKey userId) :
    db.hasPair userId = false := by
  have noRow : db.users.get userId = none :=
    Option.not_isSome_iff_eq_none.mp fun present => absent (Table.hasKey_iff_get.mpr present)
  simp only [hasPair, noRow, Option.any_none]

theorem Edit.Spares.hasPair {e : Edit} (spares : e.Spares userId) (allowed : e.Allowed db)
    (present : (e.apply db).users.HasKey userId) :
    (e.apply db).hasPair userId = db.hasPair userId := by
  -- Overwriting the row of another user, or with the same route, changes nothing here.
  have put : ∀ u : User, (u.id = userId → ∃ old, db.users.get userId = some old ∧
      u.routeId = old.routeId) →
      ({ db with users := db.users.put u } : DB).hasPair userId = db.hasPair userId := by
    intro u keeps
    simp only [DB.hasPair, Serial.toTable_put, Table.get_put, key_user]
    split
    · next own =>
        obtain ⟨old, found, same⟩ := keeps own.1.symm
        rw [found, Option.any_some, Option.any_some, same]
    · rfl
  cases e with
  | addUser u =>
      simp only [apply, DB.hasPair, Serial.get_insert]
      split
      · next drawn =>
          have unused : db.users.get userId = none := Table.get_eq_none.mpr fun w member same =>
            (Serial.key_lt member).ne (same.trans drawn)
          have noRoute : u.routeId = none := spares
          simp [unused, noRoute, SerialKeyed.withKey]
      · rfl
  | setUser u =>
      obtain ⟨old, found, same, _⟩ := allowed
      exact put u fun own => ⟨old, own ▸ found, same⟩
  | dropUser k =>
      have other : userId ≠ k := by
        rintro rfl
        obtain ⟨w, member, same⟩ := present
        exact (Table.mem_erase.mp member).2 same
      simp only [apply, DB.hasPair, Serial.toTable_erase, Table.get_erase, if_neg other]
  | unassign u => exact put _ fun own => (spares own).elim
  | assign u routeId vehicleId => exact put _ fun own => (spares own).elim
  | wipe => exact spares.elim
  | _ => rfl

theorem Call.Makes.spares {c : Call} {e : Edit} (makes : c.Makes e)
    (other : ∀ data, c ≠ .setAssignment userId data) : e.Spares userId := by
  cases e with
  | addUser u =>
      cases c with
      | createUser data => exact makes.1
      | _ => exact makes.elim
  | unassign u =>
      cases c with
      | setAssignment k data =>
          rintro rfl
          exact other data (by rw [show u.id = k from makes])
      | _ => exact makes.elim
  | assign u routeId vehicleId =>
      cases c with
      | setAssignment k data =>
          rintro rfl
          exact other data (by rw [show u.id = k from makes])
      | _ => exact makes.elim
  | wipe => cases c <;> exact makes.elim
  | _ => trivial

/-- A call that is not the user's `set_assignment`. -/
theorem Call.after_hasPair {c : Call} (other : ∀ data, c ≠ .setAssignment userId data)
    (present : (c.after E a db).users.HasKey userId) :
    (c.after E a db).hasPair userId = db.hasPair userId := by
  rcases c.after_edits E a db with same | ⟨e, makes, allowed, leads⟩
  · rw [same]
  · rw [leads] at present ⊢
    exact (makes.spares other).hasPair allowed present

theorem setAssignment_hasPair {data : AssignmentUpdate} {row : User}
    (done : setAssignment E db userId data = .ok (row, db')) :
    db'.hasPair userId = data.routeId.isSome := by
  obtain ⟨u, found, rfl, edit⟩ := setAssignment_edit done
  have put : ∀ w : User, w.id = u.id →
      ({ db with users := db.users.put w } : DB).hasPair u.id = w.routeId.isSome :=
    fun w own => DB.hasPair_of_get
      (Table.get_put.trans (if_pos ⟨own.symm, Table.HasKey.of_get found⟩))
  rcases edit with ⟨rfl, _, rfl⟩ | ⟨routeId, vehicleId, rfl, _, rfl⟩
  · exact put _ rfl
  · exact put _ rfl

/-- What the seed run that creates a user sets. -/
theorem Seeded.hasPair {u : User} (seeded : Seeded db db')
    (absent : ¬ db.users.HasKey userId) (found : db'.users.get userId = some u) :
    db'.hasPair userId = demoAssignments.any fun spec => u.email = some spec.email := by
  obtain ⟨member, same⟩ := Table.get_eq_some.mp found
  rw [DB.hasPair_of_get found]
  rcases seeded.new u member with old | ⟨_, ⟨mail, noRoute, _⟩ | demo⟩
  · exact (absent ⟨u, old, same⟩).elim
  · have noDemo : ∀ spec ∈ demoAssignments, u.email ≠ some spec.email := by
      intro spec listed taken
      exact demoAssignments_not_admin spec listed (Option.some.inj (taken.symm.trans mail))
    rw [noRoute]
    exact (List.any_eq_false.mpr fun spec listed => by simpa using noDemo spec listed).symm
  · obtain ⟨spec, listed, mail, ⟨r, _, _, holds⟩, _⟩ := demo
    rw [holds]
    exact (List.any_eq_true.mpr ⟨spec, listed, decide_eq_true mail⟩).symm

/-- A row that was there before a plain seed run is there unchanged. -/
theorem Seeded.hasPair_kept (seeded : Seeded db db') (present : db.users.HasKey userId) :
    db'.hasPair userId = db.hasPair userId := by
  obtain ⟨u, found⟩ := Option.isSome_iff_exists.mp (Table.hasKey_iff_get.mp present)
  obtain ⟨member, same⟩ := Table.get_eq_some.mp found
  have kept := Table.get_eq_some.mpr ⟨seeded.added.grows.users.kept u member, same⟩
  rw [DB.hasPair_of_get found, DB.hasPair_of_get kept]

theorem setAssignment_after {data : AssignmentUpdate} :
    ((Call.setAssignment userId data).after E a db).hasPair userId =
      ((Op.call (.setAssignment userId data)).assigns E settings a db userId).getD
        (db.hasPair userId) := by
  simp only [Op.assigns, Call.after, Call.perform, if_true]
  cases done : setAssignment E db userId data with
  | error failure => rfl
  | ok out => exact setAssignment_hasPair done

/-- A seed run is a plain one on the tables as they are, or on tables without the user. -/
theorem seed_base {fresh : Bool}
    (stays : db.users.HasKey userId →
      ((Op.seed fresh).after E settings a db).users.HasKey userId) :
    ∃ base, Seeded base ((Op.seed fresh).after E settings a db) ∧
      (base = db ∨ (¬ base.users.HasKey userId ∧ ¬ db.users.HasKey userId)) := by
  cases fresh with
  | false => exact ⟨db, seed_seeded E settings a db, .inl rfl⟩
  | true =>
      have seeded := seed_seeded E settings a db.wiped
      have gone : ¬ db.wiped.users.HasKey userId := by
        intro present
        obtain ⟨w, member, _⟩ := present
        exact Table.not_mem_empty member
      rw [Op.after, seed_fresh] at stays ⊢
      refine ⟨db.wiped, seeded, .inr ⟨gone, fun before => ?_⟩⟩
      -- The sequence goes on, so the id of a user that was wiped does not come back.
      have follows := (Op.seed false).after_follows E settings a db.wiped
      obtain ⟨w, member, rfl⟩ := before
      have drawn : Keyed.key w < db.users.next := Serial.key_lt member
      exact gone (follows.hasKey drawn (stays ⟨w, member, rfl⟩))

theorem seed_after {fresh : Bool}
    (stays : db.users.HasKey userId →
      ((Op.seed fresh).after E settings a db).users.HasKey userId) :
    ((Op.seed fresh).after E settings a db).hasPair userId =
      ((Op.seed fresh).assigns E settings a db userId).getD (db.hasPair userId) := by
  obtain ⟨base, seeded, same⟩ := seed_base stays
  cases before : db.users.get userId with
  | some u =>
      have present : db.users.HasKey userId := .of_get before
      rcases same with rfl | ⟨_, absent⟩
      · simpa only [Op.assigns, before, Option.getD_none] using seeded.hasPair_kept present
      · exact (absent present).elim
  | none =>
      have absent : ¬ db.users.HasKey userId := by simp [Table.hasKey_iff_get, before]
      have absent' : ¬ base.users.HasKey userId := by
        rcases same with rfl | ⟨absent', _⟩
        · exact absent
        · exact absent'
      cases found : ((Op.seed fresh).after E settings a db).users.get userId with
      | some u => simpa only [Op.assigns, before, found, Option.getD_some] using
          seeded.hasPair absent' found
      | none =>
          rw [Op.assigns, before, found, DB.hasPair, DB.hasPair, before, found]
          rfl

/-- **Step.**  An operation that does not delete the user leaves its assignment as the
operation says, or as it was when the operation says nothing. -/
theorem Op.after_hasPair (op : Op)
    (stays : db.users.HasKey userId → (op.after E settings a db).users.HasKey userId) :
    (op.after E settings a db).hasPair userId =
      (op.assigns E settings a db userId).getD (db.hasPair userId) := by
  cases op with
  | seed fresh => exact seed_after stays
  | call c =>
      by_cases own : ∃ data, c = .setAssignment userId data
      · obtain ⟨data, rfl⟩ := own
        exact setAssignment_after
      · have other : ∀ data, c ≠ .setAssignment userId data := fun data same => own ⟨data, same⟩
        have silent : (Op.call c).assigns E settings a db userId = none := by
          cases c with
          | setAssignment k data =>
              have different : k ≠ userId := by
                rintro rfl
                exact other data rfl
              rw [assigns, if_neg different]
              split <;> rfl
          | _ => rfl
        rw [silent, Option.getD_none]
        by_cases present : (c.after E a db).users.HasKey userId
        · exact Call.after_hasPair other present
        · have absent : ¬ db.users.HasKey userId := fun before => present (stays before)
          exact (DB.hasPair_of_absent present).trans (DB.hasPair_of_absent absent).symm

/-- **Run.**  A user that is there at the end of a run holds a pair exactly when the last
change of its assignment set one. -/
theorem runOps_hasPair (ops : List (Ambient × Op)) {db : DB}
    (present : (runOps E settings db ops).users.HasKey userId) :
    (runOps E settings db ops).hasPair userId =
      (lastAssignment E settings userId db ops).getD (db.hasPair userId) := by
  induction ops generalizing db with
  | nil => rfl
  | cons head ops ih =>
      obtain ⟨a, op⟩ := head
      have stays : db.users.HasKey userId →
          (op.after E settings a db).users.HasKey userId := by
        intro before
        obtain ⟨u, member, rfl⟩ := before
        exact (runOps_follows ops E settings _).hasKey
          ((Serial.key_lt member).trans_le (op.after_follows E settings a db).next_le) present
      rw [runOps, ih present, op.after_hasPair stays, lastAssignment]
      cases lastAssignment E settings userId (op.after E settings a db) ops <;> rfl

/-- The four `/me` reads of any user of any reachable database. -/
theorem assigned_reads_agree (E : Engine) (enforced : E.constraints = true) (settings : Settings)
    (ops : List (Ambient × Op)) (u : User)
    (member : u ∈ (runOps E settings .empty ops).users.toTable) (now : Datetime)
    (params : HistoryParams) :
    FourReads E now params (runOps E settings .empty ops) u
      (lastAssignment E settings u.id .empty ops = some true) := by
  have reachable : Reachable E settings (runOps E settings .empty ops) := ⟨ops, rfl⟩
  have found : (runOps E settings .empty ops).users.get u.id = some u :=
    Table.get_eq_some.mpr ⟨member, rfl⟩
  have run := runOps_hasPair ops (Table.HasKey.of_get found)
  have reads :=
    fourReads (E := E) now params (reachable.filled enforced) reachable.consistent member
  rw [DB.hasPair_of_get found] at run
  rw [run] at reads
  cases last : lastAssignment E settings u.id .empty ops with
  | none =>
      have nobody : DB.empty.hasPair u.id = false := rfl
      rw [last, Option.getD_none, nobody] at reads
      simpa using reads
  | some set =>
      rw [last] at reads
      simpa using reads

/-- The seed that created the first demo user was the last to change its assignment. -/
theorem assigned_reads_agree_demo :
    lastAssignment postgres {} 2 .empty [(plainAmbient, .seed false)] = some true ∧
      FourReads postgres .epoch
        ⟨none, none, HistoryParams.defaultLimit, HistoryParams.defaultOffset⟩ .demo raviRow
        (lastAssignment postgres {} 2 .empty [(plainAmbient, .seed false)] = some true) :=
  ⟨by decide +kernel, assigned_reads_agree postgres rfl {} [(plainAmbient, .seed false)] raviRow
    raviRow_member .epoch ⟨none, none, HistoryParams.defaultLimit, HistoryParams.defaultOffset⟩⟩

end

end FleetTracking
