import FleetTracking.Operations

/-!
# What other people's operations leave alone

The five `/me` reads of a user look at the user's own row, at the route and the vehicle in
it, and at that vehicle's tracking data: `SameView` says that two databases agree on those.
An allowed edit that is not about the user keeps the view (`SameView.apply`), a deletion
because it is only allowed when nobody holds what it deletes.
-/

namespace FleetTracking

open Relational Python Pydantic

/-- What the reads answer. -/
structure MeReads where
  profile : Except Failure UserOut
  assignment : Except Failure AssignmentOut
  routePolyline : Except Failure RoutePolylineOut
  currentLocation : Except Failure VehicleLiveOut
  history : Except Failure HistoryOut

/-- The reads of the user with that id, at one clock value. -/
def DB.meReads (E : Engine) (c : Coerce) (now : Datetime) (params : HistoryParams) (db : DB)
    (userId : Int) : Option MeReads :=
  (db.users.get userId).map fun user =>
    { profile := UserOut.modelValidate c user
      assignment := getAssignment db user
      routePolyline := getRoutePolyline db user
      currentLocation := getCurrentLocation now.instant db user
      history := getHistory E now db user params }

/-- The edit is not about `u`: neither the row, nor what it holds. -/
def Edit.NotAbout (u : User) : Edit → Prop
  | .setRoute r => u.routeId ≠ some r.id
  | .setVehicle v => u.vehicleId ≠ some v.id
  | .setUser w => w.id ≠ u.id
  | .dropUser userId => userId ≠ u.id
  | .unassign w => w.id ≠ u.id
  | .assign w _ _ => w.id ≠ u.id
  | .ingest m => u.vehicleId ≠ some m.vehicleId.1
  | .wipe => False
  | _ => True

/-- The operation is not about `u`.  Deleting a route or a vehicle never is, not even
`u`'s own. -/
def Op.NotAbout (u : User) : Op → Prop
  | .call (.updateRoute routeId _) => u.routeId ≠ some routeId
  | .call (.updateVehicle vehicleId _) => u.vehicleId ≠ some vehicleId
  | .call (.updateUser userId _) => userId ≠ u.id
  | .call (.deleteUser userId) => userId ≠ u.id
  | .call (.setAssignment userId _) => userId ≠ u.id
  | .call (.handleGpsMessage m) => u.vehicleId ≠ some m.vehicleId.1
  | .call _ => True
  | .seed fresh => fresh = false

/-- The databases agree on what the reads of `u` look at. -/
structure SameView (u : User) (db db' : DB) : Prop where
  user : db'.users.get u.id = db.users.get u.id
  route : ∀ k, u.routeId = some k → db'.busRoutes.get k = db.busRoutes.get k
  vehicle : ∀ k, u.vehicleId = some k → db'.vehicles.get k = db.vehicles.get k
  location : ∀ k, u.vehicleId = some k →
    db'.vehicleCurrentLocation.get k = db.vehicleCurrentLocation.get k
  points : ∀ k, u.vehicleId = some k →
    (db'.gpsPoints.rows.filter fun p => p.vehicleId = k) =
      db.gpsPoints.rows.filter fun p => p.vehicleId = k

namespace SameView

variable {u : User} {db db' db'' : DB}

theorem refl (u : User) (db : DB) : SameView u db db :=
  ⟨rfl, fun _ _ => rfl, fun _ _ => rfl, fun _ _ => rfl, fun _ _ => rfl⟩

theorem trans (first : SameView u db db') (second : SameView u db' db'') :
    SameView u db db'' where
  user := second.user.trans first.user
  route k holds := (second.route k holds).trans (first.route k holds)
  vehicle k holds := (second.vehicle k holds).trans (first.vehicle k holds)
  location k holds := (second.location k holds).trans (first.location k holds)
  points k holds := (second.points k holds).trans (first.points k holds)

end SameView

/-! ## The reads depend on the view only -/

section

variable {u : User} {db db' : DB}

theorem getIfSet_congr {ρ : Type} [SerialKeyed ρ] {t t' : Serial ρ} {k : Option Int}
    (same : ∀ i, k = some i → t'.get i = t.get i) : getIfSet t' k = getIfSet t k := by
  cases k with
  | none => rfl
  | some i =>
      simp only [getIfSet, same i rfl]

theorem getAssignment_congr (view : SameView u db db') :
    getAssignment db' u = getAssignment db u := by
  unfold getAssignment
  rw [getIfSet_congr view.route, getIfSet_congr view.vehicle]

theorem getRoutePolyline_congr (view : SameView u db db') :
    getRoutePolyline db' u = getRoutePolyline db u := by
  unfold getRoutePolyline
  cases holds : u.routeId with
  | none => rfl
  | some k =>
      dsimp only
      rw [view.route k holds]

theorem getCurrentLocation_congr {now : Int} (view : SameView u db db') :
    getCurrentLocation now db' u = getCurrentLocation now db u := by
  unfold getCurrentLocation
  cases holds : u.vehicleId with
  | none => rfl
  | some k =>
      dsimp only
      rw [view.vehicle k holds, view.location k holds]

/-- The history queries only see the points of their vehicle. -/
theorem filter_inWindow {vehicleId dateFrom dateTo : Int} (rows : List GPSPoint) :
    rows.filter (inWindow vehicleId dateFrom dateTo) =
      (rows.filter fun p => p.vehicleId = vehicleId).filter
        (inWindow vehicleId dateFrom dateTo) := by
  rw [List.filter_filter]
  refine List.filter_congr fun p _ => ?_
  simp only [inWindow, Bool.decide_and]
  cases decide (p.vehicleId = vehicleId) <;> simp

theorem getHistory_congr {E : Engine} {now : Datetime} {params : HistoryParams}
    (view : SameView u db db') : getHistory E now db' u params = getHistory E now db u params := by
  unfold getHistory
  cases holds : u.vehicleId with
  | none => rfl
  | some k =>
      have rows : ∀ dateFrom dateTo, db'.gpsPoints.rows.filter (inWindow k dateFrom dateTo) =
          db.gpsPoints.rows.filter (inWindow k dateFrom dateTo) := by
        intro dateFrom dateTo
        rw [filter_inWindow, view.points k holds, ← filter_inWindow]
      simp only [historyPage, Table.count, List.countP_eq_length_filter, rows]

/-- **The reads look at the view.** -/
theorem meReads_congr {E : Engine} {c : Coerce} {now : Datetime} {params : HistoryParams}
    (found : db.users.get u.id = some u) (view : SameView u db db') :
    db'.meReads E c now params u.id = db.meReads E c now params u.id := by
  unfold DB.meReads
  rw [view.user, found]
  simp only [Option.map_some, getAssignment_congr view, getRoutePolyline_congr view,
    getCurrentLocation_congr view, getHistory_congr view]

/-! ## Edits keep the view -/

/-- Overwriting one row leaves the others. -/
theorem get_put_of_ne {ρ : Type} [SerialKeyed ρ] {t : Serial ρ} {r : ρ} {k : Int}
    (other : Keyed.key r ≠ k) : (t.put r).get k = t.get k := by
  rw [Serial.toTable_put, Table.get_put, if_neg fun same => other same.1.symm]

/-- Removing one row leaves the others. -/
theorem get_erase_of_ne {ρ : Type} [SerialKeyed ρ] {t : Serial ρ} {i k : Int} (other : i ≠ k) :
    (t.erase i).get k = t.get k := by
  rw [Serial.toTable_erase, Table.get_erase, if_neg other.symm]

/-- A row that is there stays when another is inserted. -/
theorem get_insert_of_hasKey {ρ : Type} [SerialKeyed ρ] {t : Serial ρ} {r : ρ} {k : Int}
    (present : t.HasKey k) : (t.insert r).get k = t.get k := by
  obtain ⟨s, found⟩ := Option.isSome_iff_exists.mp (Table.hasKey_iff_get.mp present)
  rw [found]
  exact Serial.get_insert_of_get found

/-- **Step.**  An allowed edit that is not about `u` keeps the view of `u`. -/
theorem SameView.apply {e : Edit} (c : Consistent db) (found : db.users.get u.id = some u)
    (allowed : e.Allowed db) (other : e.NotAbout u) : SameView u db (e.apply db) := by
  have member : u ∈ db.users.toTable := (Table.get_eq_some.mp found).1
  have same := SameView.refl u db
  cases e with
  | addRoute r =>
      exact { same with
        route := fun k holds => get_insert_of_hasKey (c.userRoutes u member k holds) }
  | setRoute r =>
      have apart : ∀ k, u.routeId = some k → r.id ≠ k :=
        fun k holds own => other (holds.trans (congrArg some own.symm))
      exact { same with route := fun k holds => get_put_of_ne (apart k holds) }
  | dropRoute routeId =>
      have apart : ∀ k, u.routeId = some k → routeId ≠ k :=
        fun k holds own => allowed u member (own ▸ holds)
      exact { same with route := fun k holds => get_erase_of_ne (apart k holds) }
  | addVehicle v =>
      exact { same with
        vehicle := fun k holds => get_insert_of_hasKey (c.userVehicles u member k holds) }
  | setVehicle v =>
      have apart : ∀ k, u.vehicleId = some k → v.id ≠ k :=
        fun k holds own => other (holds.trans (congrArg some own.symm))
      exact { same with vehicle := fun k holds => get_put_of_ne (apart k holds) }
  | dropVehicle vehicleId =>
      have apart : ∀ k, u.vehicleId = some k → vehicleId ≠ k :=
        fun k holds own => allowed.1 u member (own ▸ holds)
      exact { same with vehicle := fun k holds => get_erase_of_ne (apart k holds) }
  | addUser w =>
      exact { same with user := get_insert_of_hasKey (Table.HasKey.of_get found) }
  | setUser w => exact { same with user := get_put_of_ne other }
  | dropUser userId => exact { same with user := get_erase_of_ne other }
  | unassign w => exact { same with user := get_put_of_ne other }
  | assign w routeId vehicleId => exact { same with user := get_put_of_ne other }
  | ingest m =>
      have apart : ∀ k, u.vehicleId = some k → (m.vehicleId : Int) ≠ k :=
        fun k holds own => other (holds.trans (congrArg some own.symm))
      exact { same with
        location := fun k holds =>
          get_upsertLatest.trans (if_neg (apart k holds).symm)
        points := fun k holds => by
          have skipped : decide ((m.vehicleId : Int) = k) = false :=
            decide_eq_false (apart k holds)
          simp [Edit.apply, DB.ingest, DB.addPoint, GPSMessage.point, skipped] }
  | wipe => exact other.elim

end

/-! ## Operations -/

section

variable {E : Engine} {settings : Settings} {a : Ambient} {db : DB} {u : User} {op : Op}

/-- The edits a call makes are about whom the call is about. -/
theorem Call.Makes.notAbout {c : Call} {e : Edit} (makes : c.Makes e)
    (other : (Op.call c).NotAbout u) : e.NotAbout u := by
  cases c with
  | updateRoute routeId data =>
      cases e with
      | setRoute r =>
          have same : r.id = routeId := makes
          exact fun holds => other (holds.trans (congrArg some same))
      | _ => exact makes.elim
  | updateVehicle vehicleId data =>
      cases e with
      | setVehicle v =>
          have same : v.id = vehicleId := makes
          exact fun holds => other (holds.trans (congrArg some same))
      | _ => exact makes.elim
  | updateUser userId data =>
      cases e with
      | setUser w =>
          have same : w.id = userId := makes
          exact fun own => other (same.symm.trans own)
      | _ => exact makes.elim
  | deleteUser userId =>
      cases e with
      | dropUser k =>
          have same : k = userId := makes
          exact fun own => other (same.symm.trans own)
      | _ => exact makes.elim
  | setAssignment userId data =>
      cases e with
      | unassign w =>
          have same : w.id = userId := makes
          exact fun own => other (same.symm.trans own)
      | assign w routeId vehicleId =>
          have same : w.id = userId := makes
          exact fun own => other (same.symm.trans own)
      | _ => exact makes.elim
  | handleGpsMessage m =>
      cases e with
      | ingest m' =>
          obtain rfl : m' = m := makes
          exact other
      | _ => exact makes.elim
  | _ => cases e <;> trivial

theorem Op.Makes.notAbout {e : Edit} (makes : op.Makes e) (other : op.NotAbout u) :
    e.NotAbout u := by
  match op with
  | .call c => exact Call.Makes.notAbout makes other
  | .seed false => cases e <;> trivial
  | .seed true => cases other

/-- **Run.**  An operation that is not about `u` keeps the view of `u`. -/
theorem Op.sameView (reachable : Reachable E settings db) (found : db.users.get u.id = some u)
    (other : op.NotAbout u) : SameView u db (op.after E settings a db) := by
  obtain ⟨es, run, makes⟩ := op.after_edits E settings a db
  have step : ∀ {d : DB} {e : Edit}, Consistent d ∧ SameView u db d → e.NotAbout u →
      e.Allowed d → Consistent (e.apply d) ∧ SameView u db (e.apply d) := by
    intro d e kept apart allowed
    rcases kept with ⟨consistent, view⟩
    have there : d.users.get u.id = some u := view.user.trans found
    exact ⟨consistent.apply allowed, view.trans (.apply consistent there allowed apart)⟩
  exact (run.keep step ⟨reachable.consistent, .refl u db⟩
    fun e made => (makes e made).notAbout other).2

/-- **Noninterference.**  No operation that is not about `u` changes what `u` reads. -/
theorem meReads_noninterference (E : Engine) (settings : Settings) (c : Coerce) (now : Datetime)
    (params : HistoryParams) (a : Ambient) (reachable : Reachable E settings db)
    (found : db.users.get u.id = some u) (other : op.NotAbout u) :
    (op.after E settings a db).meReads E c now params u.id = db.meReads E c now params u.id :=
  meReads_congr found (Op.sameView reachable found other)

end

/-- A history query without parameters. -/
def plainQuery : HistoryParams :=
  ⟨none, none, HistoryParams.defaultLimit, HistoryParams.defaultOffset⟩

/-- The first demo user reads the same after somebody tried to delete its route. -/
theorem meReads_noninterference_deleteRoute :
    ((Op.call (.deleteRoute 1)).after postgres {} plainAmbient .demo).meReads postgres .asIs
      .epoch plainQuery 2 = DB.demo.meReads postgres .asIs .epoch plainQuery 2 :=
  meReads_noninterference postgres {} .asIs .epoch plainQuery plainAmbient ⟨_, rfl⟩
    (u := raviRow) (by decide +kernel) trivial

end FleetTracking
