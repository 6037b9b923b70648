import FleetTracking.Operations

/-!
# What the columns hold

`Filled` collects what a reader of the tables may count on beyond the references: no null in
a `NOT NULL` column, routes with at least two waypoints, and coordinates and speeds that the
validators let through, which are finite numbers between the bounds.  It holds in every
reachable state of an engine that enforces its constraints; the services alone do not see to
it, since a partial update can ask for a null.
-/

namespace FleetTracking

open Relational Python Pydantic

/-! ## Numbers that were validated -/

/-- A stored fix as the validators and the columns leave it. -/
structure Fix.Validated (f : Fix) : Prop where
  lat : InRange (-90) 90 f.lat
  lng : InRange (-180) 180 f.lng
  speed : InRange 0 300 f.speed

theorem GPSMessage.fix_validated (m : GPSMessage) : m.fix.Validated where
  lat := m.lat.inRange.quantize (-90) 90 (by norm_num) (by norm_num) 6
  lng := m.lng.inRange.quantize (-180) 180 (by norm_num) (by norm_num) 6
  speed := m.speed.inRange.quantize 0 300 (by norm_num) (by norm_num) 2

/-- A stored waypoint. -/
structure LatLng.Validated (w : LatLng) : Prop where
  lat : InRange (-90) 90 w.lat
  lng : InRange (-180) 180 w.lng

theorem Waypoint.modelDump_validated (w : Waypoint) : w.modelDump.Validated :=
  ⟨w.lat.inRange, w.lng.inRange⟩

/-- The waypoints of a stored route. -/
structure Polyline (waypoints : List LatLng) : Prop where
  two : 2 ≤ waypoints.length
  validated : ∀ w ∈ waypoints, w.Validated

theorem polyline_of_sized (waypoints : Sized 2 500 Waypoint) :
    Polyline (waypoints.1.map Waypoint.modelDump) where
  two := by rw [List.length_map]; exact waypoints.2.1
  validated w member := by
    obtain ⟨waypoint, _, rfl⟩ := List.mem_map.mp member
    exact waypoint.modelDump_validated

theorem latLng_validated {lat lng : ℚ} (north : |lat| ≤ 90) (east : |lng| ≤ 180) :
    (latLng lat lng).Validated :=
  ⟨⟨lat, rfl, abs_le.mp north⟩, lng, rfl, abs_le.mp east⟩

theorem demoRoutes_polyline {spec : RouteSpec} (listed : spec ∈ demoRoutes) :
    Polyline spec.waypoints where
  two := by
    revert spec
    decide
  validated := by
    revert spec
    simp only [demoRoutes, List.forall_mem_cons, List.not_mem_nil, false_imp_iff, implies_true,
      and_true]
    refine ⟨⟨?_, ?_, ?_⟩, ⟨?_, ?_, ?_⟩, ⟨?_, ?_, ?_⟩, ?_, ?_, ?_⟩ <;>
      exact latLng_validated (by norm_num [abs_of_pos]) (by norm_num [abs_of_pos])

/-! ## Filled tables -/

/-- The tables hold what their columns and the validators allow. -/
structure Filled (db : DB) : Prop where
  routes : ∀ r ∈ db.busRoutes.toTable, r.name.isSome = true ∧ Polyline r.waypoints
  vehicles : ∀ v ∈ db.vehicles.toTable,
    v.code.isSome = true ∧ v.name.isSome = true ∧ v.isActive.isSome = true
  users : ∀ u ∈ db.users.toTable, u.email.isSome = true
  points : ∀ p ∈ db.gpsPoints.toTable, p.toFix.Validated
  locations : ∀ c ∈ db.vehicleCurrentLocation, c.toFix.Validated

theorem Filled.vehicle {db : DB} {v : Vehicle} (filled : Filled db)
    (member : v ∈ db.vehicles.toTable) :
    ∃ code name isActive,
      v.code = some code ∧ v.name = some name ∧ v.isActive = some isActive := by
  obtain ⟨hasCode, hasName, hasActive⟩ := filled.vehicles v member
  obtain ⟨code, coded⟩ := Option.isSome_iff_exists.mp hasCode
  obtain ⟨name, named⟩ := Option.isSome_iff_exists.mp hasName
  obtain ⟨isActive, active⟩ := Option.isSome_iff_exists.mp hasActive
  exact ⟨code, name, isActive, coded, named, active⟩

/-- The row that the edit writes, if any, has no null where none may be. -/
def Edit.Fills : Edit → Prop
  | addRoute r | setRoute r => r.name.isSome = true ∧ Polyline r.waypoints
  | addVehicle v | setVehicle v =>
      v.code.isSome = true ∧ v.name.isSome = true ∧ v.isActive.isSome = true
  | addUser u | setUser u | unassign u | assign u _ _ => u.email.isSome = true
  | _ => True

theorem Filled.wiped (db : DB) : Filled db.wiped :=
  ⟨fun _ member => (Table.not_mem_empty member).elim,
    fun _ member => (Table.not_mem_empty member).elim,
    fun _ member => (Table.not_mem_empty member).elim,
    fun _ member => (Table.not_mem_empty member).elim,
    fun _ member => (Table.not_mem_empty member).elim⟩

theorem Filled.empty : Filled .empty := .wiped .empty

section

variable {E : Engine} {db db' : DB} {a : Ambient}

/-- **Step.**  An edit that writes a filled row keeps the tables filled. -/
theorem Filled.apply {e : Edit} (filled : Filled db) (fills : e.Fills) :
    Filled (e.apply db) := by
  cases e with
  | addRoute r => exact { filled with routes := Serial.all_insert filled.routes fills }
  | setRoute r => exact { filled with routes := Table.all_put filled.routes fills }
  | dropRoute routeId => exact { filled with routes := Table.all_erase filled.routes }
  | addVehicle v => exact { filled with vehicles := Serial.all_insert filled.vehicles fills }
  | setVehicle v => exact { filled with vehicles := Table.all_put filled.vehicles fills }
  | dropVehicle vehicleId => exact { filled with vehicles := Table.all_erase filled.vehicles }
  | addUser u => exact { filled with users := Serial.all_insert filled.users fills }
  | setUser u => exact { filled with users := Table.all_put filled.users fills }
  | dropUser userId => exact { filled with users := Table.all_erase filled.users }
  | unassign u => exact { filled with users := Table.all_put filled.users fills }
  | assign u routeId vehicleId => exact { filled with users := Table.all_put filled.users fills }
  | ingest m =>
      exact { filled with
        points := Serial.all_insert filled.points m.fix_validated
        locations := fun c member => by
          rcases mem_upsertLatest member with old | ⟨rfl, _⟩
          · exact filled.locations c old
          · exact m.fix_validated }
  | wipe => exact .wiped db

/-! ## What enforced constraints say about the rows written -/

/-- With the constraints enforced, a statement that passed satisfied them. -/
theorem accepted_of_execute {ok : Bool} (enforced : E.constraints = true)
    (done : E.execute ok db = .ok db') : ok = true := by
  unfold Engine.execute at done
  cases ok with
  | true => rfl
  | false => simp [enforced] at done

theorem createRoute_fills {now : Int} {data : RouteCreate} {row : BusRoute}
    (done : createRoute E db now data = .ok (row, db')) :
    ∃ r, (Edit.addRoute r).Fills ∧ db' = (Edit.addRoute r).apply db := by
  unfold createRoute at done
  split at done
  · split at done
    · cases done
    · dsimp only at done
      split at done
      · next taken =>
          exact ⟨_, ⟨rfl, polyline_of_sized data.waypoints⟩,
            (Engine.insertRouteRow_eq_ok done).2⟩
      · cases done
  · cases done

theorem updateRoute_fills {route row : BusRoute} {data : RouteUpdate}
    (enforced : E.constraints = true) (filled : Filled db)
    (loaded : db.busRoutes.get route.id = some route)
    (done : updateRoute E db route data = .ok (row, db')) :
    (Edit.setRoute row).Fills := by
  obtain ⟨named, polyline⟩ := filled.routes route (Table.get_eq_some.mp loaded).1
  unfold updateRoute at done
  split at done
  · cases done
  · next name passed =>
      dsimp only at done
      split at done
      · next kept =>
          obtain ⟨_, saved, out⟩ := map_eq_ok.mp done
          cases out
          refine ⟨?_, ?_⟩
          · unfold Engine.updateRouteRow at saved
            split at saved
            · next same =>
                rw [same]
                exact named
            · have accepted := accepted_of_execute enforced saved
              simp only [DB.acceptsRoute, Bool.and_eq_true] at accepted
              exact accepted.1
          · rcases kept with same | taken
            · exact same.symm ▸ polyline
            · cases given : data.waypoints.toOption with
              | none => simpa [given] using polyline
              | some waypoints =>
                  simp only [given, Option.map_some, Option.getD_some] at taken
                  simpa [given] using polyline_of_sized waypoints
      · cases done

theorem createVehicle_fills {now : Int} {data : VehicleCreate} {row : Vehicle}
    (done : createVehicle E db now data = .ok (row, db')) :
    ∃ v, (Edit.addVehicle v).Fills ∧ db' = (Edit.addVehicle v).apply db := by
  unfold createVehicle at done
  split at done
  · cases done
  · split at done
    · exact ⟨_, ⟨rfl, rfl, rfl⟩, (Engine.insertVehicleRow_eq_ok done).2⟩
    · cases done

theorem updateVehicle_fills {vehicle row : Vehicle} {data : VehicleUpdate}
    (enforced : E.constraints = true) (filled : Filled db)
    (loaded : db.vehicles.get vehicle.id = some vehicle)
    (done : updateVehicle E db vehicle data = .ok (row, db')) :
    (Edit.setVehicle row).Fills := by
  unfold updateVehicle at done
  split at done
  · cases done
  · dsimp only at done
    split at done
    · obtain ⟨_, saved, out⟩ := map_eq_ok.mp done
      cases out
      unfold Engine.updateVehicleRow at saved
      split at saved
      · next same =>
          rw [same]
          exact filled.vehicles vehicle (Table.get_eq_some.mp loaded).1
      · have accepted := accepted_of_execute enforced saved
        simp only [DB.acceptsVehicle, Bool.and_eq_true] at accepted
        exact ⟨accepted.1.1.1, accepted.1.1.2, accepted.1.2⟩
    · cases done

theorem createUser_fills {hashPassword : String → String} {now : Int} {data : UserCreate}
    {row : User} (done : createUser E db hashPassword now data = .ok (row, db')) :
    ∃ u, (Edit.addUser u).Fills ∧ db' = (Edit.addUser u).apply db := by
  unfold createUser at done
  split at done
  · split at done
    · cases done
    · obtain ⟨_, inserted⟩ := Engine.insertUserRow_eq_ok done
      refine ⟨_, ?_, inserted⟩
      rfl
  · cases done

theorem updateUser_fills {hashPassword : String → String} {user row : User} {data : UserUpdate}
    (enforced : E.constraints = true) (filled : Filled db)
    (loaded : db.users.get user.id = some user)
    (done : updateUser E db hashPassword user data = .ok (row, db')) :
    (Edit.setUser row).Fills := by
  unfold updateUser at done
  split at done
  · cases done
  · obtain ⟨_, saved, out⟩ := map_eq_ok.mp done
    cases out
    unfold Engine.updateUserRow at saved
    split at saved
    · next same =>
        rw [same]
        exact filled.users user (Table.get_eq_some.mp loaded).1
    · have accepted := accepted_of_execute enforced saved
      simp only [DB.acceptsUser, Bool.and_eq_true] at accepted
      exact accepted.1.1

/-- A call that succeeded has written a filled row, or has written none. -/
theorem Call.perform_fills {c : Call} (enforced : E.constraints = true) (filled : Filled db)
    (done : c.perform E a db = .ok db') :
    db' = db ∨ ∃ e : Edit, e.Fills ∧ db' = e.apply db := by
  cases c with
  | createRoute data =>
      obtain ⟨_, created, rfl⟩ := map_eq_ok.mp done
      obtain ⟨r, fills, leads⟩ := createRoute_fills created
      exact .inr ⟨.addRoute r, fills, leads⟩
  | updateRoute routeId data =>
      obtain ⟨route, found, done⟩ := bind_eq_ok.mp done
      obtain ⟨⟨row, _⟩, updated, rfl⟩ := map_eq_ok.mp done
      obtain ⟨loaded, rfl⟩ := getOrMissing_eq_ok found
      exact .inr ⟨.setRoute row, updateRoute_fills enforced filled loaded updated,
        (updateRoute_edit loaded updated).2.2⟩
  | deleteRoute routeId =>
      obtain ⟨route, found, deleted⟩ := bind_eq_ok.mp done
      exact .inr ⟨.dropRoute route.id, trivial, (deleteRoute_edit deleted).2⟩
  | createVehicle data =>
      obtain ⟨_, created, rfl⟩ := map_eq_ok.mp done
      obtain ⟨v, fills, leads⟩ := createVehicle_fills created
      exact .inr ⟨.addVehicle v, fills, leads⟩
  | updateVehicle vehicleId data =>
      obtain ⟨vehicle, found, done⟩ := bind_eq_ok.mp done
      obtain ⟨⟨row, _⟩, updated, rfl⟩ := map_eq_ok.mp done
      obtain ⟨loaded, rfl⟩ := getOrMissing_eq_ok found
      exact .inr ⟨.setVehicle row, updateVehicle_fills enforced filled loaded updated,
        (updateVehicle_edit loaded updated).2.2⟩
  | deleteVehicle vehicleId =>
      obtain ⟨vehicle, found, deleted⟩ := bind_eq_ok.mp done
      exact .inr ⟨.dropVehicle vehicle.id, trivial, (deleteVehicle_edit deleted).2⟩
  | createUser data =>
      obtain ⟨_, created, rfl⟩ := map_eq_ok.mp done
      obtain ⟨u, fills, leads⟩ := createUser_fills created
      exact .inr ⟨.addUser u, fills, leads⟩
  | updateUser userId data =>
      obtain ⟨user, found, done⟩ := bind_eq_ok.mp done
      obtain ⟨⟨row, _⟩, updated, rfl⟩ := map_eq_ok.mp done
      obtain ⟨loaded, rfl⟩ := getOrMissing_eq_ok found
      exact .inr ⟨.setUser row, updateUser_fills enforced filled loaded updated,
        (updateUser_edit loaded updated).2.2⟩
  | deleteUser userId =>
      obtain ⟨user, found, deleted⟩ := bind_eq_ok.mp done
      exact .inr ⟨.dropUser user.id, trivial, (deleteUser_edit deleted).2⟩
  | setAssignment userId data =>
      obtain ⟨_, assigned, rfl⟩ := map_eq_ok.mp done
      obtain ⟨u, found, _, ⟨_, leads⟩ | ⟨routeId, vehicleId, _, leads⟩⟩ :=
        setAssignment_edit assigned
      · exact .inr ⟨.unassign u, filled.users u (Table.get_eq_some.mp found).1, leads.2⟩
      · exact .inr ⟨.assign u routeId vehicleId, filled.users u (Table.get_eq_some.mp found).1,
          leads.2⟩
  | handleGpsMessage m =>
      obtain ⟨⟨stored, _⟩, handled, rfl⟩ := map_eq_ok.mp done
      have edit := handleGpsMessage_edit handled
      cases stored with
      | false => exact .inl edit
      | true => exact .inr ⟨.ingest m, trivial, edit.2⟩

/-! ## The seed writes filled rows -/

theorem seedRoute_filled {now : Int} {spec : RouteSpec} {row : BusRoute} {new : Bool}
    (filled : Filled db) (listed : spec ∈ demoRoutes)
    (done : seedRoute E now spec db = .ok (row, new, db')) : Filled db' := by
  rcases seedRoute_eq_ok done with ⟨_, rfl⟩ | ⟨_, _, rfl⟩
  · exact filled
  · exact filled.apply (e := .addRoute _) ⟨rfl, demoRoutes_polyline listed⟩

theorem seedVehicle_filled {now : Int} {spec : VehicleSpec} {row : Vehicle} {new : Bool}
    (filled : Filled db) (done : seedVehicle E now spec db = .ok (row, new, db')) :
    Filled db' := by
  rcases seedVehicle_eq_ok done with ⟨_, rfl⟩ | ⟨_, _, rfl⟩
  · exact filled
  · exact filled.apply (e := .addVehicle _) ⟨rfl, rfl, rfl⟩

theorem seedUser_filled {settings : Settings} {hashPassword : Nat → String → String} {now : Int}
    {n : Nat} {email : String} {isAdmin new : Bool}
    {assignment : Except Failure (Option Int × Option Int)} {row : User} (filled : Filled db)
    (done : seedUser E settings hashPassword now n email isAdmin assignment db =
      .ok (row, new, db')) : Filled db' := by
  rcases seedUser_eq_ok done with ⟨_, rfl, _, _⟩ | ⟨_, _, _, _, _, rfl⟩
  · exact filled
  · exact filled.apply (e := .addUser _) rfl

theorem seedMissing_filled {settings : Settings} {hashPassword : Nat → String → String}
    {now : Int} {created : Created} (filled : Filled db)
    (done : seedMissing E settings hashPassword now db = .ok (created, db')) : Filled db' :=
  seedMissing_keep (fun listed filled done => seedRoute_filled filled listed done)
    (fun filled done => seedVehicle_filled filled done)
    (fun filled done => seedUser_filled filled done) filled done

/-! ## Runs -/

variable {settings : Settings}

/-- **Step.**  With the constraints enforced, every operation keeps the tables filled. -/
theorem Op.after_filled {op : Op} (enforced : E.constraints = true) (filled : Filled db) :
    Filled (op.after E settings a db) := by
  have plain : ∀ {db}, Filled db →
      Filled (FleetTracking.seed E settings a.hashPassword a.now false db).2 := by
    intro db filled
    obtain ⟨created, db', done, _⟩ := seedMissing_spec E settings a.hashPassword a.now db
    simp only [FleetTracking.seed, Bool.false_eq_true, if_false, done, settle]
    exact seedMissing_filled filled done
  cases op with
  | call c =>
      rw [after, Call.after]
      cases done : c.perform E a db with
      | error failure => exact filled
      | ok db' =>
          rcases c.perform_fills enforced filled done with rfl | ⟨e, fills, rfl⟩
          · exact filled
          · exact filled.apply fills
  | seed fresh =>
      cases fresh with
      | false => exact plain filled
      | true =>
          rw [after, seed_fresh]
          exact plain (.wiped db)

/-- **Run.**  Every state that an engine with enforced constraints reaches is filled. -/
theorem Reachable.filled (enforced : E.constraints = true)
    (reachable : Reachable E settings db) : Filled db := by
  obtain ⟨ops, rfl⟩ := reachable
  have keep : ∀ ops {db : DB}, Filled db → Filled (runOps E settings db ops) := by
    intro ops
    induction ops with
    | nil => exact id
    | cons head ops ih => exact fun filled => ih (Op.after_filled enforced filled)
  exact keep ops .empty

end

end FleetTracking
