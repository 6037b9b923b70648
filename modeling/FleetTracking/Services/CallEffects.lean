import FleetTracking.Services.CallLocks

/-!
# What a commit has done

`Committed` lists what the commit of a call can have done to the tables, whatever the other
sessions did since it read; `Call.Commits.committed` is the only place that looks into the
statements.
-/

namespace FleetTracking

open Relational ReadCommitted Pydantic

/-- Each column of `f` is the column of a fix that satisfies `P`. -/
structure Fix.Mixes (P : Fix → Prop) (f : Fix) : Prop where
  lat : ∃ g, P g ∧ g.lat = f.lat
  lng : ∃ g, P g ∧ g.lng = f.lng
  speed : ∃ g, P g ∧ g.speed = f.speed
  recordedAt : ∃ g, P g ∧ g.recordedAt = f.recordedAt

namespace Fix.Mixes

variable {P Q : Fix → Prop} {f : Fix}

theorem of (holds : P f) : f.Mixes P :=
  ⟨⟨f, holds, rfl⟩, ⟨f, holds, rfl⟩, ⟨f, holds, rfl⟩, ⟨f, holds, rfl⟩⟩

/-- A mixture of mixtures. -/
theorem trans (mixes : f.Mixes P) (each : ∀ g, P g → g.Mixes Q) : f.Mixes Q := by
  obtain ⟨⟨lat, isLat, sameLat⟩, ⟨lng, isLng, sameLng⟩, ⟨speed, isSpeed, sameSpeed⟩,
    ⟨time, isTime, sameTime⟩⟩ := mixes
  exact ⟨sameLat ▸ (each lat isLat).lat, sameLng ▸ (each lng isLng).lng,
    sameSpeed ▸ (each speed isSpeed).speed, sameTime ▸ (each time isTime).recordedAt⟩

end Fix.Mixes

/-- The fix of a message, or the current location as it was. -/
def DB.ReportedOr (db : DB) (m : GPSMessage) (f : Fix) : Prop :=
  f = m.fix ∨ ∃ old, db.vehicleCurrentLocation.get m.vehicleId = some old ∧ f = old.toFix

/-- The calls that commit without a statement when nothing changes. -/
def Call.Updates : Call → Prop
  | updateRoute _ _ | updateVehicle _ _ | updateUser _ _ | setAssignment _ _ => True
  | _ => False

/-- From `db` to `db'` by the commit of a call. -/
inductive Committed : Call → DB → DB → Prop
  | nothing {c : Call} {db : DB} : c.Updates → Committed c db db
  | insertRoute {data : RouteCreate} {db : DB} {r : BusRoute} : r.name = some data.name.1 →
    (∀ s ∈ db.busRoutes.toTable, s.name ≠ r.name) →
    Committed (.createRoute data) db { db with busRoutes := db.busRoutes.insert r }
  | putRoute {routeId : Int} {data : RouteUpdate} {db : DB} {old r : BusRoute} :
    db.busRoutes.get routeId = some old → r.id = routeId →
    (change Subtype.val data.name = none → r.name = old.name) →
    Committed (.updateRoute routeId data) db { db with busRoutes := db.busRoutes.put r }
  | eraseRoute {routeId : Int} {db : DB} :
    Committed (.deleteRoute routeId) db { db with busRoutes := db.busRoutes.erase routeId }
  | insertVehicle {data : VehicleCreate} {db : DB} {v : Vehicle} : v.code = some data.code.1.1 →
    (∀ s ∈ db.vehicles.toTable, s.code ≠ v.code) →
    Committed (.createVehicle data) db { db with vehicles := db.vehicles.insert v }
  | putVehicle {vehicleId : Int} {data : VehicleUpdate} {db : DB} {old v : Vehicle} :
    db.vehicles.get vehicleId = some old → v.id = vehicleId →
    (change (fun code => code.1.1) data.code = none → v.code = old.code) →
    Committed (.updateVehicle vehicleId data) db { db with vehicles := db.vehicles.put v }
  | eraseVehicle {vehicleId : Int} {db : DB} :
    Committed (.deleteVehicle vehicleId) db { db with vehicles := db.vehicles.erase vehicleId }
  | insertUser {data : UserCreate} {db : DB} {u : User} : u.email = some data.email →
    (∀ s ∈ db.users.toTable, s.email ≠ u.email) →
    Committed (.createUser data) db { db with users := db.users.insert u }
  | putUser {userId : Int} {data : UserUpdate} {db : DB} {old u : User} :
    db.users.get userId = some old → u.id = userId →
    (change id data.email = none → u.email = old.email) →
    Committed (.updateUser userId data) db { db with users := db.users.put u }
  | eraseUser {userId : Int} {db : DB} :
    Committed (.deleteUser userId) db { db with users := db.users.erase userId }
  | assign {userId : Int} {data : AssignmentUpdate} {db : DB} {old u : User} :
    db.users.get userId = some old → u.id = userId → u.email = old.email →
    Committed (.setAssignment userId data) db { db with users := db.users.put u }
  | report {m : GPSMessage} {db : DB} {locations : Table VehicleCurrentLocation} :
    (∀ v : Int, locations.HasKey v ↔ db.vehicleCurrentLocation.HasKey v ∨ v = m.vehicleId) →
    (∀ v : Int, v ≠ m.vehicleId → locations.get v = db.vehicleCurrentLocation.get v) →
    (∀ c, locations.get m.vehicleId = some c → c.toFix.Mixes (db.ReportedOr m)) →
    Committed (.handleGpsMessage m) db
      { db.addPoint m with vehicleCurrentLocation := locations }

section

variable {E : Engine} {a : Ambient} {c : Call} {pending : List CallStatement} {db : DB}

theorem committed_one {w : CallStatement} {db' : DB} (after : w.apply db = db')
    (change : Committed c db db') : Committed c db (visible [w] db) := by
  subst after
  exact change

/-- The second statement has passed in the tables that the first has left. -/
theorem stmt_second {w w' : CallStatement} {middle : DB} (applies : Applies [w, w'] db)
    (first : w.apply db = middle) : w'.stmt middle = .ok (w'.apply middle) := by
  subst first
  exact applies.2.1.stmt

theorem committed_two {w w' : CallStatement} {middle db' : DB} (first : w.apply db = middle)
    (second : w'.apply middle = db') (change : Committed c db db') :
    Committed c db (visible [w, w'] db) := by
  subst first second
  exact change

/-- An `UPDATE` of the current location leaves each column as it is, or sets it to the fix's. -/
theorem update_mixes {m : GPSMessage} {loaded row : VehicleCurrentLocation}
    (found : db.vehicleCurrentLocation.get m.vehicleId = some row) :
    (m.update loaded row).toFix.Mixes (db.ReportedOr m) := by
  have keep {α : Type} (col : Fix → α) {p : Prop} [Decidable p] :
      ∃ g, db.ReportedOr m g ∧ col g = if p then col row.toFix else col m.fix := by
    split
    · exact ⟨row.toFix, .inr ⟨row, found, rfl⟩, rfl⟩
    · exact ⟨m.fix, .inl rfl, rfl⟩
  exact ⟨keep Fix.lat, keep Fix.lng, keep Fix.speed, keep Fix.recordedAt⟩

/-- The point and the move, in either order. -/
theorem committed_move {m : GPSMessage} {loaded row : VehicleCurrentLocation}
    (found : db.vehicleCurrentLocation.get m.vehicleId = some row) :
    Committed (.handleGpsMessage m) db { db.addPoint m with
      vehicleCurrentLocation := db.vehicleCurrentLocation.put (m.update loaded row) } := by
  have own : row.vehicleId = m.vehicleId := (Table.get_eq_some.mp found).2
  refine .report (fun v => ?_) (fun v other => ?_) fun c moved => ?_
  · exact Table.hasKey_put.trans (or_iff_left_of_imp fun same => same ▸ .of_get found).symm
  · exact Table.get_put.trans (if_neg fun moved => other (moved.1.trans own))
  · cases (Table.get_put.trans (if_pos ⟨own.symm, .of_get found⟩)).symm.trans moved
    exact update_mixes found

/-- **Effects.**  What a call commits is one of the changes listed for it. -/
theorem Call.Commits.committed (commits : c.Commits E a pending db)
    (enforced : E.constraints = true) (applies : Applies pending db) :
    Committed c db (visible pending db) := by
  cases c with
  | createRoute data =>
      cases commits
      obtain ⟨accepted, after⟩ := (Sql.insertRoute_iff enforced).mp applies.1.stmt
      have free := new_of_noOther zero_lt_one (acceptsRoute_iff.mp accepted).2
      exact committed_one after (.insertRoute rfl free)
  | updateRoute routeId data =>
      rcases commits with rfl | ⟨loaded, new, rfl, kept, rfl⟩
      · exact .nothing trivial
      obtain ⟨row, found, _, after⟩ := (Sql.updateRoute_iff enforced).mp applies.1.stmt
      exact committed_one after
        (.putRoute found (Table.get_eq_some.mp found).2 fun unset => if_pos (kept unset))
  | deleteRoute routeId =>
      cases commits
      obtain ⟨_, after⟩ := (Sql.deleteRoute_iff enforced).mp applies.1.stmt
      exact committed_one after .eraseRoute
  | createVehicle data =>
      cases commits
      obtain ⟨accepted, after⟩ := (Sql.insertVehicle_iff enforced).mp applies.1.stmt
      have free := new_of_noOther zero_lt_one (acceptsVehicle_iff.mp accepted).2
      exact committed_one after (.insertVehicle rfl free)
  | updateVehicle vehicleId data =>
      rcases commits with rfl | ⟨loaded, new, rfl, kept, rfl⟩
      · exact .nothing trivial
      obtain ⟨row, found, _, after⟩ := (Sql.updateVehicle_iff enforced).mp applies.1.stmt
      exact committed_one after
        (.putVehicle found (Table.get_eq_some.mp found).2 fun unset => if_pos (kept unset))
  | deleteVehicle vehicleId =>
      cases commits
      obtain ⟨_, after⟩ := (Sql.deleteVehicle_iff enforced).mp applies.1.stmt
      exact committed_one after .eraseVehicle
  | createUser data =>
      cases commits
      obtain ⟨accepted, after⟩ := (Sql.insertUser_iff enforced).mp applies.1.stmt
      have free := new_of_noOther zero_lt_one (acceptsUser_iff.mp accepted).1.2
      exact committed_one after (.insertUser rfl free)
  | updateUser userId data =>
      rcases commits with rfl | ⟨loaded, new, rfl, kept, rfl⟩
      · exact .nothing trivial
      obtain ⟨row, found, _, after⟩ := (Sql.updateUser_iff enforced).mp applies.1.stmt
      exact committed_one after
        (.putUser found (Table.get_eq_some.mp found).2 fun unset => if_pos (kept unset))
  | deleteUser userId =>
      cases commits
      exact committed_one ((Sql.deleteUser_iff enforced).mp applies.1.stmt) .eraseUser
  | setAssignment userId data =>
      rcases commits with rfl | ⟨user, rfl, rfl⟩
      · exact .nothing trivial
      obtain ⟨row, found, _, after⟩ := (Sql.updateAssignment_iff enforced).mp applies.1.stmt
      exact committed_one after (.assign found (Table.get_eq_some.mp found).2 rfl)
  | handleGpsMessage m =>
      rcases commits with ⟨rfl, present⟩ | rfl | ⟨loaded, rfl | rfl⟩
      · obtain ⟨_, stored⟩ := (Sql.pointOf_iff enforced).mp applies.1.stmt
        refine committed_one stored (.report (fun v => ?_) (fun _ _ => rfl) fun c found => ?_)
        · exact (or_iff_left_of_imp fun own => own ▸ present).symm
        · exact .of (.inr ⟨c, found, rfl⟩)
      · obtain ⟨_, stored⟩ := (Sql.pointOf_iff enforced).mp applies.1.stmt
        obtain ⟨absent, _, after⟩ := (Sql.currentOf_iff enforced).mp (stmt_second applies stored)
        refine committed_two stored after (.report (fun v => ?_) (fun v other => ?_)
          fun c found => ?_)
        · exact Table.hasKey_insertNew.trans or_comm
        · exact Table.get_insertNew.trans (if_neg other)
        · cases (Table.get_insertNew.trans (if_pos rfl)).symm.trans found
          exact .of (.inl rfl)
      · obtain ⟨row, found, moved⟩ := (Sql.moveOf_iff enforced).mp applies.1.stmt
        obtain ⟨_, after⟩ := (Sql.pointOf_iff enforced).mp (stmt_second applies moved)
        exact committed_two moved after (committed_move found)
      · obtain ⟨_, stored⟩ := (Sql.pointOf_iff enforced).mp applies.1.stmt
        obtain ⟨row, found, after⟩ := (Sql.moveOf_iff enforced).mp (stmt_second applies stored)
        exact committed_two stored after (committed_move found)

/-- A call that reports no fix leaves history and current locations alone. -/
theorem Committed.untracked {db' : DB} (committed : Committed c db db')
    (other : ∀ m, c ≠ .handleGpsMessage m) : db'.gpsPoints = db.gpsPoints ∧
      db'.vehicleCurrentLocation = db.vehicleCurrentLocation := by
  cases committed with
  | report => exact (other _ rfl).elim
  | _ => exact ⟨rfl, rfl⟩

/-- The ids of vehicles are not used again. -/
theorem Committed.follows {db' : DB} (committed : Committed c db db') :
    db.vehicles.Follows db'.vehicles := by
  cases committed with
  | insertVehicle => exact .insert _ _
  | putVehicle => exact .put _ _
  | eraseVehicle => exact .erase _ _
  | _ => exact .refl _

end

end FleetTracking
