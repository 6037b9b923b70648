import FleetTracking.Relational.Footprint
import FleetTracking.Services.CallWrites
import FleetTracking.Services.Constraints

/-!
# What the locks of a call protect

`Within` says what may change of the tables under given locks: rows and keys that are not
locked stay, a value of a unique column is new only with its index entry locked and if nobody
had it, and references are gained only with a lock on what they refer to.

Every statement of a call keeps to it, and is still accepted after whatever other sessions do
under locks that do not clash with its own (`Call.txn_obeys`).  So what the constraints accept
when a statement is sent, they accept at the commit.
-/

namespace FleetTracking

open Relational ReadCommitted

/-- The rows are the same; ids may have been drawn. -/
structure Drawn {ρ : Type} [SerialKeyed ρ] (t t' : Serial ρ) : Prop where
  rows : t'.toTable = t.toTable
  next_le : t.next ≤ t'.next

theorem Drawn.refl {ρ : Type} [SerialKeyed ρ] (t : Serial ρ) : Drawn t t := ⟨rfl, le_rfl⟩

theorem Drawn.skip {ρ : Type} [SerialKeyed ρ] (t : Serial ρ) : Drawn t t.skip :=
  ⟨rfl, Int.le_add_one le_rfl⟩

theorem Drawn.follows {ρ : Type} [SerialKeyed ρ] {t t' : Serial ρ} (drawn : Drawn t t') :
    t.Follows t' :=
  ⟨fun _ present => .inl (drawn.rows ▸ present), drawn.next_le⟩

/-- What a rollback leaves behind. -/
structure Idle (db db' : DB) : Prop where
  busRoutes : Drawn db.busRoutes db'.busRoutes
  vehicles : Drawn db.vehicles db'.vehicles
  users : Drawn db.users db'.users
  gpsPoints : Drawn db.gpsPoints db'.gpsPoints
  locations : db'.vehicleCurrentLocation = db.vehicleCurrentLocation

theorem Idle.refl (db : DB) : Idle db db := ⟨.refl _, .refl _, .refl _, .refl _, rfl⟩

/-- The row is locked in a mode that lets it be changed. -/
def Touches (locks : Locks Lockable) (row : Lockable) : Prop :=
  (row, .noKeyUpdate) ∈ locks ∨ (row, .update) ∈ locks

theorem Touches.clash {held wanted : Locks Lockable} {row : Lockable} (holds : Touches held row)
    (wants : Touches wanted row) : Clash held wanted := by
  rcases holds with holds | holds <;> rcases wants with wants | wants <;>
    exact .of_mem holds wants rfl

/-- What may change under these locks of a table with a unique column: `row` names the lock of
a row, `value` that of a value. -/
structure TableWithin {ρ : Type} [SerialKeyed ρ] (row : Int → Lockable)
    (value : Option String → Lockable) (col : ρ → Option String) (locks : Locks Lockable)
    (t t' : Serial ρ) : Prop where
  rows : t.KeepsRows (fun k => Touches locks (row k)) t'.toTable
  keys : t.KeepsKeys (fun k => (row k, .update) ∈ locks) t'.toTable
  values : Table.Gains (fun v => (value (some v), .update) ∈ locks ∧
    ∀ s ∈ t.toTable, col s ≠ some v) col t.toTable t'.toTable

/-- What may change under these locks; the constraints of the schema are kept. -/
structure Within (locks : Locks Lockable) (db db' : DB) : Prop where
  routes : TableWithin .route .routeName BusRoute.name locks db.busRoutes db'.busRoutes
  vehicles : TableWithin .vehicle .vehicleCode Vehicle.code locks db.vehicles db'.vehicles
  users : TableWithin .user .email User.email locks db.users db'.users
  userRoutes : Table.Gains (fun k => (.route k, .keyShare) ∈ locks) User.routeId
    db.users.toTable db'.users.toTable
  userVehicles : Table.Gains (fun k => (.vehicle k, .keyShare) ∈ locks) User.vehicleId
    db.users.toTable db'.users.toTable
  points : Table.Gains (fun k => (.vehicle k, .keyShare) ∈ locks) (fun p => some p.vehicleId)
    db.gpsPoints.toTable db'.gpsPoints.toTable
  locations : Table.Gains (fun k => (.vehicle k, .keyShare) ∈ locks ∧
    (.currentLocation k, .update) ∈ locks) (fun c => some c.vehicleId)
    db.vehicleCurrentLocation db'.vehicleCurrentLocation
  locationKeys : db.vehicleCurrentLocation.KeepsKeys (fun _ => False) db'.vehicleCurrentLocation
  constrained : Constrained db → Constrained db'

section

variable {ρ : Type} [SerialKeyed ρ] {row : Int → Lockable} {value : Option String → Lockable}
  {col : ρ → Option String} {locks wanted : Locks Lockable} {t t' : Serial ρ} {r old : ρ} {k : Int}

theorem TableWithin.of_rows (same : t'.toTable = t.toTable) :
    TableWithin row value col locks t t' := by
  refine ⟨?_, ?_, ?_⟩ <;> rw [same]
  · exact .refl _
  · exact .refl _
  · exact .refl _

theorem TableWithin.refl (t : Serial ρ) : TableWithin row value col locks t t := .of_rows rfl

theorem TableWithin.insert (kept : col (SerialKeyed.withKey t.next r) = col r)
    (locked : (value (col r), .update) ∈ locks) (free : ∀ s ∈ t.toTable, col s ≠ col r) :
    TableWithin row value col locks t (t.insert r) where
  rows := Serial.keepsRows_insert
  keys := Serial.keepsKeys_insert
  values := Serial.gains_insert fun v has => by
    have own : col r = some v := kept.symm.trans has
    rw [own] at locked free
    exact ⟨locked, free⟩

theorem TableWithin.put (found : t.get (Keyed.key r) = some old)
    (locked : Touches locks (row (Keyed.key r)))
    (changed : col r = col old ∨
      (value (col r), .update) ∈ locks ∧ ∀ s ∈ t.toTable, col s ≠ col r) :
    TableWithin row value col locks t (t.put r) where
  rows := Table.keepsRows_put locked
  keys := Table.keepsKeys_put
  values := Table.gains_put found fun v has => by
    rw [has] at changed
    exact changed.imp Eq.symm id

theorem TableWithin.erase (locked : (row k, .update) ∈ locks) :
    TableWithin row value col locks t (t.erase k) where
  rows := Table.keepsRows_erase (.inr locked)
  keys := Table.keepsKeys_erase locked
  values := Table.gains_erase

/-- A row that is locked to be changed is there as it was. -/
theorem TableWithin.get_locked (within : TableWithin row value col locks t t')
    (wants : Touches wanted (row k)) (apart : ¬ Clash locks wanted)
    (found : t.get k = some r) : t'.get k = some r :=
  within.rows k (fun touches => apart (touches.clash wants)) r found

/-- A row that is locked to be referred to is there still. -/
theorem TableWithin.hasKey_locked (within : TableWithin row value col locks t t')
    (wants : (row k, .keyShare) ∈ wanted) (apart : ¬ Clash locks wanted)
    (present : t.HasKey k) : t'.HasKey k :=
  within.keys k (fun removed => apart (.of_mem removed wants rfl)) present

/-- A value that is locked, or that the row has already, nobody else has taken. -/
theorem TableWithin.noOther_locked {v : Option String}
    (within : TableWithin row value col locks t t') (some : v.isSome = true)
    (own : (value v, .update) ∈ wanted ∨ ∃ s ∈ t.toTable, col s = v)
    (apart : ¬ Clash locks wanted) (free : (t.noOther k fun s => col s = v) = true) :
    (t'.noOther k fun s => col s = v) = true := by
  rw [Table.noOther_iff] at free ⊢
  intro s member has
  obtain ⟨v, rfl⟩ := Option.isSome_iff_exists.mp some
  rcases within.values s member v (of_decide_eq_true has) with ⟨s', there, key, had⟩ | ⟨locked, new⟩
  · rw [← key]
    exact free s' there (decide_eq_true had)
  · rcases own with wants | ⟨s', there, had⟩
    · exact (apart (.of_mem locked wants rfl)).elim
    · exact (new s' there had).elim

/-- What nobody refers to and is locked to be removed, nobody refers to. -/
theorem gains_absent {κ α : Type} [LinearOrder κ] {ρ : Type} [Keyed ρ κ] {t t' : Table ρ}
    {gained : α → Prop} {col : ρ → Option α} {a : α} (gains : Table.Gains gained col t t')
    (locked : ¬ gained a) (absent : ∀ s ∈ t, col s ≠ some a) : ∀ s ∈ t', col s ≠ some a := by
  intro s member has
  rcases gains s member a has with ⟨s', there, _, had⟩ | new
  · exact absent s' there had
  · exact locked new

end

theorem Within.refl (locks : Locks Lockable) (db : DB) : Within locks db db :=
  ⟨.refl _, .refl _, .refl _, .refl _, .refl _, .refl _, .refl _, .refl _, id⟩

theorem Within.of_idle {db db' : DB} (idle : Idle db db') : Within [] db db' := by
  obtain ⟨⟨routes, _⟩, ⟨vehicles, _⟩, ⟨users, _⟩, ⟨points, _⟩, locations⟩ := idle
  refine ⟨.of_rows routes, .of_rows vehicles, .of_rows users, ?_, ?_, ?_, ?_, ?_, fun c => ?_⟩
  · rw [users]
    exact .refl _
  · rw [users]
    exact .refl _
  · rw [points]
    exact .refl _
  · rw [locations]
    exact .refl _
  · rw [locations]
    exact .refl _
  · exact c.of_tables routes vehicles users points locations

/-- The discipline of the fleet's sessions. -/
def fleetDiscipline : Discipline DB Lockable := ⟨Within, Idle, Within.of_idle⟩

/-! ## What the statements do -/

namespace Sql

section

variable {E : Engine} {db db' : DB} {locks : Locks Lockable} {m : GPSMessage}

theorem execute_iff (enforced : E.constraints = true) {ok : Bool} {db db' : DB} :
    E.execute ok db = .ok db' ↔ ok = true ∧ db' = db := by
  unfold Engine.execute
  rw [enforced]
  cases ok <;> simp [eq_comm]

theorem plain_iff {run : DB → Except Failure DB} :
    (plain locks run).stmt db = .ok db' ↔ run db = .ok db' := mapError_eq_ok

theorem insert_iff {run : DB → Except Failure DB} {drawn : DB → DB} :
    (insert E locks run drawn).stmt db = .ok db' ↔ run db = .ok db' := mapError_eq_ok

theorem update_iff {ρ : Type} [SerialKeyed ρ] {table : DB → Serial ρ} {k : Int}
    {run : DB → ρ → Except Failure DB} : (update locks table k run).stmt db = .ok db' ↔
      ∃ row, (table db).get k = some row ∧ run db row = .ok db' := by
  refine plain_iff.trans ?_
  cases (table db).get k with
  | none => simp
  | some row => simp

omit E in
theorem pair_iff {α : Type} {result : Except Failure DB} {row : α} :
    (result.map fun db => (row, db)).map Prod.snd = .ok db' ↔ result = .ok db' := by
  cases result <;> simp [Except.map]

/-- An `UPDATE` that changes nothing is not sent. -/
theorem unless_iff {p : Prop} [Decidable p] {result : Except Failure DB} {ok : Prop} {after : DB}
    (same : p → after = db) (sent : result = .ok db' ↔ ok ∧ db' = after) :
    (if p then .ok db else result) = .ok db' ↔ (p ∨ ok) ∧ db' = after := by
  split
  · next unchanged =>
      simp only [unchanged, true_or, true_and, same unchanged, Except.ok.injEq, eq_comm]
  · next changed => simp only [changed, false_or, sent]

variable (enforced : E.constraints = true)
include enforced

theorem insertRoute_iff {r : BusRoute} : (insertRoute E r).stmt db = .ok db' ↔
    db.acceptsRoute r = true ∧ db' = { db with busRoutes := db.busRoutes.insert r } :=
  insert_iff.trans (pair_iff.trans (execute_iff enforced))

theorem insertVehicle_iff {v : Vehicle} : (insertVehicle E v).stmt db = .ok db' ↔
    db.acceptsVehicle v = true ∧ db' = { db with vehicles := db.vehicles.insert v } :=
  insert_iff.trans (pair_iff.trans (execute_iff enforced))

theorem insertUser_iff {u : User} : (insertUser E u).stmt db = .ok db' ↔
    db.acceptsUser none u = true ∧ db' = { db with users := db.users.insert u } :=
  insert_iff.trans (pair_iff.trans (execute_iff enforced))

theorem deleteRoute_iff {routeId : Int} : (deleteRoute E routeId).stmt db = .ok db' ↔
    db.routeUnreferenced routeId = true ∧
      db' = { db with busRoutes := db.busRoutes.erase routeId } :=
  plain_iff.trans (execute_iff enforced)

theorem deleteVehicle_iff {vehicleId : Int} : (deleteVehicle E vehicleId).stmt db = .ok db' ↔
    db.vehicleUnreferenced vehicleId = true ∧
      db' = { db with vehicles := db.vehicles.erase vehicleId } :=
  plain_iff.trans (execute_iff enforced)

theorem deleteUser_iff {userId : Int} : (deleteUser E userId).stmt db = .ok db' ↔
    db' = { db with users := db.users.erase userId } :=
  plain_iff.trans ((execute_iff enforced).trans (and_iff_right rfl))

theorem pointOf_iff : (pointOf E m).stmt db = .ok db' ↔
    db.vehicles.HasKey m.vehicleId ∧ db' = db.addPoint m :=
  mapError_eq_ok.trans ((execute_iff enforced).trans (and_congr_left' decide_eq_true_iff))

theorem currentOf_iff : (currentOf E m).stmt db = .ok db' ↔
    ∃ absent : db.vehicleCurrentLocation.get m.current.vehicleId = none,
      db.vehicles.HasKey m.vehicleId ∧ db' = { db with
        vehicleCurrentLocation := db.vehicleCurrentLocation.insertNew m.current absent } := by
  refine mapError_eq_ok.trans ?_
  change E.insertCurrentRow db m.current = .ok db' ↔ _
  unfold Engine.insertCurrentRow
  split
  · next c found => simp only [found, reduceCtorEq, IsEmpty.exists_iff]
  · next absent =>
      rw [exists_prop_of_true absent, execute_iff enforced, decide_eq_true_eq]
      rfl

theorem moveOf_iff {loaded : VehicleCurrentLocation} : (moveOf E m loaded).stmt db = .ok db' ↔
      ∃ row, db.vehicleCurrentLocation.get m.vehicleId = some row ∧ db' = { db with
        vehicleCurrentLocation := db.vehicleCurrentLocation.put (m.update loaded row) } := by
  refine mapError_eq_ok.trans ?_
  dsimp only
  cases db.vehicleCurrentLocation.get m.vehicleId with
  | none => simp
  | some row => simp [Engine.updateCurrentRow, execute_iff enforced]

theorem updateRoute_iff {loaded new : BusRoute} : (updateRoute E loaded new).stmt db = .ok db' ↔
    ∃ row, db.busRoutes.get loaded.id = some row ∧
      (setRoute loaded new row = row ∨ db.acceptsRoute (setRoute loaded new row) = true) ∧
      db' = { db with busRoutes := db.busRoutes.put (setRoute loaded new row) } := by
  refine update_iff.trans (exists_congr fun row => and_congr_right fun found => ?_)
  refine unless_iff (fun same => ?_) (execute_iff enforced)
  rw [same, Serial.put_self (Table.get_key (Table.get_eq_some.mp found).1)]

theorem updateVehicle_iff {loaded new : Vehicle} :
    (updateVehicle E loaded new).stmt db = .ok db' ↔
      ∃ row, db.vehicles.get loaded.id = some row ∧
        (setVehicle loaded new row = row ∨ db.acceptsVehicle (setVehicle loaded new row) = true) ∧
        db' = { db with vehicles := db.vehicles.put (setVehicle loaded new row) } := by
  refine update_iff.trans (exists_congr fun row => and_congr_right fun found => ?_)
  refine unless_iff (fun same => ?_) (execute_iff enforced)
  rw [same, Serial.put_self (Table.get_key (Table.get_eq_some.mp found).1)]

theorem updateUser_iff {loaded new : User} : (updateUser E loaded new).stmt db = .ok db' ↔
    ∃ row, db.users.get loaded.id = some row ∧
      (setUser loaded new row = row ∨
        db.acceptsUser (some row) (setUser loaded new row) = true) ∧
      db' = { db with users := db.users.put (setUser loaded new row) } := by
  refine update_iff.trans (exists_congr fun row => and_congr_right fun found => ?_)
  refine unless_iff (fun same => ?_) (execute_iff enforced)
  rw [same, Serial.put_self (Table.get_key (Table.get_eq_some.mp found).1)]

theorem updateAssignment_iff {user : User} {routeId vehicleId : Option Int} :
    (updateAssignment E user routeId vehicleId).stmt db = .ok db' ↔
      ∃ row, db.users.get user.id = some row ∧
        (user.reassigned routeId vehicleId row = row ∨
          db.acceptsAssignment (some row) (user.reassigned routeId vehicleId row) = true) ∧
        db' = { db with users := db.users.put (user.reassigned routeId vehicleId row) } := by
  refine update_iff.trans (exists_congr fun row => and_congr_right fun found => ?_)
  refine unless_iff (fun same => ?_) (execute_iff enforced)
  rw [same, Serial.put_self (Table.get_key (Table.get_eq_some.mp found).1)]

end

/-! ## The statements keep to their locks -/

section

variable {E : Engine} {locks : Locks Lockable} {m : GPSMessage}

theorem insert_idle {run : DB → Except Failure DB} {drawn : DB → DB}
    (skips : ∀ db, Idle db (drawn db)) (db : DB) :
    Idle db ((insert E locks run drawn).residue db) := by
  change Idle db (if E.gapless then db else drawn db)
  split
  · exact .refl db
  · exact skips db

section

variable {ρ : Type} [SerialKeyed ρ] {row : Int → Lockable} {value : Option String → Lockable}
  {col : ρ → Option String} {held wanted : Locks Lockable} {t t' : Serial ρ} {r set : ρ}
  {old new : Option String} {k : Int}

theorem rowAndEntry_touches {lockable : Lockable} :
    Touches (rowAndEntry lockable value old new) lockable := by
  unfold rowAndEntry
  split
  · exact .inl List.mem_cons_self
  · exact .inr List.mem_cons_self

omit [SerialKeyed ρ] in
/-- The value of the unique column is the one before, or its entry is locked. -/
theorem entry_cases {lockable : Lockable} (column : col set = if new = old then col r else new) :
    col set = col r ∨ (value (col set), .update) ∈ rowAndEntry lockable value old new := by
  rw [column, rowAndEntry]
  split
  · exact .inl rfl
  · exact .inr (List.mem_cons_of_mem _ List.mem_cons_self)

/-- An `UPDATE` keeps to its locks. -/
theorem update_within (found : t.get k = some r) (same : Keyed.key set = Keyed.key r)
    (column : col set = if new = old then col r else new)
    (free : col set = col r ∨ (t.noOther (Keyed.key set) fun s => col s = col set) = true) :
    TableWithin row value col (rowAndEntry (row k) value old new) t (t.put set) := by
  obtain ⟨there, rfl⟩ := Table.get_eq_some.mp found
  rw [← same] at found ⊢
  refine .put found rowAndEntry_touches ?_
  by_cases kept : col set = col r
  · exact .inl kept
  · refine .inr ⟨(entry_cases column).resolve_left kept, fun s member has => kept ?_⟩
    have key := Table.noOther_iff.mp (free.resolve_left kept) s member (decide_eq_true has)
    rw [← has, Table.eq_of_key member there (key.trans same)]

/-- The new value of an `UPDATE` stays free. -/
theorem update_stable {lockable : Lockable} (within : TableWithin row value col held t t')
    (there : r ∈ t.toTable) (column : col set = if new = old then col r else new)
    (apart : ¬ Clash held (rowAndEntry lockable value old new)) (some : (col set).isSome = true)
    (free : (t.noOther (Keyed.key set) fun s => col s = col set) = true) :
    (t'.noOther (Keyed.key set) fun s => col s = col set) = true := by
  refine within.noOther_locked some ?_ apart free
  rcases entry_cases column with kept | locked
  · exact .inr ⟨r, there, kept.symm⟩
  · exact .inl locked

end

theorem coded_of_filled {v : Vehicle}
    (filled : (v.code.isSome && v.name.isSome && v.isActive.isSome) = true) :
    v.code.isSome = true := by
  simp only [Bool.and_eq_true] at filled
  exact filled.1.1

/-- A row is found under its own key. -/
theorem get_own {ρ : Type} [Keyed ρ Int] {t : Table ρ} {row : ρ} {k : Int}
    (found : t.get k = some row) : t.get (Keyed.key row) = some row :=
  Table.get_eq_some.mpr ⟨(Table.get_eq_some.mp found).1, rfl⟩

/-- A reference that is new is locked. -/
theorem mem_reference (lockable : Int → Lockable) {old new kept : Option Int} {k : Int}
    (has : (if new = old then kept else new) = some k) :
    kept = some k ∨ (lockable k, .keyShare) ∈ reference lockable old new := by
  split at has
  · exact .inl has
  · next changed =>
      subst has
      refine .inr ?_
      rw [reference, if_neg changed]
      exact List.mem_cons_self

/-- What a changed reference refers to stays. -/
theorem acceptsReference_stable {ρ : Type} [SerialKeyed ρ] {row : Int → Lockable}
    {value : Option String → Lockable} {col : ρ → Option String} {held wanted : Locks Lockable}
    {t t' : Serial ρ} {old new kept : Option Int}
    (within : TableWithin row value col held t t')
    (wants : ∀ lock ∈ reference row old new, lock ∈ wanted) (apart : ¬ Clash held wanted)
    (fits : DB.acceptsReference t kept (if new = old then kept else new) = true) :
    DB.acceptsReference t' kept (if new = old then kept else new) = true := by
  simp only [DB.acceptsReference, Bool.or_eq_true, decide_eq_true_eq] at fits ⊢
  refine or_iff_not_imp_left.mpr fun changed => ?_
  have refers := fits.resolve_left changed
  cases set : (if new = old then kept else new) with
  | none => rfl
  | some k =>
      rw [set] at refers changed
      have locked := (mem_reference row set).resolve_left changed
      exact decide_eq_true
        (within.hasKey_locked (wants _ locked) apart (of_decide_eq_true refers))

variable (enforced : E.constraints = true)
include enforced

theorem insertRoute_obeys {r : BusRoute} (new : r.id = 0) :
    (insertRoute E r).Obeys fleetDiscipline where
  guarantee {db} accepts := by
    obtain ⟨accepted, after⟩ := (insertRoute_iff enforced).mp accepts.stmt
    obtain ⟨_, free⟩ := acceptsRoute_iff.mp accepted
    rw [after]
    exact { Within.refl _ db with
      routes := .insert rfl List.mem_cons_self (new_of_noOther (by omega) free)
      constrained := fun c => c.insertRoute new accepted }
  idle := insert_idle fun db => { Idle.refl db with busRoutes := .skip _ }
  stable {_ db db'} within apart accepts := by
    obtain ⟨accepted, _⟩ := (insertRoute_iff enforced).mp accepts.stmt
    obtain ⟨some, free⟩ := acceptsRoute_iff.mp accepted
    refine ⟨_, (insertRoute_iff enforced).mpr ⟨acceptsRoute_iff.mpr ⟨some, ?_⟩, rfl⟩⟩
    exact within.routes.noOther_locked some (.inl List.mem_cons_self) apart free

theorem insertVehicle_obeys {v : Vehicle} (new : v.id = 0) :
    (insertVehicle E v).Obeys fleetDiscipline where
  guarantee {db} accepts := by
    obtain ⟨accepted, after⟩ := (insertVehicle_iff enforced).mp accepts.stmt
    obtain ⟨_, free⟩ := acceptsVehicle_iff.mp accepted
    rw [after]
    exact { Within.refl _ db with
      vehicles := .insert rfl List.mem_cons_self (new_of_noOther (by omega) free)
      constrained := fun c => c.insertVehicle new accepted }
  idle := insert_idle fun db => { Idle.refl db with vehicles := .skip _ }
  stable {_ db db'} within apart accepts := by
    obtain ⟨accepted, _⟩ := (insertVehicle_iff enforced).mp accepts.stmt
    obtain ⟨filled, free⟩ := acceptsVehicle_iff.mp accepted
    refine ⟨_, (insertVehicle_iff enforced).mpr ⟨acceptsVehicle_iff.mpr ⟨filled, ?_⟩, rfl⟩⟩
    exact within.vehicles.noOther_locked (coded_of_filled filled) (.inl List.mem_cons_self) apart
      free

theorem insertUser_obeys {u : User} (new : u.id = 0) (noRoute : u.routeId = none)
    (noVehicle : u.vehicleId = none) : (insertUser E u).Obeys fleetDiscipline where
  guarantee {db} accepts := by
    obtain ⟨accepted, after⟩ := (insertUser_iff enforced).mp accepts.stmt
    obtain ⟨⟨_, free⟩, _⟩ := acceptsUser_iff.mp accepted
    rw [after]
    exact { Within.refl _ db with
      users := .insert rfl List.mem_cons_self (new_of_noOther (by omega) free)
      userRoutes := Serial.gains_insert fun k has => by cases noRoute.symm.trans has
      userVehicles := Serial.gains_insert fun k has => by cases noVehicle.symm.trans has
      constrained := fun c => c.insertUser new accepted }
  idle := insert_idle fun db => { Idle.refl db with users := .skip _ }
  stable {_ db db'} within apart accepts := by
    obtain ⟨accepted, _⟩ := (insertUser_iff enforced).mp accepts.stmt
    obtain ⟨⟨some, free⟩, _⟩ := acceptsUser_iff.mp accepted
    have none : db'.acceptsAssignment none u = true := acceptsAssignment_iff.mpr
      ⟨acceptsReference_iff.mpr (.inl noRoute), acceptsReference_iff.mpr (.inl noVehicle)⟩
    refine ⟨_, (insertUser_iff enforced).mpr ⟨acceptsUser_iff.mpr ⟨⟨some, ?_⟩, none⟩, rfl⟩⟩
    exact within.users.noOther_locked some (.inl List.mem_cons_self) apart free

theorem updateRoute_obeys {loaded new : BusRoute} :
    (updateRoute E loaded new).Obeys fleetDiscipline where
  guarantee {db} accepts := by
    obtain ⟨row, found, accepted, after⟩ := (updateRoute_iff enforced).mp accepts.stmt
    have there : db.busRoutes.get (Keyed.key (setRoute loaded new row)) = some row := get_own found
    rw [after]
    exact { Within.refl _ db with
      routes := update_within found rfl rfl
        (accepted.imp (congrArg _) fun fits => (acceptsRoute_iff.mp fits).2)
      constrained := fun c => c.putRoute there accepted }
  idle := Idle.refl
  stable {_ db db'} within apart accepts := by
    obtain ⟨row, found, accepted, _⟩ := (updateRoute_iff enforced).mp accepts.stmt
    have found' := within.routes.get_locked rowAndEntry_touches apart found
    refine ⟨_, (updateRoute_iff enforced).mpr ⟨row, found', accepted.imp id fun fits => ?_, rfl⟩⟩
    obtain ⟨some, free⟩ := acceptsRoute_iff.mp fits
    exact acceptsRoute_iff.mpr ⟨some, update_stable within.routes
      (Table.get_eq_some.mp found).1 rfl apart some free⟩

theorem updateVehicle_obeys {loaded new : Vehicle} :
    (updateVehicle E loaded new).Obeys fleetDiscipline where
  guarantee {db} accepts := by
    obtain ⟨row, found, accepted, after⟩ := (updateVehicle_iff enforced).mp accepts.stmt
    have there : db.vehicles.get (Keyed.key (setVehicle loaded new row)) = some row := get_own found
    rw [after]
    exact { Within.refl _ db with
      vehicles := update_within found rfl rfl
        (accepted.imp (congrArg _) fun fits => (acceptsVehicle_iff.mp fits).2)
      constrained := fun c => c.putVehicle there accepted }
  idle := Idle.refl
  stable {_ db db'} within apart accepts := by
    obtain ⟨row, found, accepted, _⟩ := (updateVehicle_iff enforced).mp accepts.stmt
    have found' := within.vehicles.get_locked rowAndEntry_touches apart found
    refine ⟨_, (updateVehicle_iff enforced).mpr ⟨row, found', accepted.imp id fun fits => ?_, rfl⟩⟩
    obtain ⟨filled, free⟩ := acceptsVehicle_iff.mp fits
    exact acceptsVehicle_iff.mpr ⟨filled, update_stable within.vehicles
      (Table.get_eq_some.mp found).1 rfl apart (coded_of_filled filled) free⟩

theorem updateUser_obeys {loaded new : User} :
    (updateUser E loaded new).Obeys fleetDiscipline where
  guarantee {db} accepts := by
    obtain ⟨row, found, accepted, after⟩ := (updateUser_iff enforced).mp accepts.stmt
    have there : db.users.get (Keyed.key (setUser loaded new row)) = some row := get_own found
    rw [after]
    exact { Within.refl _ db with
      users := update_within found rfl rfl
        (accepted.imp (congrArg _) fun fits => (acceptsUser_iff.mp fits).1.2)
      userRoutes := Table.gains_put there fun _ has => .inl has
      userVehicles := Table.gains_put there fun _ has => .inl has
      constrained := fun c => c.putUser there accepted }
  idle := Idle.refl
  stable {_ db db'} within apart accepts := by
    obtain ⟨row, found, accepted, _⟩ := (updateUser_iff enforced).mp accepts.stmt
    have found' := within.users.get_locked rowAndEntry_touches apart found
    refine ⟨_, (updateUser_iff enforced).mpr ⟨row, found', accepted.imp id fun fits => ?_, rfl⟩⟩
    obtain ⟨⟨some, free⟩, _⟩ := acceptsUser_iff.mp fits
    exact acceptsUser_iff.mpr ⟨⟨some, update_stable within.users
      (Table.get_eq_some.mp found).1 rfl apart some free⟩, acceptsAssignment_self rfl rfl⟩

theorem updateAssignment_obeys {user : User} {routeId vehicleId : Option Int} :
    (updateAssignment E user routeId vehicleId).Obeys fleetDiscipline where
  guarantee {db} accepts := by
    obtain ⟨row, found, accepted, after⟩ := (updateAssignment_iff enforced).mp accepts.stmt
    have there : db.users.get (Keyed.key (user.reassigned routeId vehicleId row)) = some row :=
      get_own found
    have own : Keyed.key (user.reassigned routeId vehicleId row) = user.id :=
      (Table.get_eq_some.mp found).2
    rw [after]
    exact { Within.refl _ db with
      users := .put there (own ▸ .inl List.mem_cons_self) (.inl rfl)
      userRoutes := Table.gains_put there fun k has =>
        (mem_reference .route has).imp id fun locked =>
          List.mem_cons_of_mem _ (List.mem_append_left _ locked)
      userVehicles := Table.gains_put there fun k has =>
        (mem_reference .vehicle has).imp id fun locked =>
          List.mem_cons_of_mem _ (List.mem_append_right _ locked)
      constrained := fun c => c.putAssignment there rfl accepted }
  idle := Idle.refl
  stable {_ db db'} within apart accepts := by
    obtain ⟨row, found, accepted, _⟩ := (updateAssignment_iff enforced).mp accepts.stmt
    have found' := within.users.get_locked (.inl List.mem_cons_self) apart found
    refine ⟨_, (updateAssignment_iff enforced).mpr
      ⟨row, found', accepted.imp id fun fits => ?_, rfl⟩⟩
    obtain ⟨route, vehicle⟩ := acceptsAssignment_iff.mp fits
    exact acceptsAssignment_iff.mpr
      ⟨acceptsReference_stable within.routes
        (fun _ wants => List.mem_cons_of_mem _ (List.mem_append_left _ wants)) apart route,
        acceptsReference_stable within.vehicles
        (fun _ wants => List.mem_cons_of_mem _ (List.mem_append_right _ wants)) apart vehicle⟩

theorem deleteRoute_obeys {routeId : Int} : (deleteRoute E routeId).Obeys fleetDiscipline where
  guarantee {db} accepts := by
    obtain ⟨unused, after⟩ := (deleteRoute_iff enforced).mp accepts.stmt
    rw [after]
    exact { Within.refl _ db with
      routes := .erase List.mem_cons_self
      constrained := fun c => c.eraseRoute unused }
  idle := Idle.refl
  stable {_ db db'} within apart accepts := by
    obtain ⟨unused, _⟩ := (deleteRoute_iff enforced).mp accepts.stmt
    refine ⟨_, (deleteRoute_iff enforced).mpr ⟨?_, rfl⟩⟩
    exact routeUnreferenced_iff.mpr <| gains_absent within.userRoutes
      (fun refers => apart (.of_mem refers List.mem_cons_self rfl))
      (routeUnreferenced_iff.mp unused)

theorem deleteVehicle_obeys {vehicleId : Int} :
    (deleteVehicle E vehicleId).Obeys fleetDiscipline where
  guarantee {db} accepts := by
    obtain ⟨unused, after⟩ := (deleteVehicle_iff enforced).mp accepts.stmt
    rw [after]
    exact { Within.refl _ db with
      vehicles := .erase List.mem_cons_self
      constrained := fun c => c.eraseVehicle unused }
  idle := Idle.refl
  stable {locks db db'} within apart accepts := by
    obtain ⟨unused, _⟩ := (deleteVehicle_iff enforced).mp accepts.stmt
    have locked : (.vehicle vehicleId, .keyShare) ∉ locks := fun refers =>
      apart (.of_mem refers List.mem_cons_self rfl)
    obtain ⟨users, points, locations⟩ := vehicleUnreferenced_iff.mp unused
    exact ⟨_, (deleteVehicle_iff enforced).mpr ⟨vehicleUnreferenced_iff.mpr
      ⟨gains_absent within.userVehicles locked users,
        gains_absent within.points locked points,
        gains_absent within.locations (fun gained => locked gained.1) locations⟩, rfl⟩⟩

theorem deleteUser_obeys {userId : Int} : (deleteUser E userId).Obeys fleetDiscipline where
  guarantee {db} accepts := by
    rw [(deleteUser_iff enforced).mp accepts.stmt]
    exact { Within.refl _ db with
      users := .erase List.mem_cons_self
      userRoutes := Table.gains_erase
      userVehicles := Table.gains_erase
      constrained := fun c => c.eraseUser }
  idle := Idle.refl
  stable _ _ _ := ⟨_, (deleteUser_iff enforced).mpr rfl⟩

theorem pointOf_obeys : (pointOf E m).Obeys fleetDiscipline where
  guarantee {db} accepts := by
    obtain ⟨tracked, after⟩ := (pointOf_iff enforced).mp accepts.stmt
    rw [after]
    exact { Within.refl _ db with
      points := Serial.gains_insert fun k has => by cases has; exact List.mem_cons_self
      constrained := fun c => c.addPoint tracked }
  idle := insert_idle fun db => { Idle.refl db with gpsPoints := .skip _ }
  stable {_ db db'} within apart accepts := by
    obtain ⟨tracked, _⟩ := (pointOf_iff enforced).mp accepts.stmt
    exact ⟨_, (pointOf_iff enforced).mpr
      ⟨within.vehicles.hasKey_locked List.mem_cons_self apart tracked, rfl⟩⟩

theorem currentOf_obeys : (currentOf E m).Obeys fleetDiscipline where
  guarantee {db} accepts := by
    obtain ⟨absent, tracked, after⟩ := (currentOf_iff enforced).mp accepts.stmt
    rw [after]
    exact { Within.refl _ db with
      locations := Table.gains_insertNew absent fun k has => by
        cases has
        exact ⟨List.mem_cons_of_mem _ List.mem_cons_self, List.mem_cons_self⟩
      locationKeys := Table.keepsKeys_insertNew absent
      constrained := fun c => c.insertCurrent absent tracked }
  idle := Idle.refl
  stable {locks db db'} within apart accepts := by
    obtain ⟨absent, tracked, _⟩ := (currentOf_iff enforced).mp accepts.stmt
    have absent' : db'.vehicleCurrentLocation.get m.vehicleId = none := by
      refine Table.get_eq_none.mpr fun c member own => ?_
      refine gains_absent within.locations ?_ ?_ c member (congrArg some own)
      · exact fun gained => apart (.of_mem gained.2 List.mem_cons_self rfl)
      · exact fun c member own => Table.get_eq_none.mp absent c member (Option.some.inj own)
    refine ⟨_, (currentOf_iff enforced).mpr ⟨absent', ?_, rfl⟩⟩
    exact within.vehicles.hasKey_locked (List.mem_cons_of_mem _ List.mem_cons_self) apart tracked

theorem moveOf_obeys {loaded : VehicleCurrentLocation} :
    (moveOf E m loaded).Obeys fleetDiscipline where
  guarantee {db} accepts := by
    obtain ⟨row, found, after⟩ := (moveOf_iff enforced).mp accepts.stmt
    have there : db.vehicleCurrentLocation.get (Keyed.key (m.update loaded row)) = some row :=
      get_own found
    rw [after]
    exact { Within.refl _ db with
      locations := Table.gains_put there fun k has => .inl has
      locationKeys := Table.keepsKeys_put
      constrained := fun c => c.putCurrent there }
  idle := Idle.refl
  stable {_ db db'} within _ accepts := by
    obtain ⟨row, found, _⟩ := (moveOf_iff enforced).mp accepts.stmt
    have present := within.locationKeys m.vehicleId id (.of_get found)
    obtain ⟨row', found'⟩ := Option.isSome_iff_exists.mp (Table.hasKey_iff_get.mp present)
    exact ⟨_, (moveOf_iff enforced).mpr ⟨row', found', rfl⟩⟩

end

end Sql

/-! ## The calls keep to their locks -/

section

variable {E : Engine} {m : GPSMessage}

theorem save_obeys {w : CallStatement} (obeys : w.Obeys fleetDiscipline) :
    (save (some w)).Obeys fleetDiscipline [] :=
  ⟨obeys, fun _ member => (List.not_mem_nil member).elim, fun _ => id, trivial⟩

variable (enforced : E.constraints = true)
include enforced

/-- The point does not matter to the handler's second statement. -/
theorem currentOf_without_point {db : DB}
    (accepts : (currentOf E m).Accepts (visible [pointOf E m] db)) :
    (currentOf E m).Accepts db := by
  obtain ⟨absent, tracked, _⟩ := (Sql.currentOf_iff enforced).mp accepts.stmt
  change ((pointOf E m).apply db).vehicles.HasKey _ at tracked
  change ((pointOf E m).apply db).vehicleCurrentLocation.get _ = _
    at absent
  rcases (pointOf E m).apply_cases db with kept | stored
  · rw [kept] at tracked absent
    exact ⟨_, (Sql.currentOf_iff enforced).mpr ⟨absent, tracked, rfl⟩⟩
  · rw [((Sql.pointOf_iff enforced).mp stored).2] at tracked absent
    exact ⟨_, (Sql.currentOf_iff enforced).mpr ⟨absent, tracked, rfl⟩⟩

@[inherit_doc currentOf_without_point]
theorem moveOf_without_point {loaded : VehicleCurrentLocation} {db : DB}
    (accepts : (moveOf E m loaded).Accepts (visible [pointOf E m] db)) :
    (moveOf E m loaded).Accepts db := by
  obtain ⟨row, found, _⟩ := (Sql.moveOf_iff enforced).mp accepts.stmt
  change ((pointOf E m).apply db).vehicleCurrentLocation.get _ = _
    at found
  rcases (pointOf E m).apply_cases db with kept | stored
  · rw [kept] at found
    exact ⟨_, (Sql.moveOf_iff enforced).mpr ⟨row, found, rfl⟩⟩
  · rw [((Sql.pointOf_iff enforced).mp stored).2] at found
    exact ⟨_, (Sql.moveOf_iff enforced).mpr ⟨row, found, rfl⟩⟩

/-- Nor does the move matter to the point. -/
theorem pointOf_without_move {loaded : VehicleCurrentLocation} {db : DB}
    (accepts : (pointOf E m).Accepts (visible [moveOf E m loaded] db)) :
    (pointOf E m).Accepts db := by
  obtain ⟨tracked, _⟩ := (Sql.pointOf_iff enforced).mp accepts.stmt
  change ((moveOf E m loaded).apply db).vehicles.HasKey _ at tracked
  rcases (moveOf E m loaded).apply_cases db with kept | moved
  · rw [kept] at tracked
    exact ⟨_, (Sql.pointOf_iff enforced).mpr ⟨tracked, rfl⟩⟩
  · obtain ⟨row, _, after⟩ := (Sql.moveOf_iff enforced).mp moved
    rw [after] at tracked
    exact ⟨_, (Sql.pointOf_iff enforced).mpr ⟨tracked, rfl⟩⟩

omit enforced in
/-- The handler locks its vehicle for key share only. -/
theorem not_clash_pointOf {locks : Locks Lockable}
    (shares : ∀ lock ∈ locks, lock.1 = .vehicle m.vehicleId → lock.2 = .keyShare) :
    ¬ Clash (pointOf E m).locks locks := by
  rintro ⟨held, point, wanted, member, same, conflict⟩
  obtain rfl := List.mem_singleton.mp point
  rw [shares wanted member same.symm] at conflict
  cases conflict

theorem saveCurrent_obeys {current : Option VehicleCurrentLocation} :
    (saveCurrent E fixLocks m current).Obeys fleetDiscipline [pointOf E m] := by
  have apart {w : CallStatement}
      (shares : ∀ lock ∈ w.locks, lock.1 = .vehicle m.vehicleId → lock.2 = .keyShare) :
      ∀ w₀ ∈ [pointOf E m], ¬ Clash w₀.locks w.locks :=
    List.forall_mem_singleton.mpr (not_clash_pointOf shares)
  unfold saveCurrent
  split
  · exact ⟨Sql.currentOf_obeys enforced, apart (by simp [insertCurrent, Statement.plain,
      Write.locks, fixLocks]), fun _ => currentOf_without_point enforced, trivial⟩
  · split
    · exact ⟨Sql.moveOf_obeys enforced, apart (by simp [updateCurrent, Statement.plain,
        Write.locks, fixLocks]), fun _ => moveOf_without_point enforced, trivial⟩
    · trivial

theorem storeFix_obeys {current : Option VehicleCurrentLocation} :
    (storeFix E fixLocks m current).Obeys fleetDiscipline [] := by
  have none {w : CallStatement} : ∀ w₀ ∈ ([] : List CallStatement), ¬ Clash w₀.locks w.locks :=
    fun _ member => (List.not_mem_nil member).elim
  have point := Sql.pointOf_obeys (m := m) enforced
  unfold storeFix
  split
  · next current =>
      split
      · refine ⟨Sql.moveOf_obeys enforced, none, fun _ => id, point, ?_,
          fun _ => pointOf_without_move enforced, trivial⟩
        refine List.forall_mem_singleton.mpr fun clash => not_clash_pointOf ?_ clash.symm
        simp [updateCurrent, Statement.plain, Write.locks, fixLocks]
      · exact ⟨point, none, fun _ => id, trivial⟩
  · exact ⟨point, none, fun _ => id, fun _ => saveCurrent_obeys enforced⟩

theorem Call.commits_obeys {a : Ambient} {c : Call} {pending : List CallStatement} {db : DB}
    (commits : c.Commits E a pending db) : ∀ w ∈ pending, w.Obeys fleetDiscipline := by
  have nothing : ∀ w ∈ ([] : List CallStatement), w.Obeys fleetDiscipline :=
    fun _ member => (List.not_mem_nil member).elim
  cases c with
  | createRoute data =>
      exact commits ▸ List.forall_mem_singleton.mpr (Sql.insertRoute_obeys enforced rfl)
  | updateRoute routeId data =>
      rcases commits with rfl | ⟨loaded, new, _, _, rfl⟩
      · exact nothing
      · exact List.forall_mem_singleton.mpr (Sql.updateRoute_obeys enforced)
  | deleteRoute routeId =>
      exact commits ▸ List.forall_mem_singleton.mpr (Sql.deleteRoute_obeys enforced)
  | createVehicle data =>
      exact commits ▸ List.forall_mem_singleton.mpr (Sql.insertVehicle_obeys enforced rfl)
  | updateVehicle vehicleId data =>
      rcases commits with rfl | ⟨loaded, new, _, _, rfl⟩
      · exact nothing
      · exact List.forall_mem_singleton.mpr (Sql.updateVehicle_obeys enforced)
  | deleteVehicle vehicleId =>
      exact commits ▸ List.forall_mem_singleton.mpr (Sql.deleteVehicle_obeys enforced)
  | createUser data =>
      exact commits ▸ List.forall_mem_singleton.mpr (Sql.insertUser_obeys enforced rfl rfl rfl)
  | updateUser userId data =>
      rcases commits with rfl | ⟨loaded, new, _, _, rfl⟩
      · exact nothing
      · exact List.forall_mem_singleton.mpr (Sql.updateUser_obeys enforced)
  | deleteUser userId =>
      exact commits ▸ List.forall_mem_singleton.mpr (Sql.deleteUser_obeys enforced)
  | setAssignment userId data =>
      rcases commits with rfl | ⟨user, _, rfl⟩
      · exact nothing
      · exact List.forall_mem_singleton.mpr (Sql.updateAssignment_obeys enforced)
  | handleGpsMessage m =>
      have point := Sql.pointOf_obeys (m := m) enforced
      rcases commits with ⟨rfl, _⟩ | rfl | ⟨loaded, rfl | rfl⟩
      · exact List.forall_mem_singleton.mpr point
      · exact List.forall_mem_cons.mpr
          ⟨point, List.forall_mem_singleton.mpr (Sql.currentOf_obeys enforced)⟩
      · exact List.forall_mem_cons.mpr
          ⟨Sql.moveOf_obeys enforced, List.forall_mem_singleton.mpr point⟩
      · exact List.forall_mem_cons.mpr
          ⟨point, List.forall_mem_singleton.mpr (Sql.moveOf_obeys enforced)⟩

theorem Call.goes_obeys {a : Ambient} {c : Call} {txn : CallTxn} (goes : c.Goes E a txn) :
    txn.Obeys fleetDiscipline [] := by
  rcases goes with ⟨statement, rfl, commits⟩ | ⟨m, current, _, rfl⟩
  · cases statement with
    | none => trivial
    | some w =>
        exact save_obeys (commits_obeys enforced (commits .empty) w List.mem_cons_self)
  · exact storeFix_obeys enforced

/-- **Discipline.**  Every call keeps to its locks. -/
theorem Call.txn_obeys (a : Ambient) (c : Call) : (c.txn E a).Obeys fleetDiscipline [] :=
  (c.txn_reads E a).obeys fun _ goes => goes_obeys enforced goes

end

end FleetTracking
