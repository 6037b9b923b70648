import FleetTracking.Edits
import FleetTracking.Operations
import FleetTracking.Services.AssignmentTxn

/-!
# Two assignments at once

Two `set_assignment` sessions, interleaved statement by statement.  For two users the
holder queries of one can miss what the other commits later, and nothing in the database
stops the second `UPDATE`; `concurrent_assignments_exclusive` says exactly when the
assignments stay exclusive.  For one user the two `UPDATE`s can each set one column of the
same row; `concurrent_assignments_settle` says exactly when the row ends as one of them asked.

Both start from `System.split_of_start`, which leaves one session running alone and the
other reading before and after it.
-/

namespace FleetTracking

open Relational ReadCommitted

structure AssignmentRequest where
  userId : Int
  data : AssignmentUpdate

/-- The two sessions, at their first statements. -/
def assigning (E : Engine) (db : DB) (request : Bool → AssignmentRequest) :
    System Bool DB RowLock (Except Failure Unit) :=
  .start db fun i => setAssignmentTxn E (request i).userId (request i).data

section

variable {E : Engine} {db : DB} {request : Bool → AssignmentRequest}
  {s : System Bool DB RowLock (Except Failure Unit)} {schedule : List Bool}

/-! ## What one assignment does to the holders -/

variable {u row : User} {data data' : AssignmentUpdate} {userId : Int}

/-- The user's row once the request has been granted. -/
def User.granted (u : User) (data : AssignmentUpdate) : User :=
  { u with routeId := data.routeId, vehicleId := data.vehicleId }

theorem assigned_self : (db.assigned u u data).users = db.users.put (u.granted data) := by
  rw [DB.assigned, reassigned_self]
  rfl

theorem mem_assigned (found : db.users.get u.id = some u) :
    row ∈ (db.assigned u u data).users.toTable ↔
      (row ∈ db.users.toTable ∧ row.id ≠ u.id) ∨ row = u.granted data := by
  rw [assigned_self, Serial.toTable_put, Table.mem_put]
  have present : db.users.HasKey u.id := .of_get found
  exact or_congr Iff.rfl ⟨And.left, fun same => ⟨same, present⟩⟩

/-- What another user's grant leaves free: what the grant does not take and nobody else
holds. -/
theorem freeFor_assigned {held : User → Option Int} {wanted : Option Int}
    (found : db.users.get u.id = some u) :
    FreeFor held wanted (db.assigned u u data) userId ↔ ∀ k, wanted = some k →
      (held (u.granted data) = some k → u.id = userId) ∧
        ∀ w ∈ db.users.toTable, held w = some k → w.id = userId ∨ w.id = u.id := by
  refine forall₂_congr fun k _ => ?_
  constructor
  · intro free
    refine ⟨free _ ((mem_assigned found).mpr (.inr rfl)), fun w member holds => ?_⟩
    by_cases own : w.id = u.id
    · exact .inr own
    · exact .inl (free w ((mem_assigned found).mpr (.inl ⟨member, own⟩)) holds)
  · intro free w member holds
    rcases free with ⟨taken, others⟩
    rcases (mem_assigned found).mp member with ⟨old, other⟩ | rfl
    · exact (others w old holds).resolve_right other
    · exact taken holds

/-- A grant to a user changes nothing about what is free for that user. -/
theorem freeFor_assigned_own {held : User → Option Int} {wanted : Option Int}
    (found : db.users.get u.id = some u) :
    FreeFor held wanted (db.assigned u u data) u.id ↔ FreeFor held wanted db u.id := by
  rw [freeFor_assigned found]
  simp only [imp_true_iff, true_and, or_self, FreeFor]

/-- A grant keeps assignments exclusive when nobody else holds what it takes. -/
theorem Exclusive.assigned (x : Exclusive db) (routeFree : RouteFree db u.id data)
    (vehicleFree : VehicleFree db u.id data) : Exclusive (db.assigned u u data) := by
  constructor <;> rw [assigned_self]
  · exact x.routes.put routeFree
  · exact x.vehicles.put vehicleFree

/-! ## Two users -/

/-- `q`, which has seen its route free, commits after `p` and they share a route or a
vehicle: either `q` has seen its vehicle free too, or `p` gave it up in between. -/
structure Overtaken (E : Engine) (db : DB) (p q : AssignmentRequest) : Prop where
  granted : Grants E db p.userId p.data
  names : Names E db q.userId q.data
  routeFree : RouteFree db q.userId q.data
  clash : (VehicleFree db q.userId q.data ∧
      ((∃ k, p.data.routeId = some k ∧ q.data.routeId = some k) ∨
        ∃ k, p.data.vehicleId = some k ∧ q.data.vehicleId = some k)) ∨
    ((∀ k, q.data.vehicleId = some k → p.data.vehicleId ≠ some k ∧
        ∀ w ∈ db.users.toTable, w.vehicleId = some k → w.id = q.userId ∨ w.id = p.userId) ∧
      ∃ k, p.data.routeId = some k ∧ q.data.routeId = some k)

/-- A session that commits after another user's grant keeps the assignments exclusive
unless it was overtaken. -/
theorem Exclusive.second {p q : AssignmentRequest} {out : Except Failure Unit} {final : DB}
    (x : Exclusive (db.assigned u u p.data)) (own : u.id = p.userId)
    (distinct : p.userId ≠ q.userId) (found : db.users.get u.id = some u)
    (granted : Grants E db p.userId p.data) (safe : ¬ Overtaken E db p q)
    (split : (setAssignmentTxn E q.userId q.data).Split db (db.assigned u u p.data) []
      (out, final)) : Exclusive final := by
  obtain ⟨failure, same⟩ | ⟨w, y, z, loaded, row, saw, found', same⟩ :=
    setAssignmentTxn_split split reassigned_assigned
  · cases same
    exact x
  cases same
  -- The other session has left this user's row alone.
  have kept : w.users.get q.userId = (db.assigned u u p.data).users.get q.userId := by
    rcases saw.first with rfl | rfl
    · rw [assigned_self, Serial.toTable_put, Table.get_put, if_neg]
      exact fun same => distinct (own.symm.trans same.1.symm)
    · rfl
  obtain rfl : loaded = row := Option.some.inj (saw.user.symm.trans (kept.trans found'))
  have ownQ : loaded.id = q.userId := (Table.get_eq_some.mp found').2
  -- Whoever shares with `p` has been overtaken.
  have apart : u.id ≠ q.userId := own ▸ distinct
  have overtaken := fun seen clash => safe ⟨granted, saw.names, seen, clash⟩
  have free : RouteFree (db.assigned u u p.data) q.userId q.data ∧
      VehicleFree (db.assigned u u p.data) q.userId q.data := by
    rcases saw.first.trans saw.second with rfl | rfl
    · have routeFree := saw.routeFree
      rcases saw.third with rfl | rfl
      · have vehicleFree := saw.vehicleFree
        constructor <;> refine (freeFor_assigned found).mpr fun k wanted => ⟨fun taken => ?_, ?_⟩
        · exact (overtaken routeFree (.inl ⟨vehicleFree, .inl ⟨k, taken, wanted⟩⟩)).elim
        · exact fun w member holds => .inl (routeFree k wanted w member holds)
        · exact (overtaken routeFree (.inl ⟨vehicleFree, .inr ⟨k, taken, wanted⟩⟩)).elim
        · exact fun w member holds => .inl (vehicleFree k wanted w member holds)
      · have released := (freeFor_assigned found).mp saw.vehicleFree
        refine ⟨(freeFor_assigned found).mpr fun k wanted => ⟨fun taken => ?_, ?_⟩,
          saw.vehicleFree⟩
        · refine (overtaken routeFree (.inr ⟨fun k wanted => ⟨fun same => ?_, ?_⟩, k, taken,
            wanted⟩)).elim
          · exact apart ((released k wanted).1 same)
          · exact own ▸ (released k wanted).2
        · exact fun w member holds => .inl (routeFree k wanted w member holds)
    · have last : z = db.assigned u u p.data := by
        rcases saw.third with h | h <;> exact h
      exact ⟨saw.routeFree, last ▸ saw.vehicleFree⟩
  exact x.assigned (ownQ ▸ free.1) (ownQ ▸ free.2)

/-- A session that was overtaken can leave a route or a vehicle with two users. -/
theorem Overtaken.shares {p q : AssignmentRequest} (overtaken : Overtaken E db p q)
    (own : u.id = p.userId) (distinct : p.userId ≠ q.userId)
    (found : db.users.get u.id = some u) :
    ∃ final, (setAssignmentTxn E q.userId q.data).FreeSplit db (db.assigned u u p.data)
      [] (.ok (), final) ∧ ¬ Exclusive final := by
  have apart : u.id ≠ q.userId := own ▸ distinct
  obtain ⟨loaded, foundQ⟩ := Option.isSome_iff_exists.mp
    (Table.hasKey_iff_get.mp overtaken.names.user.2)
  have ownQ : loaded.id = q.userId := (Table.get_eq_some.mp foundQ).2
  have kept : (db.assigned u u p.data).users.get q.userId = some loaded := by
    rw [assigned_self, Serial.toTable_put, Table.get_put, if_neg fun same => apart same.1.symm,
      foundQ]
  have foundQ' : (db.assigned u u p.data).users.get loaded.id = some loaded := ownQ ▸ kept
  obtain ⟨y, onward, vehicleFree⟩ : ∃ y, Txn.Onward (db.assigned u u p.data) db y ∧
      VehicleFree y q.userId q.data := by
    rcases overtaken.clash with ⟨free, _⟩ | ⟨released, _⟩
    · exact ⟨db, .refl _ _, free⟩
    · refine ⟨_, .last _ _, (freeFor_assigned found).mpr fun k wanted => ?_⟩
      obtain ⟨other, holders⟩ := released k wanted
      exact ⟨fun same => (other same).elim, own ▸ holders⟩
  refine ⟨(db.assigned u u p.data).assigned loaded loaded q.data,
    setAssignmentTxn_reads reassigned_assigned ⟨.refl _ _, .refl _ _, onward, foundQ,
      overtaken.names, overtaken.routeFree, vehicleFree⟩ kept, fun x => apart ?_⟩
  have left : u.granted p.data ∈
      ((db.assigned u u p.data).assigned loaded loaded q.data).users.toTable :=
    (mem_assigned foundQ').mpr (.inl ⟨(mem_assigned found).mpr (.inr rfl), ownQ ▸ apart⟩)
  have right : loaded.granted q.data ∈
      ((db.assigned u u p.data).assigned loaded loaded q.data).users.toTable :=
    (mem_assigned foundQ').mpr (.inr rfl)
  rcases overtaken.clash with ⟨_, ⟨k, here, there⟩ | ⟨k, here, there⟩⟩ | ⟨_, k, here, there⟩
  · exact (x.routes _ left _ right k here there).trans ownQ
  · exact (x.vehicles _ left _ right k here there).trans ownQ
  · exact (x.routes _ left _ right k here there).trans ownQ

/-- **When two users can be assigned at once.**  Every schedule of the two sessions leaves
the assignments exclusive exactly when neither can be overtaken by the other. -/
theorem concurrent_assignments_exclusive (E : Engine) (db : DB)
    (request : Bool → AssignmentRequest)
    (distinct : (request false).userId ≠ (request true).userId) (x : Exclusive db) :
    (∀ schedule s, (assigning E db request).run schedule = some s → s.Finished →
      Exclusive s.db) ↔ ∀ i, ¬ Overtaken E db (request i) (request (!i)) := by
  have apart : ∀ i, (request i).userId ≠ (request (!i)).userId := by
    intro i
    cases i
    · exact distinct
    · exact distinct.symm
  constructor
  · intro exclusive i overtaken
    obtain ⟨refused, notGranted⟩ | ⟨u, found, _, solo⟩ :=
      setAssignmentTxn_grants E db (request i).userId (request i).data
    · exact notGranted overtaken.granted
    have own : u.id = (request i).userId := (Table.get_eq_some.mp found).2
    obtain ⟨final, reads, shared⟩ := overtaken.shares own (apart i) (own ▸ found)
    obtain ⟨schedule, s, ran, finished, _, _, same⟩ := System.run_of_start
      (fun i => setAssignmentTxn E (request i).userId (request i).data) solo reads
    exact shared (same ▸ exclusive schedule s ran finished)
  · intro safe schedule s ran finished
    obtain ⟨i, out, after, solo, _, out', _, split⟩ := System.split_of_start ran finished
    obtain ⟨⟨failure, refused⟩, _⟩ | ⟨u, found, granted, done⟩ :=
      setAssignmentTxn_grants E db (request i).userId (request i).data
    · rw [refused] at solo
      cases solo
      obtain ⟨⟨failure, refused⟩, _⟩ | ⟨u, found, granted, done⟩ :=
        setAssignmentTxn_grants E db (request (!i)).userId (request (!i)).data
      · have same : s.db = db := congrArg Prod.snd (split.eq_solo.trans refused)
        exact same ▸ x
      · have same := congrArg Prod.snd (split.eq_solo.trans done)
        dsimp only at same
        rw [same]
        have own : u.id = (request (!i)).userId := (Table.get_eq_some.mp found).2
        exact x.assigned (own ▸ granted.routeFree) (own ▸ granted.vehicleFree)
    · rw [done] at solo
      cases solo
      have own : u.id = (request i).userId := (Table.get_eq_some.mp found).2
      have first : Exclusive (db.assigned u u (request i).data) :=
        x.assigned (own ▸ granted.routeFree) (own ▸ granted.vehicleFree)
      exact first.second own (apart i) (own ▸ found) granted (safe i) split

/-- The admin asks for the route and vehicle of the second user, who keeps them. -/
def askForHeld (i : Bool) : AssignmentRequest := ⟨if i then 1 else 2, .assign 1 1⟩

theorem concurrent_assignments_exclusive_demo :
    (∀ schedule s, (assigning postgres .demo askForHeld).run schedule = some s → s.Finished →
      Exclusive s.db) ↔ ∀ i, ¬ Overtaken postgres .demo (askForHeld i) (askForHeld (!i)) :=
  concurrent_assignments_exclusive postgres .demo askForHeld (by decide) (by decide +kernel)

/-- The database after the first boot, with the first pair taken from its user. -/
def DB.demoWithout : DB := (Call.setAssignment 2 .unassign).after postgres plainAmbient .demo

/-- Two users ask for the same pair, both look before either commits, and both get it. -/
theorem concurrent_assignments_share :
    ¬ ∀ (db : DB) (request : Bool → AssignmentRequest),
      (request false).userId ≠ (request true).userId → Exclusive db →
      ∀ schedule s, (assigning postgres db request).run schedule = some s → s.Finished →
        Exclusive s.db := by
  intro preserved
  have before : Exclusive .demoWithout := by decide +kernel
  have shared : ((assigning postgres .demoWithout askForHeld).run
      (List.replicate 5 false ++ List.replicate 7 true ++ List.replicate 2 false)).any
        (fun s => s.Finished ∧ ¬ Exclusive s.db) = true := by
    decide +kernel
  obtain ⟨s, ran, facts⟩ := (Option.any_eq_true _ _).mp shared
  obtain ⟨finished, notExclusive⟩ := of_decide_eq_true facts
  exact notExclusive (preserved .demoWithout askForHeld (by decide) before _ s ran finished)

/-! ## One user -/

/-- `second` keeps one of the two that the user had while `first` changes it, and sets the
other one to something else than `first` does. -/
def Mixes (old : User) (first second : AssignmentUpdate) : Prop :=
  (second.routeId = old.routeId ∧ first.routeId ≠ old.routeId ∧
    second.vehicleId ≠ old.vehicleId ∧ second.vehicleId ≠ first.vehicleId) ∨
  (second.vehicleId = old.vehicleId ∧ first.vehicleId ≠ old.vehicleId ∧
    second.routeId ≠ old.routeId ∧ second.routeId ≠ first.routeId)

instance (old : User) (first second : AssignmentUpdate) : Decidable (Mixes old first second) :=
  inferInstanceAs (Decidable (_ ∨ _))

/-- The row is as the request asked. -/
def User.Has (u : User) (data : AssignmentUpdate) : Prop :=
  u.routeId = data.routeId ∧ u.vehicleId = data.vehicleId

/-- Two sessions for the user of the row `old` have left its row as one that succeeded asked,
or as it was when none did. -/
def Settles (old : User) (request : Bool → AssignmentUpdate)
    (s : System Bool DB RowLock (Except Failure Unit)) : Prop :=
  ∃ row, s.db.users.get old.id = some row ∧ row.routeId.isNone = row.vehicleId.isNone ∧
    ((∃ i, s.Done i (.ok ()) ∧ row.Has (request i)) ∨
      ((∀ i, ¬ s.Done i (.ok ())) ∧ row = old))

/-- Setting the changed columns of a row that another request has changed gives what one of
the two asked, unless they mix. -/
theorem reassigned_granted {old : User} {first second : AssignmentUpdate} :
    (¬ Mixes old first second) ↔
      (old.reassigned second.routeId second.vehicleId (old.granted first)).Has second ∨
      (old.reassigned second.routeId second.vehicleId (old.granted first)).Has first := by
  unfold Mixes User.Has User.reassigned User.granted
  by_cases route : second.routeId = old.routeId <;>
    by_cases vehicle : second.vehicleId = old.vehicleId <;>
    simp [route, vehicle]
  · exact or_iff_not_imp_left.symm
  · exact or_iff_not_imp_left.symm

theorem get_assigned (loaded row : User) (data : AssignmentUpdate)
    (present : db.users.HasKey row.id) :
    (db.assigned loaded row data).users.get row.id =
      some (loaded.reassigned data.routeId data.vehicleId row) := by
  rw [DB.assigned, Serial.toTable_put, Table.get_put]
  exact if_pos ⟨rfl, present⟩

theorem get_assigned_self (data : AssignmentUpdate) (found : db.users.get u.id = some u) :
    (db.assigned u u data).users.get u.id = some (u.granted data) := by
  rw [get_assigned u u data (.of_get found), reassigned_self]
  rfl

/-- A row that is as a request asked is half-null never. -/
theorem User.Has.pair (has : u.Has data) : u.routeId.isNone = u.vehicleId.isNone := by
  rw [has.1, has.2, data.pair]

/-- The row is as a session that succeeded asked. -/
theorem Settles.of_has {old : User} {request : Bool → AssignmentUpdate} {i : Bool}
    (done : s.Done i (.ok ())) (found : s.db.users.get old.id = some row)
    (has : row.Has (request i)) : Settles old request s :=
  ⟨row, found, has.pair, .inl ⟨i, done, has⟩⟩

/-- A session that commits after another grant to the same user leaves the row settled
unless the two mix. -/
theorem Settles.second {old : User} {request : Bool → AssignmentUpdate} {i : Bool}
    {out : Except Failure Unit} (first : s.Done i (.ok ())) (second : s.Done (!i) out)
    (found : db.users.get old.id = some old)
    (safe : Grants E db old.id (request (!i)) → ¬ Mixes old (request i) (request (!i)))
    (split : (setAssignmentTxn E old.id (request (!i))).Split db
      (db.assigned old old (request i)) [] (out, s.db)) : Settles old request s := by
  have found' := get_assigned_self (request i) found
  obtain ⟨failure, same⟩ | ⟨w, x, y, loaded, row, saw, there, same⟩ :=
    setAssignmentTxn_split split reassigned_assigned
  · obtain ⟨_, last⟩ := Prod.mk.inj same
    rw [← last] at found'
    exact .of_has first found' ⟨rfl, rfl⟩
  obtain ⟨rfl, last⟩ := Prod.mk.inj same
  obtain rfl : old.granted (request i) = row := Option.some.inj (found'.symm.trans there)
  have final : s.db.users.get old.id = some (loaded.reassigned (request (!i)).routeId
      (request (!i)).vehicleId (old.granted (request i))) := by
    rw [last]
    exact get_assigned loaded (old.granted (request i)) _ (.of_get found')
  rcases saw.first with rfl | rfl
  · obtain rfl : old = loaded := Option.some.inj (found.symm.trans saw.user)
    -- Its own holdings do not count, so the request could be granted before as well.
    have granted : Grants E w old.id (request (!i)) := by
      refine ⟨saw.names, ?_, ?_⟩
      · rcases saw.second with rfl | rfl
        · exact saw.routeFree
        · exact (freeFor_assigned_own found).mp saw.routeFree
      · rcases saw.second.trans saw.third with rfl | rfl
        · exact saw.vehicleFree
        · exact (freeFor_assigned_own found).mp saw.vehicleFree
    rcases reassigned_granted.mp (safe granted) with has | has
    · exact .of_has second final has
    · exact .of_has first final has
  · obtain rfl : old.granted (request i) = loaded :=
      Option.some.inj (found'.symm.trans saw.user)
    rw [reassigned_self] at final
    exact .of_has second final ⟨rfl, rfl⟩

/-- **When two assignments of one user settle.**  Every schedule leaves the user's row as
one of the requests that succeeded asked, or as it was, exactly when the two cannot both be
granted or do not mix. -/
theorem concurrent_assignments_settle (E : Engine) (db : DB) (old : User)
    (request : Bool → AssignmentUpdate) (found : db.users.get old.id = some old)
    (pair : old.routeId.isNone = old.vehicleId.isNone) :
    (∀ schedule s, (assigning E db fun i => ⟨old.id, request i⟩).run schedule = some s →
      s.Finished → Settles old request s) ↔
    ((∀ i, Grants E db old.id (request i)) →
      ∀ i, ¬ Mixes old (request i) (request (!i))) := by
  constructor
  · intro settles grants i mixes
    obtain ⟨_, notGranted⟩ | ⟨u, found', _, solo⟩ :=
      setAssignmentTxn_grants E db old.id (request i)
    · exact notGranted (grants i)
    obtain rfl : old = u := Option.some.inj (found.symm.trans found')
    have granted := grants (!i)
    have later := get_assigned_self (request i) found
    have reads := setAssignmentTxn_reads reassigned_assigned ⟨.refl _ _, .refl _ _, .refl _ _,
      found, granted.names, granted.routeFree, granted.vehicleFree⟩ later
    obtain ⟨schedule, s, ran, finished, first, second, last⟩ :=
      System.run_of_start
        (fun i => setAssignmentTxn E old.id (request i)) solo reads
    have final := get_assigned old (old.granted (request i)) (request (!i)) (.of_get later)
    rw [← last] at final
    obtain ⟨row, there, _, ⟨j, _, has⟩ | ⟨none, _⟩⟩ := settles schedule s ran finished
    · obtain rfl := Option.some.inj (there.symm.trans final)
      refine reassigned_granted.mpr ?_ mixes
      by_cases turn : j = i
      · exact .inr (turn ▸ has)
      · exact .inl ((Bool.eq_not.mpr turn) ▸ has)
    · exact none i first
  · intro safe schedule s ran finished
    obtain ⟨i, out, after, solo, first, out', second, split⟩ := System.split_of_start ran finished
    dsimp only at solo split
    obtain ⟨⟨failure, refused⟩, _⟩ | ⟨u, found', granted, done⟩ :=
      setAssignmentTxn_grants E db old.id (request i)
    · obtain ⟨rfl, rfl⟩ := Prod.mk.inj (refused.symm.trans solo)
      obtain ⟨⟨failure', refused'⟩, _⟩ | ⟨u, found', granted, done⟩ :=
        setAssignmentTxn_grants E db old.id (request (!i))
      · obtain ⟨rfl, same⟩ := Prod.mk.inj (split.eq_solo.trans refused')
        refine ⟨old, same ▸ found, pair, .inr ⟨fun j ended => ?_, rfl⟩⟩
        by_cases turn : j = i
        · cases (turn ▸ ended).symm.trans first
        · cases ((Bool.eq_not.mpr turn) ▸ ended).symm.trans second
      · obtain rfl : old = u := Option.some.inj (found.symm.trans found')
        obtain ⟨rfl, same⟩ := Prod.mk.inj (split.eq_solo.trans done)
        have final := get_assigned_self (request (!i)) found
        rw [← same] at final
        exact .of_has second final ⟨rfl, rfl⟩
    · obtain rfl : old = u := Option.some.inj (found.symm.trans found')
      obtain ⟨rfl, rfl⟩ := Prod.mk.inj (done.symm.trans solo)
      refine .second first second found (fun granted' => safe ?_ i) split
      intro j
      by_cases turn : j = i
      · exact turn ▸ granted
      · exact (Bool.eq_not.mpr turn) ▸ granted'

/-- Give the first demo user another vehicle, or take both away. -/
def swapOrClear (i : Bool) : AssignmentUpdate := if i then .unassign else .assign 1 5

/-- The database after the first boot, with a fifth vehicle. -/
def DB.demoSpare : DB :=
  (Call.createVehicle
    { code := ⟨⟨"BUS-005", by decide⟩, by decide⟩, name := ⟨"Spare", by decide⟩ }).after postgres
      plainAmbient .demo

theorem concurrent_assignments_settle_demo :
    (∀ schedule s,
      (assigning postgres .demoSpare fun i => ⟨2, swapOrClear i⟩).run schedule = some s →
        s.Finished → Settles raviRow swapOrClear s) ↔
    ((∀ i, Grants postgres .demoSpare 2 (swapOrClear i)) →
      ∀ i, ¬ Mixes raviRow (swapOrClear i) (swapOrClear (!i))) :=
  concurrent_assignments_settle postgres .demoSpare raviRow swapOrClear (by decide +kernel) rfl

/-- The swap sets the vehicle only, after the other session has cleared the row, and leaves a
vehicle without a route. -/
theorem concurrent_assignments_mix :
    ¬ ∀ (db : DB) (old : User) (request : Bool → AssignmentUpdate),
      db.users.get old.id = some old → old.routeId.isNone = old.vehicleId.isNone →
      ∀ schedule s, (assigning postgres db fun i => ⟨old.id, request i⟩).run schedule = some s →
        s.Finished → Settles old request s := by
  intro settles
  have found : DB.demoSpare.users.get raviRow.id = some raviRow := by decide +kernel
  have mixed : ((assigning postgres .demoSpare fun i => ⟨raviRow.id, swapOrClear i⟩).run
      (false :: List.replicate 3 true ++ List.replicate 5 false)).any
        (fun s => s.Finished ∧ s.db.users.get 2 =
          some { raviRow with routeId := none, vehicleId := some 5 }) = true := by
    decide +kernel
  obtain ⟨s, ran, facts⟩ := (Option.any_eq_true _ _).mp mixed
  obtain ⟨finished, final⟩ := of_decide_eq_true facts
  obtain ⟨row, there, pair, _⟩ := settles .demoSpare raviRow swapOrClear found rfl _ s ran finished
  cases there.symm.trans final
  cases pair

end

end FleetTracking
