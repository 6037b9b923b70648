import FleetTracking.Concurrency.Ingestion

/-!
# Fixes of different vehicles

A handler session whose vehicle no other session touches runs as if it ran alone, whatever else
goes on (`fix_is_isolated`).  So sessions for different vehicles are serializable: any
interleaving ends as the calls one after another would, in any order, but for the ids of the
points (`different_vehicles_serializable`).
-/

namespace FleetTracking

open Relational ReadCommitted

/-- The call is not about vehicle `v`: it neither reports nor changes it, and does not create it
when ids are drawn from `next` on. -/
def Call.Spares (next v : Int) : Call → Prop
  | handleGpsMessage m => (m.vehicleId : Int) ≠ v
  | createVehicle _ => v < next
  | updateVehicle vehicleId _ => vehicleId ≠ v
  | deleteVehicle vehicleId => vehicleId ≠ v
  | _ => True

/-- What a handler session sees of its vehicle is the same in both. -/
structure SameVehicle (v : Int) (db db' : DB) : Prop where
  vehicle : db'.vehicles.get v = db.vehicles.get v
  location : db'.vehicleCurrentLocation.get v = db.vehicleCurrentLocation.get v

namespace SameVehicle

variable {v : Int} {db db' db'' : DB}

theorem refl (v : Int) (db : DB) : SameVehicle v db db := ⟨rfl, rfl⟩

theorem trans (first : SameVehicle v db db') (second : SameVehicle v db' db'') :
    SameVehicle v db db'' :=
  ⟨second.vehicle.trans first.vehicle, second.location.trans first.location⟩

theorem of_idle (idle : Idle db db') : SameVehicle v db db' :=
  ⟨by rw [idle.vehicles.rows], by rw [idle.locations]⟩

/-- A call that spares the vehicle leaves it as it is. -/
theorem of_committed {c : Call} {next : Int} (committed : Committed c db db')
    (drawn : next ≤ db.vehicles.next) (spares : c.Spares next v) : SameVehicle v db db' := by
  cases committed with
  | insertVehicle => exact ⟨Serial.get_insert.trans (if_neg (spares.trans_le drawn).ne), rfl⟩
  | putVehicle found own =>
      exact ⟨Table.get_put.trans (if_neg fun same => spares (own.symm.trans same.1.symm)), rfl⟩
  | eraseVehicle => exact ⟨Table.get_erase.trans (if_neg fun same => spares same.symm), rfl⟩
  | report keys others => exact ⟨rfl, others v fun same => spares same.symm⟩
  | _ => exact ⟨rfl, rfl⟩

end SameVehicle

/-! ## One session among others -/

section

variable {E : Engine} {m : GPSMessage} {db db' : DB}

/-- What the handler's statements leave as the current location. -/
theorem visible_pointOf (present : db.vehicles.HasKey m.vehicleId) :
    visible [pointOf E m] db = db.addPoint m :=
  Write.apply_of_ok (stmt_insertPoint present)

theorem visible_currentOf (present : db.vehicles.HasKey m.vehicleId)
    (absent : db.vehicleCurrentLocation.get m.vehicleId = none) :
    (visible [pointOf E m, currentOf E m] db).vehicleCurrentLocation.get m.vehicleId =
      some m.current := by
  have stored : (pointOf E m).apply db = db.addPoint m := visible_pointOf present
  change ((currentOf E m).apply ((pointOf E m).apply db)).vehicleCurrentLocation.get _ = _
  rw [stored, (currentOf E m).apply_of_ok (stmt_insertCurrent (db.addPoint m) present absent)]
  have own : db.vehicleCurrentLocation.get (Keyed.key m.current) = none := absent
  have got : (db.vehicleCurrentLocation.insertNew m.current own).get (Keyed.key m.current) =
      some m.current := by
    rw [Table.get_insertNew, if_pos rfl]
  exact got

/-- A session that has moved the current location finds its vehicle still. -/
theorem visible_moveOf {current : VehicleCurrentLocation}
    (found : db.vehicleCurrentLocation.get m.vehicleId = some current) :
    visible [moveOf E m current] db = { db with
      vehicleCurrentLocation := db.vehicleCurrentLocation.put m.current } := by
  have own : current.vehicleId = m.vehicleId := (Table.get_eq_some.mp found).2
  exact (Write.apply_of_ok (stmt_updateCurrent db current found)).trans (by rw [m.update_self own])

theorem visible_flush {current : VehicleCurrentLocation}
    (present : db.vehicles.HasKey m.vehicleId)
    (found : db.vehicleCurrentLocation.get m.vehicleId = some current) :
    (visible [moveOf E m current, pointOf E m] db).vehicleCurrentLocation.get m.vehicleId =
      some m.current := by
  let after : DB := { db with
    vehicleCurrentLocation := db.vehicleCurrentLocation.put m.current }
  have moved : (moveOf E m current).apply db = after := visible_moveOf (E := E) found
  have stored : (pointOf E m).apply after = after.addPoint m :=
    Write.apply_of_ok (stmt_insertPoint present)
  change ((pointOf E m).apply ((moveOf E m current).apply db)).vehicleCurrentLocation.get _ = _
  rw [moved, stored]
  exact Table.get_put.trans (if_pos ⟨rfl, .of_get found⟩)

/-- A statement that no constraint rejects. -/
theorem ensures_write {R : DB → DB → Prop} {w : CallStatement} {next : CallTxn}
    {done : List CallStatement → Except Failure Bool → DB → Prop}
    {failed : Except Failure Bool → DB → Prop} {pending : List CallStatement}
    (accepts : ∀ db', R db db' → w.Accepts (visible pending db'))
    (ensures : ∀ db', R db db' → next.Ensures R done failed (pending ++ [w]) db') :
    (Txn.write w next).Ensures R done failed pending db := by
  refine fun db' later => ⟨fun result raised => ?_, fun _ => ensures db' later⟩
  rw [(accepts db' later).stmt] at raised
  cases raised

section

variable {vehicle : Vehicle} {failed : Except Failure Bool → DB → Prop}
  (found : db.vehicles.get m.vehicleId = some vehicle)
include found

theorem SameVehicle.present (same : SameVehicle m.vehicleId db db') :
    db'.vehicles.HasKey m.vehicleId :=
  .of_get (same.vehicle.trans found)

omit found in
/-- The first fix of a vehicle is its current location. -/
theorem ingest_first (absent : db.vehicleCurrentLocation.get m.vehicleId = none) :
    (db.ingest m).vehicleCurrentLocation.get m.vehicleId = some m.current := by
  have location := get_upsertLatest (t := db.vehicleCurrentLocation) (c := m.current)
    (k := m.current.vehicleId)
  rw [if_pos rfl, show db.vehicleCurrentLocation.get m.current.vehicleId = none from absent]
    at location
  exact location

omit found in
/-- A later fix takes the place of an older current location. -/
theorem ingest_later {current : VehicleCurrentLocation}
    (present : db.vehicleCurrentLocation.get m.vehicleId = some current) :
    (db.ingest m).vehicleCurrentLocation.get m.vehicleId =
      if m.recordedAt > current.recordedAt then some m.current else some current := by
  have location := get_upsertLatest (t := db.vehicleCurrentLocation) (c := m.current)
    (k := m.current.vehicleId)
  rw [if_pos rfl, show db.vehicleCurrentLocation.get m.current.vehicleId = some current from
    present] at location
  exact location

theorem storeFix_alone (same : SameVehicle m.vehicleId db db') :
    (storeFix E fixLocks m (db.vehicleCurrentLocation.get m.vehicleId)).Ensures
      (SameVehicle m.vehicleId)
      (fun pending result db' => result = .ok true ∧
        (visible pending db').vehicleCurrentLocation.get m.vehicleId =
          (db.ingest m).vehicleCurrentLocation.get m.vehicleId)
      failed [] db' := by
  have accepts (db'' : DB) (later : SameVehicle m.vehicleId db' db'') :
      (pointOf E m).Accepts db'' :=
    ⟨_, stmt_insertPoint ((same.trans later).present found)⟩
  cases location : db.vehicleCurrentLocation.get m.vehicleId with
  | none =>
      rw [ingest_first location]
      refine ensures_write accepts fun db'' later db' last => ?_
      have same := (same.trans later).trans last
      have read : (visible [pointOf E m] db').vehicleCurrentLocation.get m.vehicleId = none := by
        rw [visible_pointOf (same.present found)]
        exact same.location.trans location
      change Txn.Ensures _ _ _ (saveCurrent E fixLocks m
        ((visible [pointOf E m] db').vehicleCurrentLocation.get m.vehicleId)) _ _
      rw [read]
      refine ensures_write (fun db'' later => ?_) fun db'' later db' last => ⟨rfl, ?_⟩
      · have same := same.trans later
        have present := same.present found
        change (currentOf E m).Accepts (visible [pointOf E m] db'')
        rw [visible_pointOf present]
        exact ⟨_, stmt_insertCurrent (db''.addPoint m) present (same.location.trans location)⟩
      · have same := (same.trans later).trans last
        exact visible_currentOf (same.present found) (same.location.trans location)
  | some current =>
      rw [ingest_later location]
      unfold storeFix
      dsimp only
      split
      · refine ensures_write (fun db'' later => ?_) fun db'' later =>
          ensures_write (fun db' last => ?_) fun db' last db'' after => ⟨rfl, ?_⟩
        · exact ⟨_, stmt_updateCurrent db'' current ((same.trans later).location.trans location)⟩
        · have same := (same.trans later).trans last
          change (pointOf E m).Accepts (visible [moveOf E m current] db')
          rw [visible_moveOf (same.location.trans location)]
          exact ⟨_, stmt_insertPoint (same.present found :)⟩
        · have same := ((same.trans later).trans last).trans after
          exact visible_flush (same.present found) (same.location.trans location)
      · refine ensures_write accepts fun db'' later db' last => ⟨rfl, ?_⟩
        have same := (same.trans later).trans last
        change (visible [pointOf E m] db').vehicleCurrentLocation.get _ = _
        rw [visible_pointOf (same.present found)]
        exact same.location.trans location

end

/-- While its vehicle is left alone, a session answers and leaves as current location what the
call does alone. -/
theorem ingestTxn_alone : (ingestTxn E m).Ensures (SameVehicle m.vehicleId)
    (fun pending result db' => result = (settle db (handleGpsMessage E db m)).1 ∧
      (visible pending db').vehicleCurrentLocation.get m.vehicleId =
        (settle db (handleGpsMessage E db m)).2.vehicleCurrentLocation.get m.vehicleId)
    (fun result _ => result = (settle db (handleGpsMessage E db m)).1 ∧
      (settle db (handleGpsMessage E db m)).2 = db) [] db := by
  rw [handleGpsMessage_eq]
  unfold ingestTxn handleGpsMessageTxn
  by_cases taken : E.bigint m.vehicleId = true
  · simp only [taken, if_true]
    intro db' same
    simp only [visible, List.foldl_nil, same.vehicle, same.location]
    cases found : db.vehicles.get m.vehicleId with
    | none => exact fun _ _ => ⟨rfl, rfl⟩
    | some vehicle =>
        dsimp only
        by_cases inactive : vehicle.isActive ≠ some true
        · simp only [if_pos inactive]
          exact fun _ _ => ⟨rfl, rfl⟩
        · simp only [if_neg inactive]
          by_cases dated : E.timestamptz m.recordedAt = true
          · simp only [if_pos dated]
            exact storeFix_alone found same
          · simp only [if_neg dated]
            exact fun _ _ => ⟨rfl, rfl⟩
  · simp only [taken]
    exact fun _ _ => ⟨rfl, rfl⟩

end

section

variable {ι : Type} [Fintype ι] [DecidableEq ι] {E : Engine} {db : DB} {a : ι → Ambient}
  {c : ι → Call} {m : GPSMessage} {i : ι}

/-- What session `j` relies on: nobody takes a current location away, and if it is the session
`i` for `m`, nobody touches its vehicle. -/
def Relies (m : GPSMessage) (i j : ι) (db db' : DB) : Prop :=
  db.vehicleCurrentLocation.KeepsKeys (fun _ => False) db'.vehicleCurrentLocation ∧
    (j = i → SameVehicle m.vehicleId db db')

/-- Session `j` commits, the session `i` for `m` as it would alone. -/
def CommitsAlone (E : Engine) (db : DB) (a : ι → Ambient) (c : ι → Call) (m : GPSMessage)
    (i j : ι) (pending : List CallStatement) (result : Except Failure Bool) (db' : DB) : Prop :=
  ((c j).Commits E (a j) pending db' ∧ result = .ok true) ∧
    (j = i → result = (settle db (handleGpsMessage E db m)).1 ∧
      (visible pending db').vehicleCurrentLocation.get m.vehicleId =
        (settle db (handleGpsMessage E db m)).2.vehicleCurrentLocation.get m.vehicleId)

/-- Session `j` is refused, the session `i` for `m` as it would be alone. -/
def RefusedAlone (E : Engine) (db : DB) (m : GPSMessage) (i j : ι)
    (result : Except Failure Bool) (_ : DB) : Prop :=
  NotDone result ∧ (j = i → result = (settle db (handleGpsMessage E db m)).1 ∧
    (settle db (handleGpsMessage E db m)).2 = db)

/-- What is known of the session for `m` at any time: its vehicle's current location is as it was,
or as the call alone leaves it. -/
structure Isolated (E : Engine) (db : DB) (m : GPSMessage) (i : ι)
    (results : ι → Option (Except Failure Bool)) (db' : DB) : Prop where
  drawn : db.vehicles.next ≤ db'.vehicles.next
  before : results i = none →
    db'.vehicleCurrentLocation.get m.vehicleId = db.vehicleCurrentLocation.get m.vehicleId
  after : ∀ result, results i = some result → result = (settle db (handleGpsMessage E db m)).1 ∧
    db'.vehicleCurrentLocation.get m.vehicleId =
      (settle db (handleGpsMessage E db m)).2.vehicleCurrentLocation.get m.vehicleId

omit [Fintype ι] in
theorem txn_ensures_alone (reports : c i = .handleGpsMessage m) (j : ι) :
    ((c j).txn E (a j)).Ensures (Relies m i j) (CommitsAlone E db a c m i j)
      (RefusedAlone E db m i j) [] db := by
  have effects := Call.txn_ensures (E := E) (a := a j) (R := Relies m i j) And.left (c j) db
  by_cases own : j = i
  · subst own
    have alone : (ingestTxn E m).Ensures (SameVehicle m.vehicleId) _ _ [] db := ingestTxn_alone
    have answers := alone.relying fun {_ _} (relies : Relies m j j _ _) => relies.2 rfl
    have same : (c j).txn E (a j) = ingestTxn E m := by
      rw [reports]
      rfl
    rw [same] at effects ⊢
    exact (effects.and answers).imp (fun both => ⟨both.1, fun _ => both.2⟩)
      fun both => ⟨both.1, fun _ => both.2⟩
  · exact effects.imp (fun commits => ⟨commits, fun same => (own same).elim⟩)
      fun refused => ⟨refused, fun same => (own same).elim⟩

omit [Fintype ι] [DecidableEq ι] in
/-- Another session has ended, or left something behind. -/
theorem Isolated.other {results results' : ι → Option (Except Failure Bool)} {before after : DB}
    (isolated : Isolated E db m i results before) (own : results' i = results i)
    (drawn : before.vehicles.next ≤ after.vehicles.next)
    (same : SameVehicle m.vehicleId before after) : Isolated E db m i results' after where
  drawn := isolated.drawn.trans drawn
  before running := same.location.trans (isolated.before (own ▸ running))
  after result ended := by
    obtain ⟨answer, location⟩ := isolated.after result (own ▸ ended)
    exact ⟨answer, same.location.trans location⟩

omit [Fintype ι] in
/-- The session for `m` has ended. -/
theorem Isolated.own {results : ι → Option (Except Failure Bool)} {before after : DB}
    {result : Except Failure Bool} (isolated : Isolated E db m i results before)
    (drawn : before.vehicles.next ≤ after.vehicles.next)
    (answer : result = (settle db (handleGpsMessage E db m)).1)
    (location : after.vehicleCurrentLocation.get m.vehicleId =
      (settle db (handleGpsMessage E db m)).2.vehicleCurrentLocation.get m.vehicleId) :
    Isolated E db m i (Function.update results i (some result)) after where
  drawn := isolated.drawn.trans drawn
  before running := by
    rw [Function.update_self] at running
    cases running
  after result' ended := by
    rw [Function.update_self] at ended
    cases ended
    exact ⟨answer, location⟩

omit [Fintype ι] in
theorem isolated_preserved (enforced : E.constraints = true)
    (spared : ∀ j, j ≠ i → (c j).Spares db.vehicles.next m.vehicleId) :
    System.Preserves fleetDiscipline (Relies m i) (CommitsAlone E db a c m i)
      (RefusedAlone E db m i) (Isolated E db m i) where
  refl j db := ⟨.refl _, fun _ => .refl _ _⟩
  trans first second :=
    ⟨fun k none present => second.1 k none (first.1 k none present),
      fun own => (first.2 own).trans (second.2 own)⟩
  commits {results before j pending result} isolated running ends each applies := by
    obtain ⟨⟨commits, _⟩, alone⟩ := ends
    have committed := commits.committed enforced applies
    have sees (other : j ≠ i) : SameVehicle m.vehicleId before (visible pending before) :=
      .of_committed committed isolated.drawn (spared j other)
    refine ⟨fun k other => ⟨locationKeys_kept applies each,
      fun own => sees fun same => other (own.trans same.symm)⟩, ?_⟩
    by_cases turn : j = i
    · subst turn
      obtain ⟨answer, location⟩ := alone rfl
      exact isolated.own committed.follows.next_le answer location
    · exact isolated.other (Function.update_of_ne (Ne.symm turn) _ _)
        committed.follows.next_le (sees turn)
  fails {results before j result} isolated running refused := by
    by_cases turn : j = i
    · subst turn
      obtain ⟨answer, unchanged⟩ := refused.2 rfl
      exact isolated.own le_rfl answer (by rw [unchanged, isolated.before running])
    · exact isolated.other (Function.update_of_ne (Ne.symm turn) _ _) le_rfl (.refl _ _)
  idles isolated idle :=
    ⟨fun k => ⟨idle.locations ▸ .refl _, fun _ => .of_idle idle⟩,
      isolated.other rfl idle.vehicles.next_le (.of_idle idle)⟩

theorem isolated_played (enforced : E.constraints = true) (reports : c i = .handleGpsMessage m)
    (spared : ∀ j, j ≠ i → (c j).Spares db.vehicles.next m.vehicleId) {schedule : List ι}
    {s : System ι DB (Locks Lockable) (Except Failure Bool)}
    (played : (calling E db a c).play schedule = some s) : Isolated E db m i s.results s.db :=
  System.outcomes (isolated_preserved enforced spared)
    (fun j => Call.txn_obeys enforced (a j) (c j)) (txn_ensures_alone reports)
    ⟨le_rfl, fun _ => rfl, nofun⟩ played

/-- **Isolation.**  Among any other sessions that leave its vehicle alone, a handler session
answers what the call answers alone, and its vehicle's current location is by then what the call
alone makes of it. -/
theorem fix_is_isolated (enforced : E.constraints = true) (reports : c i = .handleGpsMessage m)
    (spared : ∀ j, j ≠ i → (c j).Spares db.vehicles.next m.vehicleId) {schedule : List ι}
    {s : System ι DB (Locks Lockable) (Except Failure Bool)}
    (played : (calling E db a c).play schedule = some s) {result : Except Failure Bool}
    (ended : s.results i = some result) :
    result = (settle db (handleGpsMessage E db m)).1 ∧
      s.db.vehicleCurrentLocation.get m.vehicleId =
        (settle db (handleGpsMessage E db m)).2.vehicleCurrentLocation.get m.vehicleId :=
  (isolated_played enforced reports spared played).after result ended

end

/-- A session for each fix. -/
def reportAll {ι : Type} (m : ι → GPSMessage) : ι → Call := fun i => .handleGpsMessage (m i)

/-- Two vehicles. -/
def DB.withTwoVehicles : DB :=
  runCalls postgres .withFirstVehicle [(plainAmbient,
    .createVehicle { code := ⟨⟨"V2", by decide⟩, by decide⟩, name := ⟨"Two", by decide⟩ })]

/-- A fix for each of the two. -/
def oneEach : Bool → GPSMessage
  | false => earlyFix
  | true => { lateFix with vehicleId := ⟨2, by decide⟩ }

/-- A session for each of the two fixes. -/
def reportingBoth : System Bool DB (Locks Lockable) (Except Failure Bool) :=
  calling postgres .withTwoVehicles (fun _ => plainAmbient) (reportAll oneEach)

/-- Statement by statement in turns. -/
def inTurns : List Bool :=
  [false, true, false, true, false, true, false, true, false, true]

theorem fix_is_isolated_two : ∃ s, reportingBoth.play inTurns = some s ∧
    s.db.vehicleCurrentLocation.get 1 = some earlyFix.current := by
  have ran : (reportingBoth.play inTurns).any (fun s =>
      s.results false = some (.ok true)) = true := by decide +kernel
  obtain ⟨s, played, ended⟩ := (Option.any_eq_true _ _).mp ran
  have spared : ∀ j, j ≠ false →
      (reportAll oneEach j).Spares DB.withTwoVehicles.vehicles.next earlyFix.vehicleId
    | true, _ => show (2 : Int) ≠ 1 by decide
  exact ⟨s, played, (fix_is_isolated (c := reportAll oneEach) rfl rfl spared played
    (of_decide_eq_true ended)).2.trans (by decide +kernel)⟩

/-! ## One session after another -/

section

variable {ι : Type} {E : Engine} {a : ι → Ambient} {m : ι → GPSMessage} {db db' : DB} {v : Int}

/-- The sessions one after another, in this order. -/
def serially (E : Engine) (db : DB) (a : ι → Ambient) (c : ι → Call) (order : List ι) : DB :=
  runCalls E db (order.map fun i => (a i, c i))

theorem serially_append {c : ι → Call} {first second : List ι} :
    serially E db a c (first ++ second) = serially E (serially E db a c first) a c second := by
  induction first generalizing db with
  | nil => rfl
  | cons i first ih => exact ih

theorem handled_db {m : GPSMessage} : (settle db (handleGpsMessage E db m)).2 =
    if E.stores db.vehicles m then db.ingest m else db := by
  refine Eq.trans ?_ (after_handleGpsMessage (a := plainAmbient))
  unfold Call.after Call.perform
  dsimp only
  cases handleGpsMessage E db m <;> rfl

theorem handled_ok {m : GPSMessage} : (settle db (handleGpsMessage E db m)).1 = .ok true ↔
    E.stores db.vehicles m = true := by
  rw [handleGpsMessage_eq, Engine.stores]
  by_cases taken : E.bigint m.vehicleId = true
  · rcases Option.eq_none_or_eq_some (db.vehicles.get m.vehicleId) with gone | ⟨vehicle, found⟩
    · simp [taken, gone, settle]
    · by_cases active : vehicle.isActive = some true <;>
        by_cases dated : E.timestamptz m.recordedAt = true <;>
        simp [taken, found, active, dated, settle]
  · simp [taken, settle]

/-- The call looks at its vehicle only. -/
theorem SameVehicle.answer {m : GPSMessage} (same : SameVehicle m.vehicleId db db') :
    (settle db' (handleGpsMessage E db' m)).1 = (settle db (handleGpsMessage E db m)).1 := by
  simp only [handleGpsMessage_eq, same.vehicle]
  split
  · split
    · rfl
    · split
      · rfl
      · split <;> rfl
  · rfl

theorem SameVehicle.handled {m : GPSMessage} (same : SameVehicle m.vehicleId db db') :
    (settle db' (handleGpsMessage E db' m)).2.vehicleCurrentLocation.get m.vehicleId =
      (settle db (handleGpsMessage E db m)).2.vehicleCurrentLocation.get m.vehicleId := by
  rw [handled_db, handled_db, Engine.stores, Engine.stores, same.vehicle]
  split
  · refine get_upsertLatest.trans (Eq.trans ?_ get_upsertLatest.symm)
    simp only [GPSMessage.vehicleId_current, same.location]
  · exact same.location

theorem after_reportAll {i : ι} : (reportAll m i).after E (a i) db =
    (settle db (handleGpsMessage E db (m i))).2 := by
  rw [handled_db]
  exact after_handleGpsMessage

theorem SameVehicle.of_after {i : ι} (other : ((m i).vehicleId : Int) ≠ v) :
    SameVehicle v db ((reportAll m i).after E (a i) db) := by
  rw [after_reportAll, handled_db]
  split
  · exact ⟨rfl, get_upsertLatest.trans (if_neg (Ne.symm other))⟩
  · exact .refl _ _

/-- Fixes of other vehicles leave a vehicle alone. -/
theorem SameVehicle.serially {order : List ι} (others : ∀ i ∈ order, ((m i).vehicleId : Int) ≠ v) :
    SameVehicle v db (serially E db a (reportAll m) order) := by
  induction order generalizing db with
  | nil => exact .refl _ _
  | cons i order ih =>
      have first : SameVehicle v db ((reportAll m i).after E (a i) db) :=
        .of_after (others i List.mem_cons_self)
      exact first.trans (ih fun j member => others j (List.mem_cons_of_mem i member))

/-- Neither the sessions before one nor those after it touch its vehicle. -/
theorem spared_in_turn (different : Function.Injective fun i => ((m i).vehicleId : Int))
    {before after : List ι} {i : ι} (once : (before ++ i :: after).Nodup) :
    (∀ j ∈ before, ((m j).vehicleId : Int) ≠ (m i).vehicleId) ∧
      ∀ j ∈ after, ((m j).vehicleId : Int) ≠ (m i).vehicleId := by
  obtain ⟨_, tail, apart⟩ := List.nodup_append.mp once
  refine ⟨fun j member => different.ne (apart j member i List.mem_cons_self), ?_⟩
  exact fun j member => different.ne fun same => (List.nodup_cons.mp tail).1 (same ▸ member)

theorem serially_untouched {order : List ι} :
    (serially E db a (reportAll m) order).vehicles = db.vehicles ∧
      (serially E db a (reportAll m) order).busRoutes = db.busRoutes ∧
      (serially E db a (reportAll m) order).users = db.users := by
  induction order generalizing db with
  | nil => exact ⟨rfl, rfl, rfl⟩
  | cons i order ih =>
      obtain ⟨vehicles, busRoutes, users⟩ := @ih ((reportAll m i).after E (a i) db)
      have first : ((reportAll m i).after E (a i) db).vehicles = db.vehicles ∧
          ((reportAll m i).after E (a i) db).busRoutes = db.busRoutes ∧
          ((reportAll m i).after E (a i) db).users = db.users := by
        rw [after_reportAll, handled_db]
        split <;> exact ⟨rfl, rfl, rfl⟩
      exact ⟨vehicles.trans first.1, busRoutes.trans first.2.1, users.trans first.2.2⟩

/-- Of the fixes of one run, those that are stored. -/
theorem serially_fixes {order : List ι} : (serially E db a (reportAll m) order).fixes =
    db.fixes + (order.map fun i =>
      if E.stores db.vehicles (m i) then (reportAll m i).fix else 0).sum := by
  induction order generalizing db with
  | nil => exact (add_zero _).symm
  | cons i order ih =>
      have first : ((reportAll m i).after E (a i) db).vehicles = db.vehicles ∧
          ((reportAll m i).after E (a i) db).fixes =
            db.fixes + if E.stores db.vehicles (m i) then (reportAll m i).fix else 0 := by
        rw [after_reportAll, handled_db]
        split
        · refine ⟨rfl, ?_⟩
          simp only [DB.fixes, DB.ingest, DB.addPoint, Serial.rows_insert, List.map_append]
          rfl
        · exact ⟨rfl, (add_zero _).symm⟩
      refine ih.trans ?_
      rw [first.1, first.2, List.map_cons, List.sum_cons, add_assoc]

end

/-- The same rows in both, but for the ids of the history points and the order of the rows. -/
structure DB.Alike (db db' : DB) : Prop where
  busRoutes : db.busRoutes.rows = db'.busRoutes.rows
  vehicles : db.vehicles.rows = db'.vehicles.rows
  users : db.users.rows = db'.users.rows
  fixes : db.fixes = db'.fixes
  locations : db.vehicleCurrentLocation = db'.vehicleCurrentLocation

section

variable {ι : Type} [Fintype ι] [DecidableEq ι] {E : Engine} {db : DB} {a : ι → Ambient}
  {m : ι → GPSMessage} {schedule order : List ι}
  {s : System ι DB (Locks Lockable) (Except Failure Bool)}

/-- A vehicle that every session leaves alone is left alone. -/
theorem spared_vehicle {c : ι → Call} {v : Int} (enforced : E.constraints = true)
    (spared : ∀ i, (c i).Spares db.vehicles.next v)
    (played : (calling E db a c).play schedule = some s) : SameVehicle v db s.db := by
  have known : db.vehicles.next ≤ s.db.vehicles.next ∧ SameVehicle v db s.db := by
    refine calling_outcomes (P := fun _ db' => db.vehicles.next ≤ db'.vehicles.next ∧
      SameVehicle v db db') enforced (fun {results before after i} same running committed => ?_)
      (fun same _ _ => same) (fun same idle => ?_) ⟨le_rfl, .refl _ _⟩ played
    · exact ⟨same.1.trans committed.follows.next_le,
        same.2.trans (.of_committed committed same.1 (spared i))⟩
    · exact ⟨same.1.trans idle.vehicles.next_le, same.2.trans (.of_idle idle)⟩
  exact known.2

/-- Handler sessions store fixes and do nothing else. -/
theorem others_untouched (enforced : E.constraints = true)
    (played : (calling E db a (reportAll m)).play schedule = some s) :
    s.db.busRoutes.rows = db.busRoutes.rows ∧ s.db.vehicles.rows = db.vehicles.rows ∧
      s.db.users.rows = db.users.rows := by
  refine calling_outcomes (P := fun _ db' => db'.busRoutes.rows = db.busRoutes.rows ∧
    db'.vehicles.rows = db.vehicles.rows ∧ db'.users.rows = db.users.rows) enforced
    (fun same _ committed => ?_) (fun same _ _ => same) (fun same idle => ?_) ⟨rfl, rfl, rfl⟩ played
  · unfold reportAll at committed
    cases committed with
    | nothing updates => exact updates.elim
    | report => exact same
  · rw [idle.busRoutes.rows, idle.vehicles.rows, idle.users.rows]
    exact same

/-- A session that has ended answered, and left of its vehicle, what the call does alone. -/
theorem ended_alone (enforced : E.constraints = true)
    (different : Function.Injective fun i => ((m i).vehicleId : Int))
    (played : (calling E db a (reportAll m)).play schedule = some s)
    (ended : ∀ i, s.results i ≠ none) (i : ι) :
    s.results i = some (settle db (handleGpsMessage E db (m i))).1 ∧
      s.db.vehicleCurrentLocation.get (m i).vehicleId =
        (settle db (handleGpsMessage E db (m i))).2.vehicleCurrentLocation.get
          (m i).vehicleId := by
  obtain ⟨result, done⟩ := Option.ne_none_iff_exists'.mp (ended i)
  have isolated := isolated_played (c := reportAll m) (i := i) enforced rfl
    (fun j apart => different.ne apart) played
  obtain ⟨answer, location⟩ := isolated.after result done
  exact ⟨done.trans (congrArg some answer), location⟩

/-- **Serializability.**  Handler sessions of different vehicles that have all ended leave, up to
the ids of the points, what they leave one after another in any order, and each has answered what
it answers at its turn there. -/
theorem different_vehicles_serializable (enforced : E.constraints = true)
    (different : Function.Injective fun i => ((m i).vehicleId : Int))
    (played : (calling E db a (reportAll m)).play schedule = some s)
    (ended : ∀ i, s.results i ≠ none) (once : order.Nodup) (all : ∀ i, i ∈ order) :
    s.db.Alike (serially E db a (reportAll m) order) ∧
      ∀ before i after, order = before ++ i :: after →
        s.results i = some (settle (serially E db a (reportAll m) before)
          (handleGpsMessage E (serially E db a (reportAll m) before) (m i))).1 := by
  have alone := ended_alone enforced different played ended
  obtain ⟨vehicles, busRoutes, users⟩ := @serially_untouched ι E a m db order
  obtain ⟨sameRoutes, sameVehicles, sameUsers⟩ := others_untouched enforced played
  refine ⟨⟨?_, ?_, ?_, ?_, Table.ext_get fun v => ?_⟩, fun before i after split => ?_⟩
  · rw [busRoutes, sameRoutes]
  · rw [vehicles, sameVehicles]
  · rw [users, sameUsers]
  · have stored (i : ι) : (if s.results i = some (.ok true) then (reportAll m i).fix else 0) =
        if E.stores db.vehicles (m i) then (reportAll m i).fix else 0 := by
      rw [(alone i).1]
      exact if_congr (Option.some_inj.trans handled_ok) rfl rfl
    have complete : order.toFinset = Finset.univ :=
      Finset.eq_univ_of_forall fun i => List.mem_toFinset.mpr (all i)
    rw [calling_fixes enforced played, serially_fixes, acknowledged,
      Finset.sum_congr rfl fun i _ => stored i, ← complete, List.sum_toFinset _ once]
  · by_cases reported : ∃ i, ((m i).vehicleId : Int) = v
    · obtain ⟨i, rfl⟩ := reported
      obtain ⟨before, after, rfl⟩ := List.append_of_mem (all i)
      obtain ⟨first, last⟩ := spared_in_turn different once
      have before : SameVehicle (m i).vehicleId db (serially E db a (reportAll m) before) :=
        .serially first
      rw [serially_append]
      refine ((alone i).2.trans ?_).trans (SameVehicle.serially last).location.symm
      rw [after_reportAll, before.handled]
    · have none (i : ι) : ((m i).vehicleId : Int) ≠ v := fun same => reported ⟨i, same⟩
      have untouched : SameVehicle v db (serially E db a (reportAll m) order) :=
        .serially fun i _ => none i
      exact (spared_vehicle enforced none played).location.trans untouched.location.symm
  · subst split
    have before : SameVehicle (m i).vehicleId db (serially E db a (reportAll m) before) :=
      .serially (spared_in_turn different once).1
    rw [(alone i).1, before.answer]

end

theorem different_vehicles_serializable_two : ∃ s, reportingBoth.play inTurns = some s ∧
    s.db.Alike (serially postgres .withTwoVehicles (fun _ => plainAmbient) (reportAll oneEach)
      [true, false]) := by
  have ran : (reportingBoth.play inTurns).any (fun s => ∀ i, s.results i ≠ none) = true := by
    decide +kernel
  obtain ⟨s, played, ended⟩ := (Option.any_eq_true _ _).mp ran
  have different : Function.Injective fun i => ((oneEach i).vehicleId : Int) := by decide
  exact ⟨s, played, (different_vehicles_serializable rfl different played (of_decide_eq_true ended)
    (by decide) (by decide)).1⟩

end FleetTracking
