import FleetTracking.LatestLocation

/-!
# Two fixes of one vehicle at once

Two `handle_gps_message` sessions for one active vehicle, interleaved statement by
statement.  Both decide by the current location as they loaded it and write later: an older
fix can overwrite a newer one, two fixes with one timestamp can each set some columns of the
row, and on a vehicle's first fixes the second `INSERT` of the current location hits the
primary key and takes its history point down with it.

`concurrent_fixes_ingested` says exactly when every schedule stores both fixes and leaves a
current location that is one of the stored fixes and none newer.
-/

namespace FleetTracking

open Relational ReadCommitted Python

/-- The two sessions, at their first statements. -/
def ingesting (E : Engine) (db : DB) (m : Bool → GPSMessage) :
    System Bool DB RowLock (Except Failure Bool) :=
  .start db fun i => handleGpsMessageTxn E rowLocks (m i)

/-! ## What the tables should say -/

/-- `fix` is stored for vehicle `v`, and nothing newer is. -/
structure Reports (t : Serial GPSPoint) (v : Int) (fix : Fix) : Prop where
  stored : ∃ p ∈ t.toTable, p.vehicleId = v ∧ p.toFix = fix
  newest : ∀ p ∈ t.toTable, p.vehicleId = v → p.recordedAt ≤ fix.recordedAt

/-- The current location of `v` agrees with its history. -/
structure Agrees (db : DB) (v : Int) : Prop where
  without : db.vehicleCurrentLocation.get v = none →
    ∀ p ∈ db.gpsPoints.toTable, p.vehicleId ≠ v
  within : ∀ c, db.vehicleCurrentLocation.get v = some c → Reports db.gpsPoints v c.toFix

/-- Each of the two fixes has got a history point of its own. -/
def BothStored (db : DB) (m : Bool → GPSMessage) (db' : DB) : Prop :=
  ∃ p : Bool → GPSPoint, (p false).id ≠ (p true).id ∧ ∀ i, p i ∈ db'.gpsPoints.toTable ∧
    p i ∉ db.gpsPoints.toTable ∧ (p i).vehicleId = (m i).vehicleId ∧ (p i).toFix = (m i).fix

/-- Both fixes are in the history, and the current location is one stored fix, none newer. -/
structure Ingested (db : DB) (m : Bool → GPSMessage) (v : Int) (db' : DB) : Prop where
  points : BothStored db m db'
  location : ∃ c, db'.vehicleCurrentLocation.get v = some c ∧ Reports db'.gpsPoints v c.toFix

section

variable {E : Engine} {db before after : DB} {m : GPSMessage} {v : Int} {fix : Fix}
  {t : Serial GPSPoint} {vehicle : Vehicle} {row loaded c : VehicleCurrentLocation}
  {out : Except Failure Bool × DB}

theorem reports_insert (own : (m.vehicleId : Int) = v) :
    Reports (t.insert m.point) v fix ↔
      ((∃ p ∈ t.toTable, p.vehicleId = v ∧ p.toFix = fix) ∨ m.fix = fix) ∧
        (∀ p ∈ t.toTable, p.vehicleId = v → p.recordedAt ≤ fix.recordedAt) ∧
        m.recordedAt ≤ fix.recordedAt := by
  constructor
  · intro latest
    rcases latest with ⟨⟨p, member, mine, same⟩, newest⟩
    refine ⟨?_, fun q old => newest q (Serial.mem_insert.mpr (.inl old)),
      newest _ (Serial.mem_insert.mpr (.inr rfl)) own⟩
    rcases Serial.mem_insert.mp member with old | rfl
    · exact .inl ⟨p, old, mine, same⟩
    · exact .inr same
  · intro latest
    rcases latest with ⟨stored, newest, notNewer⟩
    refine ⟨?_, fun q member mine => ?_⟩
    · rcases stored with ⟨p, old, mine, same⟩ | same
      · exact ⟨p, Serial.mem_insert.mpr (.inl old), mine, same⟩
      · exact ⟨_, Serial.mem_insert.mpr (.inr rfl), own, same⟩
    · rcases Serial.mem_insert.mp member with old | rfl
      · exact newest q old mine
      · exact notNewer

/-- A fix that is newer than the one reported is reported itself. -/
theorem Reports.insert_newer (reports : Reports t v fix) (own : (m.vehicleId : Int) = v)
    (newer : fix.recordedAt ≤ m.recordedAt) : Reports (t.insert m.point) v m.fix :=
  (reports_insert own).mpr ⟨.inr rfl,
    fun p member mine => (reports.newest p member mine).trans newer, le_rfl⟩

/-- A fix that is not newer than the one reported does not change the report. -/
theorem Reports.insert_older (reports : Reports t v fix) (own : (m.vehicleId : Int) = v)
    (older : m.recordedAt ≤ fix.recordedAt) : Reports (t.insert m.point) v fix :=
  (reports_insert own).mpr ⟨.inl reports.stored, reports.newest, older⟩

/-- The location of the fix's own vehicle after it came in. -/
theorem get_ingest (own : (m.vehicleId : Int) = v)
    (found : db.vehicleCurrentLocation.get v = some c) :
    (db.ingest m).vehicleCurrentLocation.get v =
      some (if m.recordedAt > c.recordedAt then m.current else c) := by
  subst own
  refine (get_upsertLatest.trans (if_pos rfl)).trans ?_
  simp only [GPSMessage.vehicleId_current, found, m.recordedAt_current]
  exact (apply_ite some _ _ _).symm

theorem Agrees.of_reports (found : db.vehicleCurrentLocation.get v = some c)
    (reports : Reports db.gpsPoints v c.toFix) : Agrees db v := by
  constructor
  · intro absent
    cases absent.symm.trans found
  · intro c' found'
    cases found'.symm.trans found
    exact reports

/-- Storing a fix alone leaves a location that agrees with the history. -/
theorem Agrees.ingest (agrees : Agrees db v) (own : (m.vehicleId : Int) = v) :
    ∃ c, (db.ingest m).vehicleCurrentLocation.get v = some c ∧
      Reports (db.ingest m).gpsPoints v c.toFix := by
  cases found : db.vehicleCurrentLocation.get v with
  | none =>
      have noHistory := agrees.without found
      refine ⟨m.current, ?_, (reports_insert own).mpr ⟨.inr rfl, fun p member mine =>
        (noHistory p member mine).elim, le_rfl⟩⟩
      subst own
      refine (get_upsertLatest.trans (if_pos rfl)).trans ?_
      simp only [GPSMessage.vehicleId_current, found]
  | some c =>
      have reports := agrees.within c found
      refine ⟨_, get_ingest own found, ?_⟩
      split
      · next newer => exact reports.insert_newer own (le_of_lt newer)
      · next older => exact reports.insert_older own (not_lt.mp older)

/-! ## One session between the other's reads and commits -/

/-- A session that has loaded the current location makes its changes to the row as it is by the
time of the commit, and stores its point. -/
theorem storeFix_split
    (split : (storeFix E rowLocks m (some loaded)).Split before after [] out)
    (present : after.vehicles.HasKey m.vehicleId)
    (found : after.vehicleCurrentLocation.get m.vehicleId = some row) :
    out = (.ok true, { after.addPoint m with
      vehicleCurrentLocation :=
        if m.recordedAt > loaded.recordedAt then
          after.vehicleCurrentLocation.put (m.update loaded row)
        else after.vehicleCurrentLocation }) := by
  rw [← storeFix_solo_some (E := E) (L := rowLocks) present found]
  have update := stmt_updateCurrent (E := E) (L := rowLocks) after loaded found
  simp only [storeFix] at split ⊢
  split_ifs at split ⊢
  · obtain ⟨_, _, split⟩ := Txn.Split.of_write split update
    have point : (insertPoint E rowLocks m).stmt (visible [updateCurrent E rowLocks m loaded] after)
        = .ok _ := stmt_insertPoint (by rwa [visible, List.foldl, Write.apply_of_ok update])
    obtain ⟨_, _, split⟩ := Txn.Split.of_write split point
    rw [split.of_commit]
    simp only [Txn.solo, visible_nil, update, List.nil_append, point]
  · obtain ⟨_, _, split⟩ := Txn.Split.of_write split (stmt_insertPoint present)
    rw [split.of_commit]
    simp only [Txn.solo, visible_nil, stmt_insertPoint present]

/-- The first `SELECT` of a session for an active vehicle. -/
theorem handleGpsMessageTxn_split
    (split : (handleGpsMessageTxn E rowLocks m).Split before after [] out) (takes : E.Takes m)
    (found : before.vehicles.get m.vehicleId = some vehicle)
    (active : vehicle.isActive = some true) (fixed : after.vehicles = before.vehicles) :
    ∃ x, Txn.Onward after before x ∧
      (storeFix E rowLocks m (x.vehicleCurrentLocation.get m.vehicleId)).Split x after [] out := by
  unfold handleGpsMessageTxn at split
  rw [if_pos takes.1] at split
  obtain ⟨x, onward, split⟩ := split.of_select
  have vehicles : x.vehicles = before.vehicles := onward.agree fixed
  rw [visible_nil, vehicles, found] at split
  dsimp only at split
  rw [if_neg (not_not.mpr active), if_pos takes.2] at split
  exact ⟨x, onward, split⟩

/-! ## Two fixes with one timestamp -/

/-- Of the columns in which the stored fixes differ, the update by `q` sets every one. -/
def SetsAll (c : VehicleCurrentLocation) (p q : GPSMessage) : Prop :=
  (q.lat.1.eq c.lat.1 = true → p.fix.lat = q.fix.lat) ∧
    (q.lng.1.eq c.lng.1 = true → p.fix.lng = q.fix.lng) ∧
    (q.speed.1.eq c.speed.1 = true → p.fix.speed = q.fix.speed)

/-- Of the columns in which the stored fixes differ, the update by `q` sets none. -/
def SetsNone (c : VehicleCurrentLocation) (p q : GPSMessage) : Prop :=
  (q.lat.1.eq c.lat.1 = false → q.fix.lat = p.fix.lat) ∧
    (q.lng.1.eq c.lng.1 = false → q.fix.lng = p.fix.lng) ∧
    (q.speed.1.eq c.speed.1 = false → q.fix.speed = p.fix.speed)

theorem update_eq_fix {p q : GPSMessage} (newer : q.recordedAt ≠ c.recordedAt) :
    (q.update c p.current).toFix = q.fix ↔ SetsAll c p q := by
  simp only [GPSMessage.update, if_neg newer, Fix.mk.injEq, GPSMessage.fix, ite_eq_right_iff,
    SetsAll, GPSMessage.current, and_true]

theorem update_eq_other {p q : GPSMessage} (same : q.recordedAt = p.recordedAt) :
    (q.update c p.current).toFix = p.fix ↔ SetsNone c p q := by
  simp only [GPSMessage.update, Fix.mk.injEq, GPSMessage.fix, ite_eq_left_iff, SetsNone,
    GPSMessage.current, same, implies_true, and_true, Bool.not_eq_true]

/-! ## Both orders -/

/-- `q` is stored after `p` by a session that had loaded `c` before. -/
theorem reports_late {p q : GPSMessage} (reports : Reports db.gpsPoints v c.toFix)
    (ownP : (p.vehicleId : Int) = v) (ownQ : (q.vehicleId : Int) = v)
    (newerQ : q.recordedAt > c.recordedAt) :
    Reports ((db.gpsPoints.insert p.point).insert q.point) v (q.update c p.current).toFix ↔
      p.recordedAt ≤ q.recordedAt ∧
        (SetsAll c p q ∨ (p.recordedAt = q.recordedAt ∧ SetsNone c p q)) := by
  have time : (q.update c p.current).recordedAt = q.recordedAt := if_neg newerQ.ne'
  have older : ∀ r ∈ db.gpsPoints.toTable, r.vehicleId = v → r.recordedAt < q.recordedAt :=
    fun r member mine => (reports.newest r member mine).trans_lt newerQ
  rw [reports_insert ownQ]
  constructor
  · intro latest
    rcases latest with ⟨stored, newest, _⟩
    have notNewer : p.recordedAt ≤ q.recordedAt :=
      time ▸ newest _ (Serial.mem_insert.mpr (.inr rfl)) ownP
    refine ⟨notNewer, ?_⟩
    rcases stored with ⟨r, member, mine, same⟩ | same
    · have sameTime : r.recordedAt = q.recordedAt := (congrArg Fix.recordedAt same).trans time
      rcases Serial.mem_insert.mp member with old | rfl
      · exact ((older r old mine).ne sameTime).elim
      · exact .inr ⟨sameTime, (update_eq_other sameTime.symm).mp same.symm⟩
    · exact .inl ((update_eq_fix newerQ.ne').mp same.symm)
  · intro harmless
    rcases harmless with ⟨notNewer, sets⟩
    refine ⟨?_, fun r member mine => ?_, time.ge⟩
    · rcases sets with all | ⟨sameTime, none⟩
      · exact .inr ((update_eq_fix newerQ.ne').mpr all).symm
      · exact .inl ⟨_, Serial.mem_insert.mpr (.inr rfl), ownP,
          ((update_eq_other sameTime.symm).mpr none).symm⟩
    · rcases Serial.mem_insert.mp member with old | rfl
      · exact (older r old mine).le.trans time.ge
      · exact notNewer.trans time.ge

/-! ## Every schedule -/

variable {m : Bool → GPSMessage} {i : Bool} {s : System Bool DB RowLock (Except Failure Bool)}

/-- Two points more, one for each fix. -/
theorem bothStored_of_insert {db' : DB}
    (points : db'.gpsPoints = (db.gpsPoints.insert (m i).point).insert (m (!i)).point) :
    BothStored db m db' := by
  let stored (j : Bool) : GPSPoint :=
    { (m j).point with id := if j = i then db.gpsPoints.next else db.gpsPoints.next + 1 }
  refine ⟨stored, ?_, fun j => ⟨?_, fun old => ?_, rfl, rfl⟩⟩
  · cases i <;> simp [stored]
  · rw [points, Serial.mem_insert, Serial.mem_insert]
    by_cases turn : j = i
    · subst turn
      exact .inl (.inr (by simp [stored]))
    · rw [← Bool.eq_not.mpr turn]
      exact .inr (by simp [stored, turn])
  · have below := Serial.key_lt old
    have drawn : db.gpsPoints.next ≤ (stored j).id := by
      simp only [stored]
      split <;> omega
    exact below.not_ge drawn

/-- One point more is not enough for both fixes. -/
theorem not_bothStored {db' : DB} {k : Int}
    (points : ∀ p ∈ db'.gpsPoints.toTable, p ∈ db.gpsPoints.toTable ∨ p.id = k) :
    ¬ BothStored db m db' := by
  intro twice
  rcases twice with ⟨p, distinct, stored⟩
  have same : ∀ j, (p j).id = k := fun j =>
    (points _ (stored j).1).resolve_left (stored j).2.1
  exact distinct ((same false).trans (same true).symm)

/-- `q` stored after `p` by a session that had loaded `c` before. -/
def DB.late (db : DB) (c : VehicleCurrentLocation) (p q : GPSMessage) : DB :=
  { (db.ingest p).addPoint q with
    vehicleCurrentLocation :=
      if q.recordedAt > c.recordedAt then
        (db.ingest p).vehicleCurrentLocation.put
          (q.update c (if p.recordedAt > c.recordedAt then p.current else c))
      else (db.ingest p).vehicleCurrentLocation }

/-- Late or not, the location agrees with the history unless both fixes are newer than what
the late session had loaded. -/
theorem late_reports {p q : GPSMessage} (found : db.vehicleCurrentLocation.get v = some c)
    (reports : Reports db.gpsPoints v c.toFix) (ownP : (p.vehicleId : Int) = v)
    (ownQ : (q.vehicleId : Int) = v) :
    (∃ c', (db.late c p q).vehicleCurrentLocation.get v = some c' ∧
      Reports (db.late c p q).gpsPoints v c'.toFix) ↔
    (p.recordedAt > c.recordedAt → q.recordedAt > c.recordedAt →
      p.recordedAt ≤ q.recordedAt ∧
        (SetsAll c p q ∨ (p.recordedAt = q.recordedAt ∧ SetsNone c p q))) := by
  have here := get_ingest ownP found
  have own : c.vehicleId = v := (Table.get_eq_some.mp found).2
  by_cases newerQ : q.recordedAt > c.recordedAt
  · by_cases newerP : p.recordedAt > c.recordedAt
    · have final : (db.late c p q).vehicleCurrentLocation.get v =
          some (q.update c p.current) := by
        simp only [DB.late, if_pos newerQ, if_pos newerP]
        rw [Table.get_put]
        exact if_pos ⟨ownP.symm, .of_get here⟩
      simp only [final, Option.some.injEq, exists_eq_left', newerP, newerQ, forall_const]
      exact reports_late reports ownP ownQ newerQ
    · have final : (db.late c p q).vehicleCurrentLocation.get v = some q.current := by
        simp only [DB.late, if_pos newerQ, if_neg newerP]
        rw [q.update_self (own.trans ownQ.symm), Table.get_put]
        exact if_pos ⟨ownQ.symm, .of_get here⟩
      refine iff_of_true ⟨_, final, ?_⟩ fun newer => (newerP newer).elim
      exact (reports.insert_older ownP (not_lt.mp newerP)).insert_newer ownQ newerQ.le
  · refine iff_of_true ?_ fun _ newer => (newerQ newer).elim
    have final : (db.late c p q).vehicleCurrentLocation = (db.ingest p).vehicleCurrentLocation :=
      if_neg newerQ
    refine ⟨_, final ▸ here, ?_⟩
    split
    · next newerP =>
        exact (reports.insert_newer ownP newerP.le).insert_older ownQ
          ((not_lt.mp newerQ).trans newerP.le)
    · next olderP =>
        exact (reports.insert_older ownP (not_lt.mp olderP)).insert_older ownQ
          (not_lt.mp newerQ)

/-- Every schedule of the two sessions is harmless for a vehicle that is at `c`. -/
def Harmless (c : VehicleCurrentLocation) (m : Bool → GPSMessage) : Prop :=
  (∃ i, (m i).recordedAt ≤ c.recordedAt) ∨
    ((m false).recordedAt = (m true).recordedAt ∧
      ∀ i, SetsAll c (m i) (m (!i)) ∨ SetsNone c (m i) (m (!i)))

theorem harmless_iff : Harmless c m ↔ ∀ i, (m i).recordedAt > c.recordedAt →
    (m (!i)).recordedAt > c.recordedAt → (m i).recordedAt ≤ (m (!i)).recordedAt ∧
      (SetsAll c (m i) (m (!i)) ∨
        ((m i).recordedAt = (m (!i)).recordedAt ∧ SetsNone c (m i) (m (!i)))) := by
  constructor
  · intro harmless i newer newer'
    rcases harmless with ⟨j, older⟩ | ⟨sameTime, sets⟩
    · have either : j = i ∨ j = !i := by cases i <;> cases j <;> simp
      rcases either with rfl | rfl <;> omega
    · have times : (m i).recordedAt = (m (!i)).recordedAt := by
        cases i
        · exact sameTime
        · exact sameTime.symm
      exact ⟨times.le, (sets i).imp id fun none => ⟨times, none⟩⟩
  · intro late
    by_cases newer : ∀ i, (m i).recordedAt > c.recordedAt
    · have each := fun i => late i (newer i) (newer (!i))
      have sameTime := le_antisymm (each false).1 (each true).1
      exact .inr ⟨sameTime, fun i => (each i).2.imp id And.right⟩
    · obtain ⟨i, older⟩ := not_forall.mp newer
      exact .inl ⟨i, not_lt.mp older⟩

/-- What a session for an active vehicle does alone. -/
theorem handleGpsMessageTxn_alone {m : GPSMessage}
    (found : db.vehicles.get m.vehicleId = some vehicle)
    (active : vehicle.isActive = some true) :
    (E.Takes m ∧ (handleGpsMessageTxn E rowLocks m).solo [] db = (.ok true, db.ingest m)) ∨
      (¬ E.Takes m ∧ (handleGpsMessageTxn E rowLocks m).solo [] db = (.error .dbapiError, db)) := by
  rw [handleGpsMessageTxn_solo, handleGpsMessage_eq]
  by_cases bound : E.bigint m.vehicleId = true <;>
    by_cases time : E.timestamptz m.recordedAt = true <;>
    simp [Engine.Takes, bound, time, found, active, settle]

/-- Alone, a session adds one point at most. -/
theorem handleGpsMessageTxn_points {m : GPSMessage}
    (found : db.vehicles.get m.vehicleId = some vehicle) (active : vehicle.isActive = some true) :
    ∀ p ∈ ((handleGpsMessageTxn E rowLocks m).solo [] db).2.gpsPoints.toTable,
      p ∈ db.gpsPoints.toTable ∨ p.id = db.gpsPoints.next := by
  intro p member
  rcases handleGpsMessageTxn_alone (E := E) found active with ⟨_, done⟩ | ⟨_, refused⟩
  · rw [done] at member
    exact (Serial.mem_insert.mp member).imp id (congrArg GPSPoint.id)
  · rw [refused] at member
    exact .inl member

/-- A session for an active vehicle goes on to store the fix. -/
theorem handleGpsMessageTxn_reads {m : GPSMessage} {out : Except Failure Bool × DB}
    (found : before.vehicles.get m.vehicleId = some vehicle)
    (active : vehicle.isActive = some true) (takes : E.Takes m)
    (free : (storeFix E rowLocks m (before.vehicleCurrentLocation.get m.vehicleId)).FreeSplit
      before after [] out) : (handleGpsMessageTxn E rowLocks m).FreeSplit before after [] out := by
  unfold handleGpsMessageTxn
  rw [if_pos takes.1]
  refine .select ?_
  rw [visible_nil, found]
  dsimp only
  rwa [if_neg (not_not.mpr active), if_pos takes.2]

/-- A session that finds no current location, and then finds one in its way, loses its
point. -/
theorem handleGpsMessageTxn_collides {m : GPSMessage}
    (found : before.vehicles.get m.vehicleId = some vehicle)
    (active : vehicle.isActive = some true) (takes : E.Takes m)
    (absent : before.vehicleCurrentLocation.get m.vehicleId = none)
    (present : after.vehicleCurrentLocation.get m.vehicleId = some row)
    (fixed : after.vehicles = before.vehicles) :
    ∃ final, (handleGpsMessageTxn E rowLocks m).FreeSplit before after []
        (.error .integrityError, final) ∧
      final.gpsPoints.toTable = after.gpsPoints.toTable := by
  have here : before.vehicles.HasKey m.vehicleId := .of_get found
  have there : after.vehicles.HasKey m.vehicleId := fixed ▸ here
  have duplicate : (insertCurrent E rowLocks m).stmt (after.addPoint m) =
      .error (.error .integrityError) := by
    have rejected : E.insertCurrentRow (after.addPoint m) m.current =
        .error .integrityError := by
      unfold Engine.insertCurrentRow
      split
      · rfl
      · next absent => cases present.symm.trans absent
    simp only [insertCurrent, Statement.plain, rejected, Except.mapError]
  have lost : (Txn.write (insertCurrent E rowLocks m) (.commit (.ok true))).solo
      [insertPoint E rowLocks m] after =
        (.error .integrityError, (insertPoint E rowLocks m).residue after) := by
    simp only [Txn.solo, visible_insertPoint there, duplicate]
    rfl
  refine ⟨(insertPoint E rowLocks m).residue after, ?_, ?_⟩
  · refine handleGpsMessageTxn_reads found active takes ?_
    rw [absent]
    refine .write rfl (stmt_insertPoint here) (.select ?_)
    rw [List.nil_append, visible_insertPoint here]
    have still : (before.addPoint m).vehicleCurrentLocation.get m.vehicleId = none := absent
    rw [still, ← lost]
    exact .switch
  · simp only [insertPoint]
    split <;> rfl

/-- A session that has loaded the current location before the other one's commit is late. -/
theorem storeFix_late {p q : GPSMessage} {x : DB} {out : Except Failure Bool × DB}
    (split : (storeFix E rowLocks q (some c)).Split x (db.ingest p) [] out)
    (ownP : (p.vehicleId : Int) = v) (ownQ : (q.vehicleId : Int) = v)
    (present : db.vehicles.HasKey v) (found : db.vehicleCurrentLocation.get v = some c) :
    out = (.ok true, db.late c p q) := by
  subst ownQ
  exact storeFix_split split present (get_ingest ownP found)

/-- **When two fixes can come in at once.**  Every schedule of the two sessions of an active
vehicle stores both fixes and leaves a location that is one stored fix, none newer, exactly
when the driver takes both, the vehicle has a location already, and one of the fixes is not
newer than that or both have one timestamp and neither update mixes them. -/
theorem concurrent_fixes_ingested (E : Engine) (db : DB) (v : Int) (vehicle : Vehicle)
    (m : Bool → GPSMessage) (found : db.vehicles.get v = some vehicle)
    (active : vehicle.isActive = some true) (own : ∀ i, ((m i).vehicleId : Int) = v)
    (agrees : Agrees db v) :
    (∀ schedule s, (ingesting E db m).run schedule = some s → s.Finished →
      Ingested db m v s.db) ↔
    (∀ i, E.Takes (m i)) ∧ ∃ c, db.vehicleCurrentLocation.get v = some c ∧ Harmless c m := by
  have found' : ∀ i, db.vehicles.get (m i).vehicleId = some vehicle := fun i => own i ▸ found
  constructor
  · intro ingested
    have reaches : ∀ i {out' : Except Failure Bool} {final : DB},
        (handleGpsMessageTxn E rowLocks (m (!i))).FreeSplit db
          ((handleGpsMessageTxn E rowLocks (m i)).solo [] db).2 [] (out', final) →
        Ingested db m v final := by
      intro i out' final free
      obtain ⟨schedule, s, ran, finished, _, _, last⟩ :=
        System.run_of_start (fun i => handleGpsMessageTxn E rowLocks (m i)) rfl free
      exact last ▸ ingested schedule s ran finished
    have takes : ∀ i, E.Takes (m i) := by
      intro i
      by_contra refuses
      rcases handleGpsMessageTxn_alone (E := E) (found' i) active with ⟨takes, _⟩ | ⟨_, refused⟩
      · exact refuses takes
      have serial := reaches i (by rw [refused]; exact .switch)
      exact not_bothStored (handleGpsMessageTxn_points (found' (!i)) active) serial.points
    have alone : ∀ i, (handleGpsMessageTxn E rowLocks (m i)).solo [] db =
        (.ok true, db.ingest (m i)) := by
      intro i
      rcases handleGpsMessageTxn_alone (E := E) (found' i) active with ⟨_, done⟩ | ⟨refused, _⟩
      · exact done
      · exact (refused (takes i)).elim
    refine ⟨takes, ?_⟩
    cases located : db.vehicleCurrentLocation.get v with
    | none =>
        obtain ⟨c, here, _⟩ := agrees.ingest (own false)
        obtain ⟨final, collides, same⟩ := handleGpsMessageTxn_collides (found' true) active
          (takes true) (own true ▸ located) (own true ▸ here)
          (show (db.ingest (m false)).vehicles = db.vehicles from rfl)
        have torn := reaches false (by rw [alone]; exact collides)
        refine (not_bothStored (k := db.gpsPoints.next) (fun p member => ?_) torn.points).elim
        rw [same] at member
        exact (Serial.mem_insert.mp member).imp id (congrArg GPSPoint.id)
    | some c =>
        refine ⟨c, rfl, harmless_iff.mpr fun i => ?_⟩
        have late : (handleGpsMessageTxn E rowLocks (m (!i))).FreeSplit db (db.ingest (m i)) []
            (.ok true, db.late c (m i) (m (!i))) := by
          refine handleGpsMessageTxn_reads (found' (!i)) active (takes (!i)) ?_
          rw [own, located, ← storeFix_late (E := E) (x := db) .switch (own i) (own (!i))
            (.of_get found) located]
          exact .switch
        have reported := (reaches i (by rw [alone]; exact late)).location
        exact (late_reports located (agrees.within c located) (own i) (own (!i))).mp reported
  · intro stands schedule s ran finished
    rcases stands with ⟨takes, c, located, harmless⟩
    obtain ⟨i, out, after, solo, _, out', _, split⟩ := System.split_of_start ran finished
    have first : after = db.ingest (m i) := by
      rcases handleGpsMessageTxn_alone (E := E) (found' i) active with ⟨_, done⟩ | ⟨refused, _⟩
      · exact (Prod.mk.inj (solo.symm.trans done)).2
      · exact (refused (takes i)).elim
    subst first
    obtain ⟨x, onward, split⟩ :=
      handleGpsMessageTxn_split split (takes (!i)) (found' (!i)) active rfl
    rcases onward with rfl | rfl
    · rw [own, located] at split
      obtain ⟨_, last⟩ := Prod.mk.inj
        (storeFix_late split (own i) (own (!i)) (.of_get found) located)
      refine ⟨bothStored_of_insert (i := i) (last ▸ rfl), last ▸ ?_⟩
      exact (late_reports located (agrees.within c located) (own i) (own (!i))).mpr
        (harmless_iff.mp harmless i)
    · obtain ⟨_, last⟩ := Prod.mk.inj
        (split.eq_solo.trans (storeFix_solo (.of_get (found' (!i)))))
      obtain ⟨c', here, reports⟩ := agrees.ingest (own i)
      have agrees' : Agrees (db.ingest (m i)) v := .of_reports here reports
      refine ⟨bothStored_of_insert (i := i) (last ▸ rfl), last ▸ ?_⟩
      exact agrees'.ingest (own (!i))

/-- The first vehicle, as created. -/
def firstVehicle : Vehicle := ⟨1, some "V1", some "One", some true, 0⟩

/-- The database after the first vehicle's first fix. -/
def DB.withFirstFix : DB := DB.withFirstVehicle.ingest earlyFix

/-- Two later fixes, one second apart. -/
def laterFixes (i : Bool) : GPSMessage :=
  if i then firstVehicleFix ⟨.fin 3, by decide +kernel⟩ (seconds 2) (by decide) else lateFix

theorem agrees_withFirstFix : Agrees .withFirstFix 1 :=
  have noHistory : ∀ p ∈ DB.withFirstVehicle.gpsPoints.toTable, p.vehicleId ≠ 1 :=
    fun _ member => (Table.not_mem_empty member).elim
  have agrees : Agrees .withFirstVehicle 1 := ⟨fun _ => noHistory, fun _ found => by cases found⟩
  have ⟨_, found, reports⟩ := agrees.ingest (m := earlyFix) rfl
  .of_reports found reports

theorem concurrent_fixes_ingested_two :
    (∀ schedule s, (ingesting postgres .withFirstFix laterFixes).run schedule = some s →
      s.Finished → Ingested .withFirstFix laterFixes 1 s.db) ↔
    (∀ i, postgres.Takes (laterFixes i)) ∧
      ∃ c, DB.withFirstFix.vehicleCurrentLocation.get 1 = some c ∧ Harmless c laterFixes :=
  concurrent_fixes_ingested postgres .withFirstFix 1 firstVehicle laterFixes (by decide +kernel)
    rfl (by decide) agrees_withFirstFix

/-- The older of two fixes, loaded first and written last, stays the current location. -/
theorem concurrent_fixes_regress :
    ¬ ∀ (db : DB) (v : Int) (vehicle : Vehicle) (m : Bool → GPSMessage),
      db.vehicles.get v = some vehicle → vehicle.isActive = some true →
      (∀ i, ((m i).vehicleId : Int) = v) → Agrees db v →
      ∀ schedule s, (ingesting postgres db m).run schedule = some s → s.Finished →
        Ingested db m v s.db := by
  intro ingested
  have regressed : ((ingesting postgres .withFirstFix laterFixes).run
      (false :: List.replicate 4 true ++ List.replicate 3 false)).any
        (fun s => s.Finished ∧ s.db.vehicleCurrentLocation.get 1 = some lateFix.current ∧
          ∃ p ∈ s.db.gpsPoints.rows, p.vehicleId = 1 ∧ lateFix.recordedAt < p.recordedAt) =
      true := by
    decide +kernel
  obtain ⟨s, ran, facts⟩ := (Option.any_eq_true _ _).mp regressed
  obtain ⟨finished, located, p, member, own, newer⟩ := of_decide_eq_true facts
  obtain ⟨c, found, reports⟩ := (ingested .withFirstFix 1 firstVehicle laterFixes
    (by decide +kernel) rfl (by decide) agrees_withFirstFix _ s ran finished).location
  cases found.symm.trans located
  exact (reports.newest p member own).not_gt newer

end

end FleetTracking
