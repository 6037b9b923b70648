import FleetTracking.LatestLocation

/-!
# What a run cannot take back

Short of a fresh seed nothing that the fleet reported is lost: history points stay as they
were stored, a vehicle that has reported stays, and its current location only moves forward
in time.  `Persists` relates any two states of a run, however far apart; it is a preorder,
so one edit at a time is enough.
-/

namespace FleetTracking

open Relational

/-- Vehicle `v` has reported a fix. -/
def DB.HasFix (db : DB) (v : Int) : Prop :=
  (∃ p ∈ db.gpsPoints.toTable, p.vehicleId = v) ∨ db.vehicleCurrentLocation.HasKey v

/-- What the fleet reported by `s` is in `t`. -/
structure DB.Persists (s t : DB) : Prop where
  points : ∀ p ∈ s.gpsPoints.toTable, p ∈ t.gpsPoints.toTable
  locations : ∀ c ∈ s.vehicleCurrentLocation, ∃ c' ∈ t.vehicleCurrentLocation,
    c'.vehicleId = c.vehicleId ∧ c.recordedAt ≤ c'.recordedAt

namespace DB.Persists

variable {s t t' : DB}

theorem refl (s : DB) : s.Persists s :=
  ⟨fun _ => id, fun c member => ⟨c, member, rfl, le_rfl⟩⟩

theorem trans (first : s.Persists t) (second : t.Persists t') : s.Persists t' where
  points p member := second.points p (first.points p member)
  locations c member := by
    obtain ⟨c', member', same', later'⟩ := first.locations c member
    obtain ⟨c'', member'', same'', later''⟩ := second.locations c' member'
    exact ⟨c'', member'', same''.trans same', later'.trans later''⟩

/-- Only `ingest` writes to the two tables. -/
theorem of_tables (points : t.gpsPoints = s.gpsPoints)
    (locations : t.vehicleCurrentLocation = s.vehicleCurrentLocation) : s.Persists t where
  points _ member := points ▸ member
  locations c member := ⟨c, locations ▸ member, rfl, le_rfl⟩

/-- A fix is added to the history, and replaces an older location at most. -/
theorem ingest (s : DB) (m : GPSMessage) : s.Persists (s.ingest m) where
  points _ member := Serial.mem_insert.mpr (.inl member)
  locations c member := by
    have found : s.vehicleCurrentLocation.get c.vehicleId = some c :=
      Table.get_eq_some.mpr ⟨member, rfl⟩
    have location := get_upsertLatest (t := s.vehicleCurrentLocation) (c := m.current)
      (k := c.vehicleId)
    split at location
    · next own =>
        rw [← own, found] at location
        dsimp only at location
        split at location
        · next newer =>
            exact ⟨m.current, (Table.get_eq_some.mp location).1, own.symm, newer.le⟩
        · exact ⟨c, (Table.get_eq_some.mp location).1, rfl, le_rfl⟩
    · rw [found] at location
      exact ⟨c, (Table.get_eq_some.mp location).1, rfl, le_rfl⟩

/-- **Step.**  No edit but `wipe` takes back what was reported. -/
theorem apply (s : DB) {e : Edit} (notWipe : e ≠ .wipe) : s.Persists (e.apply s) := by
  cases e with
  | ingest m => exact ingest s m
  | wipe => exact (notWipe rfl).elim
  | _ => exact of_tables rfl rfl

/-- A vehicle that has reported is still there in any later consistent state.  Edits keep the
tables consistent because a vehicle is dropped only when both tables are empty of it. -/
theorem vehicle_kept (persists : s.Persists t) (consistent : Consistent t) {v : Int}
    (reported : s.HasFix v) : t.vehicles.HasKey v := by
  rcases reported with ⟨p, member, rfl⟩ | ⟨c, member, rfl⟩
  · exact consistent.points p (persists.points p member) p.vehicleId rfl
  · obtain ⟨c', member', same, _⟩ := persists.locations c member
    exact consistent.locations c' member' c.vehicleId (congrArg some same)

end DB.Persists

/-- An operation other than a fresh seed run wipes nothing. -/
theorem Op.Makes.ne_wipe {op : Op} {e : Edit} (makes : op.Makes e) (plain : op ≠ .seed true) :
    e ≠ .wipe := by
  rintro rfl
  cases op with
  | call c => cases c <;> exact makes.elim
  | seed fresh =>
      cases fresh with
      | false => exact makes.elim
      | true => exact plain rfl

theorem Op.after_persists {op : Op} (plain : op ≠ .seed true) (E : Engine) (settings : Settings)
    (a : Ambient) (s : DB) :
    s.Persists (op.after E settings a s) := by
  obtain ⟨es, run, makes⟩ := op.after_edits E settings a s
  exact run.keep (P := s.Persists) (Q := (· ≠ .wipe))
    (fun persists notWipe _ => persists.trans (.apply _ notWipe)) (.refl s)
    fun e member => (makes e member).ne_wipe plain

/-- **Run.** -/
theorem runOps_persists (E : Engine) (settings : Settings) (ops : List (Ambient × Op))
    (plain : ∀ step ∈ ops, step.2 ≠ .seed true) (s : DB) :
    s.Persists (runOps E settings s ops) := by
  induction ops generalizing s with
  | nil => exact .refl s
  | cons step ops ih =>
      have first := Op.after_persists (plain step List.mem_cons_self) E settings step.1 s
      exact first.trans (ih (fun later member => plain later (List.mem_cons_of_mem _ member)) _)

/-- Whatever a reachable database has of the fleet's reports, every later database of a run
without a fresh seed has too. -/
theorem reports_persist (E : Engine) (settings : Settings) {s : DB}
    (reachable : Reachable E settings s) (ops : List (Ambient × Op))
    (plain : ∀ step ∈ ops, step.2 ≠ .seed true) :
    s.Persists (runOps E settings s ops) ∧
      ∀ v, s.HasFix v → s.vehicles.HasKey v ∧ (runOps E settings s ops).vehicles.HasKey v := by
  have persists := runOps_persists E settings ops plain s
  have consistent : Consistent (runOps E settings s ops) :=
    runOps_keep Consistent.apply ops reachable.consistent
  exact ⟨persists, fun v reported =>
    ⟨DB.Persists.vehicle_kept (.refl s) reachable.consistent reported,
      persists.vehicle_kept consistent reported⟩⟩

/-- A late fix, then an early one, an attempt to delete the vehicle, and the seed again. -/
theorem reports_persist_late :
    let s := runOps postgres {} .demo [(plainAmbient, .call (.handleGpsMessage lateFix))]
    let ops : List (Ambient × Op) := [
      (plainAmbient, .call (.handleGpsMessage earlyFix)),
      (plainAmbient, .call (.deleteVehicle 1)),
      (plainAmbient, .seed false)]
    s.Persists (runOps postgres {} s ops) ∧
      ∀ v, s.HasFix v → s.vehicles.HasKey v ∧ (runOps postgres {} s ops).vehicles.HasKey v :=
  reports_persist postgres {}
    ⟨[(plainAmbient, .seed false), (plainAmbient, .call (.handleGpsMessage lateFix))], rfl⟩
    [(plainAmbient, .call (.handleGpsMessage earlyFix)),
      (plainAmbient, .call (.deleteVehicle 1)),
      (plainAmbient, .seed false)]
    (fun step member => by
      rcases List.mem_cons.mp member with rfl | member
      · nofun
      · rcases List.mem_cons.mp member with rfl | member
        · nofun
        · obtain rfl := List.mem_singleton.mp member
          nofun)

end FleetTracking
