import FleetTracking.AcceptedFixes
import FleetTracking.Freshness

/-!
# The status rule

The documented rule: offline when the latest fix is older than the configured window, else
moving above 5 km/h, else idle.  `derive_status` uses a window of its own and the speed as the
column has rounded it; `reports_rule_iff` says when the two come to the same.
-/

namespace FleetTracking

open Relational Python Pydantic

/-- The documented rule, for a fix sent with this time and speed. -/
def statusRule (settings : Settings) (recordedAt : Int) (speed : ℚ) (now : Int) : Status :=
  if now - recordedAt > seconds settings.gpsStalenessSeconds then .offline
  else if 5 < speed then .moving
  else .idle

/-- Both reads show this status: to users of the vehicle, and in the fleet list. -/
structure ReportsStatus (db : DB) (vehicle : Vehicle) (now : Int) (status : Status) : Prop where
  users : ∀ u : User, u.vehicleId = some vehicle.id →
    ∃ live, getCurrentLocation now db u = .ok live ∧ live.status = status
  fleet : ∃ row live, adminVehicleOut db now vehicle = .ok row ∧
    row.currentLocation = some live ∧ live.status = status

section

variable {E : Engine} {settings : Settings} {db : DB} {vehicle : Vehicle}
  {c : VehicleCurrentLocation} {status : Status} {recordedAt now : Int} {speed : ℚ}

/-- What is reported is what `derive_status` makes of the row. -/
theorem reports_iff (filled : Filled db) (found : db.vehicles.get vehicle.id = some vehicle)
    (present : db.vehicleCurrentLocation.get vehicle.id = some c) :
    ReportsStatus db vehicle now status ↔
      deriveStatus (some c.recordedAt) (some c.speed.1) now = .ok status := by
  constructor
  · intro reports
    obtain ⟨row, live, listed, located, rfl⟩ := reports.fleet
    exact derived_of_adminVehicleOut present listed located
  · intro derived
    exact ⟨fun u holds => getCurrentLocation_derived filled found holds present derived,
      adminVehicleOut_derived filled (Table.get_eq_some.mp found).1 present derived⟩

/-- `derive_status` on a row that holds a finite speed rounded to two decimals. -/
theorem deriveStatus_quantize (nonneg : 0 ≤ speed) :
    deriveStatus (some recordedAt) (some ((Number.fin speed).quantize 2)) now =
      .ok (if now - recordedAt > staleAfter then .offline
        else if 1001 / 200 ≤ speed then .moving else .idle) := by
  have above : (5 : ℚ) < Number.roundHalfUp 2 speed ↔ 1001 / 200 ≤ speed := by
    have step : ((5 : ℤ) : ℚ) < Number.roundHalfUp 2 speed ↔ _ :=
      Number.lt_roundHalfUp_iff nonneg
    norm_num at step ⊢
    exact step
  unfold deriveStatus
  dsimp only
  split
  · rfl
  · simp only [Number.quantize, Option.getD_some, decimalGt, movingThresholdKmh, reduceCtorEq,
      or_self, if_false, Number.lt, above, Except.map, decide_eq_true_eq]

/-- Where the two windows and the two speeds come to the same. -/
theorem statusRule_eq_iff :
    (if now - recordedAt > staleAfter then Status.offline
        else if 1001 / 200 ≤ speed then .moving else .idle) =
          statusRule settings recordedAt speed now ↔
      (now - recordedAt > staleAfter ∧
          now - recordedAt > seconds settings.gpsStalenessSeconds) ∨
        (now - recordedAt ≤ staleAfter ∧
          now - recordedAt ≤ seconds settings.gpsStalenessSeconds ∧
          ¬ (5 < speed ∧ speed < 1001 / 200)) := by
  unfold statusRule
  rcases lt_or_ge staleAfter (now - recordedAt) with stale | fresh <;>
    rcases lt_or_ge (seconds settings.gpsStalenessSeconds) (now - recordedAt) with old | recent
  · simp only [gt_iff_lt, stale, old, if_true, true_and, true_or]
  · refine iff_of_false ?_ ?_
    · rw [if_pos stale, if_neg recent.not_gt]
      split <;> simp
    · rintro (⟨_, old⟩ | ⟨fresh, _⟩)
      · exact recent.not_gt old
      · exact fresh.not_gt stale
  · refine iff_of_false ?_ ?_
    · rw [if_neg fresh.not_gt, if_pos old]
      split <;> simp
    · rintro (⟨stale, _⟩ | ⟨_, recent, _⟩)
      · exact fresh.not_gt stale
      · exact recent.not_gt old
  · rw [if_neg fresh.not_gt, if_neg recent.not_gt]
    simp only [gt_iff_lt, fresh.not_gt, false_and, false_or, fresh, recent, true_and]
    by_cases faster : 1001 / 200 ≤ speed
    · have fast : 5 < speed := by linarith
      simp [faster, fast]
    · by_cases fast : 5 < speed <;> simp [faster, fast, not_le.mp faster]

end

/-- **The reported status.**  After any run of calls from the empty database, both reads show
what the documented rule says of the vehicle's latest accepted fix exactly when that fix is
older than 60 seconds and than the configured window, or older than neither and not of a speed
that the column rounds down to the threshold. -/
theorem reports_rule_iff (settings : Settings) (calls : List (Ambient × Call)) {vehicle : Vehicle}
    (listed : vehicle ∈ (runCalls postgres .empty calls).vehicles.toTable) {m : GPSMessage}
    (latest : firstLatest vehicle.id (acceptedFixes postgres .empty calls) = some m)
    {speed : ℚ} (finite : m.speed.1 = .fin speed) (now : Int) :
    ReportsStatus (runCalls postgres .empty calls) vehicle now
        (statusRule settings m.recordedAt speed now) ↔
      (now - m.recordedAt > seconds 60 ∧
          now - m.recordedAt > seconds settings.gpsStalenessSeconds) ∨
        (now - m.recordedAt ≤ seconds 60 ∧
          now - m.recordedAt ≤ seconds settings.gpsStalenessSeconds ∧
          ¬ (5 < speed ∧ speed < 1001 / 200)) := by
  have filled := (reachable_runCalls postgres settings calls).filled rfl
  have present : (runCalls postgres .empty calls).vehicleCurrentLocation.get vehicle.id =
      some m.current := by
    rw [location_runCalls, latest]
    rfl
  have nonneg : 0 ≤ speed := by
    have bound := m.speed.2.1
    rwa [finite, Number.fin_le] at bound
  have stored : m.current.speed.1 = (Number.fin speed).quantize 2 :=
    congrArg (Number.quantize 2) finite
  rw [reports_iff filled (Table.get_key listed) present, stored, m.recordedAt_current,
    deriveStatus_quantize nonneg, Except.ok.injEq]
  exact statusRule_eq_iff

/-- The first vehicle as it is stored. -/
def firstVehicleRow : Vehicle := ⟨1, some "V1", some "One", some true, 0⟩

/-- The first vehicle has sent one fix, at rest. -/
def oneFix : List (Ambient × Call) :=
  [(plainAmbient, createFirstVehicle), (plainAmbient, .handleGpsMessage earlyFix)]

theorem firstVehicleRow_listed :
    firstVehicleRow ∈ (runCalls postgres .empty oneFix).vehicles.toTable := by
  have found : (runCalls postgres .empty oneFix).vehicles.get 1 = some firstVehicleRow := by
    decide +kernel
  exact (Table.get_eq_some.mp found).1

theorem reports_rule_iff_rest :
    ReportsStatus (runCalls postgres .empty oneFix) firstVehicleRow (seconds 30)
        (statusRule {} earlyFix.recordedAt 0 (seconds 30)) ↔
      (seconds 30 - earlyFix.recordedAt > seconds 60 ∧
          seconds 30 - earlyFix.recordedAt > seconds 60) ∨
        (seconds 30 - earlyFix.recordedAt ≤ seconds 60 ∧
          seconds 30 - earlyFix.recordedAt ≤ seconds 60 ∧
          ¬ (5 < (0 : ℚ) ∧ (0 : ℚ) < 1001 / 200)) :=
  reports_rule_iff {} oneFix firstVehicleRow_listed (by decide +kernel) rfl (seconds 30)

/-- **The window is fixed.**  With a window of two minutes configured, a fix that is 90 seconds
old is shown as offline. -/
theorem configured_window_ignored :
    ¬ ∀ (settings : Settings) (calls : List (Ambient × Call)) (vehicle : Vehicle) (m : GPSMessage)
      (speed : ℚ) (now : Int), 0 < settings.gpsStalenessSeconds →
      vehicle ∈ (runCalls postgres .empty calls).vehicles.toTable →
      firstLatest vehicle.id (acceptedFixes postgres .empty calls) = some m →
      m.speed.1 = .fin speed →
        ReportsStatus (runCalls postgres .empty calls) vehicle now
          (statusRule settings m.recordedAt speed now) := by
  intro reports
  obtain ⟨row, live, listed, located, idle⟩ := (reports { gpsStalenessSeconds := 120 } oneFix
    firstVehicleRow earlyFix 0 (seconds 90) (by decide) firstVehicleRow_listed
    (by decide +kernel) rfl).fleet
  have present : (runCalls postgres .empty oneFix).vehicleCurrentLocation.get 1 =
      some earlyFix.current := by
    decide +kernel
  have derived := derived_of_adminVehicleOut present listed located
  rw [idle] at derived
  revert derived
  decide +kernel

end FleetTracking
