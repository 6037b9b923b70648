import FleetTracking.Columns
import FleetTracking.Deliveries

/-!
# No fix poisons the reads

`Decimal` raises when it compares a NaN, and the fleet list compares every speed, so one NaN in
a current location would fail that list for everybody.  JSON can spell it and a `NUMERIC` column
could keep it; what keeps it out is the validator, which takes a number only when both of its
comparisons hold.  The columns round what it took without leaving the bounds, every stored fix is
`Validated` because of that, and the reads succeed on validated fixes.
-/

namespace FleetTracking

open Relational Python Pydantic

/-! ## What the reads should answer -/

/-- The coordinates and the speed, if any, are numbers between their bounds. -/
structure VehicleLiveOut.InBounds (live : VehicleLiveOut) : Prop where
  lat : ∀ x, live.lat = some x → InRange (-90) 90 x
  lng : ∀ x, live.lng = some x → InRange (-180) 180 x
  speed : ∀ x, live.speed = some x → InRange 0 300 x

structure HistoryPointOut.InBounds (p : HistoryPointOut) : Prop where
  lat : InRange (-90) 90 p.lat
  lng : InRange (-180) 180 p.lng
  speed : InRange 0 300 p.speed

/-- The tracking reads return normally and answer values between the bounds. -/
structure ReadsFine (E : Engine) (db : DB) : Prop where
  current : ∀ u ∈ db.users.toTable, u.vehicleId.isSome = true → ∀ now,
    ∃ live, getCurrentLocation now db u = .ok live ∧ live.InBounds
  fleet : ∀ now, ∃ rows, listVehiclesWithLocation db now = .ok rows ∧
    ∀ row ∈ rows, ∀ live, row.currentLocation = some live → live.InBounds
  history : ∀ u ∈ db.users.toTable, u.vehicleId.isSome = true → ∀ now params window,
    historyWindow E now params = .ok window → E.bigint params.offset = true →
      ∃ out, getHistory E now db u params = .ok out ∧ ∀ p ∈ out.points, p.InBounds

/-! ## Reads of validated fixes -/

section

variable {E : Engine} {db : DB}

theorem deriveStatus_ok (recordedAt now : Int) {speed : Number} (number : speed ≠ .nan) :
    ∃ status, deriveStatus (some recordedAt) (some speed) now = .ok status := by
  unfold deriveStatus
  dsimp only
  split
  · exact ⟨_, rfl⟩
  · rw [decimalGt, if_neg (by simp [number, movingThresholdKmh])]
    exact ⟨_, rfl⟩

/-- A loop over rows each of which succeeds succeeds. -/
theorem mapM_ok {α β : Type} {one : α → Except Failure β} {P : β → Prop} {rows : List α}
    (each : ∀ a ∈ rows, ∃ b, one a = .ok b ∧ P b) :
    ∃ out, rows.mapM one = .ok out ∧ ∀ b ∈ out, P b := by
  induction rows with
  | nil => exact ⟨[], rfl, fun _ member => (List.not_mem_nil member).elim⟩
  | cons a rows ih =>
      obtain ⟨b, done, holds⟩ := each a List.mem_cons_self
      obtain ⟨out, rest, all⟩ := ih fun a later => each a (List.mem_cons_of_mem _ later)
      refine ⟨b :: out, ?_, List.forall_mem_cons.mpr ⟨holds, all⟩⟩
      rw [List.mapM_cons, done, rest]
      rfl

theorem getCurrentLocation_fine {u : User} {v now : Int} {vehicle : Vehicle}
    (filled : Filled db) (holds : u.vehicleId = some v)
    (found : db.vehicles.get v = some vehicle) :
    ∃ live, getCurrentLocation now db u = .ok live ∧ live.InBounds := by
  obtain ⟨code, _, _, coded, _, _⟩ := filled.vehicle (Table.get_eq_some.mp found).1
  unfold getCurrentLocation
  rw [holds]
  dsimp only
  rw [found]
  dsimp only
  cases present : db.vehicleCurrentLocation.get v with
  | none =>
      rw [coded]
      exact ⟨_, rfl, nofun, nofun, nofun⟩
  | some c =>
      have member := (Table.get_eq_some.mp present).1
      obtain ⟨lat, lng, speed⟩ := filled.locations c member
      obtain ⟨status, derived⟩ := deriveStatus_ok c.recordedAt now speed.ne_nan
      simp only [Option.map_some, derived, coded, requireStr]
      exact ⟨_, rfl, fun x same => Option.some.inj same ▸ lat,
        fun x same => Option.some.inj same ▸ lng, fun x same => Option.some.inj same ▸ speed⟩

theorem adminVehicleOut_fine {vehicle : Vehicle} {now : Int} (filled : Filled db)
    (member : vehicle ∈ db.vehicles.toTable) :
    ∃ row, adminVehicleOut db now vehicle = .ok row ∧
      ∀ live, row.currentLocation = some live → live.InBounds := by
  obtain ⟨code, name, isActive, coded, named, active⟩ := filled.vehicle member
  unfold adminVehicleOut
  rw [coded, named, active]
  cases present : db.vehicleCurrentLocation.get vehicle.id with
  | none =>
      exact ⟨⟨vehicle.id, code, name, isActive, vehicle.createdAt, none⟩, rfl,
        fun live same => by cases same⟩
  | some c =>
      have member := (Table.get_eq_some.mp present).1
      obtain ⟨lat, lng, speed⟩ := filled.locations c member
      obtain ⟨status, derived⟩ := deriveStatus_ok c.recordedAt now speed.ne_nan
      rw [Option.mapM_some, derived]
      let live : VehicleLiveOut := ⟨vehicle.id, code, some c.lat.1, some c.lng.1, some c.speed.1,
        some c.recordedAt, status⟩
      refine ⟨⟨vehicle.id, code, name, isActive, vehicle.createdAt, some live⟩, rfl,
        fun out same => ?_⟩
      cases same
      exact ⟨fun x same => Option.some.inj same ▸ lat, fun x same => Option.some.inj same ▸ lng,
        fun x same => Option.some.inj same ▸ speed⟩

theorem getHistory_fine {u : User} {v : Int} {now : Datetime} {params : HistoryParams}
    {window : Int × Int} (filled : Filled db) (holds : u.vehicleId = some v)
    (inRange : historyWindow E now params = .ok window) (fits : E.bigint params.offset = true) :
    ∃ out, getHistory E now db u params = .ok out ∧ ∀ p ∈ out.points, p.InBounds := by
  unfold getHistory
  rw [holds]
  dsimp only
  rw [inRange]
  refine ⟨_, if_pos fits, fun p member => ?_⟩
  obtain ⟨point, listed, rfl⟩ := List.mem_map.mp member
  have stored := List.mem_of_mem_drop (List.mem_of_mem_take listed)
  rw [List.mem_mergeSort, List.mem_filter] at stored
  obtain ⟨stored, _⟩ := stored
  obtain ⟨lat, lng, speed⟩ := filled.points point stored
  exact ⟨lat, lng, speed⟩

/-- **The reads succeed** in filled, consistent tables. -/
theorem Filled.readsFine (filled : Filled db) (consistent : Consistent db) :
    ReadsFine E db where
  current u user holds now := by
    obtain ⟨v, holds⟩ := Option.isSome_iff_exists.mp holds
    obtain ⟨vehicle, found⟩ := Option.isSome_iff_exists.mp
      (Table.hasKey_iff_get.mp (consistent.userVehicles u user v holds))
    exact getCurrentLocation_fine filled holds found
  fleet now := mapM_ok fun _ member => adminVehicleOut_fine filled member
  history u _ holds now params window inRange fits := by
    obtain ⟨v, holds⟩ := Option.isSome_iff_exists.mp holds
    exact getHistory_fine filled holds inRange fits

end

/-- **No message poisons the reads.**  Whatever bytes are delivered, on whatever topics, the
reads succeed and answer values between the bounds in every state of the run. -/
theorem processAll_readsFine (E : Engine) (settings : Settings) (d : Decoder)
    (enforced : E.constraints = true) {db : DB} (reachable : Reachable E settings db)
    (deliveries : List Delivery) (n : Nat) :
    ReadsFine E (processAll E settings d (deliveries.take n) db) := by
  have reached : Reachable E settings (processAll E settings d (deliveries.take n) db) :=
    reachable.processAll
  exact (reached.filled enforced).readsFine reached.consistent

/-- A payload of the first vehicle whose speed is the literal `NaN`. -/
def nanText : String :=
  "\x7b\"vehicle_id\": 1, \"lat\": 1.0, \"lng\": 0.0, \"speed\": NaN, " ++
    "\"timestamp\": \"1970-01-01T00:00:00Z\"\x7d"

def nanDelivery : Delivery := ⟨"fleet/1/gps", nanText.toUTF8.toList⟩

/-- Reads `nanText` as Python does, and what `fixDecoder` reads. -/
def nanDecoder : Decoder where
  loads payload :=
    if payload = nanDelivery.payload then
      .ok (.obj [("vehicle_id", .int 1), ("lat", .float (.fin 1)), ("lng", .float (.fin 0)),
        ("speed", .float .nan), ("timestamp", .str "1970-01-01T00:00:00Z")])
    else fixDecoder.loads payload
  coerce := fixDecoder.coerce

theorem processAll_readsFine_nan :
    ReadsFine postgres (processAll postgres {} nanDecoder
      ([fixDelivery, nanDelivery].take 2) .demo) :=
  processAll_readsFine postgres {} nanDecoder rfl ⟨_, rfl⟩ [fixDelivery, nanDelivery] 2

-- The NaN is discarded.
example : storedFix postgres {} nanDecoder DB.demo.vehicles nanDelivery = none := by
  decide +kernel

end FleetTracking
