import FleetTracking.Columns
import FleetTracking.Deliveries

/-!
# Does the status follow the data?

`derive_status` compares the server's clock with the time in the payload, and a validated
payload may be ahead of the server.  `shows_offline_iff` says what that comes to over a whole
run of deliveries: a vehicle that has sent nothing for a minute shows as offline exactly when
none of its fixes was ahead of the receive time of its last one.
-/

namespace FleetTracking

open Relational Python Pydantic

/-! ## Status -/

section

variable {recordedAt now : Int}

/-- A location is offline exactly when it is older than a minute. -/
theorem deriveStatus_offline (speed : Number) :
    deriveStatus (some recordedAt) (some speed) now = .ok .offline ↔
      now - recordedAt > staleAfter := by
  unfold deriveStatus
  dsimp only
  split
  · next stale => exact iff_of_true rfl stale
  · next fresh =>
      refine iff_of_false ?_ fresh
      cases decimalGt ((some speed).getD (.fin 0)) movingThresholdKmh with
      | error failure => exact nofun
      | ok moving => cases moving <;> exact nofun

end

/-- Both reads show the vehicle as offline: to its users, and, when it has a location, in the
fleet list. -/
structure ShowsOffline (db : DB) (vehicle : Vehicle) (now : Int) : Prop where
  users : ∀ u ∈ db.users.toTable, u.vehicleId = some vehicle.id →
    ∃ live, getCurrentLocation now db u = .ok live ∧ live.status = .offline
  fleet : (db.vehicleCurrentLocation.get vehicle.id).isSome = true →
    ∃ row live, adminVehicleOut db now vehicle = .ok row ∧ row.currentLocation = some live ∧
      live.status = .offline

section

variable {E : Engine} {db : DB} {vehicle : Vehicle} {now : Int}

/-- Nothing was recorded in the last minute. -/
def DB.Stale (db : DB) (v now : Int) : Prop :=
  ∀ recordedAt, db.seenAt v = some recordedAt → now - recordedAt > staleAfter

theorem seenAt_of_get {v : Int} {c : VehicleCurrentLocation}
    (present : db.vehicleCurrentLocation.get v = some c) : db.seenAt v = some c.recordedAt := by
  rw [DB.seenAt, present, Option.map_some]

/-- To its users a located vehicle shows the status of its location. -/
theorem getCurrentLocation_derived {u : User} {c : VehicleCurrentLocation} {status : Status}
    (filled : Filled db) (found : db.vehicles.get vehicle.id = some vehicle)
    (holds : u.vehicleId = some vehicle.id)
    (present : db.vehicleCurrentLocation.get vehicle.id = some c)
    (derived : deriveStatus (some c.recordedAt) (some c.speed.1) now = .ok status) :
    ∃ live, getCurrentLocation now db u = .ok live ∧ live.status = status := by
  obtain ⟨code, _, _, coded, _, _⟩ := filled.vehicle (Table.get_eq_some.mp found).1
  unfold getCurrentLocation
  rw [holds]
  dsimp only
  rw [found]
  dsimp only
  rw [coded, present]
  simp only [Option.map_some, derived]
  exact ⟨_, rfl, rfl⟩

/-- In the fleet list, too. -/
theorem adminVehicleOut_derived {c : VehicleCurrentLocation} {status : Status}
    (filled : Filled db) (member : vehicle ∈ db.vehicles.toTable)
    (present : db.vehicleCurrentLocation.get vehicle.id = some c)
    (derived : deriveStatus (some c.recordedAt) (some c.speed.1) now = .ok status) :
    ∃ row live, adminVehicleOut db now vehicle = .ok row ∧ row.currentLocation = some live ∧
      live.status = status := by
  obtain ⟨code, name, isActive, coded, named, active⟩ := filled.vehicle member
  let live : VehicleLiveOut := ⟨vehicle.id, code, some c.lat.1, some c.lng.1, some c.speed.1,
    some c.recordedAt, status⟩
  refine ⟨⟨vehicle.id, code, name, isActive, vehicle.createdAt, some live⟩, live, ?_, rfl, rfl⟩
  unfold adminVehicleOut
  rw [coded, named, active, present, Option.mapM_some, derived]
  rfl

/-- The fleet list shows no other status. -/
theorem derived_of_adminVehicleOut {c : VehicleCurrentLocation} {row : AdminVehicleOut}
    {live : VehicleLiveOut} (present : db.vehicleCurrentLocation.get vehicle.id = some c)
    (listed : adminVehicleOut db now vehicle = .ok row)
    (located : row.currentLocation = some live) :
    deriveStatus (some c.recordedAt) (some c.speed.1) now = .ok live.status := by
  unfold adminVehicleOut at listed
  rw [present, Option.mapM_some] at listed
  obtain ⟨out, built, rest⟩ := bind_eq_ok.mp listed
  dsimp only at rest
  cases active : vehicle.isActive with
  | none =>
      rw [active] at rest
      cases rest
  | some isActive =>
  rw [active] at rest
  obtain ⟨_, _, rest⟩ := bind_eq_ok.mp rest
  obtain ⟨code, _, rest⟩ := bind_eq_ok.mp rest
  obtain ⟨name, _, rest⟩ := bind_eq_ok.mp rest
  cases rest
  obtain ⟨inner, made, rfl⟩ := map_eq_ok.mp built
  cases located
  obtain ⟨code', _, rest⟩ := bind_eq_ok.mp made
  obtain ⟨status, derived, out⟩ := bind_eq_ok.mp rest
  cases out
  exact derived

/-- A stale vehicle is offline to its users. -/
theorem getCurrentLocation_offline {u : User} (filled : Filled db)
    (found : db.vehicles.get vehicle.id = some vehicle) (holds : u.vehicleId = some vehicle.id)
    (stale : db.Stale vehicle.id now) :
    ∃ live, getCurrentLocation now db u = .ok live ∧ live.status = .offline := by
  cases present : db.vehicleCurrentLocation.get vehicle.id with
  | none =>
      obtain ⟨code, _, _, coded, _, _⟩ := filled.vehicle (Table.get_eq_some.mp found).1
      unfold getCurrentLocation
      rw [holds]
      dsimp only
      rw [found]
      dsimp only
      rw [coded, present]
      exact ⟨_, rfl, rfl⟩
  | some c =>
      exact getCurrentLocation_derived filled found holds present
        ((deriveStatus_offline c.speed.1).mpr (stale _ (seenAt_of_get present)))

/-- What the fleet list shows as offline is stale. -/
theorem stale_of_adminVehicleOut {row : AdminVehicleOut} {live : VehicleLiveOut}
    (listed : adminVehicleOut db now vehicle = .ok row)
    (located : row.currentLocation = some live) (offline : live.status = .offline) :
    db.Stale vehicle.id now := by
  intro recordedAt seen
  obtain ⟨c, present, rfl⟩ := Option.map_eq_some_iff.mp seen
  have derived := derived_of_adminVehicleOut present listed located
  rw [offline] at derived
  exact (deriveStatus_offline _).mp derived

/-- Both reads say offline exactly when nothing was recorded in the last minute. -/
theorem showsOffline_iff (filled : Filled db)
    (found : db.vehicles.get vehicle.id = some vehicle) :
    ShowsOffline db vehicle now ↔ db.Stale vehicle.id now := by
  constructor
  · intro shows recordedAt seen
    obtain ⟨c, present, _⟩ := Option.map_eq_some_iff.mp seen
    obtain ⟨row, live, listed, located, offline⟩ := shows.fleet (by rw [present]; rfl)
    exact stale_of_adminVehicleOut listed located offline recordedAt seen
  · intro stale
    refine ⟨fun u _ holds => getCurrentLocation_offline filled found holds stale, fun present => ?_⟩
    obtain ⟨c, present⟩ := Option.isSome_iff_exists.mp present
    exact adminVehicleOut_derived filled (Table.get_eq_some.mp found).1 present
      ((deriveStatus_offline c.speed.1).mpr (stale _ (seenAt_of_get present)))

end

/-! ## Runs -/

section

variable (E : Engine) (settings : Settings) (d : Decoder)

/-- The fixes of `v` that the deliveries store, each with the time it was received. -/
def fixesOf (vehicles : Serial Vehicle) (v : Int) (received : List (Delivery × Int)) :
    List (GPSMessage × Int) :=
  (received.filterMap fun r => (storedFix E settings d vehicles r.1).map fun m => (m, r.2)).filter
    fun f => f.1.vehicleId.1 = v

/-- When the last fix of `v` was received. -/
def lastReceived (vehicles : Serial Vehicle) (v : Int) (received : List (Delivery × Int)) :
    Option Int :=
  (fixesOf E settings d vehicles v received).getLast?.map Prod.snd

end

section

variable {E : Engine} {settings : Settings} {d : Decoder} {db : DB} {v : Int}
  {received : List (Delivery × Int)}

/-- The times that count for the status are those of the fixes. -/
theorem timesOf_storedFixes :
    timesOf v (storedFixes E settings d db.vehicles (received.map Prod.fst)) =
      (fixesOf E settings d db.vehicles v received).map fun f => f.1.recordedAt := by
  induction received with
  | nil => rfl
  | cons r received ih =>
      simp only [timesOf, storedFixes, fixesOf, List.map_cons, List.filterMap_cons] at ih ⊢
      cases storedFix E settings d db.vehicles r.1 with
      | none => exact ih
      | some m =>
          simp only [Option.map_some, List.filter_cons]
          split
          · simp only [List.map_cons, ih]
          · exact ih

/-- The newest time is always more than a minute past, a minute after the last fix was
received, exactly when no time is ahead of that moment. -/
theorem stale_iff {fixes : List (GPSMessage × Int)} :
    (∀ now, (∀ last, fixes.getLast?.map Prod.snd = some last → now > last + seconds 60) →
        ∀ newest, (fixes.map fun f => f.1.recordedAt).max? = some newest →
          now - newest > staleAfter) ↔
      ∀ f ∈ fixes, ∀ last, fixes.getLast?.map Prod.snd = some last → f.1.recordedAt ≤ last := by
  constructor
  · intro follows f member last received
    have listed : f.1.recordedAt ∈ fixes.map fun f => f.1.recordedAt :=
      List.mem_map_of_mem member
    obtain ⟨newest, max⟩ := Option.isSome_iff_exists.mp (List.isSome_max?_of_mem listed)
    have bound := (List.max?_eq_some_iff.mp max).2 _ listed
    have stale := follows (last + seconds 60 + 1)
      (fun last' same => by cases received.symm.trans same; omega) newest max
    rw [staleAfter] at stale
    omega
  · intro inTime now later newest max
    obtain ⟨f, member, rfl⟩ := List.mem_map.mp (List.max?_eq_some_iff.mp max).1
    have received := congrArg (Option.map Prod.snd)
      (List.getLast?_eq_some_getLast (List.ne_nil_of_mem member))
    rw [Option.map_some] at received
    have past := later _ received
    have bound := inTime f member _ received
    rw [staleAfter]
    omega

/-- **When the status follows the data.**  After any run of deliveries to a vehicle without a
location, it shows as offline whenever more than a minute has passed since its last fix was
received exactly when no fix was ahead of that moment. -/
theorem shows_offline_iff (E : Engine) (settings : Settings) (d : Decoder)
    (enforced : E.constraints = true) (reachable : Reachable E settings db) {vehicle : Vehicle}
    (found : db.vehicles.get vehicle.id = some vehicle)
    (fresh : db.vehicleCurrentLocation.get vehicle.id = none) (received : List (Delivery × Int)) :
    (∀ now, (∀ last, lastReceived E settings d db.vehicles vehicle.id received = some last →
        now > last + seconds 60) →
      ShowsOffline (processAll E settings d (received.map Prod.fst) db) vehicle now) ↔
    ∀ f ∈ fixesOf E settings d db.vehicles vehicle.id received, ∀ last,
      lastReceived E settings d db.vehicles vehicle.id received = some last →
        f.1.recordedAt ≤ last := by
  have filled : Filled (processAll E settings d (received.map Prod.fst) db) :=
    reachable.processAll.filled enforced
  have found' : (processAll E settings d (received.map Prod.fst) db).vehicles.get vehicle.id =
      some vehicle := by rw [processAll_eq, ingestList_frame.1, found]
  have seen : (processAll E settings d (received.map Prod.fst) db).seenAt vehicle.id =
      ((fixesOf E settings d db.vehicles vehicle.id received).map
        fun f => f.1.recordedAt).max? := by
    rw [processAll_eq, seenAt_ingestList, timesOf_storedFixes, DB.seenAt, fresh]
    rfl
  simp only [showsOffline_iff filled found', DB.Stale, seen]
  exact stale_iff

end

theorem shows_offline_iff_fix :
    (∀ now, (∀ last, lastReceived postgres {} fixDecoder DB.demo.vehicles 1 [(fixDelivery, 5)] =
        some last → now > last + seconds 60) →
      ShowsOffline (processAll postgres {} fixDecoder [fixDelivery] .demo) expressRow now) ↔
    ∀ f ∈ fixesOf postgres {} fixDecoder DB.demo.vehicles 1 [(fixDelivery, 5)], ∀ last,
      lastReceived postgres {} fixDecoder DB.demo.vehicles 1 [(fixDelivery, 5)] = some last →
        f.1.recordedAt ≤ last := by
  have found : DB.demo.vehicles.get expressRow.id = some expressRow := by decide +kernel
  have silent : DB.demo.vehicleCurrentLocation.get expressRow.id = none := by decide +kernel
  exact shows_offline_iff postgres {} fixDecoder rfl ⟨_, rfl⟩ found silent [(fixDelivery, 5)]

/-- 2026-01-01T00:00:00Z -/
def newYear : Int := seconds 1767225600

/-- A fix of the first vehicle whose clock is an hour ahead of `newYear`. -/
def aheadText : String :=
  "\x7b\"vehicle_id\": 1, \"lat\": 1.0, \"lng\": 0.0, \"speed\": 0.0, " ++
    "\"timestamp\": \"2026-01-01T01:00:00Z\"\x7d"

def aheadDelivery : Delivery := ⟨"fleet/1/gps", aheadText.toUTF8.toList⟩

/-- Reads `aheadText` as Python does, and nothing else. -/
def aheadDecoder : Decoder where
  loads payload :=
    if payload = aheadDelivery.payload then
      .ok (.obj [("vehicle_id", .int 1), ("lat", .float (.fin 1)), ("lng", .float (.fin 0)),
        ("speed", .float (.fin 0)), ("timestamp", .str "2026-01-01T01:00:00Z")])
    else .error .jsonDecodeError
  coerce := { Coerce.asIs with
    datetime
      | .str s =>
          if s = "2026-01-01T01:00:00Z" then Datetime.epoch.add (seconds 1767229200) else none
      | _ => none }

/-- **A clock ahead.**  Two minutes after its only fix was received, the vehicle whose clock is
an hour ahead is still shown as idle. -/
theorem ahead_shows_idle :
    ¬ ∀ (received : List (Delivery × Int)) (db : DB) (vehicle : Vehicle) (now : Int),
      Reachable postgres {} db → db.vehicles.get vehicle.id = some vehicle →
      db.vehicleCurrentLocation.get vehicle.id = none →
      (∀ last, lastReceived postgres {} aheadDecoder db.vehicles vehicle.id received = some last →
        now > last + seconds 60) →
      ShowsOffline (processAll postgres {} aheadDecoder (received.map Prod.fst) db) vehicle
        now := by
  intro follows
  have later : ∀ last, lastReceived postgres {} aheadDecoder DB.demo.vehicles 1
      [(aheadDelivery, newYear)] = some last → newYear + seconds 120 > last + seconds 60 := by
    intro last received
    have same : lastReceived postgres {} aheadDecoder DB.demo.vehicles 1
        [(aheadDelivery, newYear)] = some newYear := by decide +kernel
    cases same.symm.trans received
    decide
  have shows := follows [(aheadDelivery, newYear)] .demo expressRow (newYear + seconds 120)
    ⟨_, rfl⟩ (by decide +kernel) (by decide +kernel) later
  obtain ⟨row, live, listed, located, offline⟩ := shows.fleet (by decide +kernel)
  have idle : ((adminVehicleOut (processAll postgres {} aheadDecoder [aheadDelivery] .demo)
      (newYear + seconds 120) expressRow).toOption.bind AdminVehicleOut.currentLocation).map
        VehicleLiveOut.status = some .idle := by decide +kernel
  rw [List.map_singleton] at listed
  rw [listed, Except.toOption, Option.bind_some, located, Option.map_some, offline] at idle
  cases idle

end FleetTracking
