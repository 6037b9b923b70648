import FleetTracking.Freshness
import FleetTracking.PoisonedReads
import FleetTracking.Redelivery
import FleetTracking.Simulator.Contract
import FleetTracking.Simulator.PingPong

/-!
# From the simulator to the driver's screen

The whole way of a fix: a walker moves, the simulator publishes where it is, the subscriber
stores it, and `get_current_location` reads it.  `Carries` follows one fix through topic and
payload, `track` one walker through the ticks; with a clock that moves on, a driver sees the
bus where its walker is (`drivers_see_their_buses`).
-/

namespace FleetTracking

open Relational Python

/-! ## Fixes that come in the order of their times -/

/-- The history of a vehicle, in the order in which it was stored. -/
def DB.trail (db : DB) (v : Int) : List Fix :=
  (db.contents.filter fun content => content.1 = v).map Prod.snd

section

variable {db : DB} {m : GPSMessage} {fixes : List GPSMessage} {v : Int}

/-- A fix newer than what is there becomes the current location. -/
theorem location_ingest_newer (newer : ∀ seen ∈ db.seenAt m.vehicleId, seen < m.recordedAt) :
    (db.ingest m).vehicleCurrentLocation.get m.vehicleId = some m.current := by
  have location := get_upsertLatest (t := db.vehicleCurrentLocation) (c := m.current)
    (k := m.current.vehicleId)
  rw [if_pos rfl] at location
  refine Eq.trans (b := (upsertLatest db.vehicleCurrentLocation m.current).get m.current.vehicleId)
    rfl (location.trans ?_)
  cases found : db.vehicleCurrentLocation.get m.current.vehicleId with
  | none => rfl
  | some current => exact if_pos (newer current.recordedAt (seenAt_of_get found))

theorem location_ingest_other (other : m.vehicleId.1 ≠ v) :
    (db.ingest m).vehicleCurrentLocation.get v = db.vehicleCurrentLocation.get v :=
  get_upsertLatest.trans (if_neg fun own => other own.symm)

/-- **Run.**  When the fixes of a vehicle come in the order of their times, the last one of them
is its current location. -/
theorem location_ascending (ascending : (timesOf v fixes).Pairwise (· < ·))
    (newer : ∀ seen ∈ db.seenAt v, ∀ time ∈ timesOf v fixes, seen < time) :
    (db.ingestList fixes).vehicleCurrentLocation.get v =
      ((fixes.filter fun m => m.vehicleId.1 = v).getLast?.map GPSMessage.current).or
        (db.vehicleCurrentLocation.get v) := by
  induction fixes generalizing db with
  | nil => rfl
  | cons m fixes ih =>
      rw [ingestList_cons]
      by_cases own : m.vehicleId.1 = v
      · subst own
        have times : timesOf m.vehicleId.1 (m :: fixes) =
            m.recordedAt :: timesOf m.vehicleId.1 fixes := by
          simp [timesOf]
        rw [times] at ascending newer
        obtain ⟨first, ascending⟩ := List.pairwise_cons.mp ascending
        have location : (db.ingest m).vehicleCurrentLocation.get m.vehicleId = some m.current :=
          location_ingest_newer fun seen recorded => newer seen recorded _ List.mem_cons_self
        have recorded : (db.ingest m).seenAt m.vehicleId = some m.recordedAt :=
          (seenAt_of_get location).trans (congrArg some m.recordedAt_current)
        rw [ih ascending fun seen was => by
          rw [recorded] at was
          exact Option.some.inj was ▸ first, location]
        simp [List.getLast?_cons]
      · have times : timesOf v (m :: fixes) = timesOf v fixes := by simp [timesOf, own]
        rw [times] at ascending newer
        have seen : (db.ingest m).seenAt v = db.seenAt v := by rw [seenAt_ingest, if_neg own]
        rw [ih ascending (by rwa [seen]), location_ingest_other own]
        simp [own]

theorem trail_ingestList : (db.ingestList fixes).trail v =
    db.trail v ++ (fixes.filter fun m => m.vehicleId.1 = v).map GPSMessage.fix := by
  unfold DB.trail
  rw [contents_ingestList, List.filter_append, List.map_append, List.filter_map, List.map_map]
  rfl

/-- What the users of a vehicle see of its current location. -/
theorem getCurrentLocation_located {u : User} {vehicle : Vehicle} {code : String}
    {c : VehicleCurrentLocation} {now : Int} (found : db.vehicles.get v = some vehicle)
    (coded : vehicle.code = some code) (holds : u.vehicleId = some v)
    (present : db.vehicleCurrentLocation.get v = some c) (number : c.speed.1 ≠ .nan) :
    ∃ live, getCurrentLocation now db u = .ok live ∧ live.vehicleId = v ∧
      live.lat = some c.lat.1 ∧ live.lng = some c.lng.1 ∧ live.speed = some c.speed.1 ∧
      live.recordedAt = some c.recordedAt ∧
      deriveStatus live.recordedAt live.speed now = .ok live.status := by
  have key : vehicle.id = v := (Table.get_eq_some.mp found).2
  obtain ⟨status, derived⟩ := deriveStatus_ok c.recordedAt now number
  unfold getCurrentLocation
  rw [holds]
  dsimp only
  rw [found]
  dsimp only
  rw [coded, present]
  simp only [Option.map_some, derived]
  exact ⟨_, rfl, key, rfl, rfl, rfl, rfl, derived⟩

/-- When its fixes come in the order of their times, the users of a vehicle see the last one. -/
theorem getCurrentLocation_ingestList {u : User} {now : Int} (filled : Filled db)
    (accepts : db.Accepts v) (holds : u.vehicleId = some v)
    (ascending : (timesOf v fixes).Pairwise (· < ·))
    (newer : ∀ seen ∈ db.seenAt v, ∀ time ∈ timesOf v fixes, seen < time)
    (last : (fixes.filter fun m => m.vehicleId.1 = v).getLast? = some m) :
    ∃ live, getCurrentLocation now (db.ingestList fixes) u = .ok live ∧ live.vehicleId = v ∧
      live.lat = some m.fix.lat.1 ∧ live.lng = some m.fix.lng.1 ∧
      live.speed = some m.fix.speed.1 ∧ live.recordedAt = some m.fix.recordedAt ∧
      deriveStatus live.recordedAt live.speed now = .ok live.status := by
  obtain ⟨vehicle, found, _⟩ := accepts
  obtain ⟨code, _, _, coded, _, _⟩ := filled.vehicle (Table.get_eq_some.mp found).1
  have location := location_ascending ascending newer
  rw [last] at location
  exact getCurrentLocation_located (by rw [ingestList_frame.1, found]) coded holds location
    m.fix_validated.speed.ne_nan

end

namespace Simulator

/-! ## One fix -/

/-- What the history keeps of a fix. -/
def OutgoingFix.stored (fix : OutgoingFix) : Fix where
  lat := .of 6 (.fin fix.lat)
  lng := .of 6 (.fin fix.lng)
  speed := .of 2 (.fin fix.speed)
  recordedAt := fix.timestamp.1.instant

/-- The delivery brings the fix. -/
def Carries (settings : Settings) (d : Decoder) (fix : OutgoingFix) (delivery : Delivery) : Prop :=
  parseTopic delivery.topic settings.mqttTopicPrefix = some fix.vehicleId ∧
    ∃ m, parsePayload d delivery.payload = .ok (some m) ∧ m.vehicleId.1 = fix.vehicleId ∧
      m.fix = fix.stored ∧ postgres.Takes m

section

variable {settings : Settings} {d : Decoder} {p : Printer} {fix : OutgoingFix} {db : DB}
  {fixes : List OutgoingFix} {delivery : Delivery} {deliveries : List Delivery}

/-- **Publishing.**  A fix within the bounds is published by a delivery that brings it. -/
theorem publish_carries (noSlash : '/' ∉ settings.mqttTopicPrefix.toList)
    (own : TakesOwn d.coerce) (readsBack : ReadsBack d p fix) (publishable : fix.Publishable) :
    ∃ delivery, publish d.coerce p settings.mqttTopicPrefix fix = .ok delivery ∧
      Carries settings d fix delivery := by
  obtain ⟨id, shown, isDigit, published⟩ :=
    publish_ok own readsBack.timestamp publishable settings.mqttTopicPrefix
  have topic := parseTopic_built noSlash shown isDigit publishable.vehicleId.1
  have payload := parsePayload_of_object readsBack.json
    (validate_toJson own readsBack.timestamp publishable)
  refine ⟨_, published, topic, fix.message publishable, payload, rfl, rfl, ?_, ?_⟩
  · have vehicleId := publishable.vehicleId
    simp only [postgres, OutgoingFix.message, decide_eq_true_eq]
    omega
  · have time := fix.timestamp.1.representable
    simp only [postgres, GPSMessage.recordedAt, OutgoingFix.message, Datetime.instant,
      fix.timestamp.2, Option.getD_some, sub_zero, decide_eq_true_eq]
    exact time

/-- What is stored of a delivery is the fix that it brings. -/
theorem Carries.storedFix (carries : Carries settings d fix delivery) {m : GPSMessage}
    (stored : storedFix postgres settings d db.vehicles delivery = some m) :
    m.vehicleId.1 = fix.vehicleId ∧ m.fix = fix.stored := by
  obtain ⟨topic, m', payload, own, same, _⟩ := carries
  unfold FleetTracking.storedFix verdict at stored
  simp only [topic, payload, own, ne_eq, not_true_eq_false, if_false] at stored
  cases stands : fixVerdict postgres db.vehicles m' with
  | discarded => rw [stands] at stored; cases stored
  | failed => rw [stands] at stored; cases stored
  | stored m'' =>
      rw [stands] at stored
      cases stored
      obtain ⟨rfl, _⟩ := fixVerdict_stored stands
      exact ⟨own, same⟩

/-- An active vehicle's fix is stored. -/
theorem Carries.storedFix_of_accepts (carries : Carries settings d fix delivery)
    (accepts : db.Accepts fix.vehicleId) :
    ∃ m, FleetTracking.storedFix postgres settings d db.vehicles delivery = some m := by
  obtain ⟨topic, m, payload, own, _, takes⟩ := carries
  obtain ⟨vehicle, found, active⟩ := own ▸ accepts
  have stands : fixVerdict postgres db.vehicles m = .stored m := by
    simp only [fixVerdict, takes.1, if_true, found, active, ne_eq, not_true_eq_false, if_false,
      takes.2]
  refine ⟨m, ?_⟩
  unfold FleetTracking.storedFix verdict
  simp only [topic, payload, own, ne_eq, not_true_eq_false, if_false, stands]
  rfl

/-- **Run.**  Of an active vehicle the deliveries store the fixes that they bring. -/
theorem stored_of_carries {v : Int} (accepts : db.Accepts v)
    (carry : List.Forall₂ (Carries settings d) fixes deliveries) :
    ((storedFixes postgres settings d db.vehicles deliveries).filter fun m =>
        m.vehicleId.1 = v).map GPSMessage.fix =
      (fixes.filter fun fix => fix.vehicleId = v).map OutgoingFix.stored := by
  induction carry with
  | nil => rfl
  | @cons fix delivery fixes deliveries carries carry ih =>
      unfold storedFixes at ih ⊢
      by_cases own : fix.vehicleId = v
      · have accepts : db.Accepts fix.vehicleId := own ▸ accepts
        obtain ⟨m, stored⟩ := carries.storedFix_of_accepts accepts
        obtain ⟨vehicle, same⟩ := carries.storedFix stored
        simp only [List.filterMap_cons, stored, List.filter_cons, vehicle, own, decide_true,
          if_true, List.map_cons, same, ih]
      · rw [List.filter_cons, if_neg (by simpa using own), ← ih]
        cases stored : FleetTracking.storedFix postgres settings d db.vehicles delivery with
        | none => rw [List.filterMap_cons_none stored]
        | some m =>
            obtain ⟨vehicle, _⟩ := carries.storedFix stored
            rw [List.filterMap_cons_some stored, List.filter_cons,
              if_neg (by simpa [vehicle] using own)]

end

/-! ## One walker -/

section

variable {haversineM : Haversine} {interval : Int} {bases : Int → Option ℚ} {base : ℚ} {v : Int}
  {draw : Draw} {draws : List Draw} {w w' : BusWalker haversineM} {fix : OutgoingFix}

/-- The moves of a walker, from the draws of its ticks. -/
def legs (interval : Int) (base : ℚ) (draws : List Draw) (k : Nat) : Tick :=
  ⟨(draws[k]?.map (nextSpeed base)).getD 0, interval⟩

/-- The fixes of the walker of one vehicle, a tick after the other. -/
def track (interval : Int) (bases : Int → Option ℚ) (v : Int) :
    List Draw → BusWalker haversineM → List OutgoingFix
  | [], _ => []
  | draw :: draws, walker =>
      match drive interval bases draw walker v with
      | .error _ => []
      | .ok (walker, fix) => fix :: track interval bases v draws walker

/-- The points tell where the walker is after each of its ticks, to six decimals. -/
structure Follows (interval : Int) (base : ℚ) (w : BusWalker haversineM) (draws : List Draw)
    (points : List Fix) : Prop where
  length : points.length = draws.length
  each : ∀ k draw, draws[k]? = some draw → ∃ q point,
    (w.after (legs interval base draws) (k + 1)).position = some q ∧ points[k]? = some point ∧
      point.lat.1 = .fin (Number.roundHalfEven 6 q.1) ∧
      point.lng.1 = .fin (Number.roundHalfEven 6 q.2) ∧
      point.speed.1 = .fin (Number.roundHalfEven 1 (nextSpeed base draw)) ∧
      point.recordedAt = draw.now.1.instant

theorem BusWalker.after_succ (ticks : Nat → Tick) (n : Nat) :
    w.after ticks (n + 1) =
      (w.advance (ticks 0).speedKmh (ticks 0).dtSeconds).after (fun k => ticks (k + 1)) n := by
  induction n with
  | zero => rfl
  | succ n ih => rw [BusWalker.after, ih]; rfl

/-- What a walker that moves yields is where it is. -/
theorem drive_position (drawn : bases v = some base)
    (driven : drive interval bases draw w v = .ok (w', fix)) :
    w' = w.advance (nextSpeed base draw) interval ∧ ∃ q, w'.position = some q ∧
      fix = ⟨v, Number.roundHalfEven 6 q.1, Number.roundHalfEven 6 q.2,
        Number.roundHalfEven 1 (nextSpeed base draw), draw.now⟩ := by
  unfold drive at driven
  rw [drawn] at driven
  dsimp only at driven
  split at driven
  · cases driven
  · next lat lng here =>
      cases driven
      exact ⟨rfl, (lat, lng), here, rfl⟩

theorem track_cons (driven : drive interval bases draw w v = .ok (w', fix)) :
    track interval bases v (draw :: draws) w = fix :: track interval bases v draws w' := by
  rw [track, driven]

/-- The columns have room for what Python has rounded. -/
theorem numeric_roundHalfEven {coarse fine : Nat} (enough : coarse ≤ fine) (q : ℚ) :
    (Numeric.of fine (.fin (Number.roundHalfEven coarse q))).1 =
      .fin (Number.roundHalfEven coarse q) :=
  congrArg Number.fin (Number.roundHalfUp_roundHalfEven enough q)

/-- **Run.**  What is stored of a walker's fixes follows it. -/
theorem track_follows (drawn : bases v = some base) (band : 18 ≤ base ∧ base ≤ 42)
    (id : 1 ≤ v ∧ v < 2 ^ 63) (walkable : Walkable w.waypoints) :
    Follows interval base w draws ((track interval bases v draws w).map OutgoingFix.stored) := by
  induction draws generalizing w with
  | nil =>
      exact ⟨rfl, fun k draw listed => (List.not_mem_nil (List.mem_of_getElem? listed)).elim⟩
  | cons draw draws ih =>
      obtain ⟨w', fix, driven, walkable', _⟩ := drive_spec interval walkable drawn band id draw
      obtain ⟨rfl, q, here, rfl⟩ := drive_position drawn driven
      have rest := ih walkable'
      rw [track_cons driven, List.map_cons]
      refine ⟨congrArg (· + 1) rest.length, fun k draw' listed => ?_⟩
      cases k with
      | zero =>
          cases listed
          exact ⟨q, _, here, rfl, numeric_roundHalfEven le_rfl _, numeric_roundHalfEven le_rfl _,
            numeric_roundHalfEven (by decide) _, rfl⟩
      | succ k =>
          obtain ⟨q', point, there, found⟩ := rest.each k draw' listed
          exact ⟨q', point, by rw [BusWalker.after_succ]; exact there, found⟩

end

/-! ## All of them -/

section

variable {haversineM : Haversine} {settings : Settings} {d : Decoder} {p : Printer}
  {interval : Int} {bases : Int → Option ℚ} {walkers : List (BusWalker haversineM × Int)} {v : Int}
  {w : BusWalker haversineM}

/-- One fix of a ready walker, with the walker that goes on. -/
theorem Ready.drive {walker : BusWalker haversineM × Int} (ready : Ready bases walker)
    (interval : Int) (draw : Draw) :
    ∃ w' fix, drive interval bases draw walker.1 walker.2 = .ok (w', fix) ∧
      fix.vehicleId = walker.2 ∧ fix.Publishable ∧ Ready bases (w', walker.2) := by
  obtain ⟨walkable, ⟨base, drawn, band⟩, id⟩ := ready
  obtain ⟨w', fix, driven, walkable', vehicle, publishable, _⟩ :=
    drive_spec interval walkable drawn band id draw
  exact ⟨w', fix, driven, vehicle, publishable, walkable', ⟨base, drawn, band⟩, id⟩

/-- **Step.**  Each walker yields a fix of its own, in their order, and is ready again. -/
theorem tickFixes_spec (interval : Int) (draws : Nat → Draw) (i : Nat)
    (ready : ∀ walker ∈ walkers, Ready bases walker) :
    (tickFixes interval bases draws i walkers).1.map Prod.snd = walkers.map Prod.snd ∧
      (tickFixes interval bases draws i walkers).2.map OutgoingFix.vehicleId =
        walkers.map Prod.snd ∧
      (∀ walker ∈ (tickFixes interval bases draws i walkers).1, Ready bases walker) ∧
      ∀ fix ∈ (tickFixes interval bases draws i walkers).2, fix.Publishable := by
  induction walkers generalizing i with
  | nil =>
      exact ⟨rfl, rfl, fun _ member => (List.not_mem_nil member).elim,
        fun _ member => (List.not_mem_nil member).elim⟩
  | cons head walkers ih =>
      obtain ⟨w', fix, driven, vehicle, publishable, ready'⟩ :=
        (ready head List.mem_cons_self).drive interval (draws i)
      obtain ⟨same, vehicles, allReady, allPublishable⟩ := ih (i + 1) fun walker later =>
        ready walker (List.mem_cons_of_mem _ later)
      simp only [tickFixes, driven, List.map_cons, same, vehicles, vehicle, true_and]
      exact ⟨List.forall_mem_cons.mpr ⟨ready', allReady⟩,
        List.forall_mem_cons.mpr ⟨publishable, allPublishable⟩⟩

/-- What a tick publishes brings its fixes. -/
theorem tick_carries (noSlash : '/' ∉ settings.mqttTopicPrefix.toList) (own : TakesOwn d.coerce)
    (draws : Nat → Draw) (i : Nat) (ready : ∀ walker ∈ walkers, Ready bases walker)
    (readsBack : ∀ fix ∈ (tickFixes interval bases draws i walkers).2, ReadsBack d p fix) :
    ∃ deliveries,
      tick interval bases d.coerce p settings.mqttTopicPrefix draws i walkers =
        .ok ((tickFixes interval bases draws i walkers).1, deliveries) ∧
      List.Forall₂ (Carries settings d) (tickFixes interval bases draws i walkers).2
        deliveries := by
  induction walkers generalizing i with
  | nil => exact ⟨[], rfl, .nil⟩
  | cons head walkers ih =>
      obtain ⟨w', fix, driven, _, publishable, _⟩ :=
        (ready head List.mem_cons_self).drive interval (draws i)
      simp only [tickFixes, driven] at readsBack ⊢
      obtain ⟨delivery, published, carries⟩ :=
        publish_carries noSlash own (readsBack fix List.mem_cons_self) publishable
      obtain ⟨deliveries, ticked, carry⟩ := ih (i + 1)
        (fun walker later => ready walker (List.mem_cons_of_mem _ later))
        fun fix later => readsBack fix (List.mem_cons_of_mem _ later)
      exact ⟨delivery :: deliveries, by simp only [tick, driven, published, ticked]; rfl,
        .cons carries carry⟩

/-- **Run.** -/
theorem runTicks_carries (noSlash : '/' ∉ settings.mqttTopicPrefix.toList)
    (own : TakesOwn d.coerce) (ticks : List (Nat → Draw))
    (ready : ∀ walker ∈ walkers, Ready bases walker)
    (readsBack : ∀ fix ∈ runFixes interval bases ticks walkers, ReadsBack d p fix) :
    ∃ published,
      runTicks interval bases d.coerce p settings.mqttTopicPrefix ticks walkers = .ok published ∧
      List.Forall₂ (Carries settings d) (runFixes interval bases ticks walkers)
        published.flatten := by
  induction ticks generalizing walkers with
  | nil => exact ⟨[], rfl, .nil⟩
  | cons draws ticks ih =>
      rw [runFixes] at readsBack
      obtain ⟨deliveries, ticked, carry⟩ := tick_carries noSlash own draws 0 ready
        fun fix member => readsBack fix (List.mem_append_left _ member)
      obtain ⟨published, ran, rest⟩ := ih (tickFixes_spec interval draws 0 ready).2.2.1
        fun fix member => readsBack fix (List.mem_append_right _ member)
      exact ⟨deliveries :: published, by simp only [runTicks, ticked, ran]; rfl,
        List.rel_append carry rest⟩

/-- The walker of a vehicle that no other walker has yields the vehicle's only fix of a tick. -/
theorem tickFixes_at (interval : Int) (draws : Nat → Draw) (i : Nat)
    (ready : ∀ walker ∈ walkers, Ready bases walker) (alone : (walkers.map Prod.snd).Nodup)
    {k : Nat} (here : walkers[k]? = some (w, v)) :
    ∃ w' fix, drive interval bases (draws (i + k)) w v = .ok (w', fix) ∧
      (tickFixes interval bases draws i walkers).1[k]? = some (w', v) ∧
      (tickFixes interval bases draws i walkers).2.filter (fun fix => fix.vehicleId = v) =
        [fix] := by
  induction walkers generalizing i k with
  | nil => cases here
  | cons head walkers ih =>
      obtain ⟨w', fix, driven, vehicle, _⟩ :=
        (ready head List.mem_cons_self).drive interval (draws i)
      have ready' : ∀ walker ∈ walkers, Ready bases walker := fun walker later =>
        ready walker (List.mem_cons_of_mem _ later)
      obtain ⟨absent, alone'⟩ := List.nodup_cons.mp alone
      have vehicles := (tickFixes_spec interval draws (i + 1) ready').2.1
      simp only [tickFixes, driven, List.filter_cons, vehicle]
      cases k with
      | zero =>
          cases here
          refine ⟨w', fix, driven, rfl, ?_⟩
          rw [if_pos (decide_eq_true rfl)]
          refine congrArg _ (List.filter_eq_nil_iff.mpr fun other member own => absent ?_)
          rw [← vehicles, ← of_decide_eq_true own]
          exact List.mem_map_of_mem member
      | succ k =>
          have here : walkers[k]? = some (w, v) := here
          obtain ⟨w'', fix', driven', there, only⟩ := ih (i + 1) ready' alone' here
          have listed : v ∈ walkers.map Prod.snd :=
            List.mem_map.mpr ⟨_, List.mem_of_getElem? here, rfl⟩
          have other : head.2 ≠ v := fun own => absent (own ▸ listed)
          rw [if_neg (by simpa using other), show i + (k + 1) = i + 1 + k by omega]
          exact ⟨w'', fix', driven', there, only⟩

/-- **Run.**  The fixes of its vehicle are the walker's track. -/
theorem runFixes_track (ticks : List (Nat → Draw))
    (ready : ∀ walker ∈ walkers, Ready bases walker) (alone : (walkers.map Prod.snd).Nodup)
    {k : Nat} (here : walkers[k]? = some (w, v)) :
    (runFixes interval bases ticks walkers).filter (fun fix => fix.vehicleId = v) =
      track interval bases v (ticks.map fun draws => draws k) w := by
  induction ticks generalizing walkers w with
  | nil => rfl
  | cons draws ticks ih =>
      obtain ⟨same, _, ready', _⟩ := tickFixes_spec interval draws 0 ready
      obtain ⟨w', fix, driven, there, only⟩ :=
        tickFixes_at interval draws 0 ready alone here
      rw [Nat.zero_add] at driven
      rw [runFixes, List.filter_append, only, ih ready' (same ▸ alone) there, List.map_cons,
        track_cons driven]
      rfl

end

/-! ## What the driver sees -/

section

variable {haversineM : Haversine} {interval : Int} {base : ℚ} {w : BusWalker haversineM}
  {draws : List Draw} {points : List Fix}

/-- The points have the times of the ticks. -/
theorem Follows.times (follows : Follows interval base w draws points) :
    points.map Fix.recordedAt = draws.map fun draw => draw.now.1.instant := by
  refine List.ext_getElem? fun k => ?_
  rw [List.getElem?_map, List.getElem?_map]
  cases listed : draws[k]? with
  | none =>
      have beyond := List.getElem?_eq_none_iff.mp listed
      rw [List.getElem?_eq_none_iff.mpr (follows.length ▸ beyond)]
      rfl
  | some draw =>
      obtain ⟨_, point, _, found, _, _, _, time⟩ := follows.each k draw listed
      rw [found]
      exact congrArg some time

/-- The last point is that of the last tick. -/
theorem Follows.last (follows : Follows interval base w draws points) {last : Fix} {draw : Draw}
    (isLast : points.getLast? = some last) (drawn : draws.getLast? = some draw) :
    last.speed.1 = .fin (Number.roundHalfEven 1 (nextSpeed base draw)) ∧
      last.recordedAt = draw.now.1.instant := by
  rw [List.getLast?_eq_getElem?] at isLast drawn
  obtain ⟨_, point, _, found, _, _, speed, time⟩ := follows.each _ draw drawn
  rw [← follows.length] at found
  cases found.symm.trans isLast
  exact ⟨speed, time⟩

/-- What is shown of a bus since its last tick: whether it drives or waits at a stop, and that
it is offline when the tick is long ago. -/
def Draw.status (draw : Draw) (now : Int) : Status :=
  if now - draw.now.1.instant > staleAfter then .offline
  else if draw.halt.1 < haltProbability then .idle
  else .moving

/-- A bus that drives is faster than the threshold. -/
theorem drives_iff (band : 18 ≤ base ∧ base ≤ 42) (draw : Draw) :
    decimalGt (.fin (Number.roundHalfEven 1 (nextSpeed base draw))) movingThresholdKmh =
      .ok (!decide (draw.halt.1 < haltProbability)) := by
  have finite (q : ℚ) : decimalGt (.fin q) movingThresholdKmh = .ok (decide (5 < q)) := rfl
  rw [finite]
  congr 1
  unfold nextSpeed
  by_cases halts : draw.halt.1 < haltProbability
  · have waits : Number.roundHalfEven 1 0 ≤ ((0 : ℤ) : ℚ) := Number.roundHalfEven_le (by norm_num)
    rw [if_pos halts, decide_eq_true halts, Bool.not_true, decide_eq_false_iff_not, not_lt]
    exact waits.trans (by norm_num)
  · have jitter := draw.jitter.2.1
    have drives : ((12 : ℤ) : ℚ) ≤ Number.roundHalfEven 1 (max 0 (base + draw.jitter.1)) :=
      Number.le_roundHalfEven (le_max_of_le_right (by push_cast; linarith [band.1]))
    rw [if_neg halts, decide_eq_false halts, Bool.not_false, decide_eq_true_eq]
    exact lt_of_lt_of_le (by norm_num) drives

theorem Follows.status (follows : Follows interval base w draws points)
    (band : 18 ≤ base ∧ base ≤ 42) {last : Fix} {draw : Draw} {now : Int} {status : Status}
    (isLast : points.getLast? = some last) (drawn : draws.getLast? = some draw)
    (derived : deriveStatus (some last.recordedAt) (some last.speed.1) now = .ok status) :
    status = draw.status now := by
  obtain ⟨speed, time⟩ := follows.last isLast drawn
  rw [deriveStatus, speed, time] at derived
  rw [Option.getD_some, drives_iff band draw] at derived
  unfold Draw.status
  split at derived
  · next stale =>
      rw [if_pos stale]
      exact (Except.ok.inj derived).symm
  · next fresh =>
      rw [if_neg fresh, ← Except.ok.inj derived]
      by_cases halts : draw.halt.1 < haltProbability <;> simp [halts]

end

/-- **End to end.**  When the clock moves on from tick to tick and no fix is lost on the way, the
history of an active vehicle gains exactly where its walker was after each tick, and its drivers
see it where the walker is: idle at a stop, else moving, and offline a minute after the last
tick. -/
theorem drivers_see_their_buses (settings : Settings) {db : DB}
    (reachable : Reachable postgres settings db)
    (columns : ∀ v ∈ db.vehicles.toTable, postgres.bigint v.id = true)
    (noSlash : '/' ∉ settings.mqttTopicPrefix.toList) (d : Decoder) (own : TakesOwn d.coerce)
    (p : Printer) (haversineM : Haversine) (interval : Int) (start : Nat → Start)
    (ticks : List (Nat → Draw)) {assignments : List Assignment}
    (loaded : loadAssignments db = some assignments)
    (readsBack : ∀ fix ∈ simulatedFixes haversineM interval assignments start ticks,
      ReadsBack d p fix)
    {walkers : List (BusWalker haversineM × Int)}
    (built : buildWalkers haversineM start 0 assignments = .ok walkers)
    (alone : (walkers.map Prod.snd).Nodup) :
    ∃ published,
      runSimulator haversineM interval d.coerce p settings.mqttTopicPrefix assignments start
        ticks = .ok published ∧
      ∀ k w v, walkers[k]? = some (w, v) → db.Accepts v →
        (ticks.map fun draws => (draws k).now.1.instant).Pairwise (· < ·) →
        (∀ seen ∈ db.seenAt v, ∀ draws ∈ ticks, seen < (draws k).now.1.instant) →
        ∃ base points, drawBases start 0 walkers v = some base ∧
          Follows interval base w (ticks.map fun draws => draws k) points ∧
          (processAll postgres settings d published.flatten db).trail v =
            db.trail v ++ points ∧
          ∀ u : User, u.vehicleId = some v → ∀ last draw, points.getLast? = some last →
            (ticks.map fun draws => draws k).getLast? = some draw → ∀ now, ∃ live,
              getCurrentLocation now (processAll postgres settings d published.flatten db) u =
                .ok live ∧ live.vehicleId = v ∧ live.lat = some last.lat.1 ∧
              live.lng = some last.lng.1 ∧ live.speed = some last.speed.1 ∧
              live.recordedAt = some last.recordedAt ∧ live.status = draw.status now := by
  obtain ⟨assignments', loaded', _, walkers', built', _, ready⟩ :=
    walkers_ready reachable columns haversineM start
  cases loaded.symm.trans loaded'
  cases built.symm.trans built'
  rw [simulatedFixes, built] at readsBack
  cases assignments with
  | nil =>
      cases built
      exact ⟨[], rfl, fun k w v here => (List.not_mem_nil (List.mem_of_getElem? here)).elim⟩
  | cons a assignments =>
      obtain ⟨published, ran, carry⟩ := runTicks_carries noSlash own ticks ready readsBack
      refine ⟨published, ?_, fun k w v here accepts clock later => ?_⟩
      · simp only [runSimulator, List.isEmpty_cons, Bool.false_eq_true, if_false, built, ran]
      · obtain ⟨walkable, ⟨base, drawn, band⟩, id⟩ := ready _ (List.mem_of_getElem? here)
        have follows : Follows interval base w (ticks.map fun draws => draws k) _ :=
          track_follows drawn band id walkable
        have stored := stored_of_carries accepts carry
        rw [runFixes_track ticks ready alone here] at stored
        rw [← stored] at follows
        rw [processAll_eq]
        refine ⟨base, _, drawn, follows, trail_ingestList,
          fun u holds last draw isLast isDrawn now => ?_⟩
        obtain ⟨m, newest, rfl⟩ := Option.map_eq_some_iff.mp (List.getLast?_map.symm.trans isLast)
        have times : timesOf v (storedFixes postgres settings d db.vehicles published.flatten) =
            ticks.map fun draws => (draws k).now.1.instant := by
          have times := follows.times
          rw [List.map_map, List.map_map] at times
          exact times
        have newer : ∀ seen ∈ db.seenAt v, ∀ time ∈ timesOf v
            (storedFixes postgres settings d db.vehicles published.flatten), seen < time := by
          intro seen recorded time member
          rw [times] at member
          obtain ⟨draws, listed, rfl⟩ := List.mem_map.mp member
          exact later seen recorded draws listed
        obtain ⟨live, read, vehicle, lat, lng, speed, time, derived⟩ :=
          getCurrentLocation_ingestList (reachable.filled rfl) accepts holds (times ▸ clock) newer
            newest
        rw [speed, time] at derived
        exact ⟨live, read, vehicle, lat, lng, speed, time,
          follows.status band isLast isDrawn derived⟩

def raviWalker : BusWalker kilometre where
  waypoints := raviAssignment.waypoints
  distanceM := 0
  direction := 1
  cumulative := cumulativeM kilometre raviAssignment.waypoints
  walkable := by decide
  cumulative_eq := rfl

/-- One tick at 36 km/h, and the driver sees the bus move 20 m from the first stop. -/
theorem drivers_see_their_buses_ravi :
    ∃ published, runSimulator kilometre 2 busDecoder.coerce busPrinter "fleet" [raviAssignment]
        (fun _ => atStart) [fun _ => steady] = .ok published ∧
      ∀ u : User, u.vehicleId = some 1 → ∃ live,
        getCurrentLocation 0 (processAll postgres {} busDecoder published.flatten
          (runOps postgres {} .empty onlyRavi)) u = .ok live ∧
        live.lat = some (.fin 13.08188) ∧ live.status = .moving := by
  have fixes : simulatedFixes kilometre 2 [raviAssignment] (fun _ => atStart)
      [fun _ => steady] = [busFix] := by
    decide +kernel
  have active : (runOps postgres {} .empty onlyRavi).vehicles.get 1 =
      some ⟨1, some "BUS-001", some "Chennai Express", some true, 0⟩ := by decide +kernel
  have unseen : (runOps postgres {} .empty onlyRavi).seenAt 1 = none := by decide +kernel
  have here : (raviWalker.after (legs 2 36 [steady]) 1).position.map
      (fun q => Number.roundHalfEven 6 q.1) = some 13.08188 := by decide +kernel
  have built : buildWalkers kilometre (fun _ => atStart) 0 [raviAssignment] =
      .ok [(raviWalker, 1)] := rfl
  obtain ⟨published, ran, seen⟩ := drivers_see_their_buses {} ⟨onlyRavi, rfl⟩ onlyRavi_loaded.2.1
    (by decide) busDecoder ⟨fun _ => rfl, fun _ => rfl⟩ busPrinter kilometre 2 (fun _ => atStart)
    [fun _ => steady] onlyRavi_loaded.1
    (fun fix member => by
      rw [fixes, List.mem_singleton] at member
      subst member
      exact ⟨if_pos rfl, by decide +kernel⟩)
    built (List.nodup_singleton 1)
  obtain ⟨base, points, drawn, follows, _, shows⟩ := seen 0 raviWalker 1 rfl ⟨_, active, rfl⟩
    (List.pairwise_singleton _ _) fun _ recorded => by rw [unseen] at recorded; cases recorded
  cases drawn
  obtain ⟨q, point, there, found, lat, _⟩ := follows.each 0 steady rfl
  have last : points.getLast? = some point := by
    rw [List.getLast?_eq_getElem?, show points.length - 1 = 0 from congrArg (· - 1) follows.length]
    exact found
  refine ⟨published, ran, fun u holds => ?_⟩
  obtain ⟨live, read, _, shown, _, _, _, status⟩ := shows u holds point steady last rfl 0
  refine ⟨live, read, shown.trans (congrArg some (lat.trans (congrArg Number.fin ?_))),
    status.trans (by decide +kernel)⟩
  have position : (raviWalker.after (legs 2 36 [steady]) 1).position = some q := there
  rw [position] at here
  exact Option.some.inj here

end Simulator

end FleetTracking
