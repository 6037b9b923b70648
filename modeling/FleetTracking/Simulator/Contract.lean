import FleetTracking.Columns
import FleetTracking.FaultIsolation
import FleetTracking.Simulator.ArcLength
import FleetTracking.Simulator.Runner

/-!
# The simulator meets the ingestion contract

Two components and what is between them: the simulator checks its own fixes with
`GPSMessage` and publishes them; the subscriber parses topic and payload and stores them.
`Drivable` is what a walker keeps from tick to tick, and enough for its next fix to be
publishable (`drive_spec`, `publish_spec`); a run is then a run of good deliveries.
-/

namespace FleetTracking.Simulator

open Relational Python Pydantic

/-! ## Lists that are converted entry by entry -/

/-- When every entry is converted to a related one, so is the list. -/
theorem mapM_related {α β : Type} {f : α → Option β} {R : α → β → Prop} {as : List α}
    (each : ∀ a ∈ as, ∃ b, f a = some b ∧ R a b) :
    ∃ bs, as.mapM f = some bs ∧ bs.length = as.length ∧
      (∀ b ∈ bs, ∃ a ∈ as, R a b) ∧ ∀ a ∈ as, ∃ b ∈ bs, R a b := by
  induction as with
  | nil => exact ⟨[], rfl, rfl, nofun, nofun⟩
  | cons a as ih =>
      obtain ⟨b, converted, related⟩ := each a List.mem_cons_self
      obtain ⟨bs, rest, length, back, forth⟩ := ih fun a later =>
        each a (List.mem_cons_of_mem _ later)
      refine ⟨b :: bs, by simp [List.mapM_cons, converted, rest],
        by rw [List.length_cons, List.length_cons, length], fun c member => ?_, fun c member => ?_⟩
      · rcases List.mem_cons.mp member with rfl | later
        · exact ⟨a, List.mem_cons_self, related⟩
        · obtain ⟨a', member', related'⟩ := back c later
          exact ⟨a', List.mem_cons_of_mem _ member', related'⟩
      · rcases List.mem_cons.mp member with rfl | later
        · exact ⟨b, List.mem_cons_self, related⟩
        · obtain ⟨b', member', related'⟩ := forth c later
          exact ⟨b', List.mem_cons_of_mem _ member', related'⟩

/-! ## Assignments -/

/-- Inside the validator's bounds. -/
structure OnEarth (q : Waypoint) : Prop where
  lat : -90 ≤ q.1 ∧ q.1 ≤ 90
  lng : -180 ≤ q.2 ∧ q.2 ≤ 180

theorem waypoint_onEarth {w : LatLng} (validated : w.Validated) :
    ∃ q, waypoint? w = some q ∧ OnEarth q := by
  obtain ⟨lat, lng⟩ := w
  obtain ⟨q, rfl, north⟩ := validated.lat
  obtain ⟨q', rfl, east⟩ := validated.lng
  exact ⟨(q, q'), rfl, north, east⟩

/-- A list of waypoints that a walker can walk. -/
structure Walkable (waypoints : List Waypoint) : Prop where
  two : 2 ≤ waypoints.length
  onEarth : ∀ q ∈ waypoints, OnEarth q

/-- A stored polyline is walkable. -/
theorem walkable_of_polyline {stored : List LatLng} (polyline : Polyline stored) :
    ∃ waypoints, stored.mapM waypoint? = some waypoints ∧ Walkable waypoints := by
  obtain ⟨waypoints, converted, length, onEarth, _⟩ := mapM_related (R := fun _ q => OnEarth q)
    fun w member => waypoint_onEarth (polyline.validated w member)
  refine ⟨waypoints, converted, length ▸ polyline.two, fun q member => ?_⟩
  obtain ⟨_, _, bounds⟩ := onEarth q member
  exact bounds

section

variable {db : DB}

/-- The rows are the users that hold a route and a vehicle that are there. -/
theorem mem_assignedRows {row : Int × Int × List LatLng} :
    row ∈ assignedRows db ↔ ∃ u ∈ db.users.toTable, ∃ vehicle route,
      u.vehicleId.bind db.vehicles.get = some vehicle ∧
      u.routeId.bind db.busRoutes.get = some route ∧
      row = (u.id, vehicle.id, route.waypoints) := by
  rw [assignedRows, List.mem_dedup, List.mem_filterMap]
  constructor
  · intro listed
    obtain ⟨u, member, made⟩ := listed
    split at made
    · next vehicle route hasVehicle hasRoute =>
        exact ⟨u, member, vehicle, route, hasVehicle, hasRoute, (Option.some.inj made).symm⟩
    · cases made
  · intro held
    obtain ⟨u, member, vehicle, route, hasVehicle, hasRoute, rfl⟩ := held
    exact ⟨u, member, by rw [hasVehicle, hasRoute]⟩

/-- **Loading.**  Every assigned vehicle is loaded, with a polyline to walk along. -/
theorem loadAssignments_spec (filled : Filled db) (consistent : Consistent db) :
    ∃ assignments, loadAssignments db = some assignments ∧
      (∀ a ∈ assignments, Walkable a.waypoints ∧ db.vehicles.HasKey a.vehicleId) ∧
      ∀ v, (∃ u ∈ db.users.toTable, u.vehicleId = some v) ↔ ∃ a ∈ assignments, a.vehicleId = v := by
  obtain ⟨assignments, loaded, _, back, forth⟩ := mapM_related
    (f := fun row : Int × Int × List LatLng => (row.2.2.mapM waypoint?).map fun waypoints =>
      (⟨row.2.1, waypoints⟩ : Assignment))
    (R := fun row a => a.vehicleId = row.2.1 ∧ Walkable a.waypoints)
    fun row (listed : row ∈ assignedRows db) => by
      obtain ⟨u, _, vehicle, route, _, hasRoute, rfl⟩ := mem_assignedRows.mp listed
      obtain ⟨routeId, _, found⟩ := Option.bind_eq_some_iff.mp hasRoute
      obtain ⟨waypoints, converted, walkable⟩ :=
        walkable_of_polyline (filled.routes route (Table.get_eq_some.mp found).1).2
      exact ⟨⟨vehicle.id, waypoints⟩, by rw [converted, Option.map_some], rfl, walkable⟩
  refine ⟨assignments, loaded, fun a member => ?_, fun v => ⟨fun held => ?_, fun assigned => ?_⟩⟩
  · obtain ⟨row, listed, same, walkable⟩ := back a member
    obtain ⟨u, _, vehicle, route, hasVehicle, _, rfl⟩ := mem_assignedRows.mp listed
    obtain ⟨vehicleId, _, found⟩ := Option.bind_eq_some_iff.mp hasVehicle
    exact ⟨walkable, vehicle, (Table.get_eq_some.mp found).1, same.symm⟩
  · obtain ⟨u, member, holds⟩ := held
    obtain ⟨vehicle, foundVehicle⟩ := Option.isSome_iff_exists.mp
      (Table.hasKey_iff_get.mp (consistent.userVehicles u member v holds))
    have pair := consistent.pairs u member
    obtain ⟨routeId, holdsRoute⟩ : ∃ routeId, u.routeId = some routeId :=
      Option.ne_none_iff_exists'.mp fun absent => by simp [absent, holds] at pair
    obtain ⟨route, foundRoute⟩ := Option.isSome_iff_exists.mp
      (Table.hasKey_iff_get.mp (consistent.userRoutes u member routeId holdsRoute))
    obtain ⟨a, listed, same, _⟩ := forth (u.id, vehicle.id, route.waypoints)
      (mem_assignedRows.mpr ⟨u, member, vehicle, route, by rw [holds]; exact foundVehicle,
        by rw [holdsRoute]; exact foundRoute, rfl⟩)
    exact ⟨a, listed, same.trans (Table.get_eq_some.mp foundVehicle).2⟩
  · obtain ⟨a, member, rfl⟩ := assigned
    obtain ⟨row, listed, same, _⟩ := back a member
    obtain ⟨u, holder, vehicle, route, hasVehicle, _, rfl⟩ := mem_assignedRows.mp listed
    obtain ⟨vehicleId, holds, found⟩ := Option.bind_eq_some_iff.mp hasVehicle
    have own : vehicle.id = vehicleId := (Table.get_eq_some.mp found).2
    exact ⟨u, holder, by rw [holds, same, own]⟩

end

/-! ## Walkers -/

section

variable {haversineM : Haversine}

/-- **Start.**  Each assignment with a walkable polyline gets its walker. -/
theorem buildWalkers_spec (haversineM : Haversine) (start : Nat → Start)
    {assignments : List Assignment} (walkable : ∀ a ∈ assignments, Walkable a.waypoints) (i : Nat) :
    ∃ walkers, buildWalkers haversineM start i assignments = .ok walkers ∧
      walkers.map Prod.snd = assignments.map Assignment.vehicleId ∧
      ∀ walker ∈ walkers, Walkable walker.1.waypoints := by
  induction assignments generalizing i with
  | nil => exact ⟨[], rfl, rfl, nofun⟩
  | cons a assignments ih =>
      have two := (walkable a List.mem_cons_self).two
      obtain ⟨walkers, built, same, kept⟩ := ih
        (fun b later => walkable b (List.mem_cons_of_mem _ later)) (i + 1)
      refine ⟨_, by rw [buildWalkers, BusWalker.new, dif_pos two, built]; rfl,
        by rw [List.map_cons, List.map_cons, same], fun walker member => ?_⟩
      rcases List.mem_cons.mp member with rfl | later
      · exact walkable a List.mem_cons_self
      · exact kept walker later

/-- A base speed is from the band. -/
theorem drawBases_band {start : Nat → Start} {walkers : List (BusWalker haversineM × Int)}
    {i : Nat} {v : Int} {base : ℚ} (drawn : drawBases start i walkers v = some base) :
    18 ≤ base ∧ base ≤ 42 := by
  induction walkers generalizing i with
  | nil => cases drawn
  | cons walker walkers ih =>
      rcases Option.or_eq_some_iff.mp drawn with later | ⟨_, own⟩
      · exact ih later
      · split at own
        · cases own
          exact (start i).base.2
        · cases own

/-- Each vehicle with a walker has a base speed. -/
theorem drawBases_of_mem (start : Nat → Start) {walkers : List (BusWalker haversineM × Int)}
    (i : Nat) {v : Int} (member : v ∈ walkers.map Prod.snd) :
    ∃ base, drawBases start i walkers v = some base := by
  induction walkers generalizing i with
  | nil => cases member
  | cons walker walkers ih =>
      rw [drawBases]
      rcases List.mem_cons.mp member with own | later
      · cases drawBases start (i + 1) walkers v with
        | none => exact ⟨_, by rw [Option.none_or, if_pos own]⟩
        | some base => exact ⟨base, Option.some_or⟩
      · obtain ⟨base, drawn⟩ := ih (i + 1) later
        exact ⟨base, by rw [drawn, Option.some_or]⟩

theorem nextSpeed_bounds {base : ℚ} (band : 18 ≤ base ∧ base ≤ 42) (draw : Draw) :
    0 ≤ nextSpeed base draw ∧ nextSpeed base draw ≤ 300 := by
  unfold nextSpeed
  split
  · norm_num
  · have jitter := draw.jitter.2
    exact ⟨le_max_left _ _, max_le (by norm_num) (by linarith)⟩

/-! ## One fix -/

/-- Within the bounds of `GPSMessage` and of the id column. -/
structure OutgoingFix.Publishable (fix : OutgoingFix) : Prop where
  vehicleId : 1 ≤ fix.vehicleId ∧ fix.vehicleId < 2 ^ 63
  lat : -90 ≤ fix.lat ∧ fix.lat ≤ 90
  lng : -180 ≤ fix.lng ∧ fix.lng ≤ 180
  speed : 0 ≤ fix.speed ∧ fix.speed ≤ 300

/-- Rounding keeps within whole bounds. -/
theorem roundHalfEven_mem {lo hi q : ℚ} (scale : Nat) (l h : ℤ) (low : (l : ℚ) = lo)
    (high : (h : ℚ) = hi) (bounds : lo ≤ q ∧ q ≤ hi) :
    lo ≤ Number.roundHalfEven scale q ∧ Number.roundHalfEven scale q ≤ hi := by
  subst low
  subst high
  exact ⟨Number.le_roundHalfEven bounds.1, Number.roundHalfEven_le bounds.2⟩

/-- **Step.**  A walker on a walkable polyline moves without raising and yields a fix that can
be published; it is on the same polyline afterwards. -/
theorem drive_spec (interval : Int) {bases : Int → Option ℚ} {walker : BusWalker haversineM}
    {vid : Int} {base : ℚ} (walkable : Walkable walker.waypoints) (drawn : bases vid = some base)
    (band : 18 ≤ base ∧ base ≤ 42) (id : 1 ≤ vid ∧ vid < 2 ^ 63) (draw : Draw) :
    ∃ walker' fix, drive interval bases draw walker vid = .ok (walker', fix) ∧
      Walkable walker'.waypoints ∧ fix.vehicleId = vid ∧ fix.Publishable ∧
      fix.timestamp = draw.now := by
  obtain ⟨a, first, b, second, t, nonneg, atMostOne, here⟩ :=
    BusWalker.position_between (walker.advance_distance (nextSpeed base draw) interval)
  rw [BusWalker.advance_waypoints] at first second
  have onEarth := walkable.onEarth a first
  have onEarth' := walkable.onEarth b second
  have speed := nextSpeed_bounds band draw
  refine ⟨walker.advance (nextSpeed base draw) interval, _, by simp only [drive, drawn, here]; rfl,
    by rwa [BusWalker.advance_waypoints], rfl, ⟨id, ?_, ?_, ?_⟩, rfl⟩
  · exact roundHalfEven_mem 6 (-90) 90 (by norm_num) (by norm_num)
      (interpolate_mem onEarth.lat onEarth'.lat ⟨nonneg, atMostOne⟩)
  · exact roundHalfEven_mem 6 (-180) 180 (by norm_num) (by norm_num)
      (interpolate_mem onEarth.lng onEarth'.lng ⟨nonneg, atMostOne⟩)
  · exact roundHalfEven_mem 1 0 300 (by norm_num) (by norm_num) speed

end

/-! ## What is read back -/

/-- Pydantic takes an `int` for an `int` and a `float` for a `float`. -/
structure TakesOwn (c : Coerce) : Prop where
  int : ∀ n, c.int (.int n) = some n
  float : ∀ x, c.float (.float x) = some x

/-- The printed fix is read back: the document, and the timestamp in it. -/
structure ReadsBack (d : Decoder) (p : Printer) (fix : OutgoingFix) : Prop where
  json : d.loads (p.dumps (fix.toJson p)) = .ok (fix.toJson p)
  timestamp : d.coerce.datetime (.str (p.isoformat fix.timestamp)) = some fix.timestamp.1

/-- The ingestion contract: topic and payload are parsed to the vehicle and a message about
it, and the message is stored wherever that vehicle is there and active. -/
structure Meets (settings : Settings) (d : Decoder) (v : Int) (delivery : Delivery) : Prop where
  topic : parseTopic delivery.topic settings.mqttTopicPrefix = some v
  payload : ∃ m, parsePayload d delivery.payload = .ok (some m) ∧ m.vehicleId.1 = v ∧
    ∀ db : DB, db.Accepts v →
      processMessage postgres settings d none delivery db = (.done, db.ingest m)

section

variable {settings : Settings} {d : Decoder} {c : Coerce} {p : Printer} {fix : OutgoingFix}

/-- The message that the fix is. -/
def OutgoingFix.message (fix : OutgoingFix) (publishable : fix.Publishable) : GPSMessage where
  vehicleId := ⟨fix.vehicleId, publishable.vehicleId.1⟩
  lat := .ofRat fix.lat publishable.lat
  lng := .ofRat fix.lng publishable.lng
  speed := .ofRat fix.speed publishable.speed
  timestamp := ⟨fix.timestamp.1, by rw [Datetime.isAware, fix.timestamp.2]; rfl⟩

/-- The contract check passes. -/
theorem validate_toJson (own : TakesOwn c)
    (printed : c.datetime (.str (p.isoformat fix.timestamp)) = some fix.timestamp.1)
    (publishable : fix.Publishable) :
    GPSMessage.validate c (fix.toJson p) = .ok (fix.message publishable) := by
  have vehicleId : required "vehicle_id" (atLeast c 1) (fix.toJson p) =
      .ok (fix.message publishable).vehicleId :=
    required_of_field rfl (atLeast_of_convert (own.int _))
  have lat : required "lat" (between c (-90) 90) (fix.toJson p) =
      .ok (fix.message publishable).lat :=
    required_of_field rfl (between_of_convert (own.float _))
  have lng : required "lng" (between c (-180) 180) (fix.toJson p) =
      .ok (fix.message publishable).lng :=
    required_of_field rfl (between_of_convert (own.float _))
  have speed : required "speed" (between c 0 300) (fix.toJson p) =
      .ok (fix.message publishable).speed :=
    required_of_field rfl (between_of_convert (own.float _))
  have time : required "timestamp" (FleetTracking.timestamp c) (fix.toJson p) =
      .ok (fix.message publishable).timestamp := by
    refine required_of_field rfl ?_
    rw [FleetTracking.timestamp, typed_of_convert printed]
    exact dif_pos (fix.message publishable).timestamp.2
  rw [GPSMessage.validate, vehicleId, lat, lng, speed, time]
  rfl

/-- A fix within the bounds is published, with its vehicle's id in the topic. -/
theorem publish_ok (own : TakesOwn c)
    (printed : c.datetime (.str (p.isoformat fix.timestamp)) = some fix.timestamp.1)
    (publishable : fix.Publishable) (topicPrefix : String) :
    ∃ id, Python.str fix.vehicleId = some id ∧ (∀ x ∈ id.toList, x.isDigit = true) ∧
      publish c p topicPrefix fix =
        .ok ⟨topicPrefix ++ "/" ++ id ++ "/gps", p.dumps (fix.toJson p)⟩ := by
  obtain ⟨positive, bigint⟩ := publishable.vehicleId
  have short : fix.vehicleId.natAbs < 10 ^ maxStrDigits := by
    have digits : fix.vehicleId.natAbs < 10 ^ 19 := by omega
    exact digits.trans_le (Nat.pow_le_pow_right (by omega) (by decide))
  obtain ⟨id, shown, isDigit⟩ := str_of_nonneg (by omega) short
  exact ⟨id, shown, isDigit,
    by simp only [publish, validate_toJson own printed publishable, shown]⟩

theorem parsePayload_of_object {payload : List UInt8} {members : List (String × Json)}
    {m : GPSMessage} (read : d.loads payload = .ok (.obj members))
    (valid : GPSMessage.validate d.coerce (.obj members) = .ok m) :
    parsePayload d payload = .ok (some m) := by
  simp only [parsePayload, read, valid]

/-- A message of a vehicle that is there and active is stored. -/
theorem processMessage_stores {delivery : Delivery} {m : GPSMessage} {db : DB}
    (topic : parseTopic delivery.topic settings.mqttTopicPrefix = some m.vehicleId.1)
    (payload : parsePayload d delivery.payload = .ok (some m)) (takes : postgres.Takes m)
    (accepts : db.Accepts m.vehicleId) :
    processMessage postgres settings d none delivery db = (.done, db.ingest m) := by
  obtain ⟨vehicle, found, active⟩ := accepts
  have stored : verdict postgres settings d db.vehicles delivery = .stored m := by
    simp only [verdict, topic, payload, ne_eq, not_true_eq_false, if_false, fixVerdict, takes.1,
      if_true, found, active, takes.2]
  rw [processMessage_none, stored]
  rfl

/-- **Publishing.**  A fix within the bounds passes the contract check, and what is published
meets the ingestion contract. -/
theorem publish_spec (noSlash : '/' ∉ settings.mqttTopicPrefix.toList)
    (own : TakesOwn d.coerce) (readsBack : ReadsBack d p fix) (publishable : fix.Publishable) :
    ∃ delivery, publish d.coerce p settings.mqttTopicPrefix fix = .ok delivery ∧
      Meets settings d fix.vehicleId delivery := by
  obtain ⟨id, shown, isDigit, published⟩ :=
    publish_ok own readsBack.timestamp publishable settings.mqttTopicPrefix
  refine ⟨_, published, ?_⟩
  have topic := parseTopic_built noSlash shown isDigit publishable.vehicleId.1
  have payload := parsePayload_of_object readsBack.json
    (validate_toJson own readsBack.timestamp publishable)
  have takes : postgres.Takes (fix.message publishable) := by
    have vehicleId := publishable.vehicleId
    have time := fix.timestamp.1.representable
    refine ⟨?_, ?_⟩
    · simp only [postgres, OutgoingFix.message, decide_eq_true_eq]
      omega
    · simp only [postgres, GPSMessage.recordedAt, OutgoingFix.message, Datetime.instant,
        fix.timestamp.2, Option.getD_some, sub_zero, decide_eq_true_eq]
      exact time
  exact ⟨topic, fix.message publishable, payload, rfl, fun db accepts =>
    processMessage_stores topic payload takes accepts⟩

end

/-! ## Runs -/

section

variable {haversineM : Haversine} {settings : Settings} {d : Decoder} {p : Printer}
  {interval : Int} {bases : Int → Option ℚ} {walkers : List (BusWalker haversineM × Int)}

/-- A walker that can go on. -/
structure Ready (bases : Int → Option ℚ) (walker : BusWalker haversineM × Int) : Prop where
  walkable : Walkable walker.1.waypoints
  base : ∃ base, bases walker.2 = some base ∧ 18 ≤ base ∧ base ≤ 42
  vehicleId : 1 ≤ walker.2 ∧ walker.2 < 2 ^ 63

/-- **Step.**  A tick publishes a good delivery for each walker, in their order, and leaves
all of them ready. -/
theorem tick_spec (noSlash : '/' ∉ settings.mqttTopicPrefix.toList) (own : TakesOwn d.coerce)
    (draws : Nat → Draw) (i : Nat) (ready : ∀ walker ∈ walkers, Ready bases walker)
    (readsBack : ∀ fix ∈ (tickFixes interval bases draws i walkers).2, ReadsBack d p fix) :
    ∃ deliveries,
      tick interval bases d.coerce p settings.mqttTopicPrefix draws i walkers =
        .ok ((tickFixes interval bases draws i walkers).1, deliveries) ∧
      List.Forall₂ (Meets settings d) (walkers.map Prod.snd) deliveries ∧
      (tickFixes interval bases draws i walkers).1.map Prod.snd = walkers.map Prod.snd ∧
      ∀ walker ∈ (tickFixes interval bases draws i walkers).1, Ready bases walker := by
  induction walkers generalizing i with
  | nil => exact ⟨[], rfl, .nil, rfl, nofun⟩
  | cons head walkers ih =>
      obtain ⟨walker, vid⟩ := head
      obtain ⟨walkable, ⟨base, drawn, band⟩, vehicleId⟩ := ready _ List.mem_cons_self
      obtain ⟨walker', fix, driven, walkable', rfl, publishable, _⟩ :=
        drive_spec interval walkable drawn band vehicleId (draws i)
      simp only [tickFixes, driven] at readsBack ⊢
      obtain ⟨delivery, published, meets⟩ :=
        publish_spec noSlash own (readsBack fix List.mem_cons_self) publishable
      obtain ⟨deliveries, ticked, allMeet, same, allReady⟩ := ih (i + 1)
        (fun walker later => ready walker (List.mem_cons_of_mem _ later))
        fun fix later => readsBack fix (List.mem_cons_of_mem _ later)
      refine ⟨delivery :: deliveries, by simp only [tick, driven, published, ticked]; rfl,
        .cons meets allMeet, by rw [List.map_cons, List.map_cons, same], fun next member => ?_⟩
      rcases List.mem_cons.mp member with rfl | later
      · exact ⟨walkable', ⟨base, drawn, band⟩, vehicleId⟩
      · exact allReady next later

/-- **Run.** -/
theorem runTicks_spec (noSlash : '/' ∉ settings.mqttTopicPrefix.toList)
    (own : TakesOwn d.coerce) (ticks : List (Nat → Draw))
    (ready : ∀ walker ∈ walkers, Ready bases walker)
    (readsBack : ∀ fix ∈ runFixes interval bases ticks walkers, ReadsBack d p fix) :
    ∃ published,
      runTicks interval bases d.coerce p settings.mqttTopicPrefix ticks walkers = .ok published ∧
      published.length = ticks.length ∧
      ∀ deliveries ∈ published,
        List.Forall₂ (Meets settings d) (walkers.map Prod.snd) deliveries := by
  induction ticks generalizing walkers with
  | nil => exact ⟨[], rfl, rfl, nofun⟩
  | cons draws ticks ih =>
      rw [runFixes] at readsBack
      obtain ⟨deliveries, ticked, meets, same, ready'⟩ := tick_spec noSlash own draws 0 ready
        fun fix member => readsBack fix (List.mem_append_left _ member)
      obtain ⟨published, ran, length, allMeet⟩ := ih ready'
        fun fix member => readsBack fix (List.mem_append_right _ member)
      refine ⟨deliveries :: published, by simp only [runTicks, ticked, ran]; rfl,
        by rw [List.length_cons, List.length_cons, length], fun other member => ?_⟩
      rcases List.mem_cons.mp member with rfl | later
      · exact meets
      · exact same ▸ allMeet other later

/-- What a run starts with: every assigned vehicle has a walker, and each of them is ready. -/
theorem walkers_ready {db : DB} (reachable : Reachable postgres settings db)
    (columns : ∀ v ∈ db.vehicles.toTable, postgres.bigint v.id = true)
    (haversineM : Haversine) (start : Nat → Start) :
    ∃ assignments, loadAssignments db = some assignments ∧
      (∀ v, (∃ u ∈ db.users.toTable, u.vehicleId = some v) ↔
        ∃ a ∈ assignments, a.vehicleId = v) ∧
      ∃ walkers, buildWalkers haversineM start 0 assignments = .ok walkers ∧
        walkers.map Prod.snd = assignments.map Assignment.vehicleId ∧
        ∀ walker ∈ walkers, Ready (drawBases start 0 walkers) walker := by
  obtain ⟨assignments, loaded, sound, assigned⟩ :=
    loadAssignments_spec (reachable.filled rfl) reachable.consistent
  obtain ⟨walkers, built, same, walkable⟩ := buildWalkers_spec haversineM start
    (fun a member => (sound a member).1) 0
  refine ⟨assignments, loaded, assigned, walkers, built, same, fun walker member => ?_⟩
  have listed : walker.2 ∈ walkers.map Prod.snd := List.mem_map_of_mem member
  obtain ⟨base, drawn⟩ := drawBases_of_mem start 0 listed
  rw [same] at listed
  obtain ⟨a, assigned, own⟩ := List.mem_map.mp listed
  obtain ⟨vehicle, present, key⟩ := (sound a assigned).2
  have id : vehicle.id = walker.2 := key.trans own
  have positive : 1 ≤ vehicle.id := Serial.one_le_key present
  have bigint := columns vehicle present
  simp only [postgres, decide_eq_true_eq] at bigint
  exact ⟨walkable walker member, ⟨base, drawn, drawBases_band drawn⟩, id ▸ positive,
    id ▸ bigint.2⟩

end

/-- **The simulator meets the ingestion contract.**  `columns` says that an id column holds
64-bit integers; `own` and `readsBack` are what pydantic and `json` document, `readsBack` for
the fixes of this run. -/
theorem simulator_meets_contract (settings : Settings) {db : DB}
    (reachable : Reachable postgres settings db)
    (columns : ∀ v ∈ db.vehicles.toTable, postgres.bigint v.id = true)
    (noSlash : '/' ∉ settings.mqttTopicPrefix.toList) (d : Decoder) (own : TakesOwn d.coerce)
    (p : Printer) (haversineM : Haversine) (interval : Int) (start : Nat → Start)
    (ticks : List (Nat → Draw))
    (readsBack : ∀ assignments, loadAssignments db = some assignments →
      ∀ fix ∈ simulatedFixes haversineM interval assignments start ticks, ReadsBack d p fix) :
    ∃ assignments, loadAssignments db = some assignments ∧
      (∀ v, (∃ u ∈ db.users.toTable, u.vehicleId = some v) ↔
        ∃ a ∈ assignments, a.vehicleId = v) ∧
      (∃ walkers, buildWalkers haversineM start 0 assignments = .ok walkers ∧
        walkers.map Prod.snd = assignments.map Assignment.vehicleId) ∧
      ∃ published,
        runSimulator haversineM interval d.coerce p settings.mqttTopicPrefix assignments start
          ticks = .ok published ∧
        (assignments ≠ [] → published.length = ticks.length) ∧
        ∀ deliveries ∈ published, List.Forall₂ (Meets settings d)
          (assignments.map Assignment.vehicleId) deliveries := by
  obtain ⟨assignments, loaded, assigned, walkers, built, same, ready⟩ :=
    walkers_ready reachable columns haversineM start
  have readsBack := readsBack assignments loaded
  rw [simulatedFixes, built] at readsBack
  obtain ⟨published, ran, length, meets⟩ := runTicks_spec noSlash own ticks ready readsBack
  rw [same] at meets
  refine ⟨assignments, loaded, assigned, ⟨walkers, built, same⟩, ?_⟩
  cases assignments with
  | nil => exact ⟨[], rfl, fun nonempty => (nonempty rfl).elim, nofun⟩
  | cons a assignments =>
      exact ⟨published, by simp only [runSimulator, List.isEmpty_cons, Bool.false_eq_true, if_false,
        built, ran], fun _ => length, meets⟩

/-! ### One bus -/

/-- The seed, and then only the first demo user stays assigned. -/
def onlyRavi : List (Ambient × Op) := [
  (plainAmbient, .seed false),
  (plainAmbient, .call (.setAssignment 3 .unassign)),
  (plainAmbient, .call (.setAssignment 4 .unassign)),
  (plainAmbient, .call (.setAssignment 5 .unassign))]

def raviAssignment : Assignment :=
  ⟨1, [(13.0827, 80.2707), (13.0417, 80.2345), (12.9941, 80.1709)]⟩

theorem onlyRavi_loaded :
    loadAssignments (runOps postgres {} .empty onlyRavi) = some [raviAssignment] ∧
      (∀ v ∈ (runOps postgres {} .empty onlyRavi).vehicles.rows, postgres.bigint v.id = true) ∧
      ∃ u ∈ (runOps postgres {} .empty onlyRavi).users.rows, u.vehicleId.isSome = true := by
  decide +kernel

/-- Cruising at 36 km/h from the start. -/
def atStart : Start := ⟨⟨0, by norm_num⟩, ⟨36, by norm_num⟩⟩

/-- No halt and no jitter. -/
def steady : Draw := ⟨⟨1 / 2, by norm_num⟩, ⟨0, by norm_num⟩, ⟨.epoch, rfl⟩⟩

/-- A kilometre from each waypoint to the next. -/
def kilometre : Haversine := fun _ _ => ⟨1000, by norm_num⟩

/-- The fix after two seconds, 20 m along. -/
def busText : String :=
  "\x7b\"vehicle_id\": 1, \"lat\": 13.08188, \"lng\": 80.269976, \"speed\": 36.0, " ++
    "\"timestamp\": \"1970-01-01T00:00:00+00:00\"\x7d"

def busFix : OutgoingFix := ⟨1, 13.08188, 80.269976, 36, ⟨.epoch, rfl⟩⟩

/-- Prints `busFix` as Python does. -/
def busPrinter : Printer := ⟨fun _ => busText.toUTF8.toList, fun _ => "1970-01-01T00:00:00+00:00"⟩

/-- Reads `busText` as Python does, and nothing else. -/
def busDecoder : Decoder where
  loads payload :=
    if payload = busText.toUTF8.toList then .ok (busFix.toJson busPrinter)
    else .error .jsonDecodeError
  coerce := { Coerce.asIs with
    datetime
      | .str s => if s = "1970-01-01T00:00:00+00:00" then some .epoch else none
      | _ => none }

theorem simulator_meets_contract_bus :
    ∃ published, runSimulator kilometre 2 busDecoder.coerce busPrinter "fleet"
        [⟨1, [(13.0827, 80.2707), (13.0417, 80.2345), (12.9941, 80.1709)]⟩] (fun _ => atStart)
        [fun _ => steady] = .ok published ∧
      published.length = 1 ∧
      ∀ deliveries ∈ published, List.Forall₂ (Meets {} busDecoder) [1] deliveries := by
  have fixes : simulatedFixes kilometre 2 [raviAssignment] (fun _ => atStart)
      [fun _ => steady] = [busFix] := by
    decide +kernel
  obtain ⟨assignments, loaded', _, _, published, ran, length, meets⟩ :=
    simulator_meets_contract {} ⟨onlyRavi, rfl⟩ onlyRavi_loaded.2.1 (by decide) busDecoder
      ⟨fun _ => rfl, fun _ => rfl⟩ busPrinter kilometre 2 (fun _ => atStart) [fun _ => steady]
      fun assignments loaded' fix member => by
        cases onlyRavi_loaded.1.symm.trans loaded'
        rw [fixes, List.mem_singleton] at member
        subst member
        exact ⟨if_pos rfl, by decide +kernel⟩
  cases onlyRavi_loaded.1.symm.trans loaded'
  exact ⟨published, ran, length (List.cons_ne_nil _ _), meets⟩

end FleetTracking.Simulator
