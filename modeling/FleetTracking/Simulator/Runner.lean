import FleetTracking.Mqtt.Client
import FleetTracking.Simulator.Walk

/-!
# The simulator loop

Assignments from the database become walkers; every tick moves each of them and publishes a
fix.  What a run draws at random is a parameter of it, and carries the bounds of its draw.
The walkers and the speeds are made once, and nothing else is read from the database.
-/

namespace FleetTracking.Simulator

open Relational Python Pydantic

/-- How a run raises. -/
inductive RunError
  | valueError
  | keyError
  | indexError

/-! ## Assignments -/

structure Assignment where
  vehicleId : Int
  waypoints : List Waypoint
deriving DecidableEq

/-- The rows of the query: users joined with their vehicle and their route.  `DISTINCT` fixes
no order; here they come by user id. -/
def assignedRows (db : DB) : List (Int × Int × List LatLng) :=
  (db.users.rows.filterMap fun u =>
    match u.vehicleId.bind db.vehicles.get, u.routeId.bind db.busRoutes.get with
    | some vehicle, some route => some (u.id, vehicle.id, route.waypoints)
    | _, _ => none).dedup

/-- `(w["lat"], w["lng"])` as exact numbers, which the values of a JSON document are. -/
def waypoint? (w : LatLng) : Option Waypoint :=
  match w.lat, w.lng with
  | .fin lat, .fin lng => some (lat, lng)
  | _, _ => none

/-- `_load_assignments` -/
def loadAssignments (db : DB) : Option (List Assignment) :=
  (assignedRows db).mapM fun row => (row.2.2.mapM waypoint?).map fun waypoints =>
    ⟨row.2.1, waypoints⟩

/-! ## Draws -/

/-- What the start of a run draws for one walker. -/
structure Start where
  /-- `random.uniform(0, 500)` -/
  distance : {q : ℚ // 0 ≤ q ∧ q ≤ 500}
  /-- `random.uniform(*SPEED_RANGE)` -/
  base : {q : ℚ // 18 ≤ q ∧ q ≤ 42}

/-- What a tick draws for one walker. -/
structure Draw where
  /-- `random.random()` -/
  halt : {q : ℚ // 0 ≤ q ∧ q < 1}
  /-- `random.uniform(-6.0, 6.0)` -/
  jitter : {q : ℚ // -6 ≤ q ∧ q ≤ 6}
  /-- `datetime.now(UTC)` -/
  now : {d : Datetime // d.offset = some 0}

/-- `HALT_PROBABILITY` -/
def haltProbability : ℚ := 1 / 20

/-- `_next_speed` -/
def nextSpeed (base : ℚ) (draw : Draw) : ℚ :=
  if draw.halt.1 < haltProbability then 0 else max 0 (base + draw.jitter.1)

/-! ## Fixes -/

/-- How the run prints: `json.dumps` as the client sends it, and `datetime.isoformat`. -/
structure Printer where
  dumps : Json → List UInt8
  isoformat : Datetime → String

/-- `fix` -/
structure OutgoingFix where
  vehicleId : Int
  lat : ℚ
  lng : ℚ
  speed : ℚ
  timestamp : {d : Datetime // d.offset = some 0}
deriving DecidableEq

/-- The dictionary. -/
def OutgoingFix.toJson (p : Printer) (fix : OutgoingFix) : Json :=
  .obj [("vehicle_id", .int fix.vehicleId), ("lat", .float (.fin fix.lat)),
    ("lng", .float (.fin fix.lng)), ("speed", .float (.fin fix.speed)),
    ("timestamp", .str (p.isoformat fix.timestamp))]

/-- `GPSMessage(**fix)`, which must not raise, then the topic and the payload. -/
def publish (c : Coerce) (p : Printer) (topicPrefix : String) (fix : OutgoingFix) :
    Except RunError Delivery :=
  match GPSMessage.validate c (fix.toJson p) with
  | .error _ => .error .valueError
  | .ok _ =>
      match Python.str fix.vehicleId with
      | none => .error .valueError
      | some vid => .ok ⟨topicPrefix ++ "/" ++ vid ++ "/gps", p.dumps (fix.toJson p)⟩

/-! ## The loop -/

section

variable {haversineM : Haversine}

/-- The list of walkers, each with the id of its vehicle. -/
def buildWalkers (haversineM : Haversine) (start : Nat → Start) :
    Nat → List Assignment → Except RunError (List (BusWalker haversineM × Int))
  | _, [] => .ok []
  | i, a :: assignments =>
      match BusWalker.new haversineM a.waypoints (start i).distance with
      | none => .error .valueError
      | some walker =>
          (buildWalkers haversineM start (i + 1) assignments).map ((walker, a.vehicleId) :: ·)

/-- The dictionary `bases`; a vehicle that comes twice has the later value. -/
def drawBases (start : Nat → Start) : Nat → List (BusWalker haversineM × Int) → Int → Option ℚ
  | _, [], _ => none
  | i, (_, vid) :: walkers, v =>
      (drawBases start (i + 1) walkers v).or (if v = vid then some (start i).base.1 else none)

variable (interval : Int) (bases : Int → Option ℚ)

/-- Move a walker and look where it is. -/
def drive (draw : Draw) (walker : BusWalker haversineM) (vid : Int) :
    Except RunError (BusWalker haversineM × OutgoingFix) :=
  match bases vid with
  | none => .error .keyError
  | some base =>
      let speed := nextSpeed base draw
      let walker := walker.advance speed interval
      match walker.position with
      | none => .error .indexError
      | some (lat, lng) =>
          .ok (walker, {
            vehicleId := vid
            lat := Number.roundHalfEven 6 lat
            lng := Number.roundHalfEven 6 lng
            speed := Number.roundHalfEven 1 speed
            timestamp := draw.now })

variable (c : Coerce) (p : Printer) (topicPrefix : String)

/-- One pass over the walkers: they move on, and each publishes. -/
def tick (draws : Nat → Draw) : Nat → List (BusWalker haversineM × Int) →
    Except RunError (List (BusWalker haversineM × Int) × List Delivery)
  | _, [] => .ok ([], [])
  | i, (walker, vid) :: walkers =>
      match drive interval bases (draws i) walker vid with
      | .error e => .error e
      | .ok (walker, fix) =>
          match publish c p topicPrefix fix with
          | .error e => .error e
          | .ok delivery =>
              (tick draws (i + 1) walkers).map fun (walkers, deliveries) =>
                ((walker, vid) :: walkers, delivery :: deliveries)

/-- What each tick publishes. -/
def runTicks : List (Nat → Draw) → List (BusWalker haversineM × Int) →
    Except RunError (List (List Delivery))
  | [], _ => .ok []
  | draws :: ticks, walkers =>
      match tick interval bases c p topicPrefix draws 0 walkers with
      | .error e => .error e
      | .ok (walkers, deliveries) => (runTicks ticks walkers).map (deliveries :: ·)

/-- The fixes of one pass, whether or not they can be published. -/
def tickFixes (draws : Nat → Draw) : Nat → List (BusWalker haversineM × Int) →
    List (BusWalker haversineM × Int) × List OutgoingFix
  | _, [] => ([], [])
  | i, (walker, vid) :: walkers =>
      match drive interval bases (draws i) walker vid with
      | .error _ => ([], [])
      | .ok (walker, fix) =>
          let rest := tickFixes draws (i + 1) walkers
          ((walker, vid) :: rest.1, fix :: rest.2)

/-- The fixes of a run. -/
def runFixes : List (Nat → Draw) → List (BusWalker haversineM × Int) → List OutgoingFix
  | [], _ => []
  | draws :: ticks, walkers =>
      (tickFixes interval bases draws 0 walkers).2 ++
        runFixes ticks (tickFixes interval bases draws 0 walkers).1

end

/-- `run_simulator` on what `_load_assignments` gave: without assignments there is nothing to
publish. -/
def runSimulator (haversineM : Haversine) (interval : Int) (c : Coerce) (p : Printer)
    (topicPrefix : String) (assignments : List Assignment) (start : Nat → Start)
    (ticks : List (Nat → Draw)) : Except RunError (List (List Delivery)) :=
  if assignments.isEmpty then .ok []
  else
    match buildWalkers haversineM start 0 assignments with
    | .error e => .error e
    | .ok walkers => runTicks interval (drawBases start 0 walkers) c p topicPrefix ticks walkers

/-- The fixes of such a run. -/
def simulatedFixes (haversineM : Haversine) (interval : Int) (assignments : List Assignment)
    (start : Nat → Start) (ticks : List (Nat → Draw)) : List OutgoingFix :=
  match buildWalkers haversineM start 0 assignments with
  | .error _ => []
  | .ok walkers => runFixes interval (drawBases start 0 walkers) ticks walkers

end FleetTracking.Simulator
