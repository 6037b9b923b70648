import FleetTracking.Models

/-!
# User-scoped tracking reads

The `/me` reads.  Each takes the caller's own row and derives the route and the vehicle from
it.  `getHistory` sends two statements, the count and the page, and both see one database; in
`getHistoryTxn` each sees what is committed by then.
-/

namespace FleetTracking

open Relational Python Pydantic ReadCommitted

/-! ## Status -/

inductive Status
  | moving
  | idle
  | offline
deriving DecidableEq

/-- `STALE_AFTER` -/
def staleAfter : Int := seconds 60

/-- `MOVING_THRESHOLD_KMH` -/
def movingThresholdKmh : Number := .fin 5

/-- `DEFAULT_HISTORY_WINDOW` -/
def defaultHistoryWindow : Int := seconds (24 * 60 * 60)

/-- `x > y` of `Decimal`, which raises on NaN. -/
def decimalGt (x y : Number) : Except Failure Bool :=
  if x = .nan ∨ y = .nan then .error .invalidOperation else .ok (y.lt x)

def deriveStatus (recordedAt : Option Int) (speed : Option Number) (now : Int) :
    Except Failure Status :=
  match recordedAt with
  | none => .ok .offline
  | some recordedAt =>
      if now - recordedAt > staleAfter then .ok .offline
      else (decimalGt (speed.getD (.fin 0)) movingThresholdKmh).map fun moving =>
        if moving then .moving else .idle

/-! ## Response schemas -/

/-- A column that the response model declares as a `str`. -/
def requireStr : Option String → Except Failure String
  | some s => .ok s
  | none => .error .responseValidationError

structure RouteSummary where
  id : Int
  name : String
deriving DecidableEq

def RouteSummary.modelValidate (route : BusRoute) : Except Failure RouteSummary := do
  return ⟨route.id, ← requireStr route.name⟩

structure VehicleSummary where
  id : Int
  code : String
  name : String
deriving DecidableEq

def VehicleSummary.modelValidate (vehicle : Vehicle) : Except Failure VehicleSummary := do
  return ⟨vehicle.id, ← requireStr vehicle.code, ← requireStr vehicle.name⟩

structure AssignmentOut where
  route : Option RouteSummary
  vehicle : Option VehicleSummary
deriving DecidableEq

/-- A stored waypoint is checked again on its way out. -/
def Waypoint.modelValidate (w : LatLng) : Except Failure Waypoint :=
  match checkBetween (-90) 90 w.lat, checkBetween (-180) 180 w.lng with
  | .ok lat, .ok lng => .ok ⟨lat, lng⟩
  | _, _ => .error .responseValidationError

structure RoutePolylineOut where
  id : Int
  name : String
  waypoints : List Waypoint

def RoutePolylineOut.modelValidate (route : BusRoute) : Except Failure RoutePolylineOut := do
  return ⟨route.id, ← requireStr route.name, ← route.waypoints.mapM Waypoint.modelValidate⟩

structure VehicleLiveOut where
  vehicleId : Int
  vehicleCode : String
  lat : Option Number
  lng : Option Number
  speed : Option Number
  recordedAt : Option Int
  status : Status
deriving DecidableEq

structure HistoryPointOut where
  lat : Number
  lng : Number
  speed : Number
  recordedAt : Int
deriving DecidableEq

def HistoryPointOut.modelValidate (p : GPSPoint) : HistoryPointOut :=
  ⟨p.lat, p.lng, p.speed, p.recordedAt⟩

structure HistoryOut where
  vehicleId : Int
  count : Nat
  points : List HistoryPointOut
deriving DecidableEq

structure UserOut where
  id : Int
  email : String
  isAdmin : Bool
  routeId : Option Int
  vehicleId : Option Int
  createdAt : Int
deriving DecidableEq

/-- The e-mail is checked again on its way out. -/
def UserOut.modelValidate (c : Coerce) (user : User) : Except Failure UserOut :=
  match user.email.bind fun email => c.email (.str email) with
  | some email =>
      .ok ⟨user.id, email, user.isAdmin, user.routeId, user.vehicleId, user.createdAt⟩
  | none => .error .responseValidationError

/-! ## The reads -/

def noAssignmentError (message : Message) : Failure := .app (.plain .noAssignmentError message)

/-- `_require_assignment` -/
def requireAssignment (user : User) : Except Failure Unit :=
  if user.routeId = none ∧ user.vehicleId = none then .error (noAssignmentError .noAssignment)
  else .ok ()

/-- `await db.get(table, k) if k else None` -/
def getIfSet {ρ : Type} [SerialKeyed ρ] (t : Serial ρ) : Option Int → Option ρ
  | some k => if k = 0 then none else t.get k
  | none => none

def getAssignment (db : DB) (user : User) : Except Failure AssignmentOut := do
  requireAssignment user
  let route := getIfSet db.busRoutes user.routeId
  let vehicle := getIfSet db.vehicles user.vehicleId
  return ⟨← route.mapM RouteSummary.modelValidate, ← vehicle.mapM VehicleSummary.modelValidate⟩

def getRoutePolyline (db : DB) (user : User) : Except Failure RoutePolylineOut :=
  match user.routeId with
  | none => .error (noAssignmentError .noRouteAssigned)
  | some routeId =>
      match db.busRoutes.get routeId with
      | none => .error (noAssignmentError .assignedRouteGone)
      | some route => RoutePolylineOut.modelValidate route

def getCurrentLocation (now : Int) (db : DB) (user : User) : Except Failure VehicleLiveOut :=
  match user.vehicleId with
  | none => .error (noAssignmentError .noVehicleAssigned)
  | some vehicleId =>
      match db.vehicles.get vehicleId with
      | none => .error (noAssignmentError .assignedVehicleGone)
      | some vehicle => do
          let current := db.vehicleCurrentLocation.get vehicleId
          let status ← deriveStatus (current.map (·.recordedAt)) (current.map (·.speed.1)) now
          return {
            vehicleId := vehicle.id
            vehicleCode := ← requireStr vehicle.code
            lat := current.map (·.lat.1)
            lng := current.map (·.lng.1)
            speed := current.map (·.speed.1)
            recordedAt := current.map (·.recordedAt)
            status }

/-- A `datetime` as the query compares it, or the driver's refusal. -/
def bindDatetime (E : Engine) (d : Datetime) : Except Failure Int :=
  let d := if d.isAware then d else d.replaceUtc
  if E.timestamptz d.instant then .ok d.instant else .error .dbapiError

/-- `params.date_to or datetime.now(UTC)`, `params.date_from or (date_to - 24 h)`. -/
def historyWindow (E : Engine) (now : Datetime) (params : HistoryParams) :
    Except Failure (Int × Int) := do
  let dateTo := params.dateTo.getD now
  let dateFrom ←
    match params.dateFrom with
    | some dateFrom => .ok dateFrom
    | none =>
        match dateTo.add (-defaultHistoryWindow) with
        | some dateFrom => .ok dateFrom
        | none => .error .overflowError
  return (← bindDatetime E dateFrom, ← bindDatetime E dateTo)

/-- The conditions of both history queries. -/
def inWindow (vehicleId dateFrom dateTo : Int) (p : GPSPoint) : Bool :=
  p.vehicleId = vehicleId ∧ dateFrom ≤ p.recordedAt ∧ p.recordedAt ≤ dateTo

/-- `ORDER BY recorded_at, id` -/
def chronological (p q : GPSPoint) : Bool :=
  p.recordedAt < q.recordedAt ∨ (p.recordedAt = q.recordedAt ∧ p.id ≤ q.id)

/-- `SELECT … ORDER BY … LIMIT … OFFSET …` -/
def historyPage (t : Serial GPSPoint) (cond : GPSPoint → Bool) (limit offset : Int) :
    List GPSPoint :=
  (((t.rows.filter cond).mergeSort chronological).drop offset.toNat).take limit.toNat

def getHistory (E : Engine) (now : Datetime) (db : DB) (user : User) (params : HistoryParams) :
    Except Failure HistoryOut :=
  match user.vehicleId with
  | none => .error (noAssignmentError .noVehicleAssigned)
  | some vehicleId => do
      let (dateFrom, dateTo) ← historyWindow E now params
      let cond := inWindow vehicleId dateFrom dateTo
      let total := db.gpsPoints.count cond
      if E.bigint params.offset then
        let points := historyPage db.gpsPoints cond params.limit params.offset
        return ⟨vehicleId, total, points.map HistoryPointOut.modelValidate⟩
      else throw .dbapiError

/-- `getHistory`, statement by statement. -/
def getHistoryTxn (E : Engine) (now : Datetime) (user : User) (params : HistoryParams) :
    Txn DB RowLock (Except Failure HistoryOut) :=
  match user.vehicleId with
  | none => .rollback (.error (noAssignmentError .noVehicleAssigned))
  | some vehicleId =>
      match historyWindow E now params with
      | .error failure => .rollback (.error failure)
      | .ok (dateFrom, dateTo) =>
          let cond := inWindow vehicleId dateFrom dateTo
          .select fun db =>
            let total := db.gpsPoints.count cond
            if E.bigint params.offset then
              .select fun db =>
                let points := historyPage db.gpsPoints cond params.limit params.offset
                .rollback (.ok ⟨vehicleId, total, points.map HistoryPointOut.modelValidate⟩)
            else .rollback (.error .dbapiError)

/-- The statements of the call, running alone, are the call. -/
theorem getHistoryTxn_solo {E : Engine} {now : Datetime} {db : DB} {u : User}
    {params : HistoryParams} :
    (getHistoryTxn E now u params).solo [] db = (getHistory E now db u params, db) := by
  unfold getHistoryTxn getHistory
  cases u.vehicleId with
  | none => rfl
  | some vehicleId =>
      dsimp only
      cases historyWindow E now params with
      | error failure => rfl
      | ok window =>
          simp only [Txn.solo, bind, Except.bind]
          split <;> rfl

/-- What a query in a window that the driver takes answers. -/
theorem getHistory_eq {E : Engine} {now : Datetime} {db : DB} {u : User}
    {params : HistoryParams} {v dateFrom dateTo : Int} (holds : u.vehicleId = some v)
    (window : historyWindow E now params = .ok (dateFrom, dateTo))
    (fits : E.bigint params.offset = true) :
    getHistory E now db u params =
      .ok ⟨v, db.gpsPoints.count (inWindow v dateFrom dateTo),
        (historyPage db.gpsPoints (inWindow v dateFrom dateTo) params.limit params.offset).map
          HistoryPointOut.modelValidate⟩ := by
  unfold getHistory
  rw [holds]
  dsimp only
  rw [window]
  exact if_pos fits

/-- A naive `datetime` is bound as UTC, which is how its instant is read. -/
theorem bindDatetime_eq (E : Engine) (d : Datetime) :
    bindDatetime E d = if E.timestamptz d.instant then .ok d.instant else .error .dbapiError := by
  have utc : (if d.isAware then d else d.replaceUtc).instant = d.instant := by
    split
    · rfl
    · next naive =>
        have noOffset : d.offset = none := by simpa [Datetime.isAware] using naive
        simp [Datetime.instant, Datetime.replaceUtc, noOffset]
  simp only [bindDatetime, utc]

/-- Where the window begins; `none` when the subtraction leaves the calendar. -/
def HistoryParams.since (params : HistoryParams) (now : Datetime) : Option Datetime :=
  match params.dateFrom with
  | some dateFrom => some dateFrom
  | none => (params.dateTo.getD now).add (-defaultHistoryWindow)

theorem bindDatetime_eq_ok {E : Engine} {d : Datetime} {t : Int} :
    bindDatetime E d = .ok t ↔ E.timestamptz d.instant = true ∧ d.instant = t := by
  rw [bindDatetime_eq]
  split
  · next takes => simp [takes]
  · next refuses => simp [refuses]

/-- The windows that the driver takes. -/
theorem historyWindow_eq_ok {E : Engine} {now : Datetime} {params : HistoryParams}
    {window : Int × Int} :
    historyWindow E now params = .ok window ↔
      ∃ since, params.since now = some since ∧ E.timestamptz since.instant = true ∧
        E.timestamptz (params.dateTo.getD now).instant = true ∧
        (since.instant, (params.dateTo.getD now).instant) = window := by
  have bound (since : Datetime) :
      (do return (← bindDatetime E since, ← bindDatetime E (params.dateTo.getD now)) :
        Except Failure (Int × Int)) = .ok window ↔
      E.timestamptz since.instant = true ∧
        E.timestamptz (params.dateTo.getD now).instant = true ∧
        (since.instant, (params.dateTo.getD now).instant) = window := by
    constructor
    · intro done
      obtain ⟨dateFrom, opened, done⟩ := bind_eq_ok.mp done
      obtain ⟨dateTo, closed, done⟩ := bind_eq_ok.mp done
      obtain ⟨takesFrom, rfl⟩ := bindDatetime_eq_ok.mp opened
      obtain ⟨takesTo, rfl⟩ := bindDatetime_eq_ok.mp closed
      exact ⟨takesFrom, takesTo, Except.ok.inj done⟩
    · rintro ⟨takesFrom, takesTo, rfl⟩
      rw [bindDatetime_eq_ok.mpr ⟨takesFrom, rfl⟩, bindDatetime_eq_ok.mpr ⟨takesTo, rfl⟩]
      rfl
  unfold historyWindow HistoryParams.since
  cases params.dateFrom with
  | some since =>
      simp only [Option.some.injEq, exists_eq_left']
      exact bound since
  | none =>
      dsimp only
      cases (params.dateTo.getD now).add (-defaultHistoryWindow) with
      | none => simp [bind, Except.bind]
      | some since =>
          simp only [Option.some.injEq, exists_eq_left']
          exact bound since

/-- An explicit window of instants that the driver takes. -/
theorem historyWindow_explicit {E : Engine} {now dateFrom dateTo : Datetime}
    {params : HistoryParams} (since : params.dateFrom = some dateFrom)
    (till : params.dateTo = some dateTo) (takesFrom : E.timestamptz dateFrom.instant = true)
    (takesTo : E.timestamptz dateTo.instant = true) :
    historyWindow E now params = .ok (dateFrom.instant, dateTo.instant) := by
  refine historyWindow_eq_ok.mpr ⟨dateFrom, ?_, takesFrom, ?_, ?_⟩
  · rw [HistoryParams.since, since]
  · rwa [till]
  · rw [till]
    rfl

end FleetTracking
