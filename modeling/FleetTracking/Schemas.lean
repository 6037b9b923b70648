import FleetTracking.Python.Pydantic

/-!
# Request schemas

The bodies and query parameters the API accepts.  Each schema holds values that passed its
checks, so a handler cannot be given anything else, and `validate` is the only way from a
JSON body to it.
-/

namespace FleetTracking

open Python Pydantic

/-! ## Auth -/

structure LoginRequest where
  email : String
  password : Text 8 128

def LoginRequest.validate (c : Coerce) (body : Json) : Validated LoginRequest :=
  (Validated.model LoginRequest.mk)
    |>.field (required "email" (typed "email" c.email) body)
    |>.field (required "password" (text c 8 128) body)

/-- The e-mail of a login body is one that pydantic has made. -/
theorem LoginRequest.email_of_validate {c : Coerce} {json : Json} {body : LoginRequest}
    (valid : validate c json = .ok body) : ∃ value, c.email value = some body.email := by
  obtain ⟨f, password, built, _, rfl⟩ := field_eq_ok valid
  obtain ⟨g, email, started, checked, rfl⟩ := field_eq_ok built
  obtain ⟨value, _, typed⟩ := required_eq_ok checked
  cases started
  exact ⟨value, convert_of_typed typed⟩

structure RefreshRequest where
  refreshToken : {s : String // 10 ≤ s.length}

def RefreshRequest.validate (c : Coerce) (body : Json) : Validated RefreshRequest :=
  (Validated.model RefreshRequest.mk)
    |>.field (required "refresh_token" (minLength c 10) body)

structure TokenPair where
  accessToken : String
  refreshToken : String
  tokenType : String := "bearer"
  expiresIn : Int
deriving DecidableEq

/-! ## Routes -/

/-- A point as JSON and the database hold it. -/
structure LatLng where
  lat : Number
  lng : Number
deriving DecidableEq

structure Waypoint where
  lat : Between (-90) 90
  lng : Between (-180) 180

def Waypoint.modelDump (w : Waypoint) : LatLng := ⟨w.lat, w.lng⟩

def Waypoint.validate (c : Coerce) (body : Json) : Validated Waypoint :=
  (Validated.model Waypoint.mk)
    |>.field (required "lat" (between c (-90) 90) body)
    |>.field (required "lng" (between c (-180) 180) body)

structure RouteCreate where
  name : Text 1 255
  waypoints : Sized 2 500 Waypoint

def RouteCreate.validate (c : Coerce) (body : Json) : Validated RouteCreate :=
  (Validated.model RouteCreate.mk)
    |>.field (required "name" (text c 1 255) body)
    |>.field (required "waypoints" (sized 2 500 (Waypoint.validate c)) body)

structure RouteUpdate where
  name : Patch (Text 1 255)
  waypoints : Patch (Sized 2 500 Waypoint)

def RouteUpdate.validate (c : Coerce) (body : Json) : Validated RouteUpdate :=
  (Validated.model RouteUpdate.mk)
    |>.field (patch "name" (text c 1 255) body)
    |>.field (patch "waypoints" (sized 2 500 (Waypoint.validate c)) body)

/-! ## Vehicles -/

/-- `^[A-Za-z0-9-]+$` -/
def codePattern (s : String) : Bool :=
  s ≠ "" ∧ s.toList.all fun c => c.isAlphanum ∨ c = '-'

abbrev Code := {s : Text 1 50 // codePattern s = true}

def code (c : Coerce) (value : Json) : Validated Code :=
  match text c 1 50 value with
  | .error e => .error e
  | .ok s =>
      if h : codePattern s = true then .ok ⟨s, h⟩
      else .error [⟨[], .stringPattern "^[A-Za-z0-9-]+$"⟩]

structure VehicleCreate where
  code : Code
  name : Text 1 255
  isActive : Bool := true

def VehicleCreate.validate (c : Coerce) (body : Json) : Validated VehicleCreate :=
  (Validated.model VehicleCreate.mk)
    |>.field (required "code" (FleetTracking.code c) body)
    |>.field (required "name" (text c 1 255) body)
    |>.field (defaulted "is_active" true (typed "bool" c.bool) body)

structure VehicleUpdate where
  code : Patch Code
  name : Patch (Text 1 255)
  isActive : Patch Bool

def VehicleUpdate.validate (c : Coerce) (body : Json) : Validated VehicleUpdate :=
  (Validated.model VehicleUpdate.mk)
    |>.field (patch "code" (FleetTracking.code c) body)
    |>.field (patch "name" (text c 1 255) body)
    |>.field (patch "is_active" (typed "bool" c.bool) body)

/-! ## Users -/

structure UserCreate where
  email : String
  password : Text 8 128
  isAdmin : Bool := false

def UserCreate.validate (c : Coerce) (body : Json) : Validated UserCreate :=
  (Validated.model UserCreate.mk)
    |>.field (required "email" (typed "email" c.email) body)
    |>.field (required "password" (text c 8 128) body)
    |>.field (defaulted "is_admin" false (typed "bool" c.bool) body)

structure UserUpdate where
  email : Patch String
  password : Patch (Text 8 128)
  isAdmin : Patch Bool

def UserUpdate.validate (c : Coerce) (body : Json) : Validated UserUpdate :=
  (Validated.model UserUpdate.mk)
    |>.field (patch "email" (typed "email" c.email) body)
    |>.field (patch "password" (text c 8 128) body)
    |>.field (patch "is_admin" (typed "bool" c.bool) body)

/-- Assignment is a strict pair: both set, or both null to unassign. -/
structure AssignmentUpdate where
  routeId : Option Int
  vehicleId : Option Int
  pair : routeId.isNone = vehicleId.isNone
deriving DecidableEq

namespace AssignmentUpdate

/-- `_pair_must_be_complete` -/
def pairMustBeComplete (ids : Option Int × Option Int) : Validated AssignmentUpdate :=
  if h : ids.1.isNone = ids.2.isNone then .ok ⟨ids.1, ids.2, h⟩
  else .error [⟨[], .valueError
    "route_id and vehicle_id must be set together, or both null to unassign"⟩]

def validate (c : Coerce) (body : Json) : Validated AssignmentUpdate :=
  match (Validated.model Prod.mk)
    |>.field (defaulted "route_id" none (nullable (typed "int" c.int)) body)
    |>.field (defaulted "vehicle_id" none (nullable (typed "int" c.int)) body) with
  | .ok ids => pairMustBeComplete ids
  | .error e => .error e

/-- null/null -/
def unassign : AssignmentUpdate := ⟨none, none, rfl⟩

/-- A full pair. -/
def assign (routeId vehicleId : Int) : AssignmentUpdate := ⟨some routeId, some vehicleId, rfl⟩

/-- A request is null/null or a full pair. -/
theorem eq_unassign_or_assign (data : AssignmentUpdate) :
    data = unassign ∨ ∃ routeId vehicleId, data = assign routeId vehicleId := by
  obtain ⟨routeId, vehicleId, pair⟩ := data
  cases routeId with
  | none =>
      cases vehicleId with
      | none => exact .inl rfl
      | some _ => cases pair
  | some routeId =>
      cases vehicleId with
      | none => cases pair
      | some vehicleId => exact .inr ⟨routeId, vehicleId, rfl⟩

end AssignmentUpdate

/-! ## History queries -/

structure HistoryParams where
  dateFrom : Option Datetime
  dateTo : Option Datetime
  limit : {n : Int // 1 ≤ n ∧ n ≤ 1000}
  offset : AtLeast 0

def HistoryParams.defaultLimit : {n : Int // 1 ≤ n ∧ n ≤ 1000} := ⟨500, by decide⟩

def HistoryParams.defaultOffset : AtLeast 0 := ⟨0, by decide⟩

def HistoryParams.validate (c : Coerce) (query : Json) : Validated HistoryParams :=
  (Validated.model HistoryParams.mk)
    |>.field (defaulted "from" none (nullable (typed "datetime" c.datetime)) query)
    |>.field (defaulted "to" none (nullable (typed "datetime" c.datetime)) query)
    |>.field (defaulted "limit" defaultLimit (within c 1 1000) query)
    |>.field (defaulted "offset" defaultOffset (atLeast c 0) query)

end FleetTracking
