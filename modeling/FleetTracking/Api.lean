import FleetTracking.Http.Routing
import FleetTracking.Tokens

/-!
# The HTTP API

The routers with their endpoints, and what serving one request does.  FastAPI reads the body
first, then runs the dependencies of the route and of the endpoint, then checks parameters
and body; only then the endpoint runs.  An endpoint's answer is checked against its response
model after its transaction has committed.

`serve_calls` says that serving a request is, for the tables, a call of an admin service or
nothing; `apiRouter_guards` that the endpoints that call one are behind the admin gate.
-/

namespace FleetTracking

open Relational Python Pydantic Routing

namespace Api

/-! ## Requests and replies -/

inductive Body
  | absent
  | malformed
  | json (value : Json)

structure Request where
  method : Method
  path : String
  /-- The bearer token. -/
  credentials : Option String
  query : Json
  body : Body

/-- What a request can end in besides an answer. -/
inductive ApiError
  | failure (failure : Failure)
  | requestValidation (errors : List FieldError)
  | notFound
  | methodNotAllowed

structure RouteOut where
  id : Int
  name : String
  waypoints : List Waypoint
  createdAt : Int

def RouteOut.modelValidate (route : BusRoute) : Except Failure RouteOut := do
  return ⟨route.id, ← requireStr route.name, ← route.waypoints.mapM Waypoint.modelValidate,
    route.createdAt⟩

structure VehicleOut where
  id : Int
  code : String
  name : String
  isActive : Bool
  createdAt : Int

def VehicleOut.modelValidate (vehicle : Vehicle) : Except Failure VehicleOut :=
  match vehicle.isActive with
  | none => .error .responseValidationError
  | some isActive => do
      return ⟨vehicle.id, ← requireStr vehicle.code, ← requireStr vehicle.name, isActive,
        vehicle.createdAt⟩

inductive Response
  | ok
  | noContent
  | tokenPair (pair : TokenPair)
  | user (user : UserOut)
  | users (users : List UserOut)
  | assignment (assignment : AssignmentOut)
  | polyline (route : RoutePolylineOut)
  | live (vehicle : VehicleLiveOut)
  | history (history : HistoryOut)
  | route (route : RouteOut)
  | routes (routes : List RouteOut)
  | vehicle (vehicle : VehicleOut)
  | fleet (vehicles : List AdminVehicleOut)

abbrev Reply := Except ApiError Response

/-! ## Endpoints -/

inductive Endpoint
  | health
  | login
  | refresh
  | myProfile
  | myAssignment
  | myRoute
  | myVehicleCurrent
  | myVehicleHistory
  | createRoute
  | listRoutes
  | getRoute
  | updateRoute
  | deleteRoute
  | createVehicle
  | listVehicles
  | getVehicle
  | updateVehicle
  | deleteVehicle
  | createUser
  | listUsers
  | getUser
  | updateUser
  | deleteUser
  | setAssignment
deriving DecidableEq

/-- The endpoint takes a body. -/
def Endpoint.readsBody : Endpoint → Bool
  | login | refresh | createRoute | updateRoute | createVehicle | updateVehicle | createUser
  | updateUser | setAssignment => true
  | _ => false

/-- The endpoint calls a service that changes rows. -/
def Endpoint.writes : Endpoint → Bool
  | createRoute | updateRoute | deleteRoute | createVehicle | updateVehicle | deleteVehicle
  | createUser | updateUser | deleteUser | setAssignment => true
  | _ => false

/-- The body as a model. -/
def Request.bodyAs {α : Type} (r : Request) (validate : Json → Validated α) : Validated α :=
  match r.body with
  | .json (.obj members) => (validate (.obj members)).under "body"
  | .json .null => .error [⟨["body"], .missing⟩]
  | .json _ => .error [⟨["body"], .type "dict"⟩]
  | .absent => .error [⟨["body"], .missing⟩]
  | .malformed => .error [⟨["body"], .valueError "JSON decode error"⟩]

/-- The integer path parameter `name`. -/
def pathInt (c : Coerce) (name : String) : List String → Validated Int
  | [segment] => ((typed "int" c.int (.str segment)).under name).under "path"
  | _ => .error [⟨["path", name], .missing⟩]

section

variable (A : App) (a : Ambient) (s : System) (r : Request)

/-- Answer without touching the tables. -/
def answer (result : Except Failure Response) : Reply × System := (result.mapError .failure, s)

/-- Commit, and answer with what the response model makes of the result. -/
def commit {α : Type} (result : Except Failure (α × DB)) (respond : α → Except Failure Response) :
    Reply × System :=
  match result with
  | .error failure => (.error (.failure failure), s)
  | .ok (row, db) => ((respond row).mapError .failure, { s with db })

/-- Hand out a token pair. -/
def handOut (result : Except Failure IssuedPair) : Reply × System :=
  match result with
  | .error failure => (.error (.failure failure), s)
  | .ok p => (.ok (.tokenPair p.tokenPair), { s with issued := p.claims ++ s.issued })

/-- Go on with checked parameters. -/
def checked {α : Type} (input : Validated α) (run : α → Reply × System) : Reply × System :=
  match input with
  | .error errors => (.error (.requestValidation errors), s)
  | .ok a => run a

/-- `user: Annotated[User, Depends(get_current_user)]` -/
def asUser (run : User → Reply × System) : Reply × System :=
  match s.currentUser A a.now r.credentials with
  | .error failure => (.error (.failure failure), s)
  | .ok user => run user

/-- The path parameter `name` and the body. -/
def rowAndBody {α : Type} (name : String) (params : List String) (validate : Json → Validated α) :
    Validated (Int × α) :=
  (Validated.model Prod.mk)
    |>.field (pathInt A.coerce name params)
    |>.field (r.bodyAs validate)

/-- `datetime.now(UTC)` -/
def utcNow (now : Int) : Except Failure Datetime :=
  if h : minWall ≤ now ∧ now < endWall then .ok ⟨now, some 0, h⟩ else .error .overflowError

def Endpoint.run (params : List String) : Endpoint → Reply × System
  | health => (.ok .ok, s)
  | login =>
      checked s (r.bodyAs (LoginRequest.validate A.coerce)) fun body =>
        handOut s (s.login A a.now body)
  | refresh =>
      checked s (r.bodyAs (RefreshRequest.validate A.coerce)) fun body =>
        handOut s (s.refresh A a.now body.refreshToken)
  | myProfile =>
      asUser A a s r fun user => answer s ((UserOut.modelValidate A.coerce user).map .user)
  | myAssignment => asUser A a s r fun user => answer s ((getAssignment s.db user).map .assignment)
  | myRoute => asUser A a s r fun user => answer s ((getRoutePolyline s.db user).map .polyline)
  | myVehicleCurrent =>
      asUser A a s r fun user => answer s ((getCurrentLocation a.now s.db user).map .live)
  | myVehicleHistory =>
      asUser A a s r fun user =>
        checked s ((HistoryParams.validate A.coerce r.query).under "query") fun params =>
          answer s do
            let now ← utcNow a.now
            return .history (← getHistory A.engine now s.db user params)
  | createRoute =>
      checked s (r.bodyAs (RouteCreate.validate A.coerce)) fun body =>
        commit s (FleetTracking.createRoute A.engine s.db a.now body) fun route =>
          (RouteOut.modelValidate route).map .route
  | listRoutes =>
      answer s (((FleetTracking.listRoutes s.db).mapM RouteOut.modelValidate).map .routes)
  | getRoute =>
      checked s (pathInt A.coerce "route_id" params) fun routeId =>
        answer s do
          let route ← FleetTracking.getRoute A.engine s.db routeId
          return .route (← RouteOut.modelValidate route)
  | updateRoute =>
      checked s (rowAndBody A r "route_id" params (RouteUpdate.validate A.coerce))
        fun (routeId, body) =>
          commit s ((FleetTracking.getRoute A.engine s.db routeId).bind fun route =>
            FleetTracking.updateRoute A.engine s.db route body) fun route =>
              (RouteOut.modelValidate route).map .route
  | deleteRoute =>
      checked s (pathInt A.coerce "route_id" params) fun routeId =>
        commit s (((FleetTracking.getRoute A.engine s.db routeId).bind fun route =>
          FleetTracking.deleteRoute A.engine s.db route).map fun db => ((), db)) fun _ =>
            .ok .noContent
  | createVehicle =>
      checked s (r.bodyAs (VehicleCreate.validate A.coerce)) fun body =>
        commit s (FleetTracking.createVehicle A.engine s.db a.now body) fun vehicle =>
          (VehicleOut.modelValidate vehicle).map .vehicle
  | listVehicles => answer s ((listVehiclesWithLocation s.db a.now).map .fleet)
  | getVehicle =>
      checked s (pathInt A.coerce "vehicle_id" params) fun vehicleId =>
        answer s do
          let vehicle ← FleetTracking.getVehicle A.engine s.db vehicleId
          return .vehicle (← VehicleOut.modelValidate vehicle)
  | updateVehicle =>
      checked s (rowAndBody A r "vehicle_id" params (VehicleUpdate.validate A.coerce))
        fun (vehicleId, body) =>
          commit s ((FleetTracking.getVehicle A.engine s.db vehicleId).bind fun vehicle =>
            FleetTracking.updateVehicle A.engine s.db vehicle body) fun vehicle =>
              (VehicleOut.modelValidate vehicle).map .vehicle
  | deleteVehicle =>
      checked s (pathInt A.coerce "vehicle_id" params) fun vehicleId =>
        commit s (((FleetTracking.getVehicle A.engine s.db vehicleId).bind fun vehicle =>
          FleetTracking.deleteVehicle A.engine s.db vehicle).map fun db => ((), db)) fun _ =>
            .ok .noContent
  | createUser =>
      checked s (r.bodyAs (UserCreate.validate A.coerce)) fun body =>
        commit s (FleetTracking.createUser A.engine s.db (a.hashPassword 0) a.now body) fun user =>
          (UserOut.modelValidate A.coerce user).map .user
  | listUsers =>
      answer s (((FleetTracking.listUsers s.db).mapM (UserOut.modelValidate A.coerce)).map .users)
  | getUser =>
      checked s (pathInt A.coerce "user_id" params) fun userId =>
        answer s do
          let user ← FleetTracking.getUser A.engine s.db userId
          return .user (← UserOut.modelValidate A.coerce user)
  | updateUser =>
      checked s (rowAndBody A r "user_id" params (UserUpdate.validate A.coerce))
        fun (userId, body) =>
          commit s ((FleetTracking.getUser A.engine s.db userId).bind fun user =>
            FleetTracking.updateUser A.engine s.db (a.hashPassword 0) user body) fun user =>
              (UserOut.modelValidate A.coerce user).map .user
  | deleteUser =>
      checked s (pathInt A.coerce "user_id" params) fun userId =>
        commit s (((FleetTracking.getUser A.engine s.db userId).bind fun user =>
          FleetTracking.deleteUser A.engine s.db user).map fun db => ((), db)) fun _ =>
            .ok .noContent
  | setAssignment =>
      checked s (rowAndBody A r "user_id" params (AssignmentUpdate.validate A.coerce))
        fun (userId, body) =>
          commit s (FleetTracking.setAssignment A.engine s.db userId body) fun user =>
            (UserOut.modelValidate A.coerce user).map .user

end

/-! ## Routers -/

/-- What a router can depend on. -/
inductive Gate
  | requireAdmin
deriving DecidableEq

abbrev ApiRouter := Router Gate Endpoint

def authRouter : ApiRouter :=
  ({ pathPrefix := "/auth" } : ApiRouter)
    |>.add .post "/login" .login
    |>.add .post "/refresh" .refresh

def meRouter : ApiRouter :=
  ({ pathPrefix := "/me" } : ApiRouter)
    |>.add .get "/profile" .myProfile
    |>.add .get "/assignment" .myAssignment
    |>.add .get "/route" .myRoute
    |>.add .get "/vehicle/current" .myVehicleCurrent
    |>.add .get "/vehicle/history" .myVehicleHistory

def routesRouter : ApiRouter :=
  ({ pathPrefix := "/routes" } : ApiRouter)
    |>.add .post "" .createRoute
    |>.add .get "" .listRoutes
    |>.add .get "/\x7broute_id\x7d" .getRoute
    |>.add .patch "/\x7broute_id\x7d" .updateRoute
    |>.add .delete "/\x7broute_id\x7d" .deleteRoute

def vehiclesRouter : ApiRouter :=
  ({ pathPrefix := "/vehicles" } : ApiRouter)
    |>.add .post "" .createVehicle
    |>.add .get "" .listVehicles
    |>.add .get "/\x7bvehicle_id\x7d" .getVehicle
    |>.add .patch "/\x7bvehicle_id\x7d" .updateVehicle
    |>.add .delete "/\x7bvehicle_id\x7d" .deleteVehicle

def usersRouter : ApiRouter :=
  ({ pathPrefix := "/users" } : ApiRouter)
    |>.add .post "" .createUser
    |>.add .get "" .listUsers
    |>.add .get "/\x7buser_id\x7d" .getUser
    |>.add .patch "/\x7buser_id\x7d" .updateUser
    |>.add .delete "/\x7buser_id\x7d" .deleteUser
    |>.add .put "/\x7buser_id\x7d/assignment" .setAssignment

/-- The admin routers, gated as one unit. -/
def adminRouter : ApiRouter :=
  ({ pathPrefix := "/admin", dependencies := [.requireAdmin] } : ApiRouter)
    |>.includeRouter routesRouter
    |>.includeRouter vehiclesRouter
    |>.includeRouter usersRouter

def v1Router : ApiRouter :=
  ({} : ApiRouter)
    |>.includeRouter authRouter
    |>.includeRouter meRouter
    |>.includeRouter adminRouter

def apiRouter : ApiRouter :=
  (({} : ApiRouter).includeRouter v1Router "/api/v1").add .get "/health" .health

/-! ## Serving a request -/

section

variable (A : App) (a : Ambient) (s : System) (r : Request)

/-- Run the dependencies of a route. -/
def passGates : List Gate → Except Failure Unit
  | [] => .ok ()
  | .requireAdmin :: gates =>
      match requireAdmin A.jwt A.engine s.issued a.now s.db r.credentials with
      | .error failure => .error failure
      | .ok _ => passGates gates

def serveRoute (route : Route Gate Endpoint) (params : List String) : Reply × System :=
  match route.endpoint.readsBody, r.body with
  | true, .malformed =>
      (.error (.requestValidation [⟨["body"], .valueError "JSON decode error"⟩]), s)
  | _, _ =>
      match passGates A a s r route.dependencies with
      | .error failure => (.error (.failure failure), s)
      | .ok () => route.endpoint.run A a s r params

def serve : Reply × System :=
  match apiRouter.dispatch r.method r.path with
  | .notFound => (.error .notFound, s)
  | .methodNotAllowed => (.error .methodNotAllowed, s)
  | .found route params => serveRoute A a s r route params

/-- The system after these requests, one at a time. -/
def serveAll (s : System) : List (Ambient × Request) → System
  | [] => s
  | (a, r) :: requests => serveAll (serve A a s r).2 requests

end

section

variable {A : App} {a : Ambient} {s : System} {r : Request} {params : List String} {e : Endpoint}
  {route : Route Gate Endpoint}

/-! ### What an endpoint does to the tables -/

theorem checked_db {α : Type} {input : Validated α} {run : α → Reply × System} {db : DB}
    (unchanged : s.db = db) (each : ∀ a, (run a).2.db = db) : (checked s input run).2.db = db := by
  unfold checked
  split
  · exact unchanged
  · exact each _

theorem asUser_db {run : User → Reply × System} (each : ∀ user, (run user).2.db = s.db) :
    (asUser A a s r run).2.db = s.db := by
  unfold asUser
  split
  · rfl
  · exact each _

theorem handOut_db {result : Except Failure IssuedPair} : (handOut s result).2.db = s.db := by
  unfold handOut
  split <;> rfl

/-- An endpoint that is not declared to write leaves the tables alone. -/
theorem run_reads (reads : e.writes = false) : (e.run A a s r params).2.db = s.db := by
  cases e with
  | health => rfl
  | login => exact checked_db rfl fun _ => handOut_db
  | refresh => exact checked_db rfl fun _ => handOut_db
  | myProfile => exact asUser_db fun _ => rfl
  | myAssignment => exact asUser_db fun _ => rfl
  | myRoute => exact asUser_db fun _ => rfl
  | myVehicleCurrent => exact asUser_db fun _ => rfl
  | myVehicleHistory => exact asUser_db fun _ => checked_db rfl fun _ => rfl
  | listRoutes => rfl
  | getRoute => exact checked_db rfl fun _ => rfl
  | listVehicles => rfl
  | getVehicle => exact checked_db rfl fun _ => rfl
  | listUsers => rfl
  | getUser => exact checked_db rfl fun _ => rfl
  | _ => cases reads

/-- The tables are as they were, or as some call leaves them. -/
def Calls (A : App) (a : Ambient) (s : System) (out : Reply × System) : Prop :=
  out.2.db = s.db ∨ ∃ c : Call, out.2.db = c.after A.engine a s.db

theorem commit_calls {α : Type} {result : Except Failure (α × DB)}
    {respond : α → Except Failure Response} (c : Call)
    (same : result.map Prod.snd = c.perform A.engine a s.db) :
    Calls A a s (commit s result respond) := by
  unfold commit
  split
  · exact .inl rfl
  · refine .inr ⟨c, ?_⟩
    rw [Call.after, ← same]
    rfl

theorem checked_calls {α : Type} {input : Validated α} {run : α → Reply × System}
    (each : ∀ x, Calls A a s (run x)) : Calls A a s (checked s input run) := by
  unfold checked
  split
  · exact .inl rfl
  · exact each _

/-- The result of a call on a row that was loaded first. -/
theorem map_snd_bind {α β : Type} {row : Except Failure α} {f : α → Except Failure (β × DB)} :
    (row.bind f).map Prod.snd = row.bind fun row => (f row).map Prod.snd := by
  cases row <;> rfl

theorem map_snd_unit {result : Except Failure DB} :
    (result.map fun db => ((), db)).map Prod.snd = result := by
  cases result <;> rfl

/-- **Refinement.**  For the tables, an endpoint is a call of a service, or nothing. -/
theorem run_calls : Calls A a s (e.run A a s r params) := by
  cases e with
  | createRoute => exact checked_calls fun body => commit_calls (.createRoute body) rfl
  | updateRoute =>
      exact checked_calls fun (routeId, body) =>
        commit_calls (.updateRoute routeId body) map_snd_bind
  | deleteRoute =>
      exact checked_calls fun routeId => commit_calls (.deleteRoute routeId) map_snd_unit
  | createVehicle => exact checked_calls fun body => commit_calls (.createVehicle body) rfl
  | updateVehicle =>
      exact checked_calls fun (vehicleId, body) =>
        commit_calls (.updateVehicle vehicleId body) map_snd_bind
  | deleteVehicle =>
      exact checked_calls fun vehicleId => commit_calls (.deleteVehicle vehicleId) map_snd_unit
  | createUser => exact checked_calls fun body => commit_calls (.createUser body) rfl
  | updateUser =>
      exact checked_calls fun (userId, body) =>
        commit_calls (.updateUser userId body) map_snd_bind
  | deleteUser => exact checked_calls fun userId => commit_calls (.deleteUser userId) map_snd_unit
  | setAssignment =>
      exact checked_calls fun (userId, body) => commit_calls (.setAssignment userId body) rfl
  | _ => exact .inl (run_reads rfl)

/-! ### Behind the gate -/

theorem authRouter_guards : authRouter.Guards .requireAdmin Endpoint.writes :=
  (Router.Guards.new.add rfl).add rfl

theorem meRouter_guards : meRouter.Guards .requireAdmin Endpoint.writes :=
  ((((Router.Guards.new.add rfl).add rfl).add rfl).add rfl).add rfl

theorem adminRouter_guards : adminRouter.Guards .requireAdmin Endpoint.writes := by
  have gated : Gate.requireAdmin ∈ [Gate.requireAdmin] := List.mem_singleton.mpr rfl
  exact ((Router.Guards.new.includeRouter_of_mem gated).includeRouter_of_mem
    gated).includeRouter_of_mem gated

/-- Every endpoint that writes is behind the admin gate. -/
theorem apiRouter_guards : apiRouter.Guards .requireAdmin Endpoint.writes := by
  have v1 : v1Router.Guards .requireAdmin Endpoint.writes :=
    ((Router.Guards.new.includeRouter authRouter_guards).includeRouter
      meRouter_guards).includeRouter adminRouter_guards
  exact (Router.Guards.new.includeRouter v1).add rfl

/-- A route behind the gate is served to an admin only. -/
theorem passGates_admin {gates : List Gate} (gated : Gate.requireAdmin ∈ gates)
    (passed : passGates A a s r gates = .ok ()) :
    ∃ user, requireAdmin A.jwt A.engine s.issued a.now s.db r.credentials = .ok user := by
  cases gates with
  | nil => cases gated
  | cons gate gates =>
      cases gate
      rw [passGates] at passed
      split at passed
      · cases passed
      · next user admin => exact ⟨user, admin⟩

/-! ### What a request does to the tables -/

/-- **Refinement.**  For the tables, serving a request is a call of a service, or nothing. -/
theorem serve_calls (A : App) (a : Ambient) (s : System) (r : Request) :
    Calls A a s (serve A a s r) := by
  unfold serve
  split
  · exact .inl rfl
  · exact .inl rfl
  · unfold serveRoute
    split
    · exact .inl rfl
    · split
      · exact .inl rfl
      · exact run_calls

/-- A request that changes a table is the request of an admin. -/
theorem admin_of_serve (changed : (serve A a s r).2.db ≠ s.db) :
    ∃ user, requireAdmin A.jwt A.engine s.issued a.now s.db r.credentials = .ok user := by
  unfold serve at changed
  split at changed
  · exact (changed rfl).elim
  · exact (changed rfl).elim
  · next route params found =>
      unfold serveRoute at changed
      split at changed
      · exact (changed rfl).elim
      · split at changed
        · exact (changed rfl).elim
        · next passed =>
            cases writes : route.endpoint.writes with
            | false => exact (changed (run_reads writes)).elim
            | true =>
                exact passGates_admin (apiRouter_guards route (Router.mem_of_dispatch found) writes)
                  passed

end

end Api

end FleetTracking
