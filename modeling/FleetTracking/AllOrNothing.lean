import FleetTracking.Shown

/-!
# Errors change nothing, and are documented

`Handled` says of an endpoint what a client relies on.  An error is one of the endpoint's own,
by status and machine-readable code; it has changed nothing; and no response model rejects what
has been committed, since no request and no fix brings the tables out of `Shown`.
-/

namespace FleetTracking

open Relational Python Pydantic Routing Api

/-! ## The errors of an endpoint -/

/-- The deliberate errors behind the admin gate. -/
def gateErrors : List (Nat × String) := [(401, "invalid_credentials"), (403, "forbidden")]

/-- The deliberate errors of the endpoint, and of the gate before it. -/
def Api.Endpoint.errors : Endpoint → List (Nat × String)
  | health => []
  | login | refresh => [(401, "invalid_credentials"), (422, "validation_error")]
  | myProfile => [(401, "invalid_credentials")]
  | myAssignment | myRoute | myVehicleCurrent =>
      [(401, "invalid_credentials"), (403, "no_assignment")]
  | myVehicleHistory =>
      [(401, "invalid_credentials"), (403, "no_assignment"), (422, "validation_error")]
  | listRoutes | listVehicles | listUsers => gateErrors
  | createRoute => (422, "validation_error") :: (409, "route_name_taken") :: gateErrors
  | getRoute => (422, "validation_error") :: (404, "route_not_found") :: gateErrors
  | updateRoute =>
      (422, "validation_error") :: (404, "route_not_found") :: (409, "route_name_taken") ::
        gateErrors
  | deleteRoute =>
      (422, "validation_error") :: (404, "route_not_found") :: (409, "route_in_use") :: gateErrors
  | createVehicle => (422, "validation_error") :: (409, "vehicle_code_taken") :: gateErrors
  | getVehicle => (422, "validation_error") :: (404, "vehicle_not_found") :: gateErrors
  | updateVehicle =>
      (422, "validation_error") :: (404, "vehicle_not_found") :: (409, "vehicle_code_taken") ::
        gateErrors
  | deleteVehicle =>
      (422, "validation_error") :: (404, "vehicle_not_found") :: (409, "vehicle_in_use") ::
        gateErrors
  | createUser => (422, "validation_error") :: (409, "email_taken") :: gateErrors
  | getUser => (422, "validation_error") :: (404, "user_not_found") :: gateErrors
  | updateUser =>
      (422, "validation_error") :: (404, "user_not_found") :: (409, "email_taken") :: gateErrors
  | deleteUser => (422, "validation_error") :: (404, "user_not_found") :: gateErrors
  | setAssignment =>
      [(422, "validation_error"), (404, "user_not_found"), (404, "route_not_found"),
        (404, "vehicle_not_found"), (409, "route_already_assigned"),
        (409, "vehicle_already_assigned")] ++ gateErrors

/-- The error is listed, or a crash, which is answered with a 500. -/
def Api.ApiError.Within (codes : List (Nat × String)) : ApiError → Prop
  | failure (.app e) => e.errorCode ∈ codes
  | failure _ => True
  | requestValidation _ => (422, "validation_error") ∈ codes
  | notFound => (404, "not_found") ∈ codes
  | methodNotAllowed => (405, "method_not_allowed") ∈ codes

/-- The errors at a method and a path. -/
def Api.errorsAt (method : Method) (path : String) : List (Nat × String) :=
  match apiRouter.dispatch method path with
  | .notFound => [(404, "not_found")]
  | .methodNotAllowed => [(405, "method_not_allowed")]
  | .found route _ =>
      (if route.endpoint.readsBody then [(400, "http_error")] else []) ++ route.endpoint.errors

/-- The reply is documented; and where the tables are shown, an error leaves the system as it
was, no response model has raised it, and what is left is shown. -/
structure Handled (A : App) (s : System) (codes : List (Nat × String))
    (out : Api.Reply × System) : Prop where
  documented : ∀ e, out.1 = .error e → e.Within codes
  unchanged : Shown A s.db → ∀ e, out.1 = .error e → out.2 = s
  presents : Shown A s.db → out.1 ≠ .error (.failure .responseValidationError)
  shown : Shown A s.db → Shown A out.2.db

section

variable {A : App} {a : Ambient} {s : System} {r : Request} {params : List String}
  {codes : List (Nat × String)}

theorem handles_ok {response : Response} {s' : System} (shown : Shown A s.db → Shown A s'.db) :
    Handled A s codes (.ok response, s') where
  documented e same := by cases same
  unchanged _ e same := by cases same
  presents _ same := by cases same
  shown := shown

theorem handles_error {e : ApiError} (within : e.Within codes)
    (other : Shown A s.db → e ≠ .failure .responseValidationError) :
    Handled A s codes (.error e, s) where
  documented e' same := by
    cases same
    exact within
  unchanged _ _ _ := rfl
  presents shown same := other shown (Except.error.inj same)
  shown := id

theorem handles_failure {failure : Failure} {α : Type} {result : Except Failure α}
    (only : RaisesOnly (Shown A s.db) codes result) (raised : result = .error failure) :
    Handled A s codes (.error (.failure failure), s) := by
  refine handles_error ?_ fun shown same => only.presents shown ?_
  · cases failure with
    | app e => exact only.listed e raised
    | _ => trivial
  · exact raised.trans (congrArg Except.error (ApiError.failure.inj same))

theorem handles_answer {result : Except Failure Response}
    (only : RaisesOnly (Shown A s.db) codes result) : Handled A s codes (answer s result) := by
  cases done : result with
  | ok response => exact handles_ok id
  | error failure => exact handles_failure only done

theorem handles_handOut {result : Except Failure IssuedPair}
    (only : RaisesOnly (Shown A s.db) codes result) : Handled A s codes (handOut s result) := by
  cases done : result with
  | ok pair => exact handles_ok id
  | error failure => exact handles_failure only done

theorem handles_checked {α : Type} {input : Validated α} {run : α → Api.Reply × System}
    (invalid : (422, "validation_error") ∈ codes)
    (each : ∀ x, input = .ok x → Handled A s codes (run x)) :
    Handled A s codes (checked s input run) := by
  cases passed : input with
  | ok x => exact each x passed
  | error errors => exact handles_error invalid fun _ => by simp

theorem handles_rowAndBody {α : Type} {name : String} {validate : Json → Validated α}
    {run : Int × α → Api.Reply × System} (invalid : (422, "validation_error") ∈ codes)
    (each : ∀ k body json, validate json = .ok body → Handled A s codes (run (k, body))) :
    Handled A s codes (checked s (rowAndBody A r name params validate) run) := by
  refine handles_checked invalid fun input valid => ?_
  cases input with
  | mk k body =>
      obtain ⟨json, valid⟩ := body_of_rowAndBody valid
      exact each k body json valid

theorem mem_of_currentUser {now : Int} {credentials : Option String} {user : User}
    (resolved : s.currentUser A now credentials = .ok user) : user ∈ s.db.users.toTable := by
  unfold System.currentUser getCurrentUser at resolved
  split at resolved
  · cases resolved
  · exact (Table.get_eq_some.mp (userOfToken_eq_ok.mp resolved).2).1

theorem handles_asUser {run : User → Api.Reply × System}
    (listed : [(401, "invalid_credentials")] ⊆ codes)
    (each : ∀ user ∈ s.db.users.toTable, Handled A s codes (run user)) :
    Handled A s codes (asUser A a s r run) := by
  unfold asUser
  split
  · next raised => exact handles_failure (currentUser_raises.mono listed id) raised
  · next user resolved => exact each user (mem_of_currentUser resolved)

/-- The response model looks at a row of the tables that the commit leaves. -/
theorem handles_commit {α : Type} {result : Except Failure (α × DB)}
    {respond : α → Except Failure Response} (a : Ambient) (c : Call)
    (addressed : c.Addressed A.coerce) (same : result.map Prod.snd = c.perform A.engine a s.db)
    (only : RaisesOnly (Shown A s.db) codes result)
    (models : ∀ row db', result = .ok (row, db') → Models (Shown A db') (respond row)) :
    Handled A s codes (commit s result respond) := by
  cases done : result with
  | error failure => exact handles_failure only done
  | ok out =>
      obtain ⟨row, db'⟩ := out
      have left (shown : Shown A s.db) : Shown A db' := by
        have after : c.after A.engine a s.db = db' := by
          rw [Call.after, ← same, done]
          rfl
        exact after ▸ shown.after addressed
      cases answers : respond row with
      | ok response =>
          have replied : commit s (.ok (row, db')) respond =
              (.ok response, { s with db := db' }) := by
            rw [commit, answers]
            rfl
          rw [replied]
          exact handles_ok left
      | error failure =>
          have hidden (shown : Shown A s.db) : False := by
            obtain ⟨response, accepted⟩ := (models row db' done).accepts (left shown)
            cases answers.symm.trans accepted
          have rejected := (models row db' done).rejects failure answers
          have replied : commit s (.ok (row, db')) respond =
              (.error (.failure .responseValidationError), { s with db := db' }) := by
            rw [commit, answers, rejected]
            rfl
          rw [replied]
          exact ⟨fun e same => by cases same; trivial, fun shown => (hidden shown).elim,
            fun shown => (hidden shown).elim, fun shown => (hidden shown).elim⟩

/-- A `PATCH` or `DELETE` loads the row that it works on. -/
theorem loaded_raises {ρ α : Type} [SerialKeyed ρ] {shown : Prop} {t : Serial ρ}
    {message : Int → Message} {code : String} {k : Int} {f : ρ → Except Failure α}
    (listed : (404, code) ∈ codes) (each : ∀ row, RaisesOnly shown codes (f row)) :
    RaisesOnly shown codes
      ((getOrMissing A.engine t (fun k => notFound (message k) code) k).bind f) :=
  (getOrMissing_raises message code listed).bind fun row _ => each row

theorem mem_of_loaded {ρ α : Type} [SerialKeyed ρ] {t : Serial ρ} {missing : Int → Failure}
    {k : Int} {f : ρ → Except Failure α} {out : α} {P : Prop}
    (done : (getOrMissing A.engine t missing k).bind f = .ok out)
    (each : ∀ row, t.get (Keyed.key row) = some row → f row = .ok out → P) : P := by
  obtain ⟨row, found, rest⟩ := bind_eq_ok.mp done
  obtain ⟨loaded, rfl⟩ := getOrMissing_eq_ok found
  exact each row loaded rest

/-- A row of the tables passes its response model. -/
theorem Shown.route_models {db : DB} {route : BusRoute} (member : route ∈ db.busRoutes.toTable) :
    Models (Shown A db) (RouteOut.modelValidate route) :=
  routeOut_models.mono fun shown => shown.filled.routes route member

theorem Shown.vehicle_models {db : DB} {vehicle : Vehicle}
    (member : vehicle ∈ db.vehicles.toTable) :
    Models (Shown A db) (VehicleOut.modelValidate vehicle) :=
  vehicleOut_models.mono fun shown => shown.filled.vehicles vehicle member

theorem Shown.user_models {db : DB} {user : User} (member : user ∈ db.users.toTable) :
    Models (Shown A db) (UserOut.modelValidate A.coerce user) :=
  userOut_models.mono fun shown => shown.emails user member

theorem mem_of_getOrMissing {ρ : Type} [SerialKeyed ρ] {t : Serial ρ} {missing : Int → Failure}
    {k : Int} {row : ρ} (found : getOrMissing A.engine t missing k = .ok row) : row ∈ t.toTable :=
  (Table.get_eq_some.mp (getOrMissing_eq_ok found).1).1

/-- **Step.** -/
theorem run_handles (e : Endpoint) : Handled A s e.errors (e.run A a s r params) := by
  cases e with
  | health => exact handles_ok id
  | login =>
      exact handles_checked (by decide) fun _ _ =>
        handles_handOut (login_raises.mono (by decide) id)
  | refresh =>
      exact handles_checked (by decide) fun _ _ =>
        handles_handOut (refresh_raises.mono (by decide) id)
  | myProfile =>
      exact handles_asUser (by decide) fun user member =>
        handles_answer (Shown.user_models member).raisesOnly.map
  | myAssignment =>
      exact handles_asUser (by decide) fun _ _ =>
        handles_answer (getAssignment_raises.mono (by decide) Shown.filled).map
  | myRoute =>
      exact handles_asUser (by decide) fun _ _ =>
        handles_answer (getRoutePolyline_raises.mono (by decide) Shown.filled).map
  | myVehicleCurrent =>
      exact handles_asUser (by decide) fun _ _ =>
        handles_answer (getCurrentLocation_raises.mono (by decide) Shown.filled).map
  | myVehicleHistory =>
      have clock {codes : List (Nat × String)} {now : Int} :
          RaisesOnly (Shown A s.db) codes (utcNow now) := by
        unfold utcNow
        split
        · exact .ok _
        · exact .crash rfl
      exact handles_asUser (by decide) fun _ _ => handles_checked (by decide) fun _ _ =>
        handles_answer (clock.bind fun _ _ =>
          (getHistory_raises.mono (by decide) id).bind fun _ _ => .ok _)
  | listRoutes =>
      exact handles_answer
        (RaisesOnly.mapM fun _ member => (Shown.route_models member).raisesOnly).map
  | listVehicles =>
      exact handles_answer (RaisesOnly.mapM fun _ member =>
        (adminVehicleOut_raises member).mono (List.Subset.refl _) Shown.filled).map
  | listUsers =>
      exact handles_answer
        (RaisesOnly.mapM fun _ member => (Shown.user_models member).raisesOnly).map
  | getRoute =>
      exact handles_checked (by decide) fun _ _ => handles_answer
        ((getOrMissing_raises .routeNotFound "route_not_found" (by decide)).bind fun _ found =>
          (Shown.route_models (mem_of_getOrMissing found)).raisesOnly.bind fun _ _ => .ok _)
  | getVehicle =>
      exact handles_checked (by decide) fun _ _ => handles_answer
        ((getOrMissing_raises .vehicleNotFound "vehicle_not_found" (by decide)).bind
          fun _ found =>
            (Shown.vehicle_models (mem_of_getOrMissing found)).raisesOnly.bind fun _ _ => .ok _)
  | getUser =>
      exact handles_checked (by decide) fun _ _ => handles_answer
        ((getOrMissing_raises .userNotFound "user_not_found" (by decide)).bind fun _ found =>
          (Shown.user_models (mem_of_getOrMissing found)).raisesOnly.bind fun _ _ => .ok _)
  | createRoute =>
      exact handles_checked (by decide) fun body _ => handles_commit a (.createRoute body) trivial
        rfl (createRoute_raises.mono (by decide) id) fun _ _ done =>
          (Shown.route_models (createRoute_saves done).saves.mem).map
  | createVehicle =>
      exact handles_checked (by decide) fun body _ => handles_commit a (.createVehicle body)
        trivial rfl (createVehicle_raises.mono (by decide) id) fun _ _ done =>
          (Shown.vehicle_models (createVehicle_saves done).saves.mem).map
  | createUser =>
      refine handles_checked (by decide) fun body valid => ?_
      obtain ⟨json, valid⟩ := Request.bodyAs_eq_ok valid
      exact handles_commit a (.createUser body) (UserCreate.email_of_validate valid) rfl
        (createUser_raises.mono (by decide) id) fun _ _ done =>
          (Shown.user_models (createUser_saves done).saves.mem).map
  | updateRoute =>
      exact handles_rowAndBody (by decide) fun routeId body _ _ =>
        handles_commit a (.updateRoute routeId body) trivial map_snd_bind
          (loaded_raises (by decide) fun _ => updateRoute_raises.mono (by decide) id)
          fun _ _ done => mem_of_loaded done fun _ loaded done =>
            (Shown.route_models (updateRoute_saves loaded done).saves.mem).map
  | updateVehicle =>
      exact handles_rowAndBody (by decide) fun vehicleId body _ _ =>
        handles_commit a (.updateVehicle vehicleId body) trivial map_snd_bind
          (loaded_raises (by decide) fun _ => updateVehicle_raises.mono (by decide) id)
          fun _ _ done => mem_of_loaded done fun _ loaded done =>
            (Shown.vehicle_models (updateVehicle_saves loaded done).saves.mem).map
  | updateUser =>
      exact handles_rowAndBody (by decide) fun userId body _ valid =>
        handles_commit a (.updateUser userId body)
          (fun _ given => UserUpdate.email_of_validate valid given) map_snd_bind
          (loaded_raises (by decide) fun _ => updateUser_raises.mono (by decide) id)
          fun _ _ done => mem_of_loaded done fun _ loaded done =>
            (Shown.user_models (updateUser_saves loaded done).saves.mem).map
  | deleteRoute =>
      exact handles_checked (by decide) fun routeId _ =>
        handles_commit a (.deleteRoute routeId) trivial map_snd_unit
          (loaded_raises (by decide) fun _ => deleteRoute_raises.mono (by decide) id).map
          fun _ _ _ => .ok _
  | deleteVehicle =>
      exact handles_checked (by decide) fun vehicleId _ =>
        handles_commit a (.deleteVehicle vehicleId) trivial map_snd_unit
          (loaded_raises (by decide) fun _ => deleteVehicle_raises.mono (by decide) id).map
          fun _ _ _ => .ok _
  | deleteUser =>
      exact handles_checked (by decide) fun userId _ =>
        handles_commit a (.deleteUser userId) trivial map_snd_unit
          (loaded_raises (by decide) fun _ => execute_raises).map fun _ _ _ => .ok _
  | setAssignment =>
      exact handles_rowAndBody (by decide) fun userId body _ _ =>
        handles_commit a (.setAssignment userId body) trivial rfl
          (setAssignment_raises.mono (by decide) id) fun _ _ done =>
            (Shown.user_models (setAssignment_saves done).saves.mem).map

theorem validates_of_readsBody {e : Endpoint} (reads : e.readsBody = true) :
    (422, "validation_error") ∈ e.errors := by
  cases e <;> first | decide | cases reads

/-- Where there is a gate, the endpoint lists its errors. -/
theorem apiRouter_gates : ∀ route ∈ apiRouter.routes,
    route.dependencies = [] ∨ gateErrors ⊆ route.endpoint.errors := by
  decide

theorem serveRoute_handles {route : Route Gate Endpoint} (member : route ∈ apiRouter.routes) :
    Handled A s route.endpoint.errors (serveRoute A a s r route params) := by
  unfold serveRoute
  split
  · next reads _ => exact handles_error (validates_of_readsBody reads) fun _ => by simp
  · split
    · next raised =>
        rcases apiRouter_gates route member with ungated | listed
        · rw [ungated] at raised
          cases raised
        · exact handles_failure (passGates_raises.mono listed id) raised
    · exact run_handles route.endpoint

theorem Api.ApiError.Within.mono {codes' : List (Nat × String)} {e : ApiError}
    (within : e.Within codes) (more : codes ⊆ codes') : e.Within codes' := by
  cases e with
  | failure failure =>
      cases failure with
      | app e => exact more within
      | _ => trivial
  | _ => exact more within

theorem Handled.mono {codes' : List (Nat × String)} {out : Api.Reply × System}
    (handled : Handled A s codes out) (more : codes ⊆ codes') : Handled A s codes' out :=
  { handled with documented := fun e same => (handled.documented e same).mono more }

theorem serve_handles : Handled A s (errorsAt r.method r.path) (serve A a s r) := by
  unfold serve errorsAt
  cases found : apiRouter.dispatch r.method r.path with
  | notFound => exact handles_error List.mem_cons_self fun _ => by simp
  | methodNotAllowed => exact handles_error List.mem_cons_self fun _ => by simp
  | found route params =>
      exact (serveRoute_handles (Router.mem_of_dispatch found)).mono
        (List.subset_append_right _ _)

/-! ## Responses -/

variable {T : Texts} {raw : HttpRequest}

/-- What an endpoint answers is no error. -/
theorem statusCode_lt (e : Endpoint) : e.statusCode < 400 := by
  cases e <;> decide

/-- A response with the status of an error has changed nothing. -/
theorem respond_unchanged (shown : Shown A s.db) (failed : 400 ≤ (respond A T a s raw).1.status) :
    (respond A T a s raw).2 = s := by
  rw [respond_serve]
  cases replied : (serve A a s raw.request).1 with
  | error e => exact serve_handles.unchanged shown e replied
  | ok response =>
      rcases respond_cases A T a s raw with unread | ⟨endpoint, rendered⟩
      · rw [← respond_serve (T := T), unread]
      · rw [rendered, replied] at failed
        exact absurd (statusCode_lt endpoint) (not_lt.mpr failed)

end

/-! ## Runs -/

/-- What reaches the application. -/
inductive Traffic
  | request (r : HttpRequest)
  | fix (m : GPSMessage)

/-- The system after this traffic, one at a time. -/
def live (A : App) (T : Texts) (s : System) : List (Ambient × Traffic) → System
  | [] => s
  | (a, .request r) :: traffic => live A T (respond A T a s r).2 traffic
  | (a, .fix m) :: traffic =>
      live A T { s with db := (Call.handleGpsMessage m).after A.engine a s.db } traffic

section

variable {A : App} {T : Texts}

/-- **Run.** -/
theorem Shown.live (traffic : List (Ambient × Traffic)) {s : System} (shown : Shown A s.db) :
    Shown A (live A T s traffic).db := by
  induction traffic generalizing s with
  | nil => exact shown
  | cons step traffic ih =>
      obtain ⟨a, event⟩ := step
      cases event with
      | request r =>
          refine ih ?_
          rw [respond_serve]
          exact serve_handles.shown shown
      | fix m => exact ih (shown.after trivial)

/-- **An error is a rollback.**  Whatever requests and fixes the application has worked on, no
response model rejects what an endpoint has committed, and a request that is answered with an
error has changed neither a row nor the tokens handed out. -/
theorem errors_change_nothing (A : App) (T : Texts) {s : System} (shown : Shown A s.db)
    (traffic : List (Ambient × Traffic)) (a : Ambient) (r : HttpRequest) :
    (serve A a (live A T s traffic) r.request).1 ≠ .error (.failure .responseValidationError) ∧
      (400 ≤ (respond A T a (live A T s traffic) r).1.status →
        (respond A T a (live A T s traffic) r).2 = live A T s traffic) := by
  have still : Shown A (FleetTracking.live A T s traffic).db := shown.live traffic
  exact ⟨serve_handles.presents still, respond_unchanged still⟩

end

/-- Conversions that take a string as it is take it again. -/
theorem stableEmails_demo : StableEmails demoApp.coerce := by
  intro value email made
  cases value <;> cases made
  exact ⟨_, rfl⟩

theorem shown_demo : Shown demoApp (adminLogin.system demoApp .demo).db where
  filled := by
    have reachable : Reachable postgres {} .demo := ⟨[(plainAmbient, .seed false)], rfl⟩
    exact reachable.filled rfl
  emails u member := by
    have given : ∀ u ∈ (adminLogin.system demoApp .demo).db.users.rows, u.email.isSome = true := by
      decide +kernel
    obtain ⟨email, has⟩ := Option.isSome_iff_exists.mp (given u member)
    exact ⟨email, by rw [has]; rfl⟩
  enforced := rfl
  stable := stableEmails_demo

/-- `POST /api/v1/admin/users` over HTTP, with the token of the admin's login. -/
def createUserOverHttp : HttpRequest where
  method := .post
  path := "/api/v1/admin/users"
  credentials := some adminAccessToken
  query := .null
  body := .json (.obj [("email", .str "new@fleet.com"), ("password", .str "password456")])

def plainTexts : Texts := ⟨id, fun _ => ""⟩

/-- The user is created, a bus reports, and the user is created again. -/
theorem errors_change_nothing_again :
    let s := live demoApp plainTexts (adminLogin.system demoApp .demo)
      [(plainAmbient, .request createUserOverHttp), (plainAmbient, .fix lateFix)]
    (respond demoApp plainTexts plainAmbient s createUserOverHttp).1.status = 409 ∧
      (respond demoApp plainTexts plainAmbient s createUserOverHttp).2 = s := by
  intro s
  have conflict :
      (respond demoApp plainTexts plainAmbient s createUserOverHttp).1.status = 409 := by
    decide +kernel
  have same := errors_change_nothing demoApp plainTexts shown_demo
    [(plainAmbient, .request createUserOverHttp), (plainAmbient, .fix lateFix)] plainAmbient
    createUserOverHttp
  exact ⟨conflict, same.2 (by rw [conflict]; decide)⟩

end FleetTracking
