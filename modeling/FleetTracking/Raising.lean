import FleetTracking.PoisonedReads
import FleetTracking.Responses

/-!
# What the code raises

`RaisesOnly` lists the deliberate errors of a result by status and machine-readable code, and
says when no response model rejects anything.  There is one lemma for each function, put
together as the function is.
-/

namespace FleetTracking

open Relational Python Pydantic Api

/-- The status and the machine-readable code. -/
def AppError.errorCode (e : AppError) : Nat × String := (e.errorClass.statusCode, e.code)

/-- The deliberate errors of the result are among `codes`, and while `shown` holds no response
model has rejected anything. -/
structure RaisesOnly {α : Type} (shown : Prop) (codes : List (Nat × String))
    (result : Except Failure α) : Prop where
  listed : ∀ e, result = .error (.app e) → e.errorCode ∈ codes
  presents : shown → result ≠ .error .responseValidationError

/-- Neither a deliberate error nor the rejection of a response model. -/
def Failure.crashes : Failure → Bool
  | .app _ | .responseValidationError => false
  | _ => true

namespace RaisesOnly

variable {α β : Type} {shown shown' : Prop} {codes codes' : List (Nat × String)}
  {result : Except Failure α}

theorem ok (a : α) : RaisesOnly shown codes (.ok a) where
  listed _ same := by cases same
  presents _ same := by cases same

theorem app (status : Nat) (code : String) {e : AppError} (is : e.errorCode = (status, code))
    (listed : (status, code) ∈ codes) :
    RaisesOnly shown codes (.error (.app e) : Except Failure α) where
  listed _ same := by
    cases same
    exact is ▸ listed
  presents _ same := by cases same

theorem crash {failure : Failure} (crashes : failure.crashes = true) :
    RaisesOnly shown codes (.error failure : Except Failure α) where
  listed _ same := by
    cases same
    cases crashes
  presents _ same := by
    cases same
    cases crashes

/-- What is raised again. -/
theorem raises {failure : Failure} (only : RaisesOnly shown codes result)
    (raised : result = .error failure) :
    RaisesOnly shown codes (.error failure : Except Failure β) where
  listed e same := only.listed e (raised.trans (congrArg _ (Except.error.inj same)))
  presents holds same := only.presents holds (raised.trans (congrArg _ (Except.error.inj same)))

theorem bind {f : α → Except Failure β} (only : RaisesOnly shown codes result)
    (rest : ∀ a, result = .ok a → RaisesOnly shown codes (f a)) :
    RaisesOnly shown codes (result.bind f) := by
  cases done : result with
  | ok a => exact rest a done
  | error failure => exact only.raises done

theorem map {f : α → β} (only : RaisesOnly shown codes result) :
    RaisesOnly shown codes (result.map f) := by
  cases done : result with
  | ok a => exact .ok (f a)
  | error failure => exact only.raises done

theorem mono (only : RaisesOnly shown codes result) (more : codes ⊆ codes')
    (shows : shown' → shown) : RaisesOnly shown' codes' result where
  listed e raised := more (only.listed e raised)
  presents holds := only.presents (shows holds)

theorem mapM {rows : List α} {one : α → Except Failure β}
    (each : ∀ row ∈ rows, RaisesOnly shown codes (one row)) :
    RaisesOnly shown codes (rows.mapM one) := by
  induction rows with
  | nil => exact .ok []
  | cons row rows ih =>
      rw [List.mapM_cons]
      refine (each row List.mem_cons_self).bind fun out _ => ?_
      have later := ih fun later member => each later (List.mem_cons_of_mem _ member)
      exact later.bind fun _ _ => .ok _

theorem mapM_option {row : Option α} {one : α → Except Failure β}
    (each : ∀ a, row = some a → RaisesOnly shown codes (one a)) :
    RaisesOnly shown codes (row.mapM one) := by
  cases row with
  | none => exact .ok none
  | some a => exact (each a rfl).map

end RaisesOnly

/-! ## Response models -/

/-- A response model accepts what is `shown`, and raises its rejection only. -/
structure Models {α : Type} (shown : Prop) (result : Except Failure α) : Prop where
  accepts : shown → ∃ out, result = .ok out
  rejects : ∀ failure, result = .error failure → failure = .responseValidationError

namespace Models

variable {α β : Type} {shown shown' : Prop} {result : Except Failure α}

theorem ok (a : α) : Models shown (.ok a : Except Failure α) where
  accepts _ := ⟨a, rfl⟩
  rejects _ same := by cases same

theorem bind {f : α → Except Failure β} (models : Models shown result)
    (rest : ∀ a, Models shown (f a)) : Models shown (result.bind f) where
  accepts holds := by
    obtain ⟨a, rfl⟩ := models.accepts holds
    exact (rest a).accepts holds
  rejects failure raised := by
    cases result with
    | ok a => exact (rest a).rejects failure raised
    | error failure' => exact models.rejects failure (congrArg _ (Except.error.inj raised))

theorem map {f : α → β} (models : Models shown result) : Models shown (result.map f) where
  accepts holds := by
    obtain ⟨a, rfl⟩ := models.accepts holds
    exact ⟨f a, rfl⟩
  rejects failure raised := by
    cases result with
    | ok a => cases raised
    | error failure' => exact models.rejects failure (congrArg _ (Except.error.inj raised))

theorem mono (models : Models shown result) (shows : shown' → shown) : Models shown' result :=
  ⟨fun holds => models.accepts (shows holds), models.rejects⟩

theorem mapM {rows : List α} {one : α → Except Failure β}
    (each : ∀ row ∈ rows, Models shown (one row)) : Models shown (rows.mapM one) := by
  induction rows with
  | nil => exact .ok []
  | cons row rows ih =>
      rw [List.mapM_cons]
      refine (each row List.mem_cons_self).bind fun out => ?_
      have later := ih fun later member => each later (List.mem_cons_of_mem _ member)
      exact later.bind fun _ => .ok _

theorem raisesOnly {codes : List (Nat × String)} (models : Models shown result) :
    RaisesOnly shown codes result where
  listed e raised := by cases models.rejects _ raised
  presents holds raised := by
    obtain ⟨out, done⟩ := models.accepts holds
    cases done.symm.trans raised

end Models

/-- A column that `EmailStr` accepts. -/
def EmailAccepted (c : Coerce) (email : Option String) : Prop :=
  ∃ address, email.bind (fun email => c.email (.str email)) = some address

section

variable {E : Engine} {c : Coerce}

/-- The rejection itself, where nothing is shown. -/
theorem Models.reject {α : Type} {shown : Prop} (hidden : ¬ shown) :
    Models shown (.error .responseValidationError : Except Failure α) :=
  ⟨fun holds => (hidden holds).elim, fun _ raised => (Except.error.inj raised).symm⟩

theorem requireStr_models {value : Option String} :
    Models (value.isSome = true) (requireStr value) := by
  cases value with
  | none => exact .reject (by simp)
  | some s => exact .ok s

theorem waypoint_models {w : LatLng} : Models w.Validated (Waypoint.modelValidate w) where
  accepts validated := by
    obtain ⟨lat, north⟩ := checkBetween_ok validated.lat
    obtain ⟨lng, east⟩ := checkBetween_ok validated.lng
    exact ⟨⟨lat, lng⟩, by rw [Waypoint.modelValidate, north, east]⟩
  rejects failure raised := by
    unfold Waypoint.modelValidate at raised
    split at raised
    · cases raised
    · exact (Except.error.inj raised).symm

theorem polyline_models {waypoints : List LatLng} :
    Models (Polyline waypoints) (waypoints.mapM Waypoint.modelValidate) :=
  .mapM fun w member => waypoint_models.mono fun polyline => polyline.validated w member

theorem routeOut_models {r : BusRoute} :
    Models (r.name.isSome = true ∧ Polyline r.waypoints) (RouteOut.modelValidate r) :=
  (requireStr_models.mono And.left).bind fun _ =>
    (polyline_models.mono And.right).bind fun _ => .ok _

theorem vehicleOut_models {v : Vehicle} :
    Models (v.code.isSome = true ∧ v.name.isSome = true ∧ v.isActive.isSome = true)
      (VehicleOut.modelValidate v) := by
  unfold VehicleOut.modelValidate
  split
  · next missing => exact .reject (by simp [missing])
  · exact (requireStr_models.mono And.left).bind fun _ =>
      (requireStr_models.mono fun shown => shown.2.1).bind fun _ => .ok _

theorem userOut_models {u : User} :
    Models (EmailAccepted c u.email) (UserOut.modelValidate c u) := by
  unfold UserOut.modelValidate
  split
  · exact .ok _
  · next rejected => exact .reject (by simp [EmailAccepted, rejected])

end

/-! ## The services -/

section

variable {E : Engine} {db : DB} {shown : Prop} {codes : List (Nat × String)}

theorem execute_raises {ok : Bool} : RaisesOnly shown codes (E.execute ok db) := by
  unfold Engine.execute
  split
  · exact .crash rfl
  · exact .ok db

/-- An `UPDATE` that is sent unless nothing changed. -/
theorem update_raises {p : Prop} [Decidable p] {ok : Bool} {db' : DB} :
    RaisesOnly shown codes (if p then .ok db else E.execute ok db') := by
  split
  · exact .ok db
  · exact execute_raises

theorem getOrMissing_raises {ρ : Type} [SerialKeyed ρ] {t : Serial ρ} (message : Int → Message)
    (code : String) {k : Int} (listed : (404, code) ∈ codes) :
    RaisesOnly shown codes (getOrMissing E t (fun k => notFound (message k) code) k) := by
  unfold getOrMissing
  split
  · split
    · exact .ok _
    · exact .app 404 code rfl listed
  · exact .crash rfl

theorem changeUnique_raises {ρ : Type} [SerialKeyed ρ] {t : Serial ρ} {col : ρ → Option String}
    (message : Option String → Message) (code : String) {current : Option String}
    {new : Option (Option String)} (listed : (409, code) ∈ codes) :
    RaisesOnly shown codes
      (changeUnique E t col (fun value => conflict (message value) code) current new) := by
  unfold changeUnique
  split
  · exact .ok _
  · split
    · exact .ok _
    · split
      · split
        · exact .app 409 code rfl listed
        · exact .ok _
      · exact .crash rfl

theorem createRoute_raises {now : Int} {data : RouteCreate} :
    RaisesOnly shown [(409, "route_name_taken")] (createRoute E db now data) := by
  unfold createRoute
  split
  · split
    · exact .app 409 "route_name_taken" rfl (by decide)
    · dsimp only
      split
      · exact execute_raises.map
      · exact .crash rfl
  · exact .crash rfl

theorem updateRoute_raises {route : BusRoute} {data : RouteUpdate} :
    RaisesOnly shown [(409, "route_name_taken")] (updateRoute E db route data) := by
  unfold updateRoute
  split
  · next raised =>
      exact (changeUnique_raises .routeNameTaken "route_name_taken" (by decide)).raises raised
  · dsimp only
    split
    · exact update_raises.map
    · exact .crash rfl

theorem deleteRoute_raises {route : BusRoute} :
    RaisesOnly shown [(409, "route_in_use")] (deleteRoute E db route) := by
  unfold deleteRoute
  dsimp only
  split
  · exact .app 409 "route_in_use" rfl (by decide)
  · exact execute_raises

theorem createVehicle_raises {now : Int} {data : VehicleCreate} :
    RaisesOnly shown [(409, "vehicle_code_taken")] (createVehicle E db now data) := by
  unfold createVehicle
  split
  · exact .app 409 "vehicle_code_taken" rfl (by decide)
  · split
    · exact execute_raises.map
    · exact .crash rfl

theorem updateVehicle_raises {vehicle : Vehicle} {data : VehicleUpdate} :
    RaisesOnly shown [(409, "vehicle_code_taken")] (updateVehicle E db vehicle data) := by
  unfold updateVehicle
  split
  · next raised =>
      exact (changeUnique_raises .vehicleCodeTaken "vehicle_code_taken" (by decide)).raises raised
  · dsimp only
    split
    · exact update_raises.map
    · exact .crash rfl

theorem deleteVehicle_raises {vehicle : Vehicle} :
    RaisesOnly shown [(409, "vehicle_in_use")] (deleteVehicle E db vehicle) := by
  unfold deleteVehicle
  dsimp only
  split
  · exact .app 409 "vehicle_in_use" rfl (by decide)
  · split
    · exact .app 409 "vehicle_in_use" rfl (by decide)
    · exact execute_raises

theorem createUser_raises {hashPassword : String → String} {now : Int} {data : UserCreate} :
    RaisesOnly shown [(409, "email_taken")] (createUser E db hashPassword now data) := by
  unfold createUser
  split
  · split
    · exact .app 409 "email_taken" rfl (by decide)
    · exact execute_raises.map
  · exact .crash rfl

theorem updateUser_raises {hashPassword : String → String} {user : User} {data : UserUpdate} :
    RaisesOnly shown [(409, "email_taken")] (updateUser E db hashPassword user data) := by
  unfold updateUser
  split
  · next raised => exact (changeUnique_raises .emailTaken "email_taken" (by decide)).raises raised
  · exact update_raises.map

theorem setAssignment_raises {userId : Int} {data : AssignmentUpdate} :
    RaisesOnly shown
      [(404, "user_not_found"), (404, "route_not_found"), (404, "vehicle_not_found"),
        (409, "route_already_assigned"), (409, "vehicle_already_assigned")]
      (setAssignment E db userId data) := by
  unfold setAssignment
  split
  · next raised =>
      exact (getOrMissing_raises .userNotFound "user_not_found" (by decide)).raises raised
  · split
    · split
      · next raised =>
          exact (getOrMissing_raises .routeNotFound "route_not_found" (by decide)).raises raised
      · split
        · next raised =>
            exact (getOrMissing_raises .vehicleNotFound "vehicle_not_found" (by decide)).raises
              raised
        · split
          · exact .app 409 "route_already_assigned" rfl (by decide)
          · split
            · exact .app 409 "vehicle_already_assigned" rfl (by decide)
            · exact update_raises.map
    · exact update_raises.map

end

/-! ## Tokens and gates -/

section

variable {A : App} {a : Ambient} {s : System} {now : Int} {shown : Prop}

theorem decodeToken_raises {J : Jwt} {issued : List Claims} {token : String} {type : TokenType} :
    RaisesOnly shown [(401, "invalid_credentials")] (decodeToken J issued now token type) := by
  have subject (sub : Option Json) :
      RaisesOnly shown [(401, "invalid_credentials")] (subjectId sub) := by
    unfold subjectId
    split
    · split
      · exact .ok _
      · exact .app 401 "invalid_credentials" rfl (by decide)
    · exact .ok _
    · exact .ok _
    · exact .ok _
    · exact .crash rfl
    · exact .crash rfl
    · exact .app 401 "invalid_credentials" rfl (by decide)
  unfold decodeToken
  split
  · exact .app 401 "invalid_credentials" rfl (by decide)
  · exact .app 401 "invalid_credentials" rfl (by decide)
  · split
    · exact subject _
    · exact .app 401 "invalid_credentials" rfl (by decide)

theorem userOf_raises {token : String} {type : TokenType} :
    RaisesOnly shown [(401, "invalid_credentials")] (s.userOf A now token type) := by
  unfold System.userOf userOfToken
  split
  · next raised => exact decodeToken_raises.raises raised
  · have got {k : Int} : RaisesOnly shown [] (dbGet A.engine s.db.users k) := by
      unfold dbGet
      split
      · exact .ok _
      · split
        · exact .ok _
        · exact .crash rfl
    split
    · next raised => exact (got.mono (List.nil_subset _) id).raises raised
    · exact .app 401 "invalid_credentials" rfl (by decide)
    · exact .ok _

theorem currentUser_raises {credentials : Option String} :
    RaisesOnly shown [(401, "invalid_credentials")] (s.currentUser A now credentials) := by
  unfold System.currentUser getCurrentUser
  split
  · exact .app 401 "invalid_credentials" rfl (by decide)
  · exact userOf_raises

theorem issueTokenPair_raises {codes : List (Nat × String)} {user : User} :
    RaisesOnly shown codes (issueTokenPair A.jwt A.settings now user) := by
  have create {userId delta : Int} {type : TokenType} :
      RaisesOnly shown codes (createUserToken A.jwt now userId type delta) := by
    unfold createUserToken createToken
    split
    · dsimp only
      split
      · exact .ok _
      · exact .crash rfl
    · exact .crash rfl
  exact create.bind fun access _ => create.bind fun refresh _ => .ok _

theorem login_raises {body : LoginRequest} :
    RaisesOnly shown [(401, "invalid_credentials")] (s.login A now body) := by
  refine RaisesOnly.bind ?_ fun user _ => issueTokenPair_raises
  unfold authenticateUser
  split
  · split
    · exact .app 401 "invalid_credentials" rfl (by decide)
    · split
      · exact .ok _
      · exact .app 401 "invalid_credentials" rfl (by decide)
  · exact .crash rfl

theorem refresh_raises {token : String} :
    RaisesOnly shown [(401, "invalid_credentials")] (s.refresh A now token) :=
  userOf_raises.bind fun _ _ => issueTokenPair_raises

theorem passGates_raises {r : Request} {gates : List Gate} :
    RaisesOnly shown [(401, "invalid_credentials"), (403, "forbidden")]
      (passGates A a s r gates) := by
  induction gates with
  | nil => exact .ok ()
  | cons gate gates ih =>
      cases gate
      have admin : RaisesOnly shown [(401, "invalid_credentials"), (403, "forbidden")]
          (requireAdmin A.jwt A.engine s.issued a.now s.db r.credentials) := by
        unfold requireAdmin
        split
        · next raised =>
            exact RaisesOnly.raises (.mono (currentUser_raises (A := A)) (by decide) id) raised
        · split
          · exact .ok _
          · exact .app 403 "forbidden" rfl (by decide)
      unfold passGates
      split
      · next raised => exact admin.raises raised
      · exact ih

end

/-! ## The reads -/

section

variable {E : Engine} {db : DB} {now : Int} {codes : List (Nat × String)}

theorem deriveStatus_raises {shown : Prop} {recordedAt : Option Int} {speed : Option Number} :
    RaisesOnly shown codes (deriveStatus recordedAt speed now) := by
  unfold deriveStatus
  split
  · exact .ok _
  · split
    · exact .ok _
    · refine RaisesOnly.map ?_
      unfold decimalGt
      split
      · exact .crash rfl
      · exact .ok _

/-- A row that a foreign key leads to. -/
theorem mem_of_getIfSet {ρ : Type} [SerialKeyed ρ] {t : Serial ρ} {k : Option Int} {row : ρ}
    (found : getIfSet t k = some row) : row ∈ t.toTable := by
  unfold getIfSet at found
  split at found
  · split at found
    · cases found
    · exact (Table.get_eq_some.mp found).1
  · cases found

theorem getAssignment_raises {u : User} :
    RaisesOnly (Filled db) [(403, "no_assignment")] (getAssignment db u) := by
  have required : RaisesOnly (Filled db) [(403, "no_assignment")] (requireAssignment u) := by
    unfold requireAssignment
    split
    · exact .app 403 "no_assignment" rfl (by decide)
    · exact .ok _
  refine required.bind fun _ _ => RaisesOnly.bind ?_ fun _ _ => RaisesOnly.bind ?_ fun _ _ => .ok _
  · refine .mapM_option fun r found => Models.raisesOnly ?_
    have named : Filled db → r.name.isSome = true := fun filled =>
      (filled.routes r (mem_of_getIfSet found)).1
    exact (requireStr_models.mono named).bind fun _ => .ok _
  · refine .mapM_option fun v found => Models.raisesOnly ?_
    have columns (filled : Filled db) := filled.vehicles v (mem_of_getIfSet found)
    exact (requireStr_models.mono fun filled => (columns filled).1).bind fun _ =>
      (requireStr_models.mono fun filled => (columns filled).2.1).bind fun _ => .ok _

theorem getRoutePolyline_raises {u : User} :
    RaisesOnly (Filled db) [(403, "no_assignment")] (getRoutePolyline db u) := by
  unfold getRoutePolyline
  split
  · exact .app 403 "no_assignment" rfl (by decide)
  · split
    · exact .app 403 "no_assignment" rfl (by decide)
    · next route found =>
        have columns (filled : Filled db) :=
          filled.routes route (Table.get_eq_some.mp found).1
        refine Models.raisesOnly ?_
        exact (requireStr_models.mono fun filled => (columns filled).1).bind fun _ =>
          (polyline_models.mono fun filled => (columns filled).2).bind fun _ => .ok _

theorem getCurrentLocation_raises {u : User} :
    RaisesOnly (Filled db) [(403, "no_assignment")] (getCurrentLocation now db u) := by
  unfold getCurrentLocation
  split
  · exact .app 403 "no_assignment" rfl (by decide)
  · split
    · exact .app 403 "no_assignment" rfl (by decide)
    · next vehicle found =>
        have coded : Filled db → vehicle.code.isSome = true := fun filled =>
          (filled.vehicles vehicle (Table.get_eq_some.mp found).1).1
        exact deriveStatus_raises.bind fun _ _ =>
          (requireStr_models.mono coded).raisesOnly.bind fun _ _ => .ok _

theorem getHistory_raises {shown : Prop} {now : Datetime} {u : User} {params : HistoryParams} :
    RaisesOnly shown [(403, "no_assignment")] (getHistory E now db u params) := by
  have bound {d : Datetime} : RaisesOnly shown [(403, "no_assignment")] (bindDatetime E d) := by
    rw [bindDatetime_eq]
    split
    · exact .ok _
    · exact .crash rfl
  have window : RaisesOnly shown [(403, "no_assignment")] (historyWindow E now params) := by
    have both {dateFrom dateTo : Datetime} : RaisesOnly shown [(403, "no_assignment")] (do
        return (← bindDatetime E dateFrom, ← bindDatetime E dateTo) :
          Except Failure (Int × Int)) :=
      bound.bind fun _ _ => bound.bind fun _ _ => .ok _
    unfold historyWindow
    dsimp only
    split
    · exact both
    · split
      · exact both
      · exact .crash rfl
  unfold getHistory
  split
  · exact .app 403 "no_assignment" rfl (by decide)
  · refine window.bind fun _ _ => ?_
    dsimp only
    split
    · exact .ok _
    · exact .crash rfl

theorem adminVehicleOut_raises {v : Vehicle} (member : v ∈ db.vehicles.toTable) :
    RaisesOnly (Filled db) codes (adminVehicleOut db now v) := by
  have columns (filled : Filled db) := filled.vehicles v member
  have coded : RaisesOnly (Filled db) codes (requireStr v.code) :=
    (requireStr_models.mono fun filled => (columns filled).1).raisesOnly
  have named : RaisesOnly (Filled db) codes (requireStr v.name) :=
    (requireStr_models.mono fun filled => (columns filled).2.1).raisesOnly
  unfold adminVehicleOut
  refine RaisesOnly.bind (.mapM_option fun loc _ => ?_) fun _ _ => ?_
  · exact coded.bind fun _ _ => deriveStatus_raises.bind fun _ _ => .ok _
  · cases flag : v.isActive with
    | none =>
        refine (Models.reject fun filled => ?_).raisesOnly
        have flagged := (columns filled).2.2
        rw [flag] at flagged
        cases flagged
    | some isActive => exact coded.bind fun _ _ => named.bind fun _ _ => .ok _

end

end FleetTracking
