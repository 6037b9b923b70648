import FleetTracking.AllOrNothing
import Mathlib.Logic.Function.Basic

/-!
# The admin API as a store

What the admin API is for, as its clients see it: items that one creates, changes and deletes,
and reads again.  `Store` is this abstract model.  It knows nothing of the tables: it learns from
the replies alone (`Store.learn`).  `store_respond` says that the application refines it, one
request at a time, and `admin_api_is_a_store` that whatever has been served, `GET` answers what
the earlier replies have told.
-/

namespace FleetTracking

open Relational Python Pydantic Routing Api

/-! ## The abstract model -/

/-- What has an id of its own under `/admin`. -/
inductive Item
  | route (id : Int)
  | vehicle (id : Int)
  | user (id : Int)
deriving DecidableEq

/-- The items that there are, each as the API shows it. -/
abbrev Store := Item → Option Response

/-- The item that a response shows. -/
def Api.Response.item? : Response → Option Item
  | .route out => some (.route out.id)
  | .vehicle out => some (.vehicle out.id)
  | .user out => some (.user out.id)
  | _ => none

/-- The item that a path names. -/
def itemAt (c : Coerce) (item : Int → Item) (name : String) (params : List String) : Option Item :=
  (pathInt c name params).toOption.map item

namespace Store

/-- Take over what a response shows. -/
def record (store : Store) (answer : Response) : Store :=
  match answer.item? with
  | some item => Function.update store item (some answer)
  | none => store

def forget (store : Store) : Option Item → Store
  | some item => Function.update store item none
  | none => store

/-- What an answer of an endpoint tells. -/
def after (store : Store) (c : Coerce) (params : List String) (answer : Response) :
    Endpoint → Store
  | .createRoute | .updateRoute | .createVehicle | .updateVehicle | .createUser | .updateUser
  | .setAssignment => store.record answer
  | .deleteRoute => store.forget (itemAt c .route "route_id" params)
  | .deleteVehicle => store.forget (itemAt c .vehicle "vehicle_id" params)
  | .deleteUser => store.forget (itemAt c .user "user_id" params)
  | _ => store

/-- An error tells nothing. -/
def told (store : Store) (c : Coerce) (params : List String) (e : Endpoint) : Content → Store
  | .result answer => store.after c params answer e
  | _ => store

/-- What a response to a request tells. -/
def learn (store : Store) (c : Coerce) (r : HttpRequest) (response : HttpResponse) : Store :=
  match apiRouter.dispatch r.method r.path with
  | .found route params => store.told c params route.endpoint response.content
  | _ => store

/-- What these responses tell, one after the other. -/
def replay (store : Store) (c : Coerce) : List (HttpRequest × HttpResponse) → Store
  | [] => store
  | exchange :: log => (store.learn c exchange.1 exchange.2).replay c log

end Store

/-- The error for an item that is not there. -/
def Item.missing : Item → Failure
  | .route k => notFound (.routeNotFound k) "route_not_found"
  | .vehicle k => notFound (.vehicleNotFound k) "vehicle_not_found"
  | .user k => notFound (.userNotFound k) "user_not_found"

/-- `GET` on an item. -/
def Store.get (T : Texts) (store : Store) (item : Item) : HttpResponse :=
  match store item with
  | some answer => ⟨200, .result answer⟩
  | none => handleError T (.failure item.missing)

/-! ## What the tables show -/

/-- What is shown of a row, if it is there. -/
def rowShown {ρ α : Type} [SerialKeyed ρ] (t : Serial ρ) (model : ρ → Except Failure α)
    (response : α → Response) (k : Int) : Option Response :=
  (t.get k).bind fun row => (model row).toOption.map response

def DB.store (db : DB) (c : Coerce) : Store
  | .route k => rowShown db.busRoutes RouteOut.modelValidate .route k
  | .vehicle k => rowShown db.vehicles VehicleOut.modelValidate .vehicle k
  | .user k => rowShown db.users (UserOut.modelValidate c) .user k

section

variable {c : Coerce} {db db' : DB} {answer : Response}

/-- **Step.**  A row that is written is shown, and the others as before. -/
theorem rowShown_saves {ρ α : Type} [SerialKeyed ρ] {t t' : Serial ρ} {row : ρ}
    {model : ρ → Except Failure α} {response : α → Response} {out : α} (saves : t.Saves t' row)
    (valid : model row = .ok out) (k : Int) :
    rowShown t' model response k =
      if k = Keyed.key row then some (response out) else rowShown t model response k := by
  unfold rowShown
  split
  · next same =>
      rw [same, saves.own, Option.bind_some, valid]
      rfl
  · next other => rw [saves.others k other]

theorem routeOut_id {route : BusRoute} {out : RouteOut}
    (valid : RouteOut.modelValidate route = .ok out) : out.id = route.id := by
  obtain ⟨_, _, rest⟩ := bind_eq_ok.mp valid
  obtain ⟨_, _, last⟩ := bind_eq_ok.mp rest
  cases last
  rfl

theorem vehicleOut_id {vehicle : Vehicle} {out : VehicleOut}
    (valid : VehicleOut.modelValidate vehicle = .ok out) : out.id = vehicle.id := by
  unfold VehicleOut.modelValidate at valid
  split at valid
  · cases valid
  · obtain ⟨_, _, rest⟩ := bind_eq_ok.mp valid
    obtain ⟨_, _, last⟩ := bind_eq_ok.mp rest
    cases last
    rfl

theorem userOut_id {user : User} {out : UserOut}
    (valid : UserOut.modelValidate c user = .ok out) : out.id = user.id := by
  unfold UserOut.modelValidate at valid
  split at valid
  · cases valid
    rfl
  · cases valid

theorem record_of_item {store : Store} {item : Item} (shows : answer.item? = some item) :
    store.record answer = Function.update store item (some answer) := by
  rw [Store.record, shows]

theorem store_savesRoute {row : BusRoute} (saves : db.SavesRoute db' row)
    (answers : (RouteOut.modelValidate row).map Response.route = .ok answer) :
    db'.store c = (db.store c).record answer := by
  obtain ⟨out, valid, rfl⟩ := map_eq_ok.mp answers
  have shows : (Response.route out).item? = some (.route row.id) :=
    congrArg (fun k => some (Item.route k)) (routeOut_id valid)
  rw [record_of_item shows]
  funext item
  rw [Function.update_apply]
  cases item with
  | route k => exact (rowShown_saves saves.saves valid k).trans (by simp [DB.store])
  | vehicle k => simp [DB.store, saves.vehicles]
  | user k => simp [DB.store, saves.users]

theorem store_savesVehicle {row : Vehicle} (saves : db.SavesVehicle db' row)
    (answers : (VehicleOut.modelValidate row).map Response.vehicle = .ok answer) :
    db'.store c = (db.store c).record answer := by
  obtain ⟨out, valid, rfl⟩ := map_eq_ok.mp answers
  have shows : (Response.vehicle out).item? = some (.vehicle row.id) :=
    congrArg (fun k => some (Item.vehicle k)) (vehicleOut_id valid)
  rw [record_of_item shows]
  funext item
  rw [Function.update_apply]
  cases item with
  | route k => simp [DB.store, saves.routes]
  | vehicle k => exact (rowShown_saves saves.saves valid k).trans (by simp [DB.store])
  | user k => simp [DB.store, saves.users]

theorem store_savesUser {row : User} (saves : db.SavesUser db' row)
    (answers : (UserOut.modelValidate c row).map Response.user = .ok answer) :
    db'.store c = (db.store c).record answer := by
  obtain ⟨out, valid, rfl⟩ := map_eq_ok.mp answers
  have shows : (Response.user out).item? = some (.user row.id) :=
    congrArg (fun k => some (Item.user k)) (userOut_id valid)
  rw [record_of_item shows]
  funext item
  rw [Function.update_apply]
  cases item with
  | route k => simp [DB.store, saves.routes]
  | vehicle k => simp [DB.store, saves.vehicles]
  | user k => exact (rowShown_saves saves.saves valid k).trans (by simp [DB.store])

/-- **Step.**  A row that is deleted is not shown, and the others as before. -/
theorem rowShown_erase {ρ α : Type} [SerialKeyed ρ] {t : Serial ρ}
    {model : ρ → Except Failure α} {response : α → Response} (gone k : Int) :
    rowShown (t.erase gone) model response k =
      if k = gone then none else rowShown t model response k := by
  unfold rowShown
  rw [show (t.erase gone).get k = if k = gone then none else t.get k from Table.get_erase]
  split
  · rfl
  · rfl

theorem store_dropRoute (k : Int) :
    ((Edit.dropRoute k).apply db).store c = (db.store c).forget (some (.route k)) := by
  funext item
  rw [Store.forget, Function.update_apply]
  cases item with
  | route l => exact (rowShown_erase k l).trans (by simp [DB.store])
  | vehicle l => simp [DB.store, Edit.apply]
  | user l => simp [DB.store, Edit.apply]

theorem store_dropVehicle (k : Int) :
    ((Edit.dropVehicle k).apply db).store c = (db.store c).forget (some (.vehicle k)) := by
  funext item
  rw [Store.forget, Function.update_apply]
  cases item with
  | route l => simp [DB.store, Edit.apply]
  | vehicle l => exact (rowShown_erase k l).trans (by simp [DB.store])
  | user l => simp [DB.store, Edit.apply]

theorem store_dropUser (k : Int) :
    ((Edit.dropUser k).apply db).store c = (db.store c).forget (some (.user k)) := by
  funext item
  rw [Store.forget, Function.update_apply]
  cases item with
  | route l => simp [DB.store, Edit.apply]
  | vehicle l => simp [DB.store, Edit.apply]
  | user l => exact (rowShown_erase k l).trans (by simp [DB.store])

end

/-! ## Serving refines the store -/

section

variable {A : App} {a : Ambient} {s : System} {r : Request} {params : List String} {e : Endpoint}

/-- An answer tells what has become of the items. -/
def Tells (A : App) (s : System) (e : Endpoint) (params : List String)
    (out : Api.Reply × System) : Prop :=
  ∀ answer, out.1 = .ok answer →
    out.2.db.store A.coerce = (s.db.store A.coerce).after A.coerce params answer e

theorem tells_checked {α : Type} {input : Validated α} {run : α → Api.Reply × System}
    (each : ∀ x, input = .ok x → Tells A s e params (run x)) :
    Tells A s e params (checked s input run) := by
  cases passed : input with
  | ok x => exact each x passed
  | error errors => exact fun answer same => by cases same

theorem tells_commit {α : Type} {result : Except Failure (α × DB)}
    {respond : α → Except Failure Response}
    (each : ∀ row db' answer, result = .ok (row, db') → respond row = .ok answer →
      db'.store A.coerce = (s.db.store A.coerce).after A.coerce params answer e) :
    Tells A s e params (commit s result respond) := by
  intro answer replied
  cases done : result with
  | error failure =>
      rw [done] at replied
      cases replied
  | ok out =>
      obtain ⟨row, db'⟩ := out
      rw [done] at replied
      exact each row db' answer done (mapError_eq_ok.mp replied)

/-- A `DELETE`. -/
theorem tells_delete {ρ : Type} [SerialKeyed ρ] {t : Serial ρ} {missing : Int → Failure}
    {name : String} {delete : ρ → Except Failure DB} {item : Int → Item}
    (after : ∀ answer, (s.db.store A.coerce).after A.coerce params answer e =
      (s.db.store A.coerce).forget (itemAt A.coerce item name params))
    (drops : ∀ row db', delete row = .ok db' →
      db'.store A.coerce = (s.db.store A.coerce).forget (some (item (Keyed.key row)))) :
    Tells A s e params (checked s (pathInt A.coerce name params) fun k =>
      commit s (((getOrMissing A.engine t missing k).bind delete).map fun db => ((), db)) fun _ =>
        .ok .noContent) := by
  refine tells_checked fun k named => tells_commit fun _ db' answer done _ => ?_
  obtain ⟨_, both, out⟩ := map_eq_ok.mp done
  cases out
  obtain ⟨row, found, deleted⟩ := bind_eq_ok.mp both
  obtain ⟨_, rfl⟩ := getOrMissing_eq_ok found
  rw [after, drops row db' deleted, itemAt, named]
  rfl

/-- **Step.** -/
theorem run_tells (e : Endpoint) : Tells A s e params (e.run A a s r params) := by
  cases e with
  | createRoute =>
      exact tells_checked fun _ _ => tells_commit fun _ _ _ done answers =>
        store_savesRoute (createRoute_saves done) answers
  | createVehicle =>
      exact tells_checked fun _ _ => tells_commit fun _ _ _ done answers =>
        store_savesVehicle (createVehicle_saves done) answers
  | createUser =>
      exact tells_checked fun _ _ => tells_commit fun _ _ _ done answers =>
        store_savesUser (createUser_saves done) answers
  | updateRoute =>
      exact tells_checked fun _ _ => tells_commit fun _ _ _ done answers =>
        mem_of_loaded done fun _ loaded done =>
          store_savesRoute (updateRoute_saves loaded done) answers
  | updateVehicle =>
      exact tells_checked fun _ _ => tells_commit fun _ _ _ done answers =>
        mem_of_loaded done fun _ loaded done =>
          store_savesVehicle (updateVehicle_saves loaded done) answers
  | updateUser =>
      exact tells_checked fun _ _ => tells_commit fun _ _ _ done answers =>
        mem_of_loaded done fun _ loaded done =>
          store_savesUser (updateUser_saves loaded done) answers
  | setAssignment =>
      exact tells_checked fun _ _ => tells_commit fun _ _ _ done answers =>
        store_savesUser (setAssignment_saves done) answers
  | deleteRoute =>
      exact tells_delete (fun _ => rfl) fun _ _ done =>
        (deleteRoute_edit done).2 ▸ store_dropRoute _
  | deleteVehicle =>
      exact tells_delete (fun _ => rfl) fun _ _ done =>
        (deleteVehicle_edit done).2 ▸ store_dropVehicle _
  | deleteUser =>
      exact tells_delete (fun _ => rfl) fun _ _ done =>
        (deleteUser_edit done).2 ▸ store_dropUser _
  | _ => exact fun answer _ => congrArg (fun db => DB.store db A.coerce) (run_reads rfl)

/-! ## HTTP -/

variable {T : Texts} {raw : HttpRequest} {route : Route Gate Endpoint}

theorem serveRoute_tells :
    Tells A s route.endpoint params (serveRoute A a s r route params) := by
  unfold serveRoute
  split
  · exact fun answer same => by cases same
  · split
    · exact fun answer same => by cases same
    · exact run_tells route.endpoint

theorem handleError_content (e : ApiError) :
    ∃ envelope, (handleError T e).content = .error envelope := by
  cases e with
  | failure failure => cases failure <;> exact ⟨_, rfl⟩
  | _ => exact ⟨_, rfl⟩

theorem respondRoute_store (shown : Shown A s.db) (member : route ∈ apiRouter.routes) :
    (respondRoute A T a s raw route params).2.db.store A.coerce =
      (s.db.store A.coerce).told A.coerce params route.endpoint
        (respondRoute A T a s raw route params).1.content := by
  unfold respondRoute
  split
  · rfl
  · rfl
  · dsimp only
    cases replied : (serveRoute A a s raw.request route params).1 with
    | ok answer => exact serveRoute_tells answer replied
    | error e =>
        rw [(serveRoute_handles member).unchanged shown e replied]
        obtain ⟨envelope, content⟩ := handleError_content (T := T) e
        rw [render, content]
        rfl

/-- **Step.**  What is shown after a request is what its response has told. -/
theorem store_respond (shown : Shown A s.db) :
    (respond A T a s raw).2.db.store A.coerce =
      (s.db.store A.coerce).learn A.coerce raw (respond A T a s raw).1 := by
  unfold respond Store.learn
  cases found : apiRouter.dispatch raw.method raw.path with
  | notFound => rfl
  | methodNotAllowed => rfl
  | found route params => exact respondRoute_store shown (Router.mem_of_dispatch found)

/-- A fix shows nothing new. -/
theorem store_fix (m : GPSMessage) :
    ((Call.handleGpsMessage m).after A.engine a s.db).store A.coerce = s.db.store A.coerce := by
  rw [after_handleGpsMessage]
  split
  · funext item
    cases item <;> rfl
  · rfl

end

/-! ## Runs -/

/-- The requests of the traffic, each with its response. -/
def log (A : App) (T : Texts) (s : System) :
    List (Ambient × Traffic) → List (HttpRequest × HttpResponse)
  | [] => []
  | (a, .request r) :: traffic =>
      let (response, s') := respond A T a s r
      (r, response) :: log A T s' traffic
  | (a, .fix m) :: traffic =>
      log A T { s with db := (Call.handleGpsMessage m).after A.engine a s.db } traffic

section

variable {A : App} {T : Texts} {s : System}

/-- **Run.** -/
theorem store_live (shown : Shown A s.db) (traffic : List (Ambient × Traffic)) :
    (live A T s traffic).db.store A.coerce =
      (s.db.store A.coerce).replay A.coerce (log A T s traffic) := by
  induction traffic generalizing s with
  | nil => rfl
  | cons step traffic ih =>
      obtain ⟨a, event⟩ := step
      cases event with
      | request r =>
          have next : Shown A (respond A T a s r).2.db := by
            rw [respond_serve]
            exact serve_handles.shown shown
          exact (ih next).trans (congrArg (Store.replay · _ _) (store_respond shown))
      | fix m =>
          have next : Shown A ((Call.handleGpsMessage m).after A.engine a s.db) :=
            shown.after trivial
          exact (ih next).trans (congrArg (Store.replay · _ _) (store_fix m))

end

/-! ## Reading an item -/

def Item.id : Item → Int
  | .route k | .vehicle k | .user k => k

/-- The item that an endpoint reads. -/
def Api.Endpoint.item? (c : Coerce) (params : List String) : Endpoint → Option Item
  | .getRoute => itemAt c .route "route_id" params
  | .getVehicle => itemAt c .vehicle "vehicle_id" params
  | .getUser => itemAt c .user "user_id" params
  | _ => none

section

variable {A : App} {T : Texts} {a : Ambient} {s : System} {r : Request} {params : List String}
  {item : Item}

theorem itemAt_eq_some {c : Coerce} {of : Int → Item} {name : String}
    (named : itemAt c of name params = some item) :
    ∃ k, pathInt c name params = .ok k ∧ item = of k := by
  obtain ⟨k, passed, same⟩ := Option.map_eq_some_iff.mp named
  refine ⟨k, ?_, same.symm⟩
  cases path : pathInt c name params with
  | ok k' =>
      rw [path] at passed
      exact congrArg Except.ok (Option.some.inj passed)
  | error errors =>
      rw [path] at passed
      cases passed

/-- A row is answered as it is shown, or it is missing. -/
theorem answer_row {ρ α : Type} [SerialKeyed ρ] {t : Serial ρ} {missing : Int → Failure} {k : Int}
    {model : ρ → Except Failure α} (response : α → Response) {result : Except Failure Response}
    (reads : result = (getOrMissing A.engine t missing k).bind fun row =>
      (model row).bind fun out => .ok (response out))
    (fits : A.engine.bigint k = true) (valid : ∀ row ∈ t.toTable, ∃ out, model row = .ok out) :
    (∃ answer, rowShown t model response k = some answer ∧ result = .ok answer) ∨
      (rowShown t model response k = none ∧ result = .error (missing k)) := by
  subst reads
  unfold rowShown getOrMissing
  rw [if_pos fits]
  cases found : t.get k with
  | none => exact .inr ⟨rfl, rfl⟩
  | some row =>
      obtain ⟨out, accepted⟩ := valid row (Table.get_eq_some.mp found).1
      refine .inl ⟨response out, ?_, ?_⟩
      · rw [Option.bind_some, accepted]
        rfl
      · exact congrArg (fun result => result.bind fun out => .ok (response out)) accepted

theorem render_answer {e : Endpoint} {missing : Failure} {result : Except Failure Response}
    (code : e.statusCode = 200) (is : item.missing = missing)
    (answered : (∃ answer, s.db.store A.coerce item = some answer ∧ result = .ok answer) ∨
      (s.db.store A.coerce item = none ∧ result = .error missing)) :
    render T e (answer s result).1 = (s.db.store A.coerce).get T item := by
  rcases answered with ⟨answer, here, rfl⟩ | ⟨gone, rfl⟩
  · rw [Store.get, here]
    exact congrArg (HttpResponse.mk · _) code
  · rw [Store.get, gone, is]
    rfl

theorem run_reads_item {e : Endpoint} (shown : Shown A s.db)
    (reads : e.item? A.coerce params = some item) (fits : A.engine.bigint item.id = true) :
    render T e (e.run A a s r params).1 = (s.db.store A.coerce).get T item := by
  cases e with
  | getRoute =>
      obtain ⟨k, path, rfl⟩ := itemAt_eq_some reads
      unfold Endpoint.run
      rw [path]
      exact render_answer rfl rfl (answer_row .route rfl fits fun row member =>
        (Shown.route_models member).accepts shown)
  | getVehicle =>
      obtain ⟨k, path, rfl⟩ := itemAt_eq_some reads
      unfold Endpoint.run
      rw [path]
      exact render_answer rfl rfl (answer_row .vehicle rfl fits fun row member =>
        (Shown.vehicle_models member).accepts shown)
  | getUser =>
      obtain ⟨k, path, rfl⟩ := itemAt_eq_some reads
      unfold Endpoint.run
      rw [path]
      exact render_answer rfl rfl (answer_row .user rfl fits fun row member =>
        (Shown.user_models member).accepts shown)
  | _ => cases reads

/-- `GET` on an item, past the gate. -/
theorem respond_item {raw : HttpRequest} {route : Route Gate Endpoint} (shown : Shown A s.db)
    (found : apiRouter.dispatch raw.method raw.path = .found route params)
    (reads : route.endpoint.item? A.coerce params = some item)
    (fits : A.engine.bigint item.id = true)
    (passed : passGates A a s raw.request route.dependencies = .ok ()) :
    (respond A T a s raw).1 = (s.db.store A.coerce).get T item := by
  have noBody : route.endpoint.readsBody = false := by
    cases endpoint : route.endpoint <;> rw [endpoint] at reads <;> first | rfl | cases reads
  have served : serveRoute A a s raw.request route params =
      route.endpoint.run A a s raw.request params := by
    unfold serveRoute
    split
    · next readsBody _ => cases noBody.symm.trans readsBody
    · rw [passed]
  unfold respond
  rw [found]
  dsimp only
  unfold respondRoute
  split
  · next readsBody _ => cases noBody.symm.trans readsBody
  · next readsBody _ => cases noBody.symm.trans readsBody
  · dsimp only
    rw [served]
    exact run_reads_item shown reads fits

/-- **The admin API is a store.**  Whatever requests and fixes the application has worked on,
`GET` on a route, a vehicle or a user answers what the responses have told since: the item as the
last response showed it that created or changed it, that it is missing if it was deleted since,
and otherwise what there was at the start. -/
theorem admin_api_is_a_store (A : App) (T : Texts) {s : System} (shown : Shown A s.db)
    (traffic : List (Ambient × Traffic)) (a : Ambient) (raw : HttpRequest)
    {route : Route Gate Endpoint} {params : List String} {item : Item}
    (found : apiRouter.dispatch raw.method raw.path = .found route params)
    (reads : route.endpoint.item? A.coerce params = some item)
    (fits : A.engine.bigint item.id = true)
    (passed : passGates A a (live A T s traffic) raw.request route.dependencies = .ok ()) :
    (respond A T a (live A T s traffic) raw).1 =
      ((s.db.store A.coerce).replay A.coerce (log A T s traffic)).get T item := by
  rw [respond_item (shown.live traffic) found reads fits passed, store_live shown traffic]

end

/-- An application that reads the integers in its paths. -/
def storeApp : App where
  __ := demoApp
  coerce :=
    { Coerce.asIs with
      int := fun value =>
        match value with
        | .str s => Python.int s
        | .int n => some n
        | _ => none }

theorem shown_store : Shown storeApp (adminLogin.system storeApp .demo).db :=
  ⟨shown_demo.filled, shown_demo.emails, rfl, stableEmails_demo⟩

/-- `GET /api/v1/admin/users/6` with the token of the admin's login. -/
def getUserOverHttp : HttpRequest where
  method := .get
  path := "/api/v1/admin/users/6"
  credentials := some adminAccessToken
  query := .null
  body := .absent

/-- The user is created, a bus reports, and the user is read. -/
theorem admin_api_is_a_store_user :
    let s := adminLogin.system storeApp .demo
    let traffic := [(plainAmbient, Traffic.request createUserOverHttp),
      (plainAmbient, Traffic.fix lateFix)]
    (respond storeApp plainTexts plainAmbient (live storeApp plainTexts s traffic)
        getUserOverHttp).1 =
      ((s.db.store storeApp.coerce).replay storeApp.coerce (log storeApp plainTexts s traffic)).get
        plainTexts (.user 6) ∧
      (respond storeApp plainTexts plainAmbient (live storeApp plainTexts s traffic)
        getUserOverHttp).1.status = 200 := by
  intro s traffic
  have found : apiRouter.dispatch getUserOverHttp.method getUserOverHttp.path =
      .found ⟨.get, "/api/v1/admin/users/{user_id}", [.requireAdmin], .getUser⟩ ["6"] := by
    rfl
  have reads : Endpoint.getUser.item? storeApp.coerce ["6"] = some (.user 6) := by
    decide +kernel
  have passed : passGates storeApp plainAmbient (live storeApp plainTexts s traffic)
      getUserOverHttp.request [.requireAdmin] = .ok () := by
    decide +kernel
  exact ⟨admin_api_is_a_store storeApp plainTexts shown_store traffic plainAmbient
    getUserOverHttp found reads (by decide) passed, by decide +kernel⟩

end FleetTracking
