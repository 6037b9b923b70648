import FleetTracking.Api

/-!
# No privilege escalation

A request changes a table only when its bearer token is a live access token of a user who
is an admin at that moment (`byAdmin_of_serve`).  Over a run of requests, a user becomes an
admin and an assignment changes only by such a request, and the tokens of an admin who was
deleted or demoted change nothing any more (`no_privilege_escalation`).
-/

namespace FleetTracking

open Relational Python Pydantic Routing Api

/-- The user exists and has the flag. -/
def DB.IsAdmin (db : DB) (userId : Int) : Prop :=
  ∃ user, db.users.get userId = some user ∧ user.isAdmin = true

/-- The user's route and vehicle, if the user exists. -/
def DB.assignment (db : DB) (userId : Int) : Option (Option Int × Option Int) :=
  (db.users.get userId).map fun user => (user.routeId, user.vehicleId)

/-- The bearer token is an access token that was handed out, is live, and names a user who
is an admin. -/
def ByAdmin (A : App) (a : Ambient) (s : System) (r : Request) : Prop :=
  ∃ c ∈ s.issued, r.credentials = some (A.jwt.encode c) ∧ c.Live a.now ∧
    c.type = TokenType.access.text ∧ ∃ userId, Python.int c.sub = some userId ∧ s.db.IsAdmin userId

section

variable {A : App} {a : Ambient} {s : System} {r : Request} {c : Claims} {userId : Int}
  {requests : List (Ambient × Request)}

/-- **One request.** -/
theorem byAdmin_of_serve (lawful : A.jwt.Lawful) (changed : (serve A a s r).2.db ≠ s.db) :
    ByAdmin A a s r := by
  obtain ⟨user, admitted⟩ := admin_of_serve changed
  obtain ⟨resolved, admin⟩ := requireAdmin_eq_ok.mp admitted
  cases presented : r.credentials with
  | none =>
      rw [presented] at resolved
      cases resolved
  | some token =>
      rw [presented] at resolved
      obtain ⟨accepted, present⟩ := userOfToken_eq_ok.mp resolved
      obtain ⟨c, listed, rfl, live, typed, subject⟩ := (decodeToken_eq_ok lawful).mp accepted
      exact ⟨c, listed, presented, live, typed, user.id, subject, user, present, admin⟩

/-- A token of somebody who is no admin at the moment changes nothing. -/
theorem serve_of_not_isAdmin (lawful : A.jwt.Lawful) (subject : Python.int c.sub = some userId)
    (powerless : ¬ s.db.IsAdmin userId) (presented : r.credentials = some (A.jwt.encode c)) :
    (serve A a s r).2.db = s.db := by
  by_contra changed
  obtain ⟨c', _, presented', _, _, userId', subject', admin⟩ := byAdmin_of_serve lawful changed
  have same := lawful.encode_injective (Option.some.inj (presented.symm.trans presented'))
  subst same
  rw [Option.some.inj (subject.symm.trans subject')] at powerless
  exact powerless admin

/-! ## Runs of requests -/

theorem serveAll_append {later : List (Ambient × Request)} :
    serveAll A s (requests ++ later) = serveAll A (serveAll A s requests) later := by
  induction requests generalizing s with
  | nil => rfl
  | cons head requests ih => exact ih

/-- What comes to hold during a run comes to hold by a request of an admin. -/
theorem byAdmin_of_serveAll (lawful : A.jwt.Lawful) {P : DB → Prop} (start : ¬ P s.db)
    (reached : P (serveAll A s requests).db) :
    ∃ earlier a r later, requests = earlier ++ (a, r) :: later ∧
      ¬ P (serveAll A s earlier).db ∧ P (serve A a (serveAll A s earlier) r).2.db ∧
      ByAdmin A a (serveAll A s earlier) r := by
  induction requests generalizing s with
  | nil => exact (start reached).elim
  | cons head requests ih =>
      obtain ⟨a, r⟩ := head
      by_cases now : P (serve A a s r).2.db
      · have changed : (serve A a s r).2.db ≠ s.db := fun same => start (same ▸ now)
        exact ⟨[], a, r, requests, rfl, start, now, byAdmin_of_serve lawful changed⟩
      · obtain ⟨earlier, a', r', later, rfl, before, after, admin⟩ := ih now reached
        exact ⟨(a, r) :: earlier, a', r', later, rfl, before, after, admin⟩

/-- No request hands out the id of an account again. -/
theorem serve_follows (A : App) (a : Ambient) (s : System) (r : Request) :
    s.db.users.Follows (serve A a s r).2.db.users := by
  rcases serve_calls A a s r with same | ⟨call, same⟩
  · rw [same]
    exact .refl _
  · rw [same]
    exact (Op.call call).after_follows A.engine A.settings a s.db

theorem serveAll_follows : s.db.users.Follows (serveAll A s requests).db.users := by
  induction requests generalizing s with
  | nil => exact .refl _
  | cons head requests ih => exact (serve_follows A head.1 s head.2).trans ih

/-- A deleted account stays deleted. -/
theorem not_isAdmin_of_deleted {later : List (Ambient × Request)}
    (existed : s.db.users.HasKey userId)
    (deleted : ¬ (serveAll A s requests).db.users.HasKey userId) :
    ¬ (serveAll A s (requests ++ later)).db.IsAdmin userId := by
  intro admin
  rcases admin with ⟨user, found, _⟩
  obtain ⟨row, member, rfl⟩ := existed
  have drawn : Keyed.key row < (serveAll A s requests).db.users.next :=
    (Serial.key_lt member).trans_le serveAll_follows.next_le
  rw [serveAll_append] at found
  exact deleted (serveAll_follows.hasKey drawn (.of_get found))

/-- **No privilege escalation.**  In every run of requests, from any state:

* a request that changes a table has a live access token of a user who is an admin then;
* a user becomes an admin only by such a request;
* a user's assignment changes only by such a request;
* the tokens of a user change nothing while the user is no admin;
* the tokens of a deleted user change nothing ever after. -/
theorem no_privilege_escalation (A : App) (lawful : A.jwt.Lawful) (s : System) :
    (∀ requests a r,
      (serve A a (serveAll A s requests) r).2.db ≠ (serveAll A s requests).db →
        ByAdmin A a (serveAll A s requests) r) ∧
    (∀ requests userId, ¬ s.db.IsAdmin userId → (serveAll A s requests).db.IsAdmin userId →
      ∃ earlier a r later, requests = earlier ++ (a, r) :: later ∧
        ¬ (serveAll A s earlier).db.IsAdmin userId ∧
        (serve A a (serveAll A s earlier) r).2.db.IsAdmin userId ∧
        ByAdmin A a (serveAll A s earlier) r) ∧
    (∀ requests userId,
      (serveAll A s requests).db.assignment userId ≠ s.db.assignment userId →
      ∃ earlier a r later, requests = earlier ++ (a, r) :: later ∧
        (serve A a (serveAll A s earlier) r).2.db.assignment userId ≠
          (serveAll A s earlier).db.assignment userId ∧
        ByAdmin A a (serveAll A s earlier) r) ∧
    (∀ requests a r c userId, Python.int c.sub = some userId →
      ¬ (serveAll A s requests).db.IsAdmin userId →
      r.credentials = some (A.jwt.encode c) →
        (serve A a (serveAll A s requests) r).2.db = (serveAll A s requests).db) ∧
    ∀ requests later a r c userId, Python.int c.sub = some userId →
      s.db.users.HasKey userId → ¬ (serveAll A s requests).db.users.HasKey userId →
      r.credentials = some (A.jwt.encode c) →
        (serve A a (serveAll A s (requests ++ later)) r).2.db =
          (serveAll A s (requests ++ later)).db := by
  refine ⟨fun _ _ _ => byAdmin_of_serve lawful,
    fun _ userId => byAdmin_of_serveAll (P := (DB.IsAdmin · userId)) lawful, ?_,
    fun _ _ _ _ _ => serve_of_not_isAdmin lawful, ?_⟩
  · intro requests userId changed
    obtain ⟨earlier, a, r, later, rfl, before, after, admin⟩ :=
      byAdmin_of_serveAll (P := fun db => db.assignment userId ≠ s.db.assignment userId) lawful
        (fun differs => differs rfl) changed
    refine ⟨earlier, a, r, later, rfl, ?_, admin⟩
    rw [not_not.mp before]
    exact after
  · intro requests later a r c userId subject existed deleted presented
    exact serve_of_not_isAdmin lawful subject (not_isAdmin_of_deleted existed deleted) presented

end

/-! ## The admin creates a user -/

/-- `POST /api/v1/admin/users` with the token of the admin's login. -/
def createUserRequest : Request where
  method := .post
  path := "/api/v1/admin/users"
  credentials := some adminAccessToken
  query := .null
  body := .json (.obj [("email", .str "new@fleet.com"), ("password", .str "password456")])

theorem no_privilege_escalation_createUser :
    ByAdmin demoApp plainAmbient (adminLogin.system demoApp .demo) createUserRequest := by
  have before : (adminLogin.system demoApp .demo).db.users.rows.length = 5 := by decide +kernel
  have after : (serve demoApp plainAmbient (adminLogin.system demoApp .demo) createUserRequest
      ).2.db.users.rows.length = 6 := by decide +kernel
  refine (no_privilege_escalation demoApp demoJwt_lawful (adminLogin.system demoApp .demo)).1 []
    plainAmbient createUserRequest fun same => ?_
  rw [serveAll] at same
  rw [same] at after
  exact absurd (before.symm.trans after) (by decide)

end FleetTracking
