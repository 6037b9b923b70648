import FleetTracking.AllOrNothing
import FleetTracking.Privilege

/-!
# A session lasts

A client trades its refresh token for a new pair, again and again, while the application works on
other traffic.  As long as each renewal comes before the refresh token expires and nobody deletes
the user, the client is never logged out (`sessions_last`).  Tokens are never revoked, so what a
client holds (`Holds`) no traffic takes away.
-/

namespace FleetTracking

open Relational Python Pydantic Routing Api

/-- `POST /api/v1/auth/refresh` -/
def refreshOverHttp (token : String) : HttpRequest where
  method := .post
  path := "/api/v1/auth/refresh"
  credentials := none
  query := .null
  body := .json (.obj [("refresh_token", .str token)])

/-- What the application works on before a client renews its session, and the time of it. -/
structure Renewal where
  traffic : List (Ambient × Traffic)
  ambient : Ambient

def Api.HttpResponse.pair? (response : HttpResponse) : Option TokenPair :=
  match response.content with
  | .result (.tokenPair pair) => some pair
  | _ => none

/-- The client, with the pair that it holds unless it is logged out. -/
def session (A : App) (T : Texts) :
    System → Option TokenPair → List Renewal → System × Option TokenPair
  | s, held, [] => (s, held)
  | s, none, renewal :: renewals => session A T (live A T s renewal.traffic) none renewals
  | s, some pair, renewal :: renewals =>
      let (response, s') := respond A T renewal.ambient (live A T s renewal.traffic)
        (refreshOverHttp pair.refreshToken)
      session A T s' response.pair? renewals

/-- How long the tokens live. -/
def lifetime (settings : Settings) : TokenType → Int
  | .access => seconds (60 * settings.accessTokenExpireMinutes)
  | .refresh => seconds (24 * 60 * 60 * settings.refreshTokenExpireDays)

/-- When a token that was issued at `issuedAt` expires: times in a token are whole seconds. -/
def expiry (settings : Settings) (type : TokenType) (issuedAt : Int) : Int :=
  seconds ((issuedAt + lifetime settings type) / seconds 1)

/-- Each renewal comes before the refresh token expires, and the new tokens expire before the
last `datetime`. -/
def InTime (settings : Settings) : Int → List Renewal → Prop
  | _, [] => True
  | issuedAt, renewal :: renewals =>
      issuedAt ≤ renewal.ambient.now ∧
      renewal.ambient.now < expiry settings .refresh issuedAt ∧
      (∀ type, minWall ≤ renewal.ambient.now + lifetime settings type ∧
        renewal.ambient.now + lifetime settings type < endWall) ∧
      InTime settings renewal.ambient.now renewals

/-- When the client has got its last pair. -/
def renewedAt : Int → List Renewal → Int
  | issuedAt, [] => issuedAt
  | _, renewal :: renewals => renewedAt renewal.ambient.now renewals

section

variable {A : App} {T : Texts} {a : Ambient} {s s' : System} {r : Request} {e : Endpoint}
  {params : List String} {p : IssuedPair} {issuedAt now : Int}

/-! ## Nothing is revoked -/

theorem checked_issued {α : Type} {input : Validated α} {run : α → Api.Reply × System}
    (each : ∀ x, s.issued ⊆ (run x).2.issued) : s.issued ⊆ (checked s input run).2.issued := by
  unfold checked
  split
  · exact List.Subset.refl _
  · exact each _

theorem asUser_issued {run : User → Api.Reply × System}
    (each : ∀ user, s.issued ⊆ (run user).2.issued) :
    s.issued ⊆ (asUser A a s r run).2.issued := by
  unfold asUser
  split
  · exact List.Subset.refl _
  · exact each _

theorem handOut_issued {result : Except Failure IssuedPair} :
    s.issued ⊆ (handOut s result).2.issued := by
  unfold handOut
  split
  · exact List.Subset.refl _
  · exact List.subset_append_right _ _

theorem commit_issued {α : Type} {result : Except Failure (α × DB)}
    {respond : α → Except Failure Response} : s.issued ⊆ (commit s result respond).2.issued := by
  unfold commit
  split <;> exact List.Subset.refl _

/-- **Step.** -/
theorem run_issued : s.issued ⊆ (e.run A a s r params).2.issued := by
  cases e with
  | login => exact checked_issued fun _ => handOut_issued
  | refresh => exact checked_issued fun _ => handOut_issued
  | myProfile => exact asUser_issued fun _ => List.Subset.refl _
  | myAssignment => exact asUser_issued fun _ => List.Subset.refl _
  | myRoute => exact asUser_issued fun _ => List.Subset.refl _
  | myVehicleCurrent => exact asUser_issued fun _ => List.Subset.refl _
  | myVehicleHistory => exact asUser_issued fun _ => checked_issued fun _ => List.Subset.refl _
  | getRoute => exact checked_issued fun _ => List.Subset.refl _
  | getVehicle => exact checked_issued fun _ => List.Subset.refl _
  | getUser => exact checked_issued fun _ => List.Subset.refl _
  | health => exact List.Subset.refl _
  | listRoutes => exact List.Subset.refl _
  | listVehicles => exact List.Subset.refl _
  | listUsers => exact List.Subset.refl _
  | _ => exact checked_issued fun _ => commit_issued

theorem serve_issued : s.issued ⊆ (serve A a s r).2.issued := by
  unfold serve
  split
  · exact List.Subset.refl _
  · exact List.Subset.refl _
  · unfold serveRoute
    split
    · exact List.Subset.refl _
    · split
      · exact List.Subset.refl _
      · exact run_issued

/-- What traffic leaves: no token is revoked, and no id of an account is handed out again. -/
structure Lasts (s s' : System) : Prop where
  issued : s.issued ⊆ s'.issued
  users : s.db.users.Follows s'.db.users

theorem Lasts.trans {s'' : System} (first : Lasts s s') (second : Lasts s' s'') : Lasts s s'' :=
  ⟨List.Subset.trans first.issued second.issued, first.users.trans second.users⟩

theorem respond_lasts (raw : HttpRequest) : Lasts s (respond A T a s raw).2 := by
  rw [respond_serve]
  exact ⟨serve_issued, serve_follows A a s raw.request⟩

/-- **Run.** -/
theorem live_lasts (traffic : List (Ambient × Traffic)) : Lasts s (live A T s traffic) := by
  induction traffic generalizing s with
  | nil => exact ⟨List.Subset.refl _, .refl _⟩
  | cons step traffic ih =>
      obtain ⟨a, event⟩ := step
      cases event with
      | request raw => exact (respond_lasts raw).trans ih
      | fix m =>
          have fix : Lasts s { s with db := (Call.handleGpsMessage m).after A.engine a s.db } :=
            ⟨List.Subset.refl _,
              (Op.call (.handleGpsMessage m)).after_follows A.engine A.settings a s.db⟩
          exact fix.trans ih

/-- **Run.** -/
theorem session_lasts (held : Option TokenPair) (renewals : List Renewal) :
    Lasts s (session A T s held renewals).1 := by
  induction renewals generalizing s held with
  | nil => exact ⟨List.Subset.refl _, .refl _⟩
  | cons renewal renewals ih =>
      cases held with
      | none => exact (live_lasts renewal.traffic).trans (ih none)
      | some pair =>
          exact ((live_lasts renewal.traffic).trans (respond_lasts _)).trans (ih _)

/-! ## What a pair is good for -/

/-- The pair was handed out at `issuedAt`, and its user had an account. -/
structure Holds (A : App) (s : System) (issuedAt : Int) (p : IssuedPair) : Prop where
  handed : ∃ user, issueTokenPair A.jwt A.settings issuedAt user = .ok p
  issued : p.claims ⊆ s.issued
  drawn : p.userId < s.db.users.next

theorem Holds.later (holds : Holds A s issuedAt p) (lasts : Lasts s s') :
    Holds A s' issuedAt p :=
  ⟨holds.handed, List.Subset.trans holds.issued lasts.issued,
    holds.drawn.trans_le lasts.users.next_le⟩

/-- A user that is there in the end has been there all along. -/
theorem Holds.present (holds : Holds A s issuedAt p) (lasts : Lasts s s')
    (present : s'.db.users.HasKey p.userId) : s.db.users.HasKey p.userId :=
  lasts.users.hasKey holds.drawn present

theorem createUserToken_expiry {J : Jwt} {userId delta : Int} {type : TokenType} {token : Token}
    (created : createUserToken J now userId type delta = .ok token) :
    token.claims.exp = (now + delta) / seconds 1 := by
  unfold createUserToken at created
  split at created
  · unfold createToken at created
    dsimp only at created
    split at created
    · cases created
      rfl
    · cases created
  · cases created

theorem issueTokenPair_expiry {J : Jwt} {settings : Settings} {user : User}
    (done : issueTokenPair J settings now user = .ok p) (type : TokenType) :
    seconds (p.token type).claims.exp = expiry settings type now := by
  obtain ⟨access, created, done⟩ := bind_eq_ok.mp done
  obtain ⟨refresh, created', done⟩ := bind_eq_ok.mp done
  cases done
  cases type with
  | access => exact congrArg seconds (createUserToken_expiry created)
  | refresh => exact congrArg seconds (createUserToken_expiry created')

/-- A pair that was issued once can be issued again, until time runs out. -/
theorem createUserToken_again {J : Jwt} {userId delta delta' now' : Int} {type : TokenType}
    (type' : TokenType) {token : Token}
    (created : createUserToken J now userId type delta = .ok token)
    (room : minWall ≤ now' + delta' ∧ now' + delta' < endWall) :
    ∃ token', createUserToken J now' userId type' delta' = .ok token' := by
  unfold createUserToken at created ⊢
  split at created
  · unfold createToken
    dsimp only
    rw [if_pos room]
    exact ⟨_, rfl⟩
  · cases created

theorem issueTokenPair_again {J : Jwt} {settings : Settings} {user user' : User} {now' : Int}
    (done : issueTokenPair J settings now user = .ok p) (same : user'.id = p.userId)
    (room : ∀ type, minWall ≤ now' + lifetime settings type ∧
      now' + lifetime settings type < endWall) :
    ∃ q, issueTokenPair J settings now' user' = .ok q ∧ q.userId = p.userId := by
  have own := (issueTokenPair_eq_ok done).1
  obtain ⟨_, created, _⟩ := bind_eq_ok.mp done
  obtain ⟨access, created'⟩ := createUserToken_again .access created (room .access)
  obtain ⟨refresh, created''⟩ := createUserToken_again .refresh created (room .refresh)
  rw [← own, ← same] at created' created''
  exact ⟨_, bind_eq_ok.mpr ⟨_, created', bind_eq_ok.mpr ⟨_, created'', rfl⟩⟩, same⟩

/-- Until it expires, a token is accepted for its user. -/
theorem Holds.accepted (holds : Holds A s issuedAt p) (lawful : A.jwt.Lawful) (type : TokenType)
    (later : issuedAt ≤ now) (live : now < expiry A.settings type issuedAt)
    (present : s.db.users.HasKey p.userId) :
    ∃ user, s.userOf A now (p.token type).text type = .ok user ∧ user.id = p.userId := by
  obtain ⟨user', handed⟩ := holds.handed
  obtain ⟨_, sound⟩ := issueTokenPair_eq_ok handed
  obtain ⟨user, member, same⟩ := present
  refine ⟨user, userOfToken_eq_ok.mpr ⟨(decodeToken_eq_ok lawful).mpr ?_, ?_⟩, same⟩
  · refine ⟨(p.token type).claims, holds.issued (IssuedPair.mem_claims.mpr ⟨type, rfl⟩),
      (sound.text type).symm, ⟨(sound.claims type).iat.trans later, ?_⟩,
      (sound.claims type).type, ?_⟩
    · rw [issueTokenPair_expiry handed type]
      exact live
    · rw [show user.id = p.userId from same]
      exact (sound.claims type).sub
  · exact Table.get_eq_some.mpr ⟨member, rfl⟩

/-! ## One renewal -/

/-- The request as the endpoint sees it. -/
theorem respond_refresh {token : String} (reads : A.coerce.str (.str token) = some token)
    (long : 10 ≤ token.length) :
    respond A T a s (refreshOverHttp token) =
      (render T .refresh (handOut s (s.refresh A a.now token)).1,
        (handOut s (s.refresh A a.now token)).2) := by
  let route : Route Gate Endpoint := ⟨.post, "/api/v1/auth/refresh", [], .refresh⟩
  have found : apiRouter.dispatch .post "/api/v1/auth/refresh" = .found route [] := by rfl
  have valid : (refreshOverHttp token).request.bodyAs (RefreshRequest.validate A.coerce) =
      .ok ⟨token, long⟩ := by
    simp [refreshOverHttp, HttpRequest.request, RawBody.body, Request.bodyAs,
      RefreshRequest.validate, required, Json.field?, minLength, typed, reads, long,
      Validated.under, Validated.field, Validated.model]
  have served : serveRoute A a s (refreshOverHttp token).request route [] =
      handOut s (s.refresh A a.now token) := by
    change checked s _ _ = _
    rw [valid]
    rfl
  have routed : respond A T a s (refreshOverHttp token) =
      respondRoute A T a s (refreshOverHttp token) route [] := by
    rw [respond, show apiRouter.dispatch (refreshOverHttp token).method
      (refreshOverHttp token).path = .found route [] from found]
  rw [routed, ← served]
  rfl

/-- **Step.**  A client that renews in time gets a new pair. -/
theorem Holds.renew (holds : Holds A s issuedAt p) (lawful : A.jwt.Lawful)
    (reads : ∀ token, A.coerce.str (.str token) = some token)
    (long : ∀ c : Claims, c.type = TokenType.refresh.text → 10 ≤ (A.jwt.encode c).length)
    (later : issuedAt ≤ a.now) (live : a.now < expiry A.settings .refresh issuedAt)
    (room : ∀ type, minWall ≤ a.now + lifetime A.settings type ∧
      a.now + lifetime A.settings type < endWall)
    (present : s.db.users.HasKey p.userId) :
    ∃ q, (respond A T a s (refreshOverHttp p.refresh.text)).1.pair? = some q.tokenPair ∧
      q.userId = p.userId ∧
      Holds A (respond A T a s (refreshOverHttp p.refresh.text)).2 a.now q := by
  obtain ⟨user', handed⟩ := holds.handed
  obtain ⟨_, sound⟩ := issueTokenPair_eq_ok handed
  obtain ⟨user, accepted, same⟩ := holds.accepted lawful .refresh later live present
  obtain ⟨q, issued, own⟩ := issueTokenPair_again handed same room
  have refreshed : s.refresh A a.now p.refresh.text = .ok q :=
    bind_eq_ok.mpr ⟨user, accepted, issued⟩
  have enough : 10 ≤ p.refresh.text.length := by
    rw [show p.refresh.text = _ from sound.text .refresh]
    exact long _ (sound.claims .refresh).type
  rw [respond_refresh (reads _) enough, refreshed]
  exact ⟨q, rfl, own, ⟨user, issued⟩, List.subset_append_left _ _, own ▸ holds.drawn⟩

/-- **Sessions last.**  A client that holds a pair and renews it in time is not logged out, as
long as nobody deletes its user, whatever else the application works on; and the access token
that it has then is good for its user until it expires.  `reads` and `long` say that pydantic
takes a string as it is, and that a refresh token has the length that the schema asks for. -/
theorem sessions_last (A : App) (T : Texts) (lawful : A.jwt.Lawful)
    (reads : ∀ token, A.coerce.str (.str token) = some token)
    (long : ∀ c : Claims, c.type = TokenType.refresh.text → 10 ≤ (A.jwt.encode c).length)
    {s : System} {issuedAt : Int} {p : IssuedPair} (holds : Holds A s issuedAt p)
    (renewals : List Renewal) (inTime : InTime A.settings issuedAt renewals)
    (present : (session A T s (some p.tokenPair) renewals).1.db.users.HasKey p.userId) :
    ∃ q : IssuedPair,
      (session A T s (some p.tokenPair) renewals).2 = some q.tokenPair ∧ q.userId = p.userId ∧
      ∀ now, renewedAt issuedAt renewals ≤ now →
        now < expiry A.settings .access (renewedAt issuedAt renewals) →
        ∃ user, (session A T s (some p.tokenPair) renewals).1.currentUser A now
          (some q.tokenPair.accessToken) = .ok user ∧ user.id = p.userId := by
  induction renewals generalizing s issuedAt p with
  | nil =>
      exact ⟨p, rfl, rfl, fun now later live => holds.accepted lawful .access later live present⟩
  | cons renewal renewals ih =>
      obtain ⟨later, live, room, inTime⟩ := inTime
      have between : Lasts s (FleetTracking.live A T s renewal.traffic) :=
        live_lasts renewal.traffic
      have after : Lasts (FleetTracking.live A T s renewal.traffic)
          (session A T s (some p.tokenPair) (renewal :: renewals)).1 :=
        (respond_lasts _).trans (session_lasts _ renewals)
      have still := holds.later between
      obtain ⟨q, renewed, own, holds'⟩ := still.renew (T := T) lawful reads long later live room
        (still.present after present)
      rw [← own] at present ⊢
      have next : session A T s (some p.tokenPair) (renewal :: renewals) =
          session A T (respond A T renewal.ambient (FleetTracking.live A T s renewal.traffic)
            (refreshOverHttp p.refresh.text)).2 (some q.tokenPair) renewals := by
        rw [← renewed]
        rfl
      rw [next] at present ⊢
      exact ih holds' inTime present

end

/-- Spelled out, a refresh token is long enough. -/
theorem demoEncode_long (c : Claims) (typed : c.type = TokenType.refresh.text) :
    10 ≤ (demoEncode c).length := by
  have spelled : 10 ≤ (spell c).length := by
    have type : c.type.toList.length = 7 := by rw [typed]; rfl
    simp only [spell, unary, List.length_cons, List.length_append, type]
    omega
  unfold demoEncode
  split
  · decide +kernel
  · split
    · decide +kernel
    · rwa [String.length_ofList]

/-- The admin renews the session after a minute, when a user was created. -/
def afterAMinute : List Renewal :=
  [⟨[(plainAmbient, .request createUserOverHttp)], { plainAmbient with now := seconds 60 }⟩]

theorem sessions_last_admin :
    let s := adminLogin.system demoApp .demo
    ∃ q : IssuedPair,
      (session demoApp plainTexts s (some adminPair.tokenPair) afterAMinute).2 =
        some q.tokenPair ∧
      ∃ user, (session demoApp plainTexts s (some adminPair.tokenPair) afterAMinute).1.currentUser
        demoApp (seconds 1000) (some q.tokenPair.accessToken) = .ok user ∧ user.id = 1 := by
  intro s
  have holds : Holds demoApp s 0 adminPair :=
    ⟨⟨adminRow, by decide +kernel⟩, by decide +kernel, by decide +kernel⟩
  have inTime : InTime demoApp.settings 0 afterAMinute :=
    ⟨by decide, by decide, fun type => by cases type <;> decide, trivial⟩
  have present : (session demoApp plainTexts s (some adminPair.tokenPair)
      afterAMinute).1.db.users.get 1 = some adminRow := by
    decide +kernel
  obtain ⟨q, held, _, good⟩ := sessions_last demoApp plainTexts demoJwt_lawful (fun _ => rfl)
    demoEncode_long holds afterAMinute inTime (.of_get present)
  exact ⟨q, held, good (seconds 1000) (by decide) (by decide)⟩

end FleetTracking
