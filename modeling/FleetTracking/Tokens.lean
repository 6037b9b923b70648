import FleetTracking.Operations
import FleetTracking.Services.Auth
import Mathlib.Logic.Equiv.Nat

/-!
# What a token is good for

A history of logins, refreshes and operations on the tables.  `Issues` says that a login or
a refresh of the history has handed out a pair, `Descends` that a token goes back to a login
of its user through a chain of refreshes.

`accessToken_resolves`: a bearer token resolves to a user exactly when it is an unexpired
access token that was issued for that user, and the user still exists.  Ids are not handed
out twice, so it is the account it was issued for; a refresh token is no access token, nor
the reverse; and what is accepted descends from a login.
-/

namespace FleetTracking

open Relational Python Pydantic

/-- What the application runs on. -/
structure App where
  jwt : Jwt
  engine : Engine
  settings : Settings
  verifyPassword : String → String → Bool
  coerce : Coerce

/-- The database, and the claims of the tokens handed out so far. -/
structure System where
  db : DB
  issued : List Claims

namespace System

variable (A : App) (s : System) (now : Int)

def login (body : LoginRequest) : Except Failure IssuedPair :=
  FleetTracking.login A.jwt A.engine A.settings A.verifyPassword now s.db body

def refresh (token : String) : Except Failure IssuedPair :=
  refreshTokenPair A.jwt A.engine A.settings s.issued now s.db token

def userOf (token : String) (type : TokenType) : Except Failure User :=
  userOfToken A.jwt A.engine s.issued now s.db token type

def currentUser (credentials : Option String) : Except Failure User :=
  getCurrentUser A.jwt A.engine s.issued now s.db credentials

end System

inductive Event
  | login (body : LoginRequest)
  | refresh (body : RefreshRequest)
  | op (op : Op)

/-- What has happened, the latest first. -/
abbrev History := List (Ambient × Event)

section

variable (A : App)

/-- The pair an event hands out. -/
def Event.pair (s : System) (a : Ambient) : Event → Option IssuedPair
  | login body => (s.login A a.now body).toOption
  | refresh body => (s.refresh A a.now body.refreshToken).toOption
  | op _ => none

def Event.after (s : System) (a : Ambient) (e : Event) : System where
  db :=
    match e with
    | op operation => operation.after A.engine A.settings a s.db
    | _ => s.db
  issued := ((e.pair A s a).map IssuedPair.claims).getD [] ++ s.issued

/-- The system after a history that began with `db` and no tokens. -/
def History.system (db : DB) : History → System
  | [] => ⟨db, []⟩
  | (a, e) :: h => e.after A (History.system db h) a

variable (db : DB)

/-- Some login or refresh of the history has handed out the pair. -/
inductive Issues : History → IssuedPair → Prop
  | now {h : History} {a : Ambient} {e : Event} {p : IssuedPair} :
    e.pair A (h.system A db) a = some p →
    Issues ((a, e) :: h) p
  | earlier {h : History} {step : Ambient × Event} {p : IssuedPair} :
    Issues h p → Issues (step :: h) p

/-- The token is of a pair that a successful login of the user handed out, or a refresh of a
token that descends from one. -/
inductive Descends : History → Int → String → Prop
  | login {h : History} {a : Ambient} {body : LoginRequest} {p : IssuedPair}
      (type : TokenType) :
    (h.system A db).login A a.now body = .ok p →
    Descends ((a, .login body) :: h) p.userId (p.token type).text
  | refresh {h : History} {a : Ambient} {body : RefreshRequest} {p : IssuedPair}
      (type : TokenType) :
    (h.system A db).refresh A a.now body.refreshToken = .ok p →
    Descends h p.userId body.refreshToken →
    Descends ((a, .refresh body) :: h) p.userId (p.token type).text
  | earlier {h : History} {step : Ambient × Event} {userId : Int} {token : String} :
    Descends h userId token → Descends (step :: h) userId token

end

/-- The clock never went back, and shows `now`. -/
def Chronological : (now : Int) → History → Prop
  | _, [] => True
  | now, (a, _) :: h => a.now ≤ now ∧ Chronological a.now h

section

variable {A : App} {db : DB} {h : History} {a : Ambient} {e : Event} {p : IssuedPair} {now : Int}
  {token : String} {user : User}

/-! ## Accounts -/

/-- **Step.**  No event hands out the id of an account again. -/
theorem Event.after_follows (e : Event) (s : System) (a : Ambient) :
    s.db.users.Follows (e.after A s a).db.users := by
  cases e with
  | op operation => exact operation.after_follows A.engine A.settings a s.db
  | login body => exact .refl s.db.users
  | refresh body => exact .refl s.db.users

/-- **Run.**  Nor does what happens after some point of a history. -/
theorem History.follows {earlier : History} (suffix : earlier <:+ h) :
    (earlier.system A db).db.users.Follows
      (h.system A db).db.users := by
  induction h with
  | nil =>
      rw [List.suffix_nil.mp suffix]
      exact .refl _
  | cons step h ih =>
      rcases List.suffix_cons_iff.mp suffix with rfl | suffix
      · exact .refl _
      · exact (ih suffix).trans (step.2.after_follows _ _)

/-! ## What has been handed out -/

/-- A pair is handed out for a user that exists. -/
theorem Event.pair_sound {s : System}
    (handed : e.pair A s a = some p) :
    s.db.users.HasKey p.userId ∧ p.Sound A.jwt a.now := by
  cases e with
  | op operation => cases handed
  | login body =>
      obtain ⟨user, passed, done⟩ := bind_eq_ok.mp (toOption_eq_some.mp handed)
      obtain ⟨same, sound⟩ := issueTokenPair_eq_ok done
      exact ⟨⟨user, (authenticateUser_eq_ok passed).1, same.symm⟩, sound⟩
  | refresh body =>
      obtain ⟨user, accepted, done⟩ := bind_eq_ok.mp (toOption_eq_some.mp handed)
      obtain ⟨same, sound⟩ := issueTokenPair_eq_ok done
      exact ⟨same ▸ .of_get (userOfToken_eq_ok.mp accepted).2, sound⟩

/-- The claims of a system are those of the pairs its history handed out. -/
theorem mem_issued {c : Claims} :
    c ∈ (h.system A db).issued ↔
      ∃ p, Issues A db h p ∧ c ∈ p.claims := by
  induction h with
  | nil =>
      constructor
      · intro member
        cases member
      · intro handed
        rcases handed with ⟨p, issues, _⟩
        cases issues
  | cons step h ih =>
      obtain ⟨a, e⟩ := step
      simp only [History.system, Event.after, List.mem_append, ih]
      constructor
      · intro either
        rcases either with new | ⟨p, issues, member⟩
        · cases handed : e.pair A
              (History.system A db h) a with
          | none =>
              rw [handed] at new
              cases new
          | some p =>
              rw [handed] at new
              exact ⟨p, .now handed, new⟩
        · exact ⟨p, .earlier issues, member⟩
      · intro handed
        rcases handed with ⟨p, issues, member⟩
        cases issues with
        | now handed =>
            rw [handed]
            exact .inl member
        | earlier issues => exact .inr ⟨p, issues, member⟩

theorem Claims.For.mono {c : Claims} {userId at' now : Int} {type : TokenType}
    (claims : c.For userId type at') (later : at' ≤ now) : c.For userId type now :=
  ⟨claims.sub, claims.type, claims.iat.trans later⟩

theorem IssuedPair.Sound.mono {J : Jwt} {at' : Int} (sound : p.Sound J at') (later : at' ≤ now) :
    p.Sound J now :=
  ⟨sound.text, fun type => (sound.claims type).mono later⟩

/-- What a history handed out is sound at any later time. -/
theorem Issues.sound (issues : Issues A db h p)
    (times : Chronological now h) : p.Sound A.jwt now := by
  induction issues generalizing now with
  | now handed => exact (Event.pair_sound handed).2.mono times.1
  | earlier _ ih => exact (ih times.2).mono times.1

/-- Its user has had an account when it was handed out. -/
theorem Issues.drawn (issues : Issues A db h p) :
    p.userId < (h.system A db).db.users.next := by
  induction issues with
  | @now h a e p handed =>
      obtain ⟨user, member, same⟩ := (Event.pair_sound handed).1
      have below := Serial.key_lt member
      have follows := e.after_follows (A := A) (h.system A db) a
      rw [same] at below
      exact below.trans_le follows.next_le
  | @earlier h step p _ ih => exact ih.trans_le (step.2.after_follows _ _).next_le

/-! ## What is accepted -/

/-- A token is accepted where its type is expected and before it expires, for the user it
was issued for. -/
theorem decodeToken_system (lawful : A.jwt.Lawful) (times : Chronological now h) {userId : Int}
    {type : TokenType} :
    decodeToken A.jwt (h.system A db).issued now token type = .ok userId ↔
      ∃ p, Issues A db h p ∧ p.userId = userId ∧
        (p.token type).text = token ∧ now < seconds (p.token type).claims.exp := by
  rw [decodeToken_eq_ok lawful]
  constructor
  · intro decodes
    rcases decodes with ⟨c, listed, encoded, live, typed, subject⟩
    obtain ⟨p, issues, member⟩ := mem_issued.mp listed
    obtain ⟨type', rfl⟩ := IssuedPair.mem_claims.mp member
    have sound := issues.sound times
    have same : type' = type :=
      TokenType.text_injective ((sound.claims type').type.symm.trans typed)
    subst same
    refine ⟨p, issues, ?_, (sound.text type').trans encoded, live.unexpired⟩
    exact Option.some.inj ((sound.claims type').sub.symm.trans subject)
  · intro handed
    rcases handed with ⟨p, issues, rfl, rfl, unexpired⟩
    have sound := issues.sound times
    exact ⟨(p.token type).claims, mem_issued.mpr ⟨p, issues, IssuedPair.mem_claims.mpr ⟨type, rfl⟩⟩,
      (sound.text type).symm, ⟨(sound.claims type).iat, unexpired⟩, (sound.claims type).type,
      (sound.claims type).sub⟩

/-- The text of a token settles its type and its user. -/
theorem Issues.of_text (lawful : A.jwt.Lawful) {q : IssuedPair} {type type' : TokenType}
    (issues : Issues A db h p) (times : Chronological now h)
    (issues' : Issues A db h q)
    (same : (p.token type).text = (q.token type').text) :
    type = type' ∧ p.userId = q.userId := by
  have sound := issues.sound times
  have sound' := issues'.sound times
  rw [sound.text, sound'.text] at same
  have claims := lawful.encode_injective same
  constructor
  · exact TokenType.text_injective ((sound.claims type).type.symm.trans
      (claims ▸ (sound'.claims type').type))
  · exact Option.some.inj ((sound.claims type).sub.symm.trans
      (claims ▸ (sound'.claims type').sub))

/-- Both tokens of a pair descend from a login of the pair's user. -/
theorem Issues.descends (lawful : A.jwt.Lawful) (issues : Issues A db h p)
    (times : Chronological now h) (type : TokenType) :
    Descends A db h p.userId (p.token type).text := by
  induction h generalizing p now type with
  | nil => cases issues
  | cons step h ih =>
      obtain ⟨a, e⟩ := step
      cases issues with
      | earlier issues => exact .earlier (ih issues times.2 type)
      | now handed =>
          cases e with
          | op operation => cases handed
          | login body => exact .login type (toOption_eq_some.mp handed)
          | refresh body =>
              have refreshed := toOption_eq_some.mp handed
              obtain ⟨user, accepted, done⟩ := bind_eq_ok.mp refreshed
              -- The refresh token is one that the history has handed out before.
              obtain ⟨q, issues, own, same, _⟩ :=
                (decodeToken_system lawful times.2).mp (userOfToken_eq_ok.mp accepted).1
              have chain := ih issues times.2 .refresh
              rw [same, own, ← (issueTokenPair_eq_ok done).1] at chain
              exact .refresh type refreshed chain

/-- What is accepted where a token of some type is expected has been issued as such. -/
theorem userOf_eq_ok (lawful : A.jwt.Lawful) (times : Chronological now h) {type : TokenType} :
    (h.system A db).userOf A now token type = .ok user ↔
      (h.system A db).db.users.get user.id = some user ∧
        ∃ p, Issues A db h p ∧ p.userId = user.id ∧ (p.token type).text = token ∧
          now < seconds (p.token type).claims.exp := by
  rw [System.userOf, userOfToken_eq_ok, decodeToken_system lawful times, and_comm]

/-- A token is accepted as its own type only, for the user it was issued for. -/
theorem Issues.userOf_own (lawful : A.jwt.Lawful) (times : Chronological now h)
    (issues : Issues A db h p) (type : TokenType) {type' : TokenType}
    (accepted : (h.system A db).userOf A now (p.token type).text type' = .ok user) :
    type = type' ∧ p.userId = user.id := by
  obtain ⟨_, q, issues', own, same, _⟩ := (userOf_eq_ok lawful times).mp accepted
  obtain ⟨types, users⟩ := issues.of_text lawful times issues' same.symm
  exact ⟨types, users.trans own⟩

theorem userOf_descends (lawful : A.jwt.Lawful) (times : Chronological now h) {type : TokenType}
    (accepted : (h.system A db).userOf A now token type = .ok user) :
    Descends A db h user.id token := by
  obtain ⟨_, p, issues, own, same, _⟩ := (userOf_eq_ok lawful times).mp accepted
  have chain := issues.descends lawful times type
  rwa [own, same] at chain

/-- An account that exists has existed since its token was issued. -/
theorem Issues.hasKey {earlier between : History} (issues : Issues A db earlier p)
    (first : earlier <:+ between) (second : between <:+ h)
    (present : (h.system A db).db.users.HasKey p.userId) :
    (History.system A db between).db.users.HasKey p.userId :=
  (History.follows second).hasKey (issues.drawn.trans_le (History.follows first).next_le) present

theorem Issues.of_suffix {earlier : History} (suffix : earlier <:+ h)
    (issues : Issues A db earlier p) : Issues A db h p := by
  induction h with
  | nil => rwa [List.suffix_nil.mp suffix] at issues
  | cons step h ih =>
      rcases List.suffix_cons_iff.mp suffix with rfl | suffix
      · exact issues
      · exact .earlier (ih suffix)

/-- **Bearer tokens.**  After any history, at any time:

* a bearer token resolves to a user exactly when it is an access token that was issued for
  the user, has not expired, and the user exists;
* it is then the account the token was issued for, which has existed ever since, whatever
  was deleted, created anew or wiped in between;
* a refresh token is never accepted as an access token, nor an access token as a refresh
  token;
* what is accepted, as either, descends from a login of its user. -/
theorem accessToken_resolves (A : App) (lawful : A.jwt.Lawful) (db : DB) (h : History)
    (now : Int) (times : Chronological now h) :
    (∀ token user, (h.system A db).currentUser A now (some token) = .ok user ↔
      (h.system A db).db.users.get user.id = some user ∧
        ∃ p, Issues A db h p ∧ p.userId = user.id ∧ p.access.text = token ∧
          now < seconds p.access.claims.exp) ∧
    (∀ p earlier between user, Issues A db earlier p → earlier <:+ between → between <:+ h →
      (h.system A db).currentUser A now (some p.access.text) = .ok user →
        user.id = p.userId ∧ (History.system A db between).db.users.HasKey user.id) ∧
    (∀ p, Issues A db h p →
      (∀ user, (h.system A db).currentUser A now (some p.refresh.text) ≠ .ok user) ∧
        ∀ q, (h.system A db).refresh A now p.access.text ≠ .ok q) ∧
    (∀ token user, (h.system A db).currentUser A now (some token) = .ok user →
      Descends A db h user.id token) ∧
    ∀ token q, (h.system A db).refresh A now token = .ok q → Descends A db h q.userId token := by
  refine ⟨fun token user => userOf_eq_ok lawful times, ?_, fun p issues => ⟨?_, ?_⟩,
    fun token user => userOf_descends lawful times, ?_⟩
  · intro p earlier between user issues first second accepted
    have here := issues.of_suffix (first.trans second)
    have own := (here.userOf_own lawful times .access accepted).2
    have present := Table.HasKey.of_get (userOfToken_eq_ok.mp accepted).2
    rw [← own] at present ⊢
    exact ⟨rfl, issues.hasKey first second present⟩
  · intro user accepted
    cases (issues.userOf_own lawful times .refresh accepted).1
  · intro q refreshed
    obtain ⟨user, accepted, _⟩ := bind_eq_ok.mp refreshed
    cases (issues.userOf_own lawful times .access accepted).1
  · intro token q refreshed
    obtain ⟨user, accepted, done⟩ := bind_eq_ok.mp refreshed
    rw [(issueTokenPair_eq_ok done).1]
    exact userOf_descends lawful times accepted

end

/-! ## The admin logs in -/

/-- The claims of the demo admin's tokens, issued at midnight. -/
def adminAccess : Claims := ⟨"1", "access", 0, 1800⟩

def adminRefresh : Claims := ⟨"1", "refresh", 0, 604800⟩

/-- Their tokens under the default key. -/
def adminAccessToken : String :=
  "eyJhbGciOiJIUzI1NiIsInR5cCI6IkpXVCJ9." ++
    "eyJzdWIiOiIxIiwidHlwZSI6ImFjY2VzcyIsImlhdCI6MCwiZXhwIjoxODAwfQ." ++
    "MpFsWQkAbhqXQR9M0aUXS3-c540U_9l1kMMQLVWZDN4"

def adminRefreshToken : String :=
  "eyJhbGciOiJIUzI1NiIsInR5cCI6IkpXVCJ9." ++
    "eyJzdWIiOiIxIiwidHlwZSI6InJlZnJlc2giLCJpYXQiOjAsImV4cCI6NjA0ODAwfQ." ++
    "H_Jp5t3xne4-GUa6rD0yQ-fzaaI_G49-HhbqyryHYB0"

/-- A number and what comes after it. -/
def unary (n : Nat) (rest : List Char) : List Char := List.replicate n 'i' ++ '.' :: rest

theorem unary_inj {n m : Nat} {rest rest' : List Char} (same : unary n rest = unary m rest') :
    n = m ∧ rest = rest' := by
  induction n generalizing m with
  | zero =>
      cases m with
      | zero => exact ⟨rfl, List.tail_eq_of_cons_eq same⟩
      | succ m => cases (List.cons.inj same).1
  | succ n ih =>
      cases m with
      | zero => cases (List.cons.inj same).1
      | succ m =>
          obtain ⟨same, rest⟩ := ih (List.cons.inj same).2
          exact ⟨congrArg Nat.succ same, rest⟩

/-- The claims, spelled out one after another. -/
def spell (c : Claims) : List Char :=
  '#' :: unary (Equiv.intEquivNat c.iat) (unary (Equiv.intEquivNat c.exp)
    (unary c.sub.length (c.sub.toList ++ c.type.toList)))

theorem spell_injective : Function.Injective spell := by
  intro c c' same
  obtain ⟨iat, same⟩ := unary_inj (List.cons.inj same).2
  obtain ⟨exp, same⟩ := unary_inj same
  obtain ⟨length, same⟩ := unary_inj same
  obtain ⟨sub, type⟩ := List.append_inj same length
  cases c
  cases c'
  simp_all [String.toList_inj]

/-- PyJWT on the admin's claims; other claims are spelled out in place of a signature. -/
def demoEncode (c : Claims) : String :=
  if c = adminAccess then adminAccessToken
  else if c = adminRefresh then adminRefreshToken
  else .ofList (spell c)

theorem signed_ne_spell (c : Claims) :
    adminAccessToken ≠ .ofList (spell c) ∧ adminRefreshToken ≠ .ofList (spell c) := by
  have access : adminAccessToken.toList.head? = some 'e' := by decide +kernel
  have refresh : adminRefreshToken.toList.head? = some 'e' := by decide +kernel
  constructor
  · intro same
    rw [same, String.toList_ofList] at access
    cases access
  · intro same
    rw [same, String.toList_ofList] at refresh
    cases refresh

theorem demoEncode_injective : Function.Injective demoEncode := by
  have differ : adminAccessToken ≠ adminRefreshToken := by decide +kernel
  intro c c' same
  unfold demoEncode at same
  split at same
  · next first =>
      split at same
      · next second => exact first.trans second.symm
      · split at same
        · exact (differ same).elim
        · exact ((signed_ne_spell c').1 same).elim
  · split at same
    · next first =>
        split at same
        · exact (differ same.symm).elim
        · split at same
          · next second => exact first.trans second.symm
          · exact ((signed_ne_spell c').2 same).elim
    · split at same
      · exact ((signed_ne_spell c).1 same.symm).elim
      · split at same
        · exact ((signed_ne_spell c).2 same.symm).elim
        · exact spell_injective (String.ofList_injective same)

def demoJwt : Jwt where
  encode := demoEncode
  decode issued now token :=
    match issued.find? fun c => demoEncode c = token with
    | none => .error .invalidTokenError
    | some c =>
        if now < seconds c.iat then .error .invalidTokenError
        else if seconds c.exp ≤ now then .error .expiredSignatureError
        else .ok c.payload

theorem demoJwt_lawful : demoJwt.Lawful where
  encode_injective := demoEncode_injective
  decode_eq_ok := by
    intro issued now token payload
    simp only [demoJwt]
    constructor
    · intro decoded
      split at decoded
      · cases decoded
      · next c found =>
          split at decoded
          · cases decoded
          · next begun =>
              split at decoded
              · cases decoded
              · next running =>
                  exact ⟨c, List.mem_of_find?_eq_some found, by simpa using List.find?_some found,
                    ⟨not_lt.mp begun, not_le.mp running⟩, Except.ok.inj decoded⟩
    · intro handed
      rcases handed with ⟨c, listed, rfl, live, rfl⟩
      cases found : issued.find? fun c' => demoEncode c' = demoEncode c with
      | none =>
          have absent := List.find?_eq_none.mp found c listed
          simp at absent
      | some c' =>
          have same := demoEncode_injective (by simpa using List.find?_some found)
          subst same
          simp only [not_lt.mpr live.issued, not_le.mpr live.unexpired, if_false]

def demoApp : App := ⟨demoJwt, postgres, {}, fun password hashed => password = hashed, .asIs⟩

/-- The admin logs in at midnight. -/
def adminLogin : History :=
  [(plainAmbient, .login ⟨"admin@fleet.com", "password123", by decide⟩)]

def adminRow : User where
  id := 1
  email := some "admin@fleet.com"
  hashedPassword := "password123"
  isAdmin := true
  routeId := none
  vehicleId := none
  createdAt := 0

def adminPair : IssuedPair where
  userId := 1
  access := ⟨adminAccess, adminAccessToken⟩
  refresh := ⟨adminRefresh, adminRefreshToken⟩
  expiresIn := 1800

theorem adminLogin_issues : Issues demoApp .demo adminLogin adminPair :=
  .now (by decide +kernel)

theorem accessToken_resolves_admin :
    (adminLogin.system demoApp .demo).currentUser demoApp 0 (some adminAccessToken) =
      .ok adminRow ∧
    Descends demoApp .demo adminLogin 1 adminAccessToken := by
  obtain ⟨resolves, _, _, descends, _⟩ :=
    accessToken_resolves demoApp demoJwt_lawful .demo adminLogin 0 ⟨le_rfl, trivial⟩
  have accepted := (resolves adminAccessToken adminRow).mpr
    ⟨by decide +kernel, adminPair, adminLogin_issues, rfl, rfl, by decide⟩
  exact ⟨accepted, descends _ _ accepted⟩

end FleetTracking
