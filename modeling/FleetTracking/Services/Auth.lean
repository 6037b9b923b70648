import FleetTracking.Models
import FleetTracking.Security

/-!
# Authentication

Credentials become a pair of tokens, and a refresh token becomes a new pair.  A pair
remembers whom it was issued for and the claims of its tokens; `IssuedPair.tokenPair` is what
the client sees of it.  `getCurrentUser` and `requireAdmin` are the dependencies that turn a
bearer token into a row of `users`.
-/

namespace FleetTracking

open Relational Python

/-- `await db.get(table, k)`.  The driver refuses keys that no row can have. -/
def dbGet {ρ : Type} [SerialKeyed ρ] (E : Engine) (t : Serial ρ) (k : Int) :
    Except Failure (Option ρ) :=
  match t.get k with
  | some row => .ok (some row)
  | none => if E.bigint k then .ok none else .error .dbapiError

theorem dbGet_eq_some {ρ : Type} [SerialKeyed ρ] {E : Engine} {t : Serial ρ} {k : Int} {row : ρ} :
    dbGet E t k = .ok (some row) ↔ t.get k = some row := by
  unfold dbGet
  cases found : t.get k with
  | some found => simp
  | none =>
      simp only [reduceCtorEq, iff_false]
      split <;> exact nofun

/-- A token pair, whom it is for and what its tokens encode. -/
structure IssuedPair where
  userId : Int
  access : Token
  refresh : Token
  expiresIn : Int
deriving DecidableEq

def IssuedPair.tokenPair (p : IssuedPair) : TokenPair where
  accessToken := p.access.text
  refreshToken := p.refresh.text
  expiresIn := p.expiresIn

/-- The token of each type. -/
def IssuedPair.token (p : IssuedPair) : TokenType → Token
  | .access => p.access
  | .refresh => p.refresh

/-- The claims of both tokens. -/
def IssuedPair.claims (p : IssuedPair) : List Claims := [p.access.claims, p.refresh.claims]

theorem IssuedPair.mem_claims {p : IssuedPair} {c : Claims} :
    c ∈ p.claims ↔ ∃ type, c = (p.token type).claims := by
  rw [claims, List.mem_pair]
  constructor
  · intro either
    rcases either with same | same
    · exact ⟨.access, same⟩
    · exact ⟨.refresh, same⟩
  · intro typed
    rcases typed with ⟨type, same⟩
    cases type with
    | access => exact .inl same
    | refresh => exact .inr same

section

variable (J : Jwt) (E : Engine) (settings : Settings) (verifyPassword : String → String → Bool)
  (issued : List Claims) (now : Int) (db : DB)

/-! ## The service -/

/-- The same error for an unknown e-mail and a wrong password. -/
def authenticateUser (email password : String) : Except Failure User :=
  if E.text email then
    match db.users.scalar fun u => u.email = some email with
    | none => .error (credentialsError .incorrectLogin)
    | some user =>
        if verifyPassword password user.hashedPassword then .ok user
        else .error (credentialsError .incorrectLogin)
  else .error .dbapiError

def issueTokenPair (user : User) : Except Failure IssuedPair := do
  let access ← createAccessToken J settings now user.id
  let refresh ← createRefreshToken J settings now user.id
  return ⟨user.id, access, refresh, settings.accessTokenExpireMinutes * 60⟩

/-- The row that a token's subject names. -/
def userOfToken (token : String) (type : TokenType) : Except Failure User :=
  match decodeToken J issued now token type with
  | .error failure => .error failure
  | .ok userId =>
      match dbGet E db.users userId with
      | .error failure => .error failure
      | .ok none => .error (credentialsError .userGone)
      | .ok (some user) => .ok user

def refreshTokenPair (refreshToken : String) : Except Failure IssuedPair :=
  (userOfToken J E issued now db refreshToken .refresh).bind (issueTokenPair J settings now)

/-- `POST /auth/login` -/
def login (body : LoginRequest) : Except Failure IssuedPair :=
  (authenticateUser E verifyPassword db body.email body.password).bind
    (issueTokenPair J settings now)

/-! ## The dependencies -/

/-- `credentials` is the bearer token of the request, if it has one. -/
def getCurrentUser (credentials : Option String) : Except Failure User :=
  match credentials with
  | none => .error (credentialsError .notAuthenticated)
  | some token => userOfToken J E issued now db token .access

def requireAdmin (credentials : Option String) : Except Failure User :=
  match getCurrentUser J E issued now db credentials with
  | .error failure => .error failure
  | .ok user =>
      if user.isAdmin then .ok user
      else .error (.app (.plain .forbiddenError .adminRequired))

end

section

variable {J : Jwt} {E : Engine} {settings : Settings} {issued : List Claims} {now : Int} {db : DB}
  {user : User} {type : TokenType} {token : String} {p : IssuedPair}

theorem userOfToken_eq_ok :
    userOfToken J E issued now db token type = .ok user ↔
      decodeToken J issued now token type = .ok user.id ∧ db.users.get user.id = some user := by
  unfold userOfToken
  cases decodeToken J issued now token type with
  | error failure => simp
  | ok userId =>
      dsimp only
      constructor
      · intro found
        split at found
        · cases found
        · cases found
        · next row present =>
            cases found
            have present := dbGet_eq_some.mp present
            have same : user.id = userId := (Table.get_eq_some.mp present).2
            exact ⟨congrArg _ same.symm, same ▸ present⟩
      · intro accepted
        rcases accepted with ⟨same, present⟩
        rw [Except.ok.inj same, dbGet_eq_some.mpr present]

/-- Each token of the pair encodes claims of its type for the pair's user. -/
structure IssuedPair.Sound (p : IssuedPair) (J : Jwt) (now : Int) : Prop where
  text (type : TokenType) : (p.token type).text = J.encode (p.token type).claims
  claims (type : TokenType) : (p.token type).claims.For p.userId type now

theorem issueTokenPair_eq_ok (done : issueTokenPair J settings now user = .ok p) :
    p.userId = user.id ∧ p.Sound J now := by
  obtain ⟨access, created, done⟩ := bind_eq_ok.mp done
  obtain ⟨refresh, created', done⟩ := bind_eq_ok.mp done
  cases done
  obtain ⟨text, claims⟩ := createUserToken_eq_ok created
  obtain ⟨text', claims'⟩ := createUserToken_eq_ok created'
  refine ⟨rfl, fun type => ?_, fun type => ?_⟩
  · cases type with
    | access => exact text
    | refresh => exact text'
  · cases type with
    | access => exact claims
    | refresh => exact claims'

theorem authenticateUser_eq_ok {verifyPassword : String → String → Bool} {email password : String}
    (passed : authenticateUser E verifyPassword db email password = .ok user) :
    user ∈ db.users.toTable ∧ user.email = some email ∧
      verifyPassword password user.hashedPassword = true := by
  unfold authenticateUser at passed
  split at passed
  · split at passed
    · cases passed
    · next row found =>
        split at passed
        · next verified =>
            cases passed
            obtain ⟨member, same⟩ := Table.scalar_some found
            exact ⟨member, of_decide_eq_true same, verified⟩
        · cases passed
  · cases passed

theorem requireAdmin_eq_ok {credentials : Option String} :
    requireAdmin J E issued now db credentials = .ok user ↔
      getCurrentUser J E issued now db credentials = .ok user ∧ user.isAdmin = true := by
  unfold requireAdmin
  cases getCurrentUser J E issued now db credentials with
  | error failure => simp
  | ok row =>
      dsimp only
      split
      · next admin =>
          exact ⟨fun same => ⟨same, Except.ok.inj same ▸ admin⟩, And.left⟩
      · next plain =>
          refine ⟨nofun, fun ⟨same, admin⟩ => (plain ?_).elim⟩
          rw [Except.ok.inj same, admin]

end

end FleetTracking
