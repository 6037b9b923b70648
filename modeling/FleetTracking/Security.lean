import FleetTracking.Config
import FleetTracking.Exceptions
import FleetTracking.Python.Text
import FleetTracking.Python.Values

/-!
# Tokens

`Jwt` is PyJWT with the key and the algorithm of the settings, a parameter: it encodes the
claims of a token as a string and decodes a string to the payload that was encoded.  A
signature cannot be guessed, so what decodes depends on which tokens have been handed out;
`Jwt.Lawful` states that.

`decodeToken_eq_ok` says which strings are accepted where a token of some type is expected.
-/

namespace FleetTracking

open Python

/-- `Literal["access", "refresh"]` -/
inductive TokenType
  | access
  | refresh
deriving DecidableEq

def TokenType.text : TokenType → String
  | access => "access"
  | refresh => "refresh"

theorem TokenType.text_injective : Function.Injective TokenType.text := by
  intro s t same
  cases s <;> cases t <;> first | rfl | exact absurd same (by decide)

/-- The claims of a token.  `jwt.encode` writes times as whole seconds. -/
structure Claims where
  sub : String
  type : String
  iat : Int
  exp : Int
deriving DecidableEq

namespace Claims

/-- The payload that `jwt.decode` returns. -/
def payload (c : Claims) : Json :=
  .obj [("sub", .str c.sub), ("type", .str c.type), ("iat", .int c.iat), ("exp", .int c.exp)]

/-- The token has been issued and has not expired. -/
structure Live (c : Claims) (now : Int) : Prop where
  issued : seconds c.iat ≤ now
  unexpired : now < seconds c.exp

end Claims

/-- `jwt.ExpiredSignatureError`, and the other subclasses of `jwt.InvalidTokenError`. -/
inductive JwtError
  | expiredSignatureError
  | invalidTokenError

/-- PyJWT with the settings' key; `issued` are the claims of the tokens handed out so far. -/
structure Jwt where
  encode : Claims → String
  decode (issued : List Claims) (now : Int) (token : String) : Except JwtError Json

/-- What PyJWT promises. -/
structure Jwt.Lawful (J : Jwt) : Prop where
  /-- A token carries its claims. -/
  encode_injective : Function.Injective J.encode
  /-- A string decodes exactly when it is a live token that was handed out. -/
  decode_eq_ok {issued : List Claims} {now : Int} {token : String} {payload : Json} :
    J.decode issued now token = .ok payload ↔
      ∃ c ∈ issued, J.encode c = token ∧ c.Live now ∧ c.payload = payload

def credentialsError (message : Message) : Failure := .app (.plain .credentialsError message)

/-- A token as Python holds it, with the claims it encodes. -/
structure Token where
  claims : Claims
  text : String
deriving DecidableEq

section

variable (J : Jwt) (settings : Settings)

/-- `_create_token`; `now + expires_delta` may lead past the year 9999. -/
def createToken (now : Int) (subject : String) (tokenType : TokenType) (expiresDelta : Int) :
    Except Failure Token :=
  let expires := now + expiresDelta
  if minWall ≤ expires ∧ expires < endWall then
    let claims : Claims := ⟨subject, tokenType.text, now / seconds 1, expires / seconds 1⟩
    .ok ⟨claims, J.encode claims⟩
  else .error .overflowError

/-- `_create_token(str(user_id), token_type, expires_delta)` -/
def createUserToken (now userId : Int) (tokenType : TokenType) (expiresDelta : Int) :
    Except Failure Token :=
  match Python.str userId with
  | some subject => createToken J now subject tokenType expiresDelta
  | none => .error .valueError

def createAccessToken (now userId : Int) : Except Failure Token :=
  createUserToken J now userId .access (seconds (60 * settings.accessTokenExpireMinutes))

def createRefreshToken (now userId : Int) : Except Failure Token :=
  createUserToken J now userId .refresh (seconds (24 * 60 * 60 * settings.refreshTokenExpireDays))

/-- `int(payload["sub"])`, where `KeyError`, `TypeError` and `ValueError` are caught. -/
def subjectId : Option Json → Except Failure Int
  | some (.str s) =>
      match Python.int s with
      | some userId => .ok userId
      | none => .error (credentialsError .malformedSubject)
  | some (.int n) => .ok n
  | some (.bool b) => .ok b.toNat
  | some (.float (.fin q)) => .ok (q.num.tdiv q.den)
  | some (.float .posInf) => .error .overflowError
  | some (.float .negInf) => .error .overflowError
  | _ => .error (credentialsError .malformedSubject)

/-- `payload.get("type") == expected_type` -/
def hasType (payload : Json) (expectedType : TokenType) : Bool :=
  match payload.field? "type" with
  | some (.str type) => type = expectedType.text
  | _ => false

/-- Decode and check a token; the answer is the user id. -/
def decodeToken (issued : List Claims) (now : Int) (token : String) (expectedType : TokenType) :
    Except Failure Int :=
  match J.decode issued now token with
  | .error .expiredSignatureError => .error (credentialsError .tokenExpired)
  | .error .invalidTokenError => .error (credentialsError .invalidToken)
  | .ok payload =>
      if hasType payload expectedType then subjectId (payload.field? "sub")
      else .error (credentialsError (.expectedToken expectedType.text))

end

section

variable {J : Jwt} {settings : Settings} {issued : List Claims} {now userId delta : Int}
  {text : String} {type : TokenType} {token : Token}

/-- The claims are for the user `userId`, of type `type`, issued at `now`. -/
structure Claims.For (c : Claims) (userId : Int) (type : TokenType) (now : Int) : Prop where
  sub : Python.int c.sub = some userId
  type : c.type = type.text
  iat : seconds c.iat ≤ now

/-- **Creation.**  A token is the encoding of claims for its user. -/
theorem createUserToken_eq_ok (created : createUserToken J now userId type delta = .ok token) :
    token.text = J.encode token.claims ∧ token.claims.For userId type now := by
  unfold createUserToken at created
  split at created
  · next subject printed =>
      unfold createToken at created
      dsimp only at created
      split at created
      · cases created
        refine ⟨rfl, int_str printed, rfl, ?_⟩
        simp only [seconds]
        omega
      · cases created
  · cases created

theorem hasType_payload {c : Claims} : hasType c.payload type = decide (c.type = type.text) := rfl

theorem subjectId_payload {c : Claims} :
    subjectId (c.payload.field? "sub") = .ok userId ↔ Python.int c.sub = some userId := by
  change subjectId (some (.str c.sub)) = _ ↔ _
  cases read : Python.int c.sub <;> simp [subjectId, read]

/-- **Decoding.**  Where a token of type `type` is expected, exactly the live ones of that
type that were handed out are accepted, for the user in their subject. -/
theorem decodeToken_eq_ok (lawful : J.Lawful) :
    decodeToken J issued now text type = .ok userId ↔
      ∃ c ∈ issued, J.encode c = text ∧ c.Live now ∧ c.type = type.text ∧
        Python.int c.sub = some userId := by
  constructor
  · intro accepted
    unfold decodeToken at accepted
    split at accepted
    · cases accepted
    · cases accepted
    · next payload decoded =>
        obtain ⟨c, listed, encoded, live, rfl⟩ := lawful.decode_eq_ok.mp decoded
        rw [hasType_payload] at accepted
        split at accepted
        · next typed =>
            exact ⟨c, listed, encoded, live, of_decide_eq_true typed,
              subjectId_payload.mp accepted⟩
        · cases accepted
  · intro handed
    rcases handed with ⟨c, listed, encoded, live, typed, subject⟩
    have decoded : J.decode issued now text = .ok c.payload :=
      lawful.decode_eq_ok.mpr ⟨c, listed, encoded, live, rfl⟩
    simp only [decodeToken, decoded, hasType_payload, typed, decide_true, if_true]
    exact subjectId_payload.mpr subject

end

end FleetTracking
