import FleetTracking.Api

/-!
# Responses

What a client sees.  FastAPI reads a body before anything else and has its own answers to one
that it cannot read; what an endpoint raises goes through the exception handlers, which give
every error the same envelope.  `respond` serves a request from its raw body to its response;
`respond_serve` says that the system does what `serve` says.
-/

namespace FleetTracking

open Relational Python Pydantic Routing

namespace Api

/-! ## The envelope -/

/-- One of the `details` of a failed validation. -/
structure Detail where
  field : String
  message : String
deriving DecidableEq

/-- `{"error": {"code": …, "message": …}}`, with `details` after a failed validation. -/
structure ErrorEnvelope where
  code : String
  message : String
  details : Option (List Detail) := none
deriving DecidableEq

inductive Content
  | result (response : Response)
  | error (envelope : ErrorEnvelope)
  /-- `RedirectResponse` to a path. -/
  | redirect (path : String)

structure HttpResponse where
  status : Nat
  content : Content

/-- Python's `repr` of a string, and pydantic's message for what is wrong with a field. -/
structure Texts where
  repr : String → String
  describe : ErrorKind → String

/-! ## The exception handlers -/

section

variable (T : Texts)

/-- `_app_error_handler` -/
def appErrorHandler (e : AppError) : HttpResponse :=
  let (status, code, message) := e.toResponse T.repr
  ⟨status, .error { code, message }⟩

def validationError (details : List Detail) : HttpResponse :=
  ⟨422, .error {
    code := "validation_error"
    message := "Request validation failed"
    details := some details }⟩

/-- `".".join(str(loc) for loc in err["loc"][1:])` -/
def FieldError.detail (e : FieldError) : Detail := ⟨".".intercalate e.loc.tail, T.describe e.kind⟩

/-- `_validation_error_handler` -/
def validationErrorHandler (errors : List FieldError) : HttpResponse :=
  validationError (errors.map (FieldError.detail T))

/-- `code_map.get(exc.status_code, "http_error")` -/
def codeMap : Nat → String
  | 404 => "not_found"
  | 405 => "method_not_allowed"
  | _ => "http_error"

/-- `_http_error_handler` -/
def httpErrorHandler (status : Nat) (detail : String) : HttpResponse :=
  ⟨status, .error { code := codeMap status, message := detail }⟩

/-- `_unhandled_error_handler` -/
def unhandledErrorHandler : HttpResponse :=
  ⟨500, .error { code := "internal_error", message := "Unexpected server error" }⟩

/-- The handler that is registered for what was raised. -/
def handleError : ApiError → HttpResponse
  | .failure (.app e) => appErrorHandler T e
  | .failure _ => unhandledErrorHandler
  | .requestValidation errors => validationErrorHandler T errors
  | .notFound => httpErrorHandler 404 "Not Found"
  | .methodNotAllowed => httpErrorHandler 405 "Method Not Allowed"

end

/-! ## Serving a raw request -/

/-- `status_code` of the decorator. -/
def Endpoint.statusCode : Endpoint → Nat
  | createRoute | createVehicle | createUser => 201
  | deleteRoute | deleteVehicle | deleteUser => 204
  | _ => 200

/-- What is sent as a body. -/
inductive RawBody
  | absent
  /-- No JSON; `json.JSONDecodeError` at a position. -/
  | malformed (pos : Nat)
  /-- The parser fails in another way, as on bytes that are no UTF-8. -/
  | undecodable
  | json (value : Json)

def RawBody.body : RawBody → Body
  | absent => .absent
  | malformed _ | undecodable => .malformed
  | json value => .json value

structure HttpRequest where
  method : Method
  path : String
  /-- The bearer token. -/
  credentials : Option String
  query : Json
  body : RawBody

def HttpRequest.request (r : HttpRequest) : Request :=
  ⟨r.method, r.path, r.credentials, r.query, r.body.body⟩

/-- Where Starlette looks when nothing matches: the path with or without its last slashes. -/
def otherSlash (path : String) : String :=
  if path.toList.getLast? = some '/' then
    .ofList (path.toList.reverse.dropWhile (· = '/')).reverse
  else path ++ "/"

section

variable (A : App) (T : Texts) (a : Ambient) (s : System) (r : HttpRequest)

/-- `redirect_slashes`: the answer when no route matches the path. -/
def respondNotFound : HttpResponse :=
  if r.path ≠ "/" then
    match apiRouter.dispatch r.method (otherSlash r.path) with
    | .notFound => handleError T .notFound
    | _ => ⟨307, .redirect (otherSlash r.path)⟩
  else handleError T .notFound

/-- What the endpoint answers, or the handler of what it raised. -/
def render (endpoint : Endpoint) : Reply → HttpResponse
  | .ok response => ⟨endpoint.statusCode, .result response⟩
  | .error e => handleError T e

def respondRoute (route : Route Gate Endpoint) (params : List String) : HttpResponse × System :=
  match route.endpoint.readsBody, r.body with
  | true, .malformed pos => (validationError [⟨toString pos, "JSON decode error"⟩], s)
  | true, .undecodable => (httpErrorHandler 400 "There was an error parsing the body", s)
  | _, _ =>
      let (reply, s') := serveRoute A a s r.request route params
      (render T route.endpoint reply, s')

def respond : HttpResponse × System :=
  match apiRouter.dispatch r.method r.path with
  | .notFound => (respondNotFound T r, s)
  | .methodNotAllowed => (handleError T .methodNotAllowed, s)
  | .found route params => respondRoute A T a s r route params

end

section

variable {A : App} {T : Texts} {a : Ambient} {s : System} {r : HttpRequest}
  {route : Route Gate Endpoint} {params : List String}

/-- Either nothing has run, or what `serve` replies is rendered. -/
theorem respond_cases (A : App) (T : Texts) (a : Ambient) (s : System) (r : HttpRequest) :
    (respond A T a s r).2 = s ∨
      ∃ endpoint, (respond A T a s r).1 = render T endpoint (serve A a s r.request).1 := by
  unfold respond serve
  change _ ∨ ∃ endpoint, _ = render T endpoint (match apiRouter.dispatch r.method r.path with
    | .notFound => (.error .notFound, s)
    | .methodNotAllowed => (.error .methodNotAllowed, s)
    | .found route params => serveRoute A a s r.request route params : Reply × System).1
  cases apiRouter.dispatch r.method r.path with
  | notFound => exact .inl rfl
  | methodNotAllowed => exact .inl rfl
  | found route params =>
      dsimp only
      unfold respondRoute
      split
      · exact .inl rfl
      · exact .inl rfl
      · exact .inr ⟨route.endpoint, rfl⟩

/-- **Refinement.**  Whatever the body, the system does what `serve` says. -/
theorem respond_serve : (respond A T a s r).2 = (serve A a s r.request).2 := by
  unfold respond serve
  change _ = (match apiRouter.dispatch r.method r.path with
    | .notFound => (.error .notFound, s)
    | .methodNotAllowed => (.error .methodNotAllowed, s)
    | .found route params => serveRoute A a s r.request route params : Reply × System).2
  cases apiRouter.dispatch r.method r.path with
  | notFound => rfl
  | methodNotAllowed => rfl
  | found route params =>
      dsimp only
      unfold respondRoute
      split
      · next reads malformed =>
          unfold serveRoute HttpRequest.request
          rw [reads, malformed]
          rfl
      · next reads undecodable =>
          unfold serveRoute HttpRequest.request
          rw [reads, undecodable]
          rfl
      · rfl

end

end Api

end FleetTracking
