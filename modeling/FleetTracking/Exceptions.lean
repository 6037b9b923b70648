import Mathlib.Data.Nat.Notation

/-!
# The error hierarchy

`AppError` is a deliberate API error; its class fixes the status code and the default
machine-readable code.  `Failure` is everything a call can raise: those, and what the
database driver, the database and Python raise on their own.
-/

namespace FleetTracking

/-- The subclasses of `AppError`. -/
inductive ErrorClass
  | credentialsError
  | forbiddenError
  | noAssignmentError
  | notFoundError
  | conflictError
deriving DecidableEq

namespace ErrorClass

def statusCode : ErrorClass → Nat
  | credentialsError => 401
  | forbiddenError => 403
  | noAssignmentError => 403
  | notFoundError => 404
  | conflictError => 409

/-- The code an error carries unless it is given another. -/
def code : ErrorClass → String
  | credentialsError => "invalid_credentials"
  | forbiddenError => "forbidden"
  | noAssignmentError => "no_assignment"
  | notFoundError => "not_found"
  | conflictError => "conflict"

end ErrorClass

/-- The messages, with the values they quote. -/
inductive Message
  | routeNameTaken (name : Option String)
  | routeNotFound (routeId : Int)
  | routeInUse (inUse : Nat)
  | vehicleCodeTaken (code : Option String)
  | vehicleNotFound (vehicleId : Int)
  | vehicleAssigned (assigned : Nat)
  | vehicleHasTrackingData
  | emailTaken (email : Option String)
  | userNotFound (userId : Int)
  | routeAlreadyAssigned (email : Option String)
  | vehicleAlreadyAssigned (email : Option String)
  | noAssignment
  | noRouteAssigned
  | assignedRouteGone
  | noVehicleAssigned
  | assignedVehicleGone
  | tokenExpired
  | invalidToken
  | expectedToken (type : String)
  | malformedSubject
  | userGone
  | incorrectLogin
  | notAuthenticated
  | adminRequired
deriving DecidableEq

namespace Message

/-- Python's `None` where there is no string. -/
def orNone (value : Option String) : String := value.getD "None"

/-- The text of a message.  `repr` is Python's `repr` of a string. -/
def text (repr : String → String) : Message → String
  | routeNameTaken name => "Route name already exists: " ++ orNone (name.map repr)
  | routeNotFound routeId => s!"Route {routeId} not found"
  | routeInUse inUse => s!"Route is assigned to {inUse} user(s) and cannot be deleted"
  | vehicleCodeTaken code => "Vehicle code already exists: " ++ orNone (code.map repr)
  | vehicleNotFound vehicleId => s!"Vehicle {vehicleId} not found"
  | vehicleAssigned assigned =>
      s!"Vehicle is assigned to {assigned} user(s) and cannot be deleted"
  | vehicleHasTrackingData => "Vehicle has GPS tracking data and cannot be deleted"
  | emailTaken email => "Email already registered: " ++ orNone email
  | userNotFound userId => s!"User {userId} not found"
  | routeAlreadyAssigned email => "Route is already assigned to " ++ orNone email
  | vehicleAlreadyAssigned email => "Vehicle is already assigned to " ++ orNone email
  | noAssignment => "No route/vehicle assigned yet - contact your fleet administrator"
  | noRouteAssigned => "No route assigned yet - contact your fleet administrator"
  | assignedRouteGone => "Assigned route no longer exists"
  | noVehicleAssigned => "No vehicle assigned yet - contact your fleet administrator"
  | assignedVehicleGone => "Assigned vehicle no longer exists"
  | tokenExpired => "Token has expired"
  | invalidToken => "Invalid token"
  | expectedToken type => s!"Expected a {type} token"
  | malformedSubject => "Malformed token subject"
  | userGone => "User no longer exists"
  | incorrectLogin => "Incorrect email or password"
  | notAuthenticated => "Not authenticated"
  | adminRequired => "Admin privileges required"

end Message

/-- A deliberate API error. -/
structure AppError where
  errorClass : ErrorClass
  message : Message
  code : String
deriving DecidableEq

namespace AppError

/-- An error with the code of its class. -/
def plain (errorClass : ErrorClass) (message : Message) : AppError :=
  ⟨errorClass, message, errorClass.code⟩

/-- The status code and the body's `code` and `message`. -/
def toResponse (repr : String → String) (e : AppError) : Nat × String × String :=
  (e.errorClass.statusCode, e.code, e.message.text repr)

end AppError

/-- What a call can raise. -/
inductive Failure
  | app (e : AppError)
  /-- A constraint rejected a statement. -/
  | integrityError
  /-- The driver or the database rejected a bound value. -/
  | dbapiError
  /-- An `UPDATE` of the session found its row gone. -/
  | staleDataError
  | valueError
  | keyError
  | recursionError
  | overflowError
  /-- `decimal.InvalidOperation`: NaN in an order comparison. -/
  | invalidOperation
  /-- A response model rejected what it was built from. -/
  | responseValidationError
deriving DecidableEq

theorem map_eq_ok {ε α β : Type} {result : Except ε α} {f : α → β} {b : β} :
    result.map f = .ok b ↔ ∃ a, result = .ok a ∧ f a = b := by
  cases result <;> simp [Except.map]

theorem mapError_eq_ok {α ε : Type} {result : Except Failure α} {f : Failure → ε} {a : α} :
    result.mapError f = .ok a ↔ result = .ok a := by
  cases result with
  | error failure => exact ⟨nofun, nofun⟩
  | ok b => exact ⟨fun same => congrArg _ (Except.ok.inj same),
      fun same => congrArg _ (Except.ok.inj same)⟩

theorem toOption_eq_some {α : Type} {result : Except Failure α} {a : α} :
    result.toOption = some a ↔ result = .ok a := by
  cases result <;> simp [Except.toOption]

theorem bind_eq_ok {α β : Type} {result : Except Failure α} {f : α → Except Failure β} {b : β} :
    result.bind f = .ok b ↔ ∃ a, result = .ok a ∧ f a = .ok b := by
  cases result <;> simp [Except.bind]

end FleetTracking
