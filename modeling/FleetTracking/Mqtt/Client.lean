import FleetTracking.Config
import FleetTracking.Mqtt.Handler

/-!
# The subscriber

`processMessage` parses one delivery and stores it in a session of its own; `messageLoop` is
the loop over the deliveries, which logs an exception and goes on.  A `Fault` makes one step
of one delivery raise: something in its parsing, or the `n`-th statement of its transaction.
-/

namespace FleetTracking

open ReadCommitted

/-- `_subscription_topic` -/
def subscriptionTopic (settings : Settings) : String := settings.mqttTopicPrefix ++ "/+/gps"

structure Delivery where
  topic : String
  payload : List UInt8
deriving DecidableEq

/-- The step of a delivery that raises.  `drawn` tells whether an `INSERT` that raises has
drawn its id already. -/
inductive Fault
  | parsing
  | statement (n : Nat) (drawn : Bool)
deriving DecidableEq

inductive Outcome
  | done
  | raised
deriving DecidableEq

/-- How a session ended; without a result the exception of a statement came up. -/
def Outcome.of : Option (Except Failure Bool) → Outcome
  | some (.ok _) => .done
  | some (.error _) => .raised
  | none => .raised

section

variable (E : Engine) (settings : Settings) (d : Decoder)

/-- `async with async_session_factory() as session: await handle_gps_message(session, m)` -/
def storeMessage (fault : Option Fault) (m : GPSMessage) (db : DB) : Outcome × DB :=
  match fault with
  | some (.statement n drawn) =>
      let out := (handleGpsMessageTxn E rowLocks m).faulty drawn n [] db
      (.of out.1, out.2)
  | _ =>
      let out := (handleGpsMessageTxn E rowLocks m).solo [] db
      (.of (some out.1), out.2)

/-- `_process_message` -/
def processMessage (fault : Option Fault) (delivery : Delivery) (db : DB) : Outcome × DB :=
  if fault = some .parsing then (.raised, db)
  else
    match parseTopic delivery.topic settings.mqttTopicPrefix with
    | none => (.done, db)
    | some vehicleId =>
        match parsePayload d delivery.payload with
        | .error _ => (.raised, db)
        | .ok none => (.done, db)
        | .ok (some message) =>
            if message.vehicleId ≠ vehicleId then (.done, db)
            else storeMessage E fault message db

/-- The loop of `_run_client`: how each delivery ended, and the database after all of them.
`except Exception` makes either outcome go on to the next one. -/
def messageLoop : List (Delivery × Option Fault) → DB → List Outcome × DB
  | [], db => ([], db)
  | (delivery, fault) :: deliveries, db =>
      let (outcome, db) := processMessage E settings d fault delivery db
      let (outcomes, db) := messageLoop deliveries db
      (outcome :: outcomes, db)

/-- The database once the first `i` deliveries have had their turn. -/
def databaseAt (deliveries : List (Delivery × Option Fault)) (db : DB) (i : Nat) : DB :=
  (messageLoop E settings d (deliveries.take i) db).2

/-- The delivery is a fix to be stored: its topic names `vehicleId`, its payload is the
message `m` about that vehicle, and the vehicle exists and is active. -/
structure Accepted (db : DB) (delivery : Delivery) (vehicleId : Int) (m : GPSMessage) :
    Prop where
  topic : parseTopic delivery.topic settings.mqttTopicPrefix = some vehicleId
  payload : parsePayload d delivery.payload = .ok (some m)
  agree : m.vehicleId.1 = vehicleId
  vehicle : db.Accepts vehicleId

end

end FleetTracking
