import FleetTracking.LatestLocation
import FleetTracking.Mqtt.Client

/-!
# Fault isolation

A delivery that raises leaves the tables as they were, except that the id drawn for its
history point stays drawn (`processMessage_raised`); so a run of the subscriber stores what
its deliveries that did not fail store by themselves, up to those ids
(`messageLoop_isolates`).  The ids do differ on an engine whose sequences leave gaps
(`failed_delivery_shifts_ids`).
-/

namespace FleetTracking

open Python Pydantic Relational ReadCommitted

/-- The deliveries that did not fail, without their faults. -/
def survivors : List (Delivery × Option Fault) → List Outcome → List (Delivery × Option Fault)
  | (delivery, _) :: deliveries, .done :: outcomes =>
      (delivery, none) :: survivors deliveries outcomes
  | _ :: deliveries, .raised :: outcomes => survivors deliveries outcomes
  | _, _ => []

/-! ## Up to the ids of history points -/

/-- What a history point says besides its id. -/
def GPSPoint.content (p : GPSPoint) : Int × Fix := (p.vehicleId, p.toFix)

/-- The same rows, where history points may have other ids when the engine leaves gaps. -/
structure SameRows (E : Engine) (db db' : DB) : Prop where
  busRoutes : db'.busRoutes = db.busRoutes
  vehicles : db'.vehicles = db.vehicles
  users : db'.users = db.users
  locations : db'.vehicleCurrentLocation = db.vehicleCurrentLocation
  points : db'.gpsPoints.rows.map GPSPoint.content = db.gpsPoints.rows.map GPSPoint.content
  gapless : E.gapless = true → db'.gpsPoints = db.gpsPoints

namespace SameRows

variable {E : Engine} {db db' db'' : DB}

theorem refl (E : Engine) (db : DB) : SameRows E db db :=
  ⟨rfl, rfl, rfl, rfl, rfl, fun _ => rfl⟩

theorem trans (first : SameRows E db db') (second : SameRows E db' db'') : SameRows E db db'' :=
  ⟨second.busRoutes.trans first.busRoutes, second.vehicles.trans first.vehicles,
    second.users.trans first.users, second.locations.trans first.locations,
    second.points.trans first.points,
    fun gapless => (second.gapless gapless).trans (first.gapless gapless)⟩

/-- The same fix makes the same rows of them. -/
theorem ingest (same : SameRows E db db') (m : GPSMessage) :
    SameRows E (db.ingest m) (db'.ingest m) where
  busRoutes := same.busRoutes
  vehicles := same.vehicles
  users := same.users
  locations := by simp only [DB.ingest, DB.addPoint, same.locations]
  points := by
    simp only [DB.ingest, DB.addPoint, Serial.rows_insert, List.map_append, same.points]
    rfl
  gapless gapless := by simp only [DB.ingest, DB.addPoint, same.gapless gapless]

end SameRows

section

variable {E : Engine} {settings : Settings} {d : Decoder} {db db' : DB} {m : GPSMessage}
  {fault : Option Fault} {delivery : Delivery} {stored : Bool}

/-! ## One delivery -/

/-- Rolling the `INSERT` of a point back leaves its id drawn, at most. -/
theorem insertPoint_residue (db : DB) : SameRows E db ((insertPoint E rowLocks m).residue db) := by
  simp only [insertPoint]
  split
  · exact .refl E db
  · next gaps => exact ⟨rfl, rfl, rfl, rfl, rfl, fun gapless => (gaps gapless).elim⟩

/-- No statement of a fix leaves more behind than a drawn id. -/
theorem handleGpsMessageTxn_writes :
    (handleGpsMessageTxn E rowLocks m).EachWrite fun w => ∀ db, SameRows E db (w.residue db) :=
  handleGpsMessageTxn_eachWrite insertPoint_residue (fun db => .refl E db)
    fun _ db => .refl E db

/-- A session that no fault reached has run alone; any other has left nothing behind but a
drawn id. -/
theorem storeMessage_fault :
    storeMessage E fault m db = storeMessage E none m db ∨
      ∃ db', storeMessage E fault m db = (.raised, db') ∧ SameRows E db db' := by
  match fault with
  | none => exact .inl rfl
  | some .parsing => exact .inl rfl
  | some (.statement n drawn) =>
      simp only [storeMessage]
      cases ran : (handleGpsMessageTxn E rowLocks m).faulty drawn n [] db with
      | mk result db' =>
          cases result with
          | some result => exact .inl (by rw [Txn.faulty_some ran])
          | none =>
              exact .inr ⟨db', rfl, Txn.faulty_none (SameRows.refl E) SameRows.trans ran
                handleGpsMessageTxn_writes fun _ member => (List.not_mem_nil member).elim⟩

theorem processMessage_fault (E : Engine) (settings : Settings) (d : Decoder)
    (fault : Option Fault) (delivery : Delivery) (db : DB) :
    processMessage E settings d fault delivery db = processMessage E settings d none delivery db ∨
      ∃ db', processMessage E settings d fault delivery db = (.raised, db') ∧
        SameRows E db db' := by
  by_cases parsing : fault = some .parsing
  · exact .inr ⟨db, if_pos parsing, .refl E db⟩
  · simp only [processMessage, if_neg parsing, reduceCtorEq, if_false]
    cases parseTopic delivery.topic settings.mqttTopicPrefix with
    | none => exact .inl rfl
    | some vehicleId =>
        cases parsePayload d delivery.payload with
        | error failure => exact .inl rfl
        | ok parsed =>
            cases parsed with
            | none => exact .inl rfl
            | some message =>
                dsimp only
                split
                · exact .inl rfl
                · exact storeMessage_fault

end

/-! ## Without a fault -/

/-- What becomes of a delivery that no fault hits. -/
inductive Verdict
  | stored (m : GPSMessage)
  | discarded
  | failed

def Verdict.outcome : Verdict → Outcome
  | .failed => .raised
  | _ => .done

def Verdict.apply : Verdict → DB → DB
  | .stored m, db => db.ingest m
  | _, db => db

section

variable (E : Engine) (settings : Settings) (d : Decoder)

def fixVerdict (vehicles : Serial Vehicle) (m : GPSMessage) : Verdict :=
  if E.bigint m.vehicleId then
    match vehicles.get m.vehicleId with
    | none => .discarded
    | some vehicle =>
        if vehicle.isActive ≠ some true then .discarded
        else if E.timestamptz m.recordedAt then .stored m
        else .failed
  else .failed

/-- The verdict depends on the delivery and on the vehicles, on no fix stored before. -/
def verdict (vehicles : Serial Vehicle) (delivery : Delivery) : Verdict :=
  match parseTopic delivery.topic settings.mqttTopicPrefix with
  | none => .discarded
  | some vehicleId =>
      match parsePayload d delivery.payload with
      | .error _ => .failed
      | .ok none => .discarded
      | .ok (some m) => if m.vehicleId ≠ vehicleId then .discarded else fixVerdict E vehicles m

end

section

variable {E : Engine} {settings : Settings} {d : Decoder} {db db' : DB} {m m' : GPSMessage}
  {fault : Option Fault} {delivery : Delivery} {vehicleId : Int}

theorem storeMessage_none :
    storeMessage E none m db =
      ((fixVerdict E db.vehicles m).outcome, (fixVerdict E db.vehicles m).apply db) := by
  simp only [storeMessage, handleGpsMessageTxn_solo, handleGpsMessage_eq, fixVerdict]
  split
  · cases db.vehicles.get m.vehicleId with
    | none => rfl
    | some vehicle =>
        dsimp only
        split
        · rfl
        · split <;> rfl
  · rfl

/-- **One delivery.**  What `processMessage` does without a fault is the verdict. -/
theorem processMessage_none :
    processMessage E settings d none delivery db =
      ((verdict E settings d db.vehicles delivery).outcome,
        (verdict E settings d db.vehicles delivery).apply db) := by
  simp only [processMessage, verdict, reduceCtorEq, if_false]
  cases parseTopic delivery.topic settings.mqttTopicPrefix with
  | none => rfl
  | some vehicleId =>
      cases parsePayload d delivery.payload with
      | error failure => rfl
      | ok parsed =>
          cases parsed with
          | none => rfl
          | some message =>
              dsimp only
              split
              · rfl
              · exact storeMessage_none

theorem fixVerdict_stored (stored : fixVerdict E db.vehicles m = .stored m') :
    m' = m ∧ db.Accepts m.vehicleId := by
  unfold fixVerdict at stored
  split at stored
  · cases found : db.vehicles.get m.vehicleId with
    | none =>
        rw [found] at stored
        cases stored
    | some vehicle =>
        simp only [found] at stored
        split at stored
        · cases stored
        · next active =>
            split at stored
            · cases stored
              exact ⟨rfl, vehicle, found, not_not.mp active⟩
            · cases stored
  · cases stored

theorem fixVerdict_discarded (discarded : fixVerdict E db.vehicles m = .discarded) :
    ¬ db.Accepts m.vehicleId := by
  intro accepts
  rcases accepts with ⟨vehicle, found, active⟩
  simp only [fixVerdict, found, active] at discarded
  split at discarded
  · simp only [ne_eq, not_true_eq_false, if_false] at discarded
    split at discarded <;> cases discarded
  · cases discarded

theorem accepted_of_stored (stored : verdict E settings d db.vehicles delivery = .stored m) :
    ∃ vehicleId, Accepted settings d db delivery vehicleId m := by
  unfold verdict at stored
  cases topic : parseTopic delivery.topic settings.mqttTopicPrefix with
  | none =>
      rw [topic] at stored
      cases stored
  | some vehicleId =>
      cases payload : parsePayload d delivery.payload with
      | error failure => simp only [topic, payload, reduceCtorEq] at stored
      | ok parsed =>
          cases parsed with
          | none => simp only [topic, payload, reduceCtorEq] at stored
          | some message =>
              simp only [topic, payload] at stored
              split at stored
              · cases stored
              · next agree =>
                  obtain ⟨rfl, vehicle⟩ := fixVerdict_stored stored
                  have agree := not_not.mp agree
                  exact ⟨vehicleId, topic, payload, agree, agree ▸ vehicle⟩

theorem not_accepted_of_discarded
    (discarded : verdict E settings d db.vehicles delivery = .discarded) :
    ¬ Accepted settings d db delivery vehicleId m := by
  intro accepted
  rcases accepted with ⟨topic, payload, agree, vehicle⟩
  simp only [verdict, topic, payload, agree, ne_eq, not_true_eq_false, if_false] at discarded
  exact fixVerdict_discarded discarded (agree ▸ vehicle)

theorem Accepted.unique {vehicleId' : Int}
    (accepted : Accepted settings d db delivery vehicleId m)
    (accepted' : Accepted settings d db delivery vehicleId' m') :
    vehicleId = vehicleId' ∧ m = m' := by
  have payload := accepted.payload.symm.trans accepted'.payload
  have topic := accepted.topic.symm.trans accepted'.topic
  exact ⟨Option.some.inj topic, Option.some.inj (Except.ok.inj payload)⟩

/-- A delivery that ended has had no fault. -/
theorem processMessage_done
    (ended : processMessage E settings d fault delivery db = (.done, db')) :
    processMessage E settings d none delivery db = (.done, db') := by
  rcases processMessage_fault E settings d fault delivery db with same | ⟨residue, raised, _⟩
  · rw [← same, ended]
  · cases (Prod.mk.inj (raised.symm.trans ended)).1

/-- A delivery that raised has left nothing behind but a drawn id. -/
theorem processMessage_raised
    (ended : processMessage E settings d fault delivery db = (.raised, db')) :
    SameRows E db db' := by
  rcases processMessage_fault E settings d fault delivery db with
    same | ⟨residue, raised, unchanged⟩
  · rw [processMessage_none, ended] at same
    obtain ⟨outcome, rfl⟩ := Prod.mk.inj same
    cases stands : verdict E settings d db.vehicles delivery with
    | failed => exact .refl E db
    | stored m =>
        rw [stands] at outcome
        cases outcome
    | discarded =>
        rw [stands] at outcome
        cases outcome
  · rw [← (Prod.mk.inj (raised.symm.trans ended)).2]
    exact unchanged

/-- A delivery that ended has stored its fix if it is one, and nothing otherwise. -/
theorem ended_iff_accepted
    (ended : processMessage E settings d fault delivery db = (.done, db')) :
    (∃ vehicleId m, Accepted settings d db delivery vehicleId m ∧ db' = db.ingest m) ∨
      (∀ vehicleId m, ¬ Accepted settings d db delivery vehicleId m) ∧ db' = db := by
  have alone := processMessage_done ended
  rw [processMessage_none] at alone
  obtain ⟨outcome, rfl⟩ := Prod.mk.inj alone
  cases stands : verdict E settings d db.vehicles delivery with
  | stored m =>
      obtain ⟨vehicleId, accepted⟩ := accepted_of_stored stands
      exact .inl ⟨vehicleId, m, accepted, rfl⟩
  | discarded => exact .inr ⟨fun _ _ => not_accepted_of_discarded stands, rfl⟩
  | failed =>
      rw [stands] at outcome
      cases outcome

/-- On the same rows a delivery that ended ends the same way. -/
theorem processMessage_sameRows {other : DB} (same : SameRows E other db)
    (ended : processMessage E settings d fault delivery db = (.done, db')) :
    ∃ other', processMessage E settings d none delivery other = (.done, other') ∧
      SameRows E other' db' := by
  have alone := processMessage_done ended
  rw [processMessage_none] at alone ⊢
  obtain ⟨outcome, rfl⟩ := Prod.mk.inj alone
  rw [same.vehicles] at outcome ⊢
  refine ⟨_, by rw [outcome], ?_⟩
  cases verdict E settings d other.vehicles delivery with
  | stored m => exact same.ingest m
  | discarded => exact same
  | failed => exact same

/-! ## All deliveries -/

variable {deliveries later : List (Delivery × Option Fault)} {outcome : Outcome}

theorem messageLoop_cons
    (ended : processMessage E settings d fault delivery db = (outcome, db')) :
    messageLoop E settings d ((delivery, fault) :: deliveries) db =
      (outcome :: (messageLoop E settings d deliveries db').1,
        (messageLoop E settings d deliveries db').2) := by
  simp only [messageLoop, ended]

theorem length_messageLoop :
    (messageLoop E settings d deliveries db).1.length = deliveries.length := by
  induction deliveries generalizing db with
  | nil => rfl
  | cons first deliveries ih =>
      simp only [messageLoop, List.length_cons, ih]

/-- The loop gives every delivery its turn, on the database that those before it left. -/
theorem messageLoop_at (E : Engine) (settings : Settings) (d : Decoder) (db : DB) {i : Nat}
    (here : deliveries[i]? = some (delivery, fault)) :
    ∃ outcome, (messageLoop E settings d deliveries db).1[i]? = some outcome ∧
      processMessage E settings d fault delivery (databaseAt E settings d deliveries db i) =
        (outcome, databaseAt E settings d deliveries db (i + 1)) := by
  simp only [databaseAt]
  induction deliveries generalizing i db with
  | nil => cases here
  | cons first deliveries ih =>
      obtain ⟨firstDelivery, firstFault⟩ := first
      cases ended : processMessage E settings d firstFault firstDelivery db with
      | mk outcome middle =>
          rw [messageLoop_cons ended, List.take_succ_cons, messageLoop_cons ended]
          cases i with
          | zero =>
              cases here
              exact ⟨outcome, rfl, ended⟩
          | succ i =>
              rw [List.take_succ_cons, messageLoop_cons ended]
              exact ih middle here

/-- The deliveries that did not fail, by themselves, all end and store the same rows. -/
theorem messageLoop_survivors {other : DB} (same : SameRows E other db) :
    ∃ other', messageLoop E settings d
        (survivors deliveries (messageLoop E settings d deliveries db).1) other =
      ((survivors deliveries (messageLoop E settings d deliveries db).1).map fun _ => .done,
        other') ∧
      SameRows E other' (messageLoop E settings d deliveries db).2 := by
  induction deliveries generalizing db other with
  | nil => exact ⟨other, rfl, same⟩
  | cons first deliveries ih =>
      obtain ⟨delivery, fault⟩ := first
      cases ended : processMessage E settings d fault delivery db with
      | mk outcome middle =>
          rw [messageLoop_cons ended]
          cases outcome with
          | raised => exact ih (same.trans (processMessage_raised ended))
          | done =>
              obtain ⟨other', ended', same'⟩ := processMessage_sameRows same ended
              obtain ⟨final, ran, rest⟩ := ih same'
              refine ⟨final, ?_, rest⟩
              rw [survivors, messageLoop_cons ended', ran]
              rfl

/-- **Fault isolation.**  Whatever raises during the deliveries, every one of them has its
turn; the tables end with the rows that the deliveries that did not fail store by themselves;
and each of these adds one point of the vehicle in its topic if the delivery is accepted, and
changes nothing otherwise. -/
theorem messageLoop_isolates (E : Engine) (settings : Settings) (d : Decoder)
    (deliveries : List (Delivery × Option Fault)) (db : DB) :
    (messageLoop E settings d deliveries db).1.length = deliveries.length ∧
    (∃ final, messageLoop E settings d
        (survivors deliveries (messageLoop E settings d deliveries db).1) db =
      ((survivors deliveries (messageLoop E settings d deliveries db).1).map fun _ => .done,
        final) ∧
      SameRows E final (messageLoop E settings d deliveries db).2) ∧
    ∀ i delivery fault, deliveries[i]? = some (delivery, fault) →
      ∃ outcome before after,
        (messageLoop E settings d deliveries db).1[i]? = some outcome ∧
        databaseAt E settings d deliveries db i = before ∧
        databaseAt E settings d deliveries db (i + 1) = after ∧
        processMessage E settings d fault delivery before = (outcome, after) ∧
        (outcome = .done →
          (∀ vehicleId m, Accepted settings d before delivery vehicleId m →
            ∃ point, point.vehicleId = vehicleId ∧
              after.gpsPoints.rows = before.gpsPoints.rows ++ [point] ∧
              after = before.ingest m) ∧
          ((∀ vehicleId m, ¬ Accepted settings d before delivery vehicleId m) →
            after = before)) := by
  refine ⟨length_messageLoop, messageLoop_survivors (.refl E db), ?_⟩
  intro i delivery fault here
  obtain ⟨outcome, listed, ended⟩ := messageLoop_at E settings d db here
  refine ⟨outcome, _, _, listed, rfl, rfl, ended, fun finished => ?_⟩
  subst finished
  rcases ended_iff_accepted ended with ⟨vehicleId, m, accepted, stored⟩ | ⟨refused, unchanged⟩
  · refine ⟨fun vehicleId' m' accepted' => ?_,
      fun refused => (refused vehicleId m accepted).elim⟩
    obtain ⟨rfl, rfl⟩ := accepted.unique accepted'
    exact ⟨_, accepted.agree, congrArg (·.gpsPoints.rows) stored, stored⟩
  · exact ⟨fun vehicleId m accepted => (refused vehicleId m accepted).elim, fun _ => unchanged⟩

end

/-! ## A failed delivery before a stored one -/

/-- A payload of the first vehicle. -/
def fixText : String :=
  "\x7b\"vehicle_id\": 1, \"lat\": 1.0, \"lng\": 0.0, \"speed\": 0.0, " ++
    "\"timestamp\": \"1970-01-01T00:00:00Z\"\x7d"

def fixDelivery : Delivery := ⟨"fleet/1/gps", fixText.toUTF8.toList⟩

/-- What `fixText` decodes to. -/
def fixJson : Json :=
  .obj [("vehicle_id", .int 1), ("lat", .float (.fin 1)), ("lng", .float (.fin 0)),
    ("speed", .float (.fin 0)), ("timestamp", .str "1970-01-01T00:00:00Z")]

/-- Reads `fixText` as Python does, and nothing else. -/
def fixDecoder : Decoder where
  loads payload := if payload = fixDelivery.payload then .ok fixJson else .error .jsonDecodeError
  coerce := { Coerce.asIs with
    datetime
      | .str s => if s = "1970-01-01T00:00:00Z" then some .epoch else none
      | _ => none }

/-- The same fix twice; the first commit raises. -/
def commitFails : List (Delivery × Option Fault) :=
  [(fixDelivery, some (.statement 4 false)), (fixDelivery, none)]

theorem fixDelivery_accepted {db : DB} (vehicle : db.Accepts 1) :
    Accepted {} fixDecoder db fixDelivery 1 earlyFix where
  topic := by decide +kernel
  payload := by decide +kernel
  agree := rfl
  vehicle := vehicle

theorem messageLoop_isolates_commitFails :
    (messageLoop postgres {} fixDecoder commitFails .withFirstVehicle).1.length = 2 ∧
      ∃ point, point.vehicleId = 1 ∧
        (databaseAt postgres {} fixDecoder commitFails .withFirstVehicle 2).gpsPoints.rows =
          (databaseAt postgres {} fixDecoder commitFails .withFirstVehicle 1).gpsPoints.rows ++
            [point] := by
  obtain ⟨turns, _, each⟩ :=
    messageLoop_isolates postgres {} fixDecoder commitFails .withFirstVehicle
  obtain ⟨outcome, _, _, listed, rfl, rfl, _, effect⟩ := each 1 fixDelivery none rfl
  have done : (messageLoop postgres {} fixDecoder commitFails .withFirstVehicle).1[1]? =
      some .done := by decide +kernel
  have active : ∃ vehicle ∈ (databaseAt postgres {} fixDecoder commitFails .withFirstVehicle 1
      ).vehicles.get 1, vehicle.isActive = some true := by decide +kernel
  obtain ⟨vehicle, found, active⟩ := active
  obtain ⟨point, own, added, _⟩ := (effect (Option.some.inj (listed.symm.trans done))).1 1 earlyFix
    (fixDelivery_accepted ⟨vehicle, found, active⟩)
  exact ⟨turns, point, own, added⟩

/-- **The ids differ.**  After the failed delivery the stored point has the id 2; the
deliveries that did not fail, by themselves, give it the id 1. -/
theorem failed_delivery_shifts_ids :
    (messageLoop postgres {} fixDecoder commitFails .withFirstVehicle).2.gpsPoints.rows ≠
      (messageLoop postgres {} fixDecoder (survivors commitFails
        (messageLoop postgres {} fixDecoder commitFails .withFirstVehicle).1)
          .withFirstVehicle).2.gpsPoints.rows := by
  decide +kernel

end FleetTracking
