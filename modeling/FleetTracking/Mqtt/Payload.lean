import FleetTracking.Python.Text
import FleetTracking.Mqtt.Topics
import FleetTracking.Exceptions
import FleetTracking.Python.Pydantic

/-!
# GPS topics and payloads

A message counts when its topic is `{prefix}/{vehicle_id}/gps` and its payload is a JSON
object with the fields of `GPSMessage`.  `Decoder` is `json.loads` and pydantic's
conversions; what the module itself checks is stated here.
-/

namespace FleetTracking

open Python Pydantic

/-- Validated shape of one GPS fix from the broker. -/
structure GPSMessage where
  vehicleId : AtLeast 1
  lat : Between (-90) 90
  lng : Between (-180) 180
  speed : Between 0 300
  timestamp : {d : Datetime // d.isAware = true}
deriving DecidableEq

/-- `_must_be_timezone_aware` -/
def mustBeTimezoneAware (d : Datetime) : Validated {d : Datetime // d.isAware = true} :=
  if h : d.isAware = true then .ok ⟨d, h⟩
  else .error [⟨[], .valueError "timestamp must be timezone-aware (UTC expected)"⟩]

/-- A timestamp: a `datetime`, then the field validator. -/
def timestamp (c : Coerce) (value : Json) : Validated {d : Datetime // d.isAware = true} :=
  match typed "datetime" c.datetime value with
  | .error e => .error e
  | .ok d => mustBeTimezoneAware d

def GPSMessage.validate (c : Coerce) (data : Json) : Validated GPSMessage :=
  (Validated.model GPSMessage.mk)
    |>.field (required "vehicle_id" (atLeast c 1) data)
    |>.field (required "lat" (between c (-90) 90) data)
    |>.field (required "lng" (between c (-180) 180) data)
    |>.field (required "speed" (between c 0 300) data)
    |>.field (required "timestamp" (FleetTracking.timestamp c) data)

/-- `fleet/{vehicle_id}/gps` → vehicle_id, else `none`. -/
def parseTopic (topic : String) (topicPrefix : String) : Option Int :=
  match topic.toList.splitOn '/' with
  | [first, id, last] =>
      if first = topicPrefix.toList ∧ last = "gps".toList then
        match Python.int (String.ofList id) with
        | some vehicleId => if 1 ≤ vehicleId then some vehicleId else none
        | none => none
      else none
  | _ => none

theorem splitOn_topic {topicPrefix id : String} (noSlash : '/' ∉ topicPrefix.toList)
    (noSlash' : '/' ∉ id.toList) :
    (topicPrefix ++ "/" ++ id ++ "/gps").toList.splitOn '/' =
      [topicPrefix.toList, id.toList, "gps".toList] := by
  have built : (topicPrefix ++ "/" ++ id ++ "/gps").toList =
      topicPrefix.toList ++ '/' :: (id.toList ++ '/' :: "gps".toList) := by
    simp [String.toList_append]
  rw [built, List.splitOn_append_cons_self_of_not_mem noSlash,
    List.splitOn_append_cons_self_of_not_mem noSlash', List.splitOn_eq_singleton (by decide)]

/-- The topics `parse_topic` takes: three levels, the middle one an integer from 1 on. -/
theorem parseTopic_eq_some {topic topicPrefix : String} {vehicleId : Int}
    (noSlash : '/' ∉ topicPrefix.toList) :
    parseTopic topic topicPrefix = some vehicleId ↔
      ∃ id, '/' ∉ id.toList ∧ topic = topicPrefix ++ "/" ++ id ++ "/gps" ∧
        Python.int id = some vehicleId ∧ 1 ≤ vehicleId := by
  constructor
  · intro parsed
    unfold parseTopic at parsed
    split at parsed
    · next first id last parts =>
        split at parsed
        · next shape =>
            rcases shape with ⟨rfl, rfl⟩
            have isLevel : id ∈ topic.toList.splitOn '/' := by
              rw [parts]
              exact List.mem_cons_of_mem _ List.mem_cons_self
            have noSlash' : '/' ∉ id := fun slash => (Mqtt.mem_of_mem_level isLevel slash).2 rfl
            have joined : ['/'].intercalate (topic.toList.splitOn '/') = topic.toList :=
              List.intercalate_splitOn _
            rw [parts] at joined
            split at parsed
            · next read =>
                split at parsed
                · next positive =>
                    cases parsed
                    refine ⟨String.ofList id, by rwa [String.toList_ofList], ?_, read, positive⟩
                    rw [← String.toList_inj, ← joined]
                    simp [List.intercalate, String.toList_append]
                · cases parsed
            · cases parsed
        · cases parsed
    · cases parsed
  · rintro ⟨id, noSlash', rfl, read, positive⟩
    simp only [parseTopic, splitOn_topic noSlash noSlash', and_self, if_true, String.ofList_toList,
      read, if_pos positive]

/-- A topic that is built as `{prefix}/{vehicle_id}/gps` is parsed, unless the prefix has a
slash in it. -/
theorem parseTopic_built {topicPrefix id : String} {vehicleId : Int}
    (noSlash : '/' ∉ topicPrefix.toList) (printed : Python.str vehicleId = some id)
    (digits : ∀ c ∈ id.toList, c.isDigit = true) (positive : 1 ≤ vehicleId) :
    parseTopic (topicPrefix ++ "/" ++ id ++ "/gps") topicPrefix = some vehicleId :=
  (parseTopic_eq_some noSlash).mpr
    ⟨id, (fun slash => by cases digits '/' slash), rfl, int_str printed, positive⟩

/-- A prefix with a slash in it is never the first level. -/
theorem parseTopic_of_slash {topic topicPrefix : String} (slash : '/' ∈ topicPrefix.toList) :
    parseTopic topic topicPrefix = none := by
  unfold parseTopic
  split
  · next first id last parts =>
      refine if_neg fun shape => ?_
      have isLevel : first ∈ topic.toList.splitOn '/' := by rw [parts]; exact List.mem_cons_self
      exact (Mqtt.mem_of_mem_level isLevel (shape.1 ▸ slash)).2 rfl
  · rfl

/-- How `json.loads` fails. -/
inductive JsonError
  | jsonDecodeError
  | unicodeDecodeError
  /-- An integer literal beyond the digit limit. -/
  | valueError
  /-- Nesting beyond the recursion limit. -/
  | recursionError

/-- `json.loads` on bytes and pydantic's conversions. -/
structure Decoder where
  loads : List UInt8 → Except JsonError Json
  coerce : Coerce

/-- JSON bytes → `GPSMessage`, or `none` when malformed or invalid.  Only the two decoding
errors of `json.loads` are caught. -/
def parsePayload (d : Decoder) (payload : List UInt8) : Except Failure (Option GPSMessage) :=
  match d.loads payload with
  | .error .jsonDecodeError => .ok none
  | .error .unicodeDecodeError => .ok none
  | .error .valueError => .error .valueError
  | .error .recursionError => .error .recursionError
  | .ok (.obj members) =>
      match GPSMessage.validate d.coerce (.obj members) with
      | .ok message => .ok (some message)
      | .error _ => .ok none
  | .ok _ => .ok none

end FleetTracking
