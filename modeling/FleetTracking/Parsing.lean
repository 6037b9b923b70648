import FleetTracking.Mqtt.Client
import FleetTracking.Simulator.Runner

/-!
# What the subscriber reads

`topics_agree`: the topic the simulator publishes under always matches the subscription, and
`parse_topic` takes it apart again unless the prefix has a slash in it.  `parseTopic_exact`:
among the topics `parse_topic` takes, those with a plain id are the ones that are published,
one for each vehicle.  `parsePayload_returns`: what `json.loads` raises beyond the two decoding
errors comes out of `parse_payload`.
-/

namespace FleetTracking

open Python Mqtt Simulator

/-- `f"{prefix}/{vid}/gps"` -/
def gpsTopic (topicPrefix : String) (vehicleId : Int) : Option String :=
  (Python.str vehicleId).map fun vid => topicPrefix ++ "/" ++ vid ++ "/gps"

section

variable {topicPrefix topic : String} {vehicleId : Int}

theorem gpsTopic_eq_some :
    gpsTopic topicPrefix vehicleId = some topic ↔
      ∃ vid, Python.str vehicleId = some vid ∧ topicPrefix ++ "/" ++ vid ++ "/gps" = topic :=
  Option.map_eq_some_iff

/-- The simulator publishes under `gpsTopic`. -/
theorem gpsTopic_of_publish {c : Pydantic.Coerce} {p : Printer} {fix : OutgoingFix}
    {delivery : Delivery} (published : publish c p topicPrefix fix = .ok delivery) :
    gpsTopic topicPrefix fix.vehicleId = some delivery.topic := by
  unfold publish at published
  split at published
  · cases published
  · split at published
    · cases published
    · next vid printed =>
        cases published
        exact gpsTopic_eq_some.mpr ⟨vid, printed, rfl⟩

/-- The middle level of a topic, where the others are right, is read the way it is printed:
`int` takes it for a positive integer only if it is digits without a leading zero. -/
def PlainId (topicPrefix topic : String) : Prop :=
  ∀ id vehicleId, topic = topicPrefix ++ "/" ++ id ++ "/gps" → '/' ∉ id.toList →
    Python.int id = some vehicleId → 1 ≤ vehicleId → Plain id

end

/-! ## Publisher, subscription and parser -/

section

variable {settings : Settings} {vehicleId : Int}

theorem noSlash_of_isDigit {id : String} (digit : ∀ c ∈ id.toList, c.isDigit = true) :
    '/' ∉ id.toList := fun slash => by cases digit '/' slash

/-- The subscription takes the topic of every vehicle. -/
theorem subscribed {topic : String} (name : TopicName settings.mqttTopicPrefix)
    (positive : 1 ≤ vehicleId)
    (built : gpsTopic settings.mqttTopicPrefix vehicleId = some topic) :
    topicMatches (subscriptionTopic settings) topic = true := by
  obtain ⟨vid, printed, rfl⟩ := gpsTopic_eq_some.mp built
  have oneLevel := noSlash_of_isDigit (plain_str printed positive).digit
  have filter : subscriptionTopic settings =
      settings.mqttTopicPrefix ++ "/" ++ "+" ++ "/" ++ "gps" := by
    simp only [subscriptionTopic, String.append_assoc]
    rfl
  have published : settings.mqttTopicPrefix ++ "/" ++ vid ++ "/gps" =
      settings.mqttTopicPrefix ++ "/" ++ vid ++ "/" ++ "gps" := by
    simp only [String.append_assoc]
    rfl
  rw [filter, published]
  exact matches_append_plus name oneLevel (by decide)

/-- **The topics.**  Whatever the simulator publishes for a vehicle matches the filter that the
client subscribes to; that `parse_topic` gives the vehicle back as well holds exactly for the
prefixes of one level. -/
theorem topics_agree (name : TopicName settings.mqttTopicPrefix) (positive : 1 ≤ vehicleId)
    (short : vehicleId.natAbs < 10 ^ maxStrDigits) :
    ∃ topic, gpsTopic settings.mqttTopicPrefix vehicleId = some topic ∧
      (∀ c p fix delivery, publish c p settings.mqttTopicPrefix fix = .ok delivery →
        fix.vehicleId = vehicleId → delivery.topic = topic) ∧
      ((topicMatches (subscriptionTopic settings) topic = true ∧
          parseTopic topic settings.mqttTopicPrefix = some vehicleId) ↔
        '/' ∉ settings.mqttTopicPrefix.toList) := by
  obtain ⟨vid, printed, digits⟩ := str_of_nonneg (show 0 ≤ vehicleId by omega) short
  have built : gpsTopic settings.mqttTopicPrefix vehicleId =
      some (settings.mqttTopicPrefix ++ "/" ++ vid ++ "/gps") :=
    gpsTopic_eq_some.mpr ⟨vid, printed, rfl⟩
  refine ⟨_, built, ?_, ?_, ?_⟩
  · rintro c p fix delivery published rfl
    exact Option.some.inj ((gpsTopic_of_publish published).symm.trans built)
  · rintro ⟨-, parsed⟩ slash
    rw [parseTopic_of_slash slash] at parsed
    cases parsed
  · intro noSlash
    exact ⟨subscribed name positive built, parseTopic_built noSlash printed digits positive⟩

theorem topics_agree_fleet :
    ∃ topic, gpsTopic "fleet" 7 = some topic ∧
      (∀ c p fix delivery, publish c p "fleet" fix = .ok delivery →
        fix.vehicleId = 7 → delivery.topic = topic) ∧
      ((topicMatches (subscriptionTopic {}) topic = true ∧ parseTopic topic "fleet" = some 7) ↔
        '/' ∉ "fleet".toList) :=
  @topics_agree {} 7 ⟨by decide, by decide, by decide, by decide⟩ (by decide)
    (Nat.lt_of_lt_of_le (show 7 < 10 ^ 1 by decide) (Nat.pow_le_pow_right (by decide) (by decide)))

end

/-- The prefix `org/fleet` is a topic name, and nothing that is published under it is taken. -/
theorem nested_prefix_unread :
    ¬ ∀ (settings : Settings) (vehicleId : Int), TopicName settings.mqttTopicPrefix →
      1 ≤ vehicleId → vehicleId.natAbs < 10 ^ maxStrDigits →
        ∀ topic, gpsTopic settings.mqttTopicPrefix vehicleId = some topic →
          topicMatches (subscriptionTopic settings) topic = true ∧
            parseTopic topic settings.mqttTopicPrefix = some vehicleId := by
  intro agree
  have parsed := (agree { mqttTopicPrefix := "org/fleet" } 1
    ⟨by decide, by decide, by decide, by decide⟩ le_rfl
    (Nat.one_lt_pow (by decide) (by decide)) "org/fleet/1/gps" (by decide)).2
  rw [parseTopic_of_slash (by decide)] at parsed
  cases parsed

/-! ## The topic grammar -/

section

variable {topicPrefix topic : String}

/-- A topic with a plain id is the one its vehicle's fixes are published under. -/
theorem gpsTopic_of_parsed (plain : PlainId topicPrefix topic) {vehicleId : Int}
    (noSlash : '/' ∉ topicPrefix.toList)
    (parsed : parseTopic topic topicPrefix = some vehicleId) :
    gpsTopic topicPrefix vehicleId = some topic := by
  obtain ⟨id, oneLevel, rfl, read, positive⟩ := (parseTopic_eq_some noSlash).mp parsed
  have printed := str_of_plain (plain id vehicleId rfl oneLevel read positive) read
  exact gpsTopic_eq_some.mpr ⟨id, printed, rfl⟩

/-- A topic that is printed has a plain id. -/
theorem plainId_of_gpsTopic (noSlash : '/' ∉ topicPrefix.toList)
    (exact : ∀ vehicleId, parseTopic topic topicPrefix = some vehicleId →
      gpsTopic topicPrefix vehicleId = some topic) :
    PlainId topicPrefix topic := by
  rintro id vehicleId rfl oneLevel read positive
  have parsed := (parseTopic_eq_some noSlash).mpr ⟨id, oneLevel, rfl, read, positive⟩
  obtain ⟨vid, printed, same⟩ := gpsTopic_eq_some.mp (exact vehicleId parsed)
  have same := congrArg String.toList same
  simp only [String.toList_append, List.append_assoc, List.append_cancel_left_eq,
    List.append_cancel_right_eq, String.toList_inj] at same
  exact same ▸ plain_str printed positive

/-- **The grammar.**  What `parse_topic` takes is the topic of the vehicle it answers exactly
where the id is plain; among the topics with plain ids no two are of one vehicle. -/
theorem parseTopic_exact (noSlash : '/' ∉ topicPrefix.toList) :
    ((∀ vehicleId, parseTopic topic topicPrefix = some vehicleId →
        gpsTopic topicPrefix vehicleId = some topic) ↔ PlainId topicPrefix topic) ∧
      ∀ topic' vehicleId, PlainId topicPrefix topic → PlainId topicPrefix topic' →
        parseTopic topic topicPrefix = some vehicleId →
          parseTopic topic' topicPrefix = some vehicleId → topic = topic' := by
  refine ⟨⟨plainId_of_gpsTopic noSlash, fun plain _ parsed => ?_⟩, ?_⟩
  · exact gpsTopic_of_parsed plain noSlash parsed
  · intro topic' vehicleId plain plain' parsed parsed'
    have built := gpsTopic_of_parsed plain noSlash parsed
    have built' := gpsTopic_of_parsed plain' noSlash parsed'
    exact Option.some.inj (built.symm.trans built')

end

theorem parseTopic_exact_fleet :
    ((∀ vehicleId, parseTopic "fleet/7/gps" "fleet" = some vehicleId →
        gpsTopic "fleet" vehicleId = some "fleet/7/gps") ↔ PlainId "fleet" "fleet/7/gps") ∧
      ∀ topic' vehicleId, PlainId "fleet" "fleet/7/gps" → PlainId "fleet" topic' →
        parseTopic "fleet/7/gps" "fleet" = some vehicleId →
          parseTopic topic' "fleet" = some vehicleId → "fleet/7/gps" = topic' :=
  parseTopic_exact (by decide)

/-- `int` takes leading zeros: two topics of vehicle 7, one of them not built by anyone. -/
theorem padded_id_parsed :
    ¬ ∀ topic topicPrefix vehicleId, '/' ∉ topicPrefix.toList →
      parseTopic topic topicPrefix = some vehicleId →
        gpsTopic topicPrefix vehicleId = some topic := by
  intro exact
  have built := exact "fleet/007/gps" "fleet" 7 (by decide) (by decide)
  revert built
  decide

/-! ## Payloads -/

/-- `parse_payload` raises what `json.loads` raises beyond the decoding errors. -/
theorem parsePayload_eq_ok {d : Decoder} {payload : List UInt8} :
    (∃ result, parsePayload d payload = .ok result) ↔
      d.loads payload ≠ .error .valueError ∧ d.loads payload ≠ .error .recursionError := by
  unfold parsePayload
  split
  · next malformed => simp [malformed]
  · next malformed => simp [malformed]
  · next raised => simp [raised]
  · next raised => simp [raised]
  · next members loaded =>
      split <;> simp [loaded]
  · next loaded => simp [loaded]

/-- **Payloads.**  `parse_payload` returns, and then with nothing or with a message about a
positive id at an aware time, exactly for the payloads on which `json.loads` neither meets an
integer literal beyond the digit limit nor nests beyond the recursion limit. -/
theorem parsePayload_returns (d : Decoder) (payload : List UInt8) :
    (∃ result, parsePayload d payload = .ok result ∧ ∀ message, result = some message →
        1 ≤ message.vehicleId.1 ∧ message.timestamp.1.isAware = true) ↔
      d.loads payload ≠ .error .valueError ∧ d.loads payload ≠ .error .recursionError := by
  rw [← parsePayload_eq_ok]
  constructor
  · rintro ⟨result, returned, -⟩
    exact ⟨result, returned⟩
  · rintro ⟨result, returned⟩
    exact ⟨result, returned, fun message _ => ⟨message.vehicleId.2, message.timestamp.2⟩⟩

/-- Reads a payload of ASCII digits as Python does, and nothing else. -/
def digitsDecoder : Decoder where
  loads payload :=
    if payload ≠ [] ∧ payload.all (fun b => 48 ≤ b ∧ b ≤ 57) then
      if payload.length ≤ maxStrDigits then
        .ok (.int (payload.foldl (fun n b => 10 * n + (b.toNat - 48)) 0 : Nat))
      else .error .valueError
    else .error .jsonDecodeError
  coerce := .asIs

/-- The payload of 4301 digits `1` raises. -/
theorem long_literal_raises :
    ¬ ∀ (d : Decoder) (payload : List UInt8),
      ∃ result, parsePayload d payload = .ok result ∧ ∀ message, result = some message →
        1 ≤ message.vehicleId.1 ∧ message.timestamp.1.isAware = true := by
  intro returns
  obtain ⟨result, returned, -⟩ := returns digitsDecoder (List.replicate 4301 49)
  refine (parsePayload_eq_ok.mp ⟨result, returned⟩).1 ?_
  have digits : (List.replicate 4301 (49 : UInt8)).all (fun b => 48 ≤ b ∧ b ≤ 57) = true := by
    rw [List.all_replicate]
    decide
  have nonempty : List.replicate 4301 (49 : UInt8) ≠ [] := by
    simp only [ne_eq, List.replicate_eq_nil_iff]
    decide
  have long : ¬ (List.replicate 4301 (49 : UInt8)).length ≤ maxStrDigits := by
    rw [List.length_replicate]
    decide
  simp only [digitsDecoder, nonempty, ne_eq, not_false_eq_true, digits, and_self, if_true, long,
    if_false]

end FleetTracking
