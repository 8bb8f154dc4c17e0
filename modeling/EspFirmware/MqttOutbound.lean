import EspFirmware.MqttConnectMessage
import EspFirmware.MqttPublishMessage

/-!
# Whole packets only

Whatever the builders are asked for, and whatever they find in the buffer, what
they leave is a whole packet of their type, or there is no message.
-/

namespace EspFirmware

open Library

/-- Bytes are a packet of a type. -/
def WholePacket (type : MqttMessageType) (bytes : List UInt8) : Prop :=
  ∃ qos retain body, IsPacket bytes type qos retain body

namespace MqttConnection

/--
A builder leaves a whole packet of its type, or no message, and the buffer is
as large as before.
-/
structure Complete
    (built before : MqttConnection) (type : MqttMessageType) : Prop where
  room : built.bufferLength = before.bufferLength
  whole :
    before.bufferLength.toNat < 16387 →
      built.outbound = [] ∨ WholePacket type built.outbound

variable {connection before : MqttConnection} {body : List UInt8}

theorem complete_failMessage
    (same : connection.bufferLength = before.bufferLength)
    (type : MqttMessageType) :
    Complete connection.failMessage before type where
  room := same
  whole := fun _ => .inl rfl

theorem bufferLength_finiMessage
    (connection : MqttConnection) (type : MqttMessageType)
    (dup qos retain : Int) :
    (connection.finiMessage type dup qos retain).bufferLength =
      connection.bufferLength := by
  rw [finiMessage]
  split <;> rfl

/-- A message in the buffer is finished. -/
theorem Built.complete
    (built : connection.Built body)
    (same : connection.bufferLength = before.bufferLength)
    (type : MqttMessageType) (qos retain : Int) :
    Complete (connection.finiMessage type 0 qos retain) before type where
  room := (bufferLength_finiMessage connection type 0 qos retain).trans same
  whole := by
    intro bound
    have within := built.within
    rw [same] at within
    have small : body.length < 16384 := by
      omega
    refine .inr ⟨qosField qos, flagField retain, body, ?_⟩
    rw [built.outbound_finiMessage]
    exact (isPacket_finished_iff type qos retain body).mpr small

/-- Steps of a builder, and its end. -/
theorem Extends.complete
    {step : MqttConnection → Except MqttConnection MqttConnection}
    {after : List UInt8}
    (steps : Extends step body after)
    (built : connection.Built body)
    (same : connection.bufferLength = before.bufferLength)
    (type : MqttMessageType) (qos retain : Int) :
    Complete (close (step connection) type qos retain) before type := by
  have taken := steps connection built
  by_cases fits : 3 + after.length ≤ connection.bufferLength.toNat
  · rcases taken.1 fits with ⟨done, stepped, whole, frame⟩
    rw [stepped]
    exact whole.complete (frame.bufferLength.trans same) type qos retain
  · rcases taken.2 (Nat.lt_of_not_le fits) with ⟨failed, stepped, frame⟩
    rw [stepped]
    exact complete_failMessage (frame.bufferLength.trans same) type

/-- An id is stored, or there was no room for it. -/
theorem Built.appendMessageId
    (built : connection.Built body) (messageId : UInt16) :
    (connection.appendMessageId messageId).1.bufferLength =
        connection.bufferLength ∧
      ((connection.appendMessageId messageId).2 ≠ 0 →
        ∃ after, (connection.appendMessageId messageId).1.Built after) := by
  by_cases room : 5 + body.length ≤ connection.bufferLength.toNat
  · rcases built.appendMessageId_room messageId room with
      ⟨-, stored, same, -⟩
    exact ⟨same, fun _ => ⟨_, stored⟩⟩
  · rcases built.appendMessageId_full messageId (Nat.lt_of_not_le room) with
      ⟨none, same, -⟩
    exact ⟨same, fun some => absurd none some⟩

/-! ## The builders -/

theorem bufferLength_initMessage (connection : MqttConnection) :
    connection.initMessage.bufferLength = connection.bufferLength :=
  rfl

theorem complete_mqttMsgConnect
    (connection : MqttConnection) (info : MqttConnectInfo) :
    Complete (connection.mqttMsgConnect info) connection .connect := by
  cases there : given info.clientId with
  | none =>
      have built := outbound_mqttMsgConnect_of_none there connection
      exact ⟨built.2.bufferLength, fun _ => .inl built.1⟩
  | some clientId =>
      exact
        (extends_appendConnect there).complete
          (built_initMessage connection)
          (bufferLength_initMessage connection) .connect 0 0

theorem complete_mqttMsgPublish
    (connection : MqttConnection) (topic : Option CString)
    (data : List UInt8) (qos retain : Int) (messageId : UInt16) :
    Complete
      (connection.mqttMsgPublish topic data qos retain messageId).1
      connection .publish := by
  have start := bufferLength_initMessage connection
  rw [mqttMsgPublish]
  cases given topic with
  | none =>
      exact complete_failMessage start .publish
  | some text =>
      have step :=
        extends_appendString [] text _ (built_initMessage connection)
      by_cases fits :
          3 + ([] ++ mqttString text.bytes).length ≤
            connection.initMessage.bufferLength.toNat
      · rcases step.1 fits with ⟨named, taken, built, frame⟩
        have same := frame.bufferLength.trans start
        dsimp only at taken ⊢
        rw [taken]
        dsimp only
        split
        · rcases built.appendMessageId 0 with ⟨counted, stored⟩
          split
          · exact complete_failMessage (counted.trans same) .publish
          · next some =>
              rcases stored some with ⟨after, whole⟩
              exact
                (extends_appendBytes after data).complete whole
                  (counted.trans same) .publish qos retain
        · exact
            (extends_appendBytes _ data).complete built same .publish qos
              retain
      · rcases step.2 (Nat.lt_of_not_le fits) with ⟨failed, taken, frame⟩
        have same := frame.bufferLength.trans start
        dsimp only at taken ⊢
        rw [taken]
        exact complete_failMessage same .publish

/-- The messages which are an id. -/
theorem complete_idMessage
    (connection : MqttConnection) (type : MqttMessageType) (qos : Int)
    (messageId : UInt16) :
    Complete (connection.idMessage type qos messageId) connection type := by
  rcases (built_initMessage connection).appendMessageId messageId with
    ⟨counted, stored⟩
  have same := counted.trans (bufferLength_initMessage connection)
  rw [idMessage]
  split
  · exact complete_failMessage same type
  · next some =>
      rcases stored some with ⟨after, built⟩
      exact built.complete same type qos 0

/-- The messages which name a topic. -/
theorem complete_topicMessage
    (connection : MqttConnection) (type : MqttMessageType)
    (topic : Option CString) (behind : List UInt8) (messageId : UInt16) :
    Complete (connection.topicMessage type topic behind messageId).1
      connection type := by
  have start := bufferLength_initMessage connection
  rw [topicMessage]
  cases given topic with
  | none =>
      exact complete_failMessage start type
  | some text =>
      rcases (built_initMessage connection).appendMessageId 0 with
        ⟨counted, stored⟩
      have same := counted.trans start
      dsimp only
      split
      · exact complete_failMessage same type
      · next some =>
          rcases stored some with ⟨after, built⟩
          exact
            ((extends_appendString after text).bind
              (extends_appendBytes _ behind) (by simp)).complete built same
              type 1 0

/-- The messages without anything behind the fixed header. -/
theorem complete_bareMessage
    (connection : MqttConnection) (type : MqttMessageType) :
    Complete (connection.bareMessage type) connection type :=
  (built_initMessage connection).complete
    (bufferLength_initMessage connection) type 0 0

/-- A message is not longer than the buffer. -/
theorem length_outbound_le (connection : MqttConnection) :
    connection.outbound.length ≤ connection.bufferLength.toNat := by
  rw [outbound, List.length_take, List.length_drop, ← connection.sized]
  omega

end MqttConnection

end EspFirmware
