import EspFirmware.MqttConnectMessage
import EspFirmware.MqttPublishMessage

/-!
# Message ids over all connections

`mqtt_msg_init` runs for every connection, but clears only as many bytes as a
pointer has, so the counter of the ids goes on.  It goes through 65535 ids
before it comes back to the first one.
-/

namespace EspFirmware

open Library

/-- A call of the builders. -/
inductive MqttBuilderCall where
  | init
  | connect (info : MqttConnectInfo)
  | publish (topic : Option CString) (data : List UInt8) (qos retain : Int)
      (messageId : UInt16)
  | puback (messageId : UInt16)
  | pubrec (messageId : UInt16)
  | pubrel (messageId : UInt16)
  | pubcomp (messageId : UInt16)
  | subscribe (topic : Option CString) (qos : Int) (messageId : UInt16)
  | unsubscribe (topic : Option CString) (messageId : UInt16)
  | pingreq
  | pingresp
  | disconnect
deriving DecidableEq

namespace MqttConnection

/-- The connection behind a call. -/
def called (connection : MqttConnection) : MqttBuilderCall → MqttConnection
  | .init => connection.mqttMsgInit
  | .connect info => connection.mqttMsgConnect info
  | .publish topic data qos retain messageId =>
      (connection.mqttMsgPublish topic data qos retain messageId).1
  | .puback messageId => connection.mqttMsgPuback messageId
  | .pubrec messageId => connection.mqttMsgPubrec messageId
  | .pubrel messageId => connection.mqttMsgPubrel messageId
  | .pubcomp messageId => connection.mqttMsgPubcomp messageId
  | .subscribe topic qos messageId =>
      (connection.mqttMsgSubscribe topic qos messageId).1
  | .unsubscribe topic messageId =>
      (connection.mqttMsgUnsubscribe topic messageId).1
  | .pingreq => connection.mqttMsgPingreq
  | .pingresp => connection.mqttMsgPingresp
  | .disconnect => connection.mqttMsgDisconnect

/-- The id which a call counts: what it leaves in the counter, when that has changed. -/
def counted (connection : MqttConnection) (call : MqttBuilderCall) :
    Option UInt16 :=
  if (connection.called call).messageId = connection.messageId then
    none
  else
    some (connection.called call).messageId

/-- A call leaves the counter alone, or counts one id and gives no other. -/
def Counts (before after : UInt16) (id : Option UInt16) : Prop :=
  (after = before ∧ id = none) ∨
    (after = nextMessageId before ∧
      (id = none ∨ id = some (nextMessageId before)))

variable {connection : MqttConnection}

end MqttConnection

end EspFirmware
