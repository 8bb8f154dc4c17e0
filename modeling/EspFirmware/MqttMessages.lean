import EspFirmware.MqttPackets

/-!
# Building messages

The builders of `mqtt_msg.c`.  A message is built behind three bytes of the
buffer, and its fixed header is put in front of it last.
-/

namespace EspFirmware

open Library

/-- `MQTT_MAX_FIXED_HEADER_SIZE`. -/
def mqttMaxFixedHeaderSize : Nat := 3

/-- `mqtt_message_t`; `data` is a place of the buffer of the connection. -/
structure MqttMessage where
  data : Nat
  length : Nat
deriving DecidableEq

/-- `mqtt_connection_t`, whose buffer has room for a fixed header. -/
structure MqttConnection where
  message : MqttMessage
  messageId : UInt16
  buffer : List UInt8
  bufferLength : UInt16
  sized : buffer.length = bufferLength.toNat
  header : mqttMaxFixedHeaderSize ≤ bufferLength.toNat
deriving DecidableEq

/-- A string which is there and not empty. -/
def given (string : Option CString) : Option CString :=
  string.filter fun string => string.bytes ≠ []

namespace MqttConnection

/-- The bytes of the message. -/
def outbound (connection : MqttConnection) : List UInt8 :=
  (connection.buffer.drop connection.message.data).take
    connection.message.length

/-- `mqtt_msg_init` for a buffer; the size of a pointer is cleared, which is not the id. -/
def mqttMsgInit (connection : MqttConnection) : MqttConnection :=
  { connection with
    message := { data := 0, length := connection.message.length } }

/-- Store bytes behind the message. -/
def push (connection : MqttConnection) (bytes : List UInt8)
    (fits :
      connection.message.length + bytes.length ≤
        connection.bufferLength.toNat) :
    MqttConnection :=
  { connection with
    message :=
      { connection.message with
        length := connection.message.length + bytes.length }
    buffer := osMemcpy connection.buffer connection.message.length bytes
    sized := by
      rw [length_osMemcpy (by rwa [connection.sized]), connection.sized] }

/-- `append_string`. -/
def appendString (connection : MqttConnection) (string : CString) :
    Except MqttConnection MqttConnection :=
  let len := string.strlen
  if fits :
      connection.message.length + len + 2 ≤ connection.bufferLength.toNat then
    .ok
      (connection.push
        (UInt8.ofNat (len >>> 8) :: UInt8.ofNat (len &&& 0xFF) ::
          string.bytes)
        (by
          have same : string.bytes.length = len := rfl
          rw [List.length_cons, List.length_cons, same]
          omega))
  else
    .error connection

/-- The bytes of a string or of the data, without a length. -/
def appendBytes (connection : MqttConnection) (bytes : List UInt8) :
    Except MqttConnection MqttConnection :=
  if fits :
      connection.message.length + bytes.length ≤
        connection.bufferLength.toNat then
    .ok (connection.push bytes fits)
  else
    .error connection

/-- The loop of `append_message_id`, which counts up once more when it meets 0. -/
def nextMessageId (messageId : UInt16) : UInt16 :=
  if messageId + 1 = 0 then
    messageId + 2
  else
    messageId + 1

/-- The id of a message, and the counter behind it. -/
def assignMessageId (counter messageId : UInt16) : UInt16 × UInt16 :=
  if messageId = 0 then
    (nextMessageId counter, nextMessageId counter)
  else
    (messageId, counter)

/-- `append_message_id`, which returns 0 when there is no room. -/
def appendMessageId (connection : MqttConnection) (messageId : UInt16) :
    MqttConnection × UInt16 :=
  let assigned := assignMessageId connection.messageId messageId
  let counted := { connection with messageId := assigned.2 }
  if fits :
      counted.message.length + 2 ≤ counted.bufferLength.toNat then
    (counted.push
      [UInt8.ofNat (assigned.1.toNat >>> 8),
        UInt8.ofNat (assigned.1.toNat &&& 0xFF)]
      fits,
      assigned.1)
  else
    (counted, 0)

/-- `init_message`. -/
def initMessage (connection : MqttConnection) : MqttConnection :=
  { connection with
    message :=
      { connection.message with length := mqttMaxFixedHeaderSize } }

/-- `fail_message`. -/
def failMessage (connection : MqttConnection) : MqttConnection :=
  { connection with message := { data := 0, length := 0 } }

/-- The first byte, from the four fields. -/
def fixedHeader
    (type : MqttMessageType) (dup qos retain : Int) : UInt8 :=
  (type.code &&& 0x0F) <<< 4 ||| (UInt8.ofInt dup &&& 1) <<< 3 |||
    (UInt8.ofInt qos &&& 3) <<< 1 ||| (UInt8.ofInt retain &&& 1)

/-- `fini_message`. -/
def finiMessage
    (connection : MqttConnection)
    (type : MqttMessageType) (dup qos retain : Int) :
    MqttConnection :=
  let remainingLength := connection.message.length - mqttMaxFixedHeaderSize
  if 127 < remainingLength then
    { connection with
      message := { data := 0, length := remainingLength + 3 }
      buffer :=
        ((connection.buffer.set 0 (fixedHeader type dup qos retain)).set 1
          (UInt8.ofNat (0x80 ||| remainingLength % 128))).set 2
          (UInt8.ofNat (remainingLength / 128))
      sized := by
        simpa using connection.sized }
  else
    { connection with
      message := { data := 1, length := remainingLength + 2 }
      buffer :=
        (connection.buffer.set 1 (fixedHeader type dup qos retain)).set 2
          (UInt8.ofNat remainingLength)
      sized := by
        simpa using connection.sized }

end MqttConnection

/-! ## The builders -/

/-- `mqtt_connect_info_t`. -/
structure MqttConnectInfo where
  clientId : Option CString
  username : Option CString
  password : Option CString
  willTopic : Option CString
  willMessage : CString
  keepalive : Int
  willQos : Int
  willRetain : Int
  cleanSession : Int
deriving DecidableEq

/-- `mqtt_connect_variable_header`, before the flags are set. -/
def MqttConnectInfo.variableHeader (info : MqttConnectInfo) : List UInt8 :=
  0 :: 6 ::
    (ascii "MQIsdp" ++
      [3, 0, UInt8.ofInt (info.keepalive >>> (8 : Nat)),
        UInt8.ofInt info.keepalive &&& 0xFF])

namespace MqttConnection

/-- `variable_header->flags |= flag`; the flags are at place 9 of the header. -/
def orFlags (connection : MqttConnection) (flag : UInt8) : MqttConnection :=
  { connection with
    buffer :=
      connection.buffer.modify (mqttMaxFixedHeaderSize + 9) (· ||| flag)
    sized := by
      simpa using connection.sized }

/-- A flag which is set under a condition. -/
def orFlagsIf (connection : MqttConnection) (condition : Bool) (flag : UInt8) :
    MqttConnection :=
  if condition then
    connection.orFlags flag
  else
    connection

/-- The client id of `mqtt_msg_connect`, which has to be there. -/
def appendClientId (connection : MqttConnection) (info : MqttConnectInfo) :
    Except MqttConnection MqttConnection :=
  match given info.clientId with
  | none => .error connection
  | some clientId => connection.appendString clientId

/-- The will of `mqtt_msg_connect`. -/
def appendWill (connection : MqttConnection) (info : MqttConnectInfo) :
    Except MqttConnection MqttConnection :=
  match given info.willTopic with
  | none => .ok connection
  | some willTopic => do
      let connection ← connection.appendString willTopic
      let connection ← connection.appendString info.willMessage
      let connection := connection.orFlags 0x04
      let connection := connection.orFlagsIf (info.willRetain ≠ 0) 0x20
      return connection.orFlags ((UInt8.ofInt info.willQos &&& 3) <<< 3)

/-- The user name and the password of `mqtt_msg_connect`, each with its flag. -/
def appendLogin
    (connection : MqttConnection) (login : Option CString) (flag : UInt8) :
    Except MqttConnection MqttConnection :=
  match given login with
  | none => .ok connection
  | some login => do
      let connection ← connection.appendString login
      return connection.orFlags flag

/-- Everything between `init_message` and `fini_message` of `mqtt_msg_connect`. -/
def appendConnect (connection : MqttConnection) (info : MqttConnectInfo) :
    Except MqttConnection MqttConnection := do
  let connection ← connection.appendBytes info.variableHeader
  let connection := connection.orFlagsIf (info.cleanSession ≠ 0) 0x02
  let connection ← connection.appendClientId info
  let connection ← connection.appendWill info
  let connection ← connection.appendLogin info.username 0x80
  connection.appendLogin info.password 0x40

/-- A message which is finished, or given up. -/
def close
    (built : Except MqttConnection MqttConnection)
    (type : MqttMessageType) (qos retain : Int) : MqttConnection :=
  match built with
  | .error connection => connection.failMessage
  | .ok connection => connection.finiMessage type 0 qos retain

/-- `mqtt_msg_connect`. -/
def mqttMsgConnect (connection : MqttConnection) (info : MqttConnectInfo) :
    MqttConnection :=
  close (connection.initMessage.appendConnect info) .connect 0 0

/--
`mqtt_msg_publish`; the caller's `*message_id` is left alone without a topic or
without room for it.
-/
def mqttMsgPublish
    (connection : MqttConnection)
    (topic : Option CString) (data : List UInt8) (qos retain : Int)
    (messageId : UInt16) :
    MqttConnection × UInt16 :=
  let connection := connection.initMessage
  match given topic with
  | none => (connection.failMessage, messageId)
  | some topic =>
      match connection.appendString topic with
      | .error connection => (connection.failMessage, messageId)
      | .ok connection =>
          if 0 < qos then
            let added := connection.appendMessageId 0
            if added.2 = 0 then
              (added.1.failMessage, added.2)
            else
              (close (added.1.appendBytes data) .publish qos retain, added.2)
          else
            (close (connection.appendBytes data) .publish qos retain, 0)

/-- The messages which are an id. -/
def idMessage
    (connection : MqttConnection) (type : MqttMessageType) (qos : Int)
    (messageId : UInt16) :
    MqttConnection :=
  let added := connection.initMessage.appendMessageId messageId
  if added.2 = 0 then
    added.1.failMessage
  else
    added.1.finiMessage type 0 qos 0

/-- `mqtt_msg_puback`. -/
def mqttMsgPuback (connection : MqttConnection) (messageId : UInt16) :
    MqttConnection :=
  connection.idMessage .puback 0 messageId

/-- `mqtt_msg_pubrec`. -/
def mqttMsgPubrec (connection : MqttConnection) (messageId : UInt16) :
    MqttConnection :=
  connection.idMessage .pubrec 0 messageId

/-- `mqtt_msg_pubrel`. -/
def mqttMsgPubrel (connection : MqttConnection) (messageId : UInt16) :
    MqttConnection :=
  connection.idMessage .pubrel 1 messageId

/-- `mqtt_msg_pubcomp`. -/
def mqttMsgPubcomp (connection : MqttConnection) (messageId : UInt16) :
    MqttConnection :=
  connection.idMessage .pubcomp 0 messageId

/-- The two messages which name a topic behind a new id, and what is behind the topic. -/
def topicMessage
    (connection : MqttConnection) (type : MqttMessageType)
    (topic : Option CString) (behind : List UInt8) (messageId : UInt16) :
    MqttConnection × UInt16 :=
  let connection := connection.initMessage
  match given topic with
  | none => (connection.failMessage, messageId)
  | some topic =>
      let added := connection.appendMessageId 0
      if added.2 = 0 then
        (added.1.failMessage, added.2)
      else
        (close
          (added.1.appendString topic >>= fun connection =>
            connection.appendBytes behind)
          type 1 0,
          added.2)

/-- `mqtt_msg_subscribe`. -/
def mqttMsgSubscribe
    (connection : MqttConnection) (topic : Option CString) (qos : Int)
    (messageId : UInt16) :
    MqttConnection × UInt16 :=
  connection.topicMessage .subscribe topic [UInt8.ofInt qos] messageId

/-- `mqtt_msg_unsubscribe`. -/
def mqttMsgUnsubscribe
    (connection : MqttConnection) (topic : Option CString)
    (messageId : UInt16) :
    MqttConnection × UInt16 :=
  connection.topicMessage .unsubscribe topic [] messageId

/-- The messages without anything behind the fixed header. -/
def bareMessage (connection : MqttConnection) (type : MqttMessageType) :
    MqttConnection :=
  connection.initMessage.finiMessage type 0 0 0

/-- `mqtt_msg_pingreq`. -/
def mqttMsgPingreq (connection : MqttConnection) : MqttConnection :=
  connection.bareMessage .pingreq

/-- `mqtt_msg_pingresp`. -/
def mqttMsgPingresp (connection : MqttConnection) : MqttConnection :=
  connection.bareMessage .pingresp

/-- `mqtt_msg_disconnect`. -/
def mqttMsgDisconnect (connection : MqttConnection) : MqttConnection :=
  connection.bareMessage .disconnect

end MqttConnection

end EspFirmware
