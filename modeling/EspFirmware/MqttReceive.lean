import EspFirmware.MqttClient

/-!
# Receiving

`mqtt_tcpclient_recv` takes what one callback of the SDK hands over for a row
of whole packets.  Only behind a PUBLISH it looks for another packet.
-/

namespace EspFirmware

open Library

/-! ## The callback for data -/

/-- `mqtt_event_data_t`; a pointer is a place of the message. -/
structure MqttEventData where
  topic : Option Nat
  topicLength : Nat
  data : Option Nat
  dataLength : Nat
deriving DecidableEq

/-- The event of `deliver_publish`. -/
def deliverPublish (message : List UInt8) (length : Nat) :
    Option MqttEventData := do
  let topic ← mqttGetPublishTopic message length
  let data ← mqttGetPublishData message length
  pure
    { topic := topic.1
      topicLength := topic.2
      data := data.1
      dataLength := data.2 }

/-- A copy of `mqttDataCb`, which faults when it has something to copy from `NULL`. -/
def copyOf (message : List UInt8) (pointer : Option Nat) (length : Nat) :
    Option (List UInt8) :=
  match pointer with
  | some place => some ((message.drop place).take length)
  | none => if length = 0 then some [] else none

/-- `mqttDataCb`: the topic and the data as it copies them. -/
def mqttDataCb (message : List UInt8) (event : MqttEventData) :
    Option (List UInt8 × List UInt8) := do
  let topic ← copyOf message event.topic event.topicLength
  let data ← copyOf message event.data event.dataLength
  return (topic, data)

namespace MqttClient

/-! ## One packet -/

/-- The data is copied to the front of `in_buffer`. -/
def store (client : MqttClient) (pdata : List UInt8) : MqttClient :=
  { client with inBuffer := osMemcpy client.inBuffer 0 pdata }

/-- A message is put into the queue; a full queue is only reported. -/
def reply (client : MqttClient) (connection : MqttConnection) : MqttClient :=
  { client with
    connection := connection
    msgQueue := (client.msgQueue.puts connection.outbound).1 }

/-- The reply to a PUBLISH. -/
def acknowledge (client : MqttClient) (msgQos : UInt8) (msgId : UInt16) :
    MqttClient :=
  if msgQos = 1 then
    client.reply (client.connection.mqttMsgPuback msgId)
  else if msgQos = 2 then
    client.reply (client.connection.mqttMsgPubrec msgId)
  else
    client

/-- The inner `switch`, on the type of the message in the buffer. -/
def receiveData
    (client : MqttClient) (msgType : Option MqttMessageType)
    (msgQos : UInt8) (msgId : UInt16) (len : Nat) :
    Option (MqttClient × List MqttAction) :=
  match msgType with
  | some .publish => do
      let event ← deliverPublish client.inBuffer len
      pure
        (client.acknowledge msgQos msgId,
          [.dataCb (mqttDataCb client.inBuffer event)])
  | some .pubrec =>
      some (client.reply (client.connection.mqttMsgPubrel msgId), [])
  | some .pubrel =>
      some (client.reply (client.connection.mqttMsgPubcomp msgId), [])
  | some .pingreq =>
      some (client.reply client.connection.mqttMsgPingresp, [])
  | _ => some (client, [])

/-- What a client waits for after CONNECT. -/
def receiveConnack
    (client : MqttClient) (msgType : Option MqttMessageType)
    (stack : Nat → Nat → Bool) :
    MqttClient × List MqttAction :=
  if msgType = some .connack then
    if client.pendingMsgType ≠ some .connect then
      (client, [.disconnect client.pCon])
    else
      let made :=
        { client with connState := .mqttData }.calls stack
          client.connectedCalls
      (made.1, .connectedCb :: made.2)
  else
    (client, [])

/--
From `READPACKET` on: what becomes of the client, and what is left of the data
when the code goes back there.
-/
def readPacket
    (client : MqttClient) (pdata : List UInt8) (stack : Nat → Nat → Bool) :
    Option (MqttClient × List MqttAction × Option (List UInt8)) :=
  if pdata.length < mqttBufSize ∧ 0 < pdata.length then do
    let client := client.store pdata
    let first ← client.inBuffer[0]?
    let msgType := mqttGetType first
    let msgId ← mqttGetId client.inBuffer mqttBufSize
    match client.connState with
    | .mqttConnectSending =>
        let received := client.receiveConnack msgType stack
        return (received.1, received.2, none)
    | .mqttData =>
        let total ← mqttGetTotalLength client.inBuffer pdata.length
        -- `message_length` has 16 bits
        let messageLength := (total % 65536).toNat
        let received ←
          client.receiveData msgType (mqttGetQos first) msgId pdata.length
        if msgType = some .publish ∧ messageLength < pdata.length then
          return (received.1, received.2, some (pdata.drop messageLength))
        else
          return (received.1, received.2, none)
    | _ => return (client, [], none)
  else
    some (client, [], none)

/-- `mqtt_tcpclient_recv`, which may go back to `READPACKET` as often as there is fuel. -/
def readPackets (stack : Nat → Nat → Bool) :
    Nat → MqttClient → List UInt8 → Option (MqttClient × List MqttAction)
  | 0, _, _ => none
  | fuel + 1, client, pdata => do
      let (client, actions, again) ← client.readPacket pdata stack
      match again with
      | none => return (client, actions ++ [.post])
      | some rest =>
          let (client, others) ← readPackets stack fuel client rest
          return (client, actions ++ others)

/-- `mqtt_tcpclient_recv`, with fuel for every run of it that ends. -/
def mqttTcpclientRecv
    (client : MqttClient) (pdata : List UInt8) (stack : Nat → Nat → Bool) :
    Option (MqttClient × List MqttAction) :=
  readPackets stack (pdata.length + 1) client pdata

end MqttClient

end EspFirmware
