import EspFirmware.Library.Custody
import EspFirmware.MqttConnectMessage
import EspFirmware.MqttPublishMessage
import EspFirmware.MqttQueue
import EspFirmware.StrToIp

/-!
# The client

`mqtt.c`: the callbacks of the SDK, the timer and the task, each as a function
from the client to the client and to what it does outside of it.
-/

namespace EspFirmware

open Library

/-- `MQTT_SEND_TIMOUT`. -/
def mqttSendTimout : Nat := 5

/-- `MQTT_RECONNECT_TIMEOUT`. -/
def mqttReconnectTimeout : Nat := 5

/-- The members of `tConnState` which the client ever has. -/
inductive ConnState where
  | wifiInit
  | tcpReconnectReq
  | tcpReconnect
  | tcpConnecting
  | mqttConnectSending
  | mqttData
deriving DecidableEq

/-- The two blocks of a connection, `pCon` and `pCon->proto.tcp`. -/
inductive EspconnBlock where
  | pCon (number : Nat)
  | tcp (number : Nat)
deriving DecidableEq

/-- Who calls `espconn_sent` or `espconn_secure_sent`. -/
inductive MqttSender where
  | connectCb
  | timer
  | task
deriving DecidableEq

/-- What the client does outside of itself. -/
inductive MqttAction where
  | heap (event : HeapEvent EspconnBlock)
  | connect (pCon : Option Nat)
  | gethostbyname (pCon : Option Nat)
  | disconnect (pCon : Option Nat)
  | sent (sender : MqttSender) (pCon : Option Nat) (bytes : List UInt8)
  | connectedCb
  | disconnectedCb
  | publishedCb
  /-- The topic and the data which the callback copies; `none` where it copies from `NULL`. -/
  | dataCb (copied : Option (List UInt8 × List UInt8))
  | post
deriving DecidableEq

/-- A call of the client by the application. -/
inductive MqttCall where
  | publish (topic : Option CString) (data : List UInt8) (qos retain : Int)
  | subscribe (topic : Option CString) (qos : UInt8)
deriving DecidableEq

/-- `MQTT_Client`; `connections` numbers the connections that were made. -/
structure MqttClient where
  pCon : Option Nat
  connections : Nat
  host : CString
  ip : UInt32
  connectInfo : MqttConnectInfo
  inBuffer : List UInt8
  connection : MqttConnection
  pendingMsgId : UInt16
  pendingMsgType : Option MqttMessageType
  connectedCalls : List MqttCall
  timerArmed : Bool
  keepAliveTick : Nat
  reconnectTick : Nat
  sendTimeout : Nat
  connState : ConnState
  msgQueue : MsgQueue queueBufferSize

namespace MqttClient

/-! ## Connections -/

/-- `MQTT_Disconnect`. -/
def mqttDisconnect (client : MqttClient) : MqttClient × List MqttAction :=
  let disarmed := { client with timerArmed := false }
  match client.pCon with
  | none => (disarmed, [])
  | some number =>
      ({ disarmed with pCon := none },
        [.heap (.free (.tcp number)), .heap (.free (.pCon number))])

/-- `MQTT_Connect`; a host name may be in the cache of the SDK. -/
def mqttConnect (client : MqttClient) (cached : Option UInt32) :
    MqttClient × List MqttAction :=
  let (client, freed) := client.mqttDisconnect
  let number := client.connections
  let client :=
    { client with
      pCon := some number
      connections := number + 1
      timerArmed := true
      keepAliveTick := 0
      reconnectTick := 0
      connState := .tcpConnecting }
  let taken :=
    [.heap (.take (.pCon number)), .heap (.take (.tcp number))]
  match utilsStrToIp client.host.bytes with
  | some _ => (client, freed ++ taken ++ [.connect client.pCon])
  | none =>
      ({ client with ip := cached.getD client.ip },
        freed ++ taken ++ [.gethostbyname client.pCon])

/-- `mqtt_dns_found`. -/
def mqttDnsFound (client : MqttClient) (ipaddr : Option UInt32) :
    MqttClient × List MqttAction :=
  match ipaddr with
  | none => ({ client with connState := .tcpReconnectReq }, [])
  | some addr =>
      if client.ip = 0 ∧ addr ≠ 0 then
        ({ client with connState := .tcpConnecting },
          [.connect client.pCon, .post])
      else
        (client, [.post])

/-! ## Sending -/

/-- What is pending once the message of the connection is sent. -/
def pend (client : MqttClient) (connection : MqttConnection) : MqttClient :=
  { client with
    connection := connection
    pendingMsgType :=
      mqttGetType (connection.buffer.getD connection.message.data 0)
    pendingMsgId :=
      (mqttGetId (connection.buffer.drop connection.message.data)
        connection.message.length).getD 0
    sendTimeout := mqttSendTimout }

/-- `mqtt_tcpclient_connect_cb`. -/
def mqttTcpclientConnectCb (client : MqttClient) :
    MqttClient × List MqttAction :=
  let connection :=
    client.connection.mqttMsgInit.mqttMsgConnect client.connectInfo
  ({ client.pend connection with connState := .mqttConnectSending },
    [.sent .connectCb client.pCon connection.outbound, .post])

/-- `mqtt_tcpclient_sent_cb`. -/
def mqttTcpclientSentCb (client : MqttClient) :
    MqttClient × List MqttAction :=
  ({ client with sendTimeout := 0 },
    if client.connState = .mqttData ∧
        client.pendingMsgType = some .publish then
      [.publishedCb, .post]
    else
      [.post])

/-- `mqtt_tcpclient_discon_cb`. -/
def mqttTcpclientDisconCb (client : MqttClient) :
    MqttClient × List MqttAction :=
  ({ client with connState := .tcpReconnectReq }, [.disconnectedCb, .post])

/-- `mqtt_tcpclient_recon_cb`. -/
def mqttTcpclientReconCb (client : MqttClient) :
    MqttClient × List MqttAction :=
  ({ client with connState := .tcpReconnectReq }, [.post])

/-- The last line of `mqtt_timer`. -/
def countDown (client : MqttClient) : MqttClient :=
  { client with sendTimeout := client.sendTimeout - 1 }

/-- The keepalive time as the timer compares it, without a sign. -/
def keepalive (client : MqttClient) : Nat :=
  (client.connectInfo.keepalive % 2 ^ 32).toNat

/-- `mqtt_timer`. -/
def mqttTimer (client : MqttClient) : MqttClient × List MqttAction :=
  match client.connState with
  | .mqttData =>
      let tick := (client.keepAliveTick + 1) % 2 ^ 32
      if client.keepalive < tick then
        let connection := client.connection.mqttMsgPingreq
        ({ client.pend connection with keepAliveTick := 0 }.countDown,
          [.sent .timer client.pCon connection.outbound, .post])
      else
        ({ client with keepAliveTick := tick }.countDown, [])
  | .tcpReconnectReq =>
      let tick := client.reconnectTick + 1
      if mqttReconnectTimeout < tick then
        ({ client with
            reconnectTick := 0
            connState := .tcpReconnect }.countDown,
          [.post])
      else
        ({ client with reconnectTick := tick }.countDown, [])
  | _ => (client.countDown, [])

/-- What the stack and the SDK leave open in a call of `MQTT_Task`. -/
structure TaskAnswers where
  isBegin : Bool
  stale : UInt8
  cached : Option UInt32
deriving DecidableEq

/-- `MQTT_Task`; the type of an empty packet is read from the stack. -/
def mqttTask (client : MqttClient) (answers : TaskAnswers) :
    MqttClient × List MqttAction :=
  match client.connState with
  | .tcpReconnect => client.mqttConnect answers.cached
  | .mqttData =>
      if client.msgQueue.isEmpty ∨ client.sendTimeout ≠ 0 then
        (client, [])
      else
        let read := client.msgQueue.gets mqttBufSize answers.isBegin
        let client := { client with msgQueue := read.1 }
        match read.2 with
        | none => (client, [])
        | some packet =>
            ({ client with
                pendingMsgType :=
                  mqttGetType (packet.headD answers.stale)
                pendingMsgId :=
                  (mqttGetId packet packet.length).getD 0
                sendTimeout := mqttSendTimout },
              [.sent .task client.pCon packet])
  | _ => (client, [])

/-! ## Calls of the application -/

/-- The end of `MQTT_Publish` and `MQTT_Subscribe`; the second part is what they return. -/
def enqueue (client : MqttClient) (stack : Nat → Bool) :
    MqttClient × List MqttAction × Bool :=
  let put := client.msgQueue.putDropping stack client.connection.outbound
  ({ client with msgQueue := put.1 }, if put.2 then [.post] else [], put.2)

/-- `MQTT_Publish`. -/
def mqttPublish
    (client : MqttClient) (topic : Option CString) (data : List UInt8)
    (qos retain : Int) (stack : Nat → Bool) :
    MqttClient × List MqttAction × Bool :=
  let built :=
    client.connection.mqttMsgPublish topic data qos retain
      client.pendingMsgId
  let client :=
    { client with
      connection := built.1
      pendingMsgId := built.2 }
  if client.connection.message.length = 0 then
    (client, [], false)
  else
    client.enqueue stack

/-- `MQTT_Subscribe`, which asks for level 0 whatever it is given. -/
def mqttSubscribe
    (client : MqttClient) (topic : Option CString) (_qos : UInt8)
    (stack : Nat → Bool) :
    MqttClient × List MqttAction × Bool :=
  let built :=
    client.connection.mqttMsgSubscribe topic 0 client.pendingMsgId
  { client with
    connection := built.1
    pendingMsgId := built.2 }.enqueue stack

/-- A call of the application. -/
def call (client : MqttClient) (stack : Nat → Bool) :
    MqttCall → MqttClient × List MqttAction × Bool
  | .publish topic data qos retain =>
      client.mqttPublish topic data qos retain stack
  | .subscribe topic qos => client.mqttSubscribe topic qos stack

/-- The calls of a callback, one after another; each finds its own stack. -/
def calls (client : MqttClient) (stack : Nat → Nat → Bool) :
    List MqttCall → MqttClient × List MqttAction
  | [] => (client, [])
  | first :: rest =>
      let made := client.call (stack 0) first
      let others := made.1.calls (fun number => stack (number + 1)) rest
      (others.1, made.2.1 ++ others.2)

/-! ## The client of the firmware -/

/-- `MQTT_InitConnection`, `MQTT_InitClient` and `MQTT_InitLWT`. -/
def init
    (host : CString) (connectInfo : MqttConnectInfo)
    (connectedCalls : List MqttCall) :
    MqttClient where
  pCon := none
  connections := 0
  host := host
  ip := 0
  connectInfo := connectInfo
  inBuffer := List.replicate mqttBufSize 0
  connection :=
    { message := { data := 0, length := 0 }
      messageId := 0
      buffer := List.replicate mqttBufSize 0
      bufferLength := 1024
      sized := List.length_replicate
      header := by
        decide }
  pendingMsgId := 0
  pendingMsgType := none
  connectedCalls := connectedCalls
  timerArmed := false
  keepAliveTick := 0
  reconnectTick := 0
  sendTimeout := 0
  connState := .wifiInit
  msgQueue := .init queueBufferSize (by decide)

end MqttClient

/-- A string of `user/mqtt.c` or `user_config.h`. -/
def mqttText (text : String) (nonzero : 0 ∉ ascii text) : CString where
  bytes := ascii text
  nonzero := nonzero

/-- `mqttConnectedCb`. -/
def mqttConnectedCb : List MqttCall :=
  [.subscribe (mqttText "/mqtt/topic/0" (by decide)) 0,
    .subscribe (mqttText "/mqtt/topic/1" (by decide)) 1,
    .subscribe (mqttText "/mqtt/topic/2" (by decide)) 2,
    .publish (mqttText "/mqtt/topic/0" (by decide)) (ascii "hello0") 0 0,
    .publish (mqttText "/mqtt/topic/1" (by decide)) (ascii "hello1") 1 0,
    .publish (mqttText "/mqtt/topic/2" (by decide)) (ascii "hello2") 2 0]

/-- `mqtt_init`. -/
def mqttInit : MqttClient :=
  .init (mqttText "192.168.2.216" (by decide))
    { clientId := mqttText "client_id" (by decide)
      username := mqttText "" (by decide)
      password := mqttText "" (by decide)
      willTopic := mqttText "/lwt" (by decide)
      willMessage := mqttText "offline" (by decide)
      keepalive := 60
      willQos := 0
      willRetain := 0
      cleanSession := 1 }
    mqttConnectedCb

end EspFirmware
