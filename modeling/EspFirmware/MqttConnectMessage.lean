import EspFirmware.MqttBuilding

/-!
# CONNECT

`mqtt_msg_connect` sets the flags one after another, while it appends the
strings.  The packet is the one which the connect info means.
-/

namespace EspFirmware

open Library

namespace MqttConnection

variable {connection : MqttConnection}

/-- What is in front of the flags. -/
def connectFront : List UInt8 :=
  mqttString (ascii "MQIsdp") ++ [3]

theorem modify_middle
    (front back : List UInt8) (byte : UInt8) (change : UInt8 → UInt8)
    {place : Nat} (behind : place = front.length) :
    (front ++ byte :: back).modify place change =
      front ++ change byte :: back := by
  subst behind
  induction front with
  | nil =>
      rfl
  | cons head front induction =>
      exact congrArg (head :: ·) induction

variable {flags flag : UInt8} {strings : List UInt8}

theorem Built.orFlags
    (built : connection.Built (connectFront ++ flags :: strings))
    (flag : UInt8) :
    (connection.orFlags flag).Built
        (connectFront ++ (flags ||| flag) :: strings) ∧
      (connection.orFlags flag).SameFrame connection := by
  rcases built.stored with ⟨kind, low, high, rest, stored⟩
  refine ⟨⟨?_, kind, low, high, rest, ?_⟩, rfl, rfl⟩
  · have length := built.length
    rw [List.length_append, List.length_cons] at length ⊢
    exact length
  · change
      connection.buffer.modify (mqttMaxFixedHeaderSize + 9) (· ||| flag) = _
    have place :
        mqttMaxFixedHeaderSize + 9 =
          (kind :: low :: high :: connectFront).length := rfl
    have front :
        connection.buffer =
          (kind :: low :: high :: connectFront) ++
            flags :: (strings ++ rest) := by
      rw [stored, List.append_assoc]
      rfl
    rw [front, modify_middle _ _ _ _ place, List.append_assoc]
    rfl

/-- A flag that is set under a condition. -/
def flagIf (condition : Bool) (flag : UInt8) : UInt8 :=
  if condition then
    flag
  else
    0

theorem Built.orFlagsIf
    (built : connection.Built (connectFront ++ flags :: strings))
    (condition : Bool) (flag : UInt8) :
    (connection.orFlagsIf condition flag).Built
        (connectFront ++ (flags ||| flagIf condition flag) :: strings) ∧
      (connection.orFlagsIf condition flag).SameFrame connection := by
  cases condition with
  | false =>
      have same : flags ||| flagIf false flag = flags := UInt8.or_zero
      rw [same]
      exact ⟨built, rfl, rfl⟩
  | true =>
      exact built.orFlags flag

/-- A string behind the flags. -/
theorem extends_connectString
    (flags : UInt8) (strings : List UInt8) (string : CString) :
    Extends (fun connection => connection.appendString string)
      (connectFront ++ flags :: strings)
      (connectFront ++ flags :: (strings ++ mqttString string.bytes)) := by
  have step :=
    extends_appendString (connectFront ++ flags :: strings) string
  rwa [List.append_assoc, List.cons_append] at step

/-- A login as the packet carries it. -/
def loginOf (login : Option CString) : Option (List UInt8) :=
  (given login).map CString.bytes

theorem extends_appendLogin
    (flags : UInt8) (strings : List UInt8)
    (login : Option CString) (flag : UInt8) :
    Extends (fun connection => connection.appendLogin login flag)
      (connectFront ++ flags :: strings)
      (connectFront ++
        (flags ||| flagIf (loginOf login).isSome flag) ::
          (strings ++ ConnectPacket.loginBytes (loginOf login))) := by
  unfold appendLogin loginOf
  cases given login with
  | none =>
      have same : flags ||| flagIf false flag = flags := UInt8.or_zero
      simp only [Option.map_none, Option.isSome_none, same,
        ConnectPacket.loginBytes, Option.elim_none, List.append_nil]
      exact extends_ok _
  | some login =>
      refine
        (extends_connectString flags strings login).bind
          (extends_of_change (fun connection built => built.orFlags flag) ?_)
          ?_
      · simp [ConnectPacket.loginBytes]
      · simp [ConnectPacket.loginBytes]

/-- A will as the packet carries it. -/
def willOf (info : MqttConnectInfo) : Option MqttWill :=
  (given info.willTopic).map fun willTopic =>
    { topic := willTopic.bytes
      message := info.willMessage.bytes
      qos := qosField info.willQos
      retain := info.willRetain ≠ 0 }

/-- The flags of a will, as they are set one after another. -/
def willMask : Option MqttWill → UInt8
  | none => 0
  | some will =>
      (0x04 : UInt8) ||| flagIf will.retain 0x20 |||
        UInt8.ofNat will.qos.val <<< 3

theorem extends_appendWill
    (flags : UInt8) (strings : List UInt8) (info : MqttConnectInfo) :
    Extends (fun connection => connection.appendWill info)
      (connectFront ++ flags :: strings)
      (connectFront ++
        (flags ||| willMask (willOf info)) ::
          (strings ++ ConnectPacket.willBytes (willOf info))) := by
  unfold appendWill willOf
  cases given info.willTopic with
  | none =>
      have same : flags ||| willMask none = flags := UInt8.or_zero
      simp only [Option.map_none, same, ConnectPacket.willBytes,
        List.append_nil]
      exact extends_ok _
  | some willTopic =>
      simp only [Option.map_some, ConnectPacket.willBytes]
      rw [← List.append_assoc]
      refine (extends_connectString flags strings willTopic).bind ?_ (by simp)
      refine
        (extends_connectString flags _ info.willMessage).bind ?_ (by simp)
      -- the three flags are set when both strings are there
      refine extends_of_change (fun connection built => ?_) (by simp)
      rcases built.orFlags 0x04 with ⟨marked, markedFrame⟩
      rcases marked.orFlagsIf (info.willRetain ≠ 0) 0x20 with
        ⟨retained, retainedFrame⟩
      rcases retained.orFlags ((UInt8.ofInt info.willQos &&& 3) <<< 3) with
        ⟨whole, wholeFrame⟩
      refine
        ⟨?_, wholeFrame.trans (retainedFrame.trans markedFrame)⟩
      rw [willMask, ← ofInt_land_three, ← UInt8.or_assoc, ← UInt8.or_assoc]
      exact whole

/-- The CONNECT which is meant. -/
def connectOf (info : MqttConnectInfo) (clientId : CString) :
    ConnectPacket where
  cleanSession := info.cleanSession ≠ 0
  keepalive := UInt16.ofInt info.keepalive
  clientId := clientId.bytes
  will := willOf info
  username := loginOf info.username
  password := loginOf info.password

/-- The flags are different bits. -/
theorem flags_connectOf (info : MqttConnectInfo) (clientId : CString) :
    (0 : UInt8) ||| flagIf (info.cleanSession ≠ 0) 0x02 |||
          willMask (willOf info) |||
        flagIf (loginOf info.username).isSome 0x80 |||
      flagIf (loginOf info.password).isSome 0x40 =
    (connectOf info clientId).flags := by
  have noWill :
      ∀ cleanSession username password : Bool,
        (0 : UInt8) ||| flagIf cleanSession 0x02 ||| 0 |||
              flagIf username 0x80 |||
            flagIf password 0x40 =
          UInt8.ofNat
            (128 * username.toNat + 64 * password.toNat + 0 +
              2 * cleanSession.toNat) := by
    decide
  have withWill :
      ∀ (cleanSession retain username password : Bool) (qos : Fin 4),
        (0 : UInt8) ||| flagIf cleanSession 0x02 |||
                ((0x04 : UInt8) ||| flagIf retain 0x20 |||
                  UInt8.ofNat qos.val <<< 3) |||
              flagIf username 0x80 |||
            flagIf password 0x40 =
          UInt8.ofNat
            (128 * username.toNat + 64 * password.toNat +
              (32 * retain.toNat + 8 * qos.val + 4) +
                2 * cleanSession.toNat) := by
    decide
  rw [ConnectPacket.flags, connectOf]
  cases willOf info with
  | none =>
      exact noWill _ _ _
  | some will =>
      exact withWill _ _ _ _ _

/-- The two bytes of the keepalive time. -/
theorem word16_keepalive (keepalive : Int) :
    [UInt8.ofInt (keepalive >>> (8 : Nat)), UInt8.ofInt keepalive &&& 0xFF] =
      word16 (UInt16.ofInt keepalive).toNat := by
  have value :
      (UInt16.ofInt keepalive).toNat = (keepalive % 65536).toNat := by
    rw [UInt16.ofInt, UInt16.toNat_ofNat']
    omega
  have high : keepalive >>> (8 : Nat) = keepalive / 256 :=
    Int.shiftRight_eq_div_pow keepalive 8
  have low :
      UInt8.ofInt keepalive &&& 0xFF =
        UInt8.ofNat ((keepalive % 65536).toNat % 256) := by
    rw [← UInt8.toNat_inj, UInt8.toNat_and, toNat_ofInt, UInt8.toNat_ofNat']
    refine (Nat.and_two_pow_sub_one_eq_mod _ 8).trans ?_
    omega
  have upper :
      UInt8.ofInt (keepalive / 256) =
        UInt8.ofNat ((keepalive % 65536).toNat / 256) := by
    rw [← UInt8.toNat_inj, toNat_ofInt, UInt8.toNat_ofNat']
    omega
  rw [high, upper, low, value, word16]

theorem variableHeader_eq (info : MqttConnectInfo) :
    info.variableHeader =
      connectFront ++ 0 :: word16 (UInt16.ofInt info.keepalive).toNat := by
  rw [← word16_keepalive]
  rfl

theorem extends_appendConnect
    {info : MqttConnectInfo} {clientId : CString}
    (there : given info.clientId = some clientId) :
    Extends (fun connection => connection.appendConnect info) []
      (connectOf info clientId).body := by
  have header :
      Extends (fun connection => connection.appendBytes info.variableHeader)
        []
        (connectFront ++ 0 :: word16 (UInt16.ofInt info.keepalive).toNat) := by
    rw [← variableHeader_eq]
    exact extends_appendBytes [] info.variableHeader
  have client :
      Extends (fun connection => connection.appendClientId info)
        (connectFront ++
          ((0 : UInt8) ||| flagIf (info.cleanSession ≠ 0) 0x02) ::
            word16 (UInt16.ofInt info.keepalive).toNat)
        (connectFront ++
          ((0 : UInt8) ||| flagIf (info.cleanSession ≠ 0) 0x02) ::
            (word16 (UInt16.ofInt info.keepalive).toNat ++
              mqttString clientId.bytes)) := by
    unfold appendClientId
    rw [there]
    exact extends_connectString _ _ clientId
  have session :
      Extends
        (fun connection =>
          .ok (connection.orFlagsIf (info.cleanSession ≠ 0) 0x02))
        (connectFront ++ 0 :: word16 (UInt16.ofInt info.keepalive).toNat)
        (connectFront ++
          ((0 : UInt8) ||| flagIf (info.cleanSession ≠ 0) 0x02) ::
            word16 (UInt16.ofInt info.keepalive).toNat) :=
    extends_of_change (fun connection built => built.orFlagsIf _ 0x02)
      (by simp)
  have logins :=
    (extends_appendLogin
      ((0 : UInt8) ||| flagIf (info.cleanSession ≠ 0) 0x02 |||
        willMask (willOf info))
      (word16 (UInt16.ofInt info.keepalive).toNat ++
          mqttString clientId.bytes ++ ConnectPacket.willBytes (willOf info))
      info.username 0x80).bind
      (extends_appendLogin _ _ info.password 0x40) (by simp)
  have will :=
    (extends_appendWill
      ((0 : UInt8) ||| flagIf (info.cleanSession ≠ 0) 0x02)
      (word16 (UInt16.ofInt info.keepalive).toNat ++
          mqttString clientId.bytes)
      info).bind
      logins (by simp)
  have steps :=
    header.bind (session.bind (client.bind will (by simp)) (by simp)) (by simp)
  rw [flags_connectOf info clientId] at steps
  have body :
      (connectOf info clientId).body =
        connectFront ++
          (connectOf info clientId).flags ::
            (word16 (UInt16.ofInt info.keepalive).toNat ++
                mqttString clientId.bytes ++
              ConnectPacket.willBytes (willOf info) ++
                ConnectPacket.loginBytes (loginOf info.username) ++
              ConnectPacket.loginBytes (loginOf info.password)) := by
    simp [ConnectPacket.body, connectFront, connectOf]
  rw [body]
  exact steps

/-- Without a client id there is no CONNECT. -/
theorem outbound_mqttMsgConnect_of_none
    {info : MqttConnectInfo}
    (missing : given info.clientId = none)
    (connection : MqttConnection) :
    (connection.mqttMsgConnect info).outbound = [] ∧
      (connection.mqttMsgConnect info).SameFrame connection := by
  have appended :
      ∃ failed,
        connection.initMessage.appendConnect info = .error failed ∧
          failed.SameFrame connection := by
    rw [appendConnect, appendBytes]
    split
    · have client :
          ∀ connection : MqttConnection,
            connection.appendClientId info = .error connection := by
        intro connection
        rw [appendClientId, missing]
      simp only [bind, Except.bind, client]
      refine ⟨_, rfl, ?_⟩
      rw [orFlagsIf]
      split <;> exact ⟨rfl, rfl⟩
    · exact ⟨_, rfl, rfl, rfl⟩
  rcases appended with ⟨failed, taken, frame⟩
  rw [mqttMsgConnect, taken]
  exact ⟨rfl, frame.bufferLength, frame.messageId⟩

/-- CONNECT has no id, and leaves the buffer where it is. -/
theorem sameFrame_mqttMsgConnect
    (connection : MqttConnection) (info : MqttConnectInfo) :
    (connection.mqttMsgConnect info).SameFrame connection := by
  cases there : given info.clientId with
  | none =>
      exact (outbound_mqttMsgConnect_of_none there connection).2
  | some clientId =>
      have built :=
        (extends_appendConnect there).builds (built_initMessage connection)
          .connect 0 0
      exact ⟨built.2.bufferLength, built.2.messageId⟩

end MqttConnection

/-! ## The packet -/

/--
Whatever is asked for, `mqtt_msg_connect` builds the packet with exactly that,
as long as it fits; without a client id or without room there is no message.
-/
theorem mqtt_msg_connect_on_wire
    (connection : MqttConnection) (info : MqttConnectInfo) :
    (given info.clientId = none →
        (connection.mqttMsgConnect info).outbound = []) ∧
      (∀ clientId, given info.clientId = some clientId →
        MqttConnection.Builds (connection.mqttMsgConnect info) connection
          .connect 0 false
          (MqttConnection.connectOf info clientId).body) ∧
        (connection.mqttMsgConnect info).SameFrame connection := by
  refine ⟨?_, ?_, connection.sameFrame_mqttMsgConnect info⟩
  · intro missing
    exact
      (MqttConnection.outbound_mqttMsgConnect_of_none missing connection).1
  · intro clientId there
    have built :=
      (MqttConnection.extends_appendConnect there).builds
        (MqttConnection.built_initMessage connection) .connect 0 0
    exact ⟨built.1.whole, built.1.refused⟩

end EspFirmware
