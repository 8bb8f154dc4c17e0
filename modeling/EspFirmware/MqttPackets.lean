import EspFirmware.Library.Base128
import EspFirmware.Memory

/-!
# The packets of MQTT

What a packet is on the wire, stated for itself: a byte for the kind and the
flags, the number of the bytes behind the fixed header in groups of seven bits,
and these bytes.  A string and a message id come with their high byte first.
-/

namespace EspFirmware

open Library

/-- `enum mqtt_message_type`. -/
inductive MqttMessageType where
  | connect
  | connack
  | publish
  | puback
  | pubrec
  | pubrel
  | pubcomp
  | subscribe
  | suback
  | unsubscribe
  | unsuback
  | pingreq
  | pingresp
  | disconnect
deriving DecidableEq

namespace MqttMessageType

/-- The value of a member. -/
def code : MqttMessageType → UInt8
  | connect => 1
  | connack => 2
  | publish => 3
  | puback => 4
  | pubrec => 5
  | pubrel => 6
  | pubcomp => 7
  | subscribe => 8
  | suback => 9
  | unsubscribe => 10
  | unsuback => 11
  | pingreq => 12
  | pingresp => 13
  | disconnect => 14

/-- The member with a value; there is none for 0 and 15. -/
def ofCode : UInt8 → Option MqttMessageType
  | 1 => some connect
  | 2 => some connack
  | 3 => some publish
  | 4 => some puback
  | 5 => some pubrec
  | 6 => some pubrel
  | 7 => some pubcomp
  | 8 => some subscribe
  | 9 => some suback
  | 10 => some unsubscribe
  | 11 => some unsuback
  | 12 => some pingreq
  | 13 => some pingresp
  | 14 => some disconnect
  | _ => none

theorem ofCode_code (type : MqttMessageType) :
    ofCode type.code = some type := by
  cases type <;> rfl

theorem code_lt (type : MqttMessageType) : type.code.toNat < 16 := by
  cases type <;> decide

end MqttMessageType

/-! ## Numbers and strings -/

/-- A number of 16 bits. -/
def word16 (value : Nat) : List UInt8 :=
  [UInt8.ofNat (value / 256), UInt8.ofNat (value % 256)]

/-- A string with its length in front. -/
def mqttString (text : List UInt8) : List UInt8 :=
  word16 text.length ++ text

/-- A number from its two bytes. -/
theorem word16_value {value : Nat} (small : value < 65536) :
    256 * (UInt8.ofNat (value / 256)).toNat +
        (UInt8.ofNat (value % 256)).toNat =
      value := by
  rw [UInt8.toNat_ofNat', UInt8.toNat_ofNat']
  omega

@[simp]
theorem length_word16 (value : Nat) : (word16 value).length = 2 :=
  rfl

@[simp]
theorem length_mqttString (text : List UInt8) :
    (mqttString text).length = 2 + text.length := by
  rw [mqttString, List.length_append, length_word16]

/-! ## Packets -/

/-- Two bits hold a level of service. -/
instance neZero_levels : NeZero 4 where
  out := by
    decide

/-- A packet; four groups of seven bits hold the number of its bytes. -/
structure MqttPacket where
  type : MqttMessageType
  dup : Bool
  qos : Fin 4
  retain : Bool
  body : List UInt8
  small : body.length < 128 ^ 4
deriving DecidableEq

namespace MqttPacket

/-- The kind and the flags. -/
def firstNumber (packet : MqttPacket) : Nat :=
  16 * packet.type.code.toNat + 8 * packet.dup.toNat + 2 * packet.qos.val +
    packet.retain.toNat

/-- The first byte. -/
def first (packet : MqttPacket) : UInt8 :=
  UInt8.ofNat packet.firstNumber

/-- The number of bytes behind the fixed header. -/
def groups (packet : MqttPacket) : List UInt8 :=
  encode128 packet.body.length

/-- A packet on the wire. -/
def bytes (packet : MqttPacket) : List UInt8 :=
  packet.first :: (packet.groups ++ packet.body)

theorem length_groups_le (packet : MqttPacket) :
    packet.groups.length ≤ 4 :=
  length_encode128_le packet.small

theorem length_bytes (packet : MqttPacket) :
    packet.bytes.length =
      1 + packet.groups.length + packet.body.length := by
  rw [bytes, List.length_cons, List.length_append]
  omega

theorem firstNumber_lt (packet : MqttPacket) : packet.firstNumber < 256 := by
  have code := packet.type.code_lt
  have dup := packet.dup.toNat_le
  have qos := packet.qos.isLt
  have retain := packet.retain.toNat_le
  rw [firstNumber]
  omega

theorem toNat_first (packet : MqttPacket) :
    packet.first.toNat = packet.firstNumber := by
  rw [first, UInt8.toNat_ofNat']
  exact Nat.mod_eq_of_lt packet.firstNumber_lt

end MqttPacket

/-- Bytes are a packet which is sent for the first time. -/
def IsPacket
    (bytes : List UInt8) (type : MqttMessageType) (qos : Fin 4)
    (retain : Bool) (body : List UInt8) : Prop :=
  ∃ small : body.length < 128 ^ 4,
    bytes =
      MqttPacket.bytes
        { type := type
          dup := false
          qos := qos
          retain := retain
          body := body
          small := small }

/-- The id of a PUBLISH, which has none at the lowest level. -/
def idBytes (qos : Fin 4) (id : UInt16) : List UInt8 :=
  if qos = 0 then
    []
  else
    word16 id.toNat

/-- What is behind the fixed header of a PUBLISH. -/
def publishBody
    (topic : List UInt8) (qos : Fin 4) (id : UInt16) (data : List UInt8) :
    List UInt8 :=
  mqttString topic ++ (idBytes qos id ++ data)

theorem length_idBytes (qos : Fin 4) (id : UInt16) :
    (idBytes qos id).length = if qos = 0 then 0 else 2 := by
  rw [idBytes]
  split <;> rfl

theorem length_idBytes_le (qos : Fin 4) (id : UInt16) :
    (idBytes qos id).length ≤ 2 := by
  rw [length_idBytes]
  split <;> omega

theorem length_publishBody
    (topic : List UInt8) (qos : Fin 4) (id : UInt16) (data : List UInt8) :
    (publishBody topic qos id data).length =
      2 + topic.length + (idBytes qos id).length + data.length := by
  rw [publishBody, List.length_append, List.length_append, length_mqttString]
  omega

/-- A PUBLISH. -/
structure PublishPacket where
  dup : Bool
  qos : Fin 4
  retain : Bool
  topic : List UInt8
  id : UInt16
  data : List UInt8
  topicSmall : topic.length < 65536
  dataSmall : 4 + topic.length + data.length < 128 ^ 4

namespace PublishPacket

/-- What is behind the fixed header. -/
def body (publish : PublishPacket) : List UInt8 :=
  publishBody publish.topic publish.qos publish.id publish.data

/-- The packet. -/
def packet (publish : PublishPacket) : MqttPacket where
  type := .publish
  dup := publish.dup
  qos := publish.qos
  retain := publish.retain
  body := publish.body
  small := by
    have id := length_idBytes_le publish.qos publish.id
    have dataSmall := publish.dataSmall
    rw [body, length_publishBody]
    omega

/-- A PUBLISH on the wire. -/
def bytes (publish : PublishPacket) : List UInt8 :=
  publish.packet.bytes

end PublishPacket

/-- Bytes are a PUBLISH which is sent for the first time. -/
def IsPublish
    (bytes topic : List UInt8) (qos : Fin 4) (retain : Bool) (id : UInt16)
    (data : List UInt8) : Prop :=
  ∃ (topicSmall : topic.length < 65536)
      (dataSmall : 4 + topic.length + data.length < 128 ^ 4),
    bytes =
      PublishPacket.bytes
        { dup := false
          qos := qos
          retain := retain
          topic := topic
          id := id
          data := data
          topicSmall := topicSmall
          dataSmall := dataSmall }

theorem isPublish_iff_isPacket
    {topic data : List UInt8} (bytes : List UInt8)
    (qos : Fin 4) (retain : Bool) (id : UInt16)
    (topicSmall : topic.length < 65536)
    (dataSmall : 4 + topic.length + data.length < 128 ^ 4) :
    IsPublish bytes topic qos retain id data ↔
      IsPacket bytes .publish qos retain (publishBody topic qos id data) := by
  constructor
  · rintro ⟨_, _, same⟩
    exact ⟨_, same⟩
  · rintro ⟨_, same⟩
    exact ⟨topicSmall, dataSmall, same⟩

/-- The message which the broker sends for a client that is gone. -/
structure MqttWill where
  topic : List UInt8
  message : List UInt8
  qos : Fin 4
  retain : Bool
deriving DecidableEq

/-- A CONNECT. -/
structure ConnectPacket where
  cleanSession : Bool
  keepalive : UInt16
  clientId : List UInt8
  will : Option MqttWill
  username : Option (List UInt8)
  password : Option (List UInt8)
deriving DecidableEq

namespace ConnectPacket

/-- The flags of a will. -/
def willFlags : Option MqttWill → Nat
  | none => 0
  | some will => 32 * will.retain.toNat + 8 * will.qos.val + 4

/-- The flags, one for each part that may be left out. -/
def flags (connect : ConnectPacket) : UInt8 :=
  UInt8.ofNat
    (128 * connect.username.isSome.toNat +
      64 * connect.password.isSome.toNat + willFlags connect.will +
        2 * connect.cleanSession.toNat)

/-- The strings of a will. -/
def willBytes : Option MqttWill → List UInt8
  | none => []
  | some will => mqttString will.topic ++ mqttString will.message

/-- A string which may be left out. -/
def loginBytes (login : Option (List UInt8)) : List UInt8 :=
  login.elim [] mqttString

/-- What is behind the fixed header. -/
def body (connect : ConnectPacket) : List UInt8 :=
  mqttString (ascii "MQIsdp") ++ [3, connect.flags] ++
    word16 connect.keepalive.toNat ++ mqttString connect.clientId ++
    willBytes connect.will ++ loginBytes connect.username ++
    loginBytes connect.password

end ConnectPacket

/-! ## The fields of the first byte -/

/-- `mqtt_get_type`. -/
def mqttGetType (first : UInt8) : Option MqttMessageType :=
  MqttMessageType.ofCode ((first &&& 0xF0) >>> 4)

/-- `mqtt_get_dup`. -/
def mqttGetDup (first : UInt8) : UInt8 :=
  (first &&& 0x08) >>> 3

/-- `mqtt_get_qos`. -/
def mqttGetQos (first : UInt8) : UInt8 :=
  (first &&& 0x06) >>> 1

/-- `mqtt_get_retain`. -/
def mqttGetRetain (first : UInt8) : UInt8 :=
  first &&& 0x01

/-- A field of a byte is a digit of its number. -/
theorem toNat_field (byte mask : UInt8) (shift : Fin 8) :
    ((byte &&& mask) >>> UInt8.ofNat shift.val).toNat =
      (byte.toNat &&& mask.toNat) >>> shift.val := by
  have small := shift.isLt
  rw [UInt8.toNat_shiftRight, UInt8.toNat_and, UInt8.toNat_ofNat']
  congr 1
  omega

namespace MqttPacket

variable (packet : MqttPacket)

@[simp]
theorem mqttGetType_first : mqttGetType packet.first = some packet.type := by
  have digits :
      ∀ number : Fin 256, (number.val &&& 0xF0) >>> 4 = number.val / 16 := by
    decide +kernel
  have field := toNat_field packet.first 0xF0 4
  have value := digits ⟨packet.firstNumber, packet.firstNumber_lt⟩
  have dup := packet.dup.toNat_le
  have qos := packet.qos.isLt
  have retain := packet.retain.toNat_le
  have same : (packet.first &&& 0xF0) >>> 4 = packet.type.code := by
    rw [← UInt8.toNat_inj]
    refine field.trans ?_
    rw [packet.toNat_first]
    refine value.trans ?_
    simp only [firstNumber]
    omega
  rw [mqttGetType, same, MqttMessageType.ofCode_code]

@[simp]
theorem mqttGetDup_first :
    (mqttGetDup packet.first).toNat = packet.dup.toNat := by
  have digits :
      ∀ number : Fin 256, (number.val &&& 0x08) >>> 3 = number.val / 8 % 2 := by
    decide +kernel
  have value := digits ⟨packet.firstNumber, packet.firstNumber_lt⟩
  have dup := packet.dup.toNat_le
  have qos := packet.qos.isLt
  have retain := packet.retain.toNat_le
  refine (toNat_field packet.first 0x08 3).trans ?_
  rw [packet.toNat_first]
  refine value.trans ?_
  simp only [firstNumber]
  omega

@[simp]
theorem mqttGetQos_first :
    (mqttGetQos packet.first).toNat = packet.qos.val := by
  have digits :
      ∀ number : Fin 256, (number.val &&& 0x06) >>> 1 = number.val / 2 % 4 := by
    decide +kernel
  have value := digits ⟨packet.firstNumber, packet.firstNumber_lt⟩
  have dup := packet.dup.toNat_le
  have qos := packet.qos.isLt
  have retain := packet.retain.toNat_le
  refine (toNat_field packet.first 0x06 1).trans ?_
  rw [packet.toNat_first]
  refine value.trans ?_
  simp only [firstNumber]
  omega

@[simp]
theorem mqttGetRetain_first :
    (mqttGetRetain packet.first).toNat = packet.retain.toNat := by
  have dup := packet.dup.toNat_le
  have qos := packet.qos.isLt
  have retain := packet.retain.toNat_le
  rw [mqttGetRetain, UInt8.toNat_and, packet.toNat_first]
  refine (Nat.and_two_pow_sub_one_eq_mod packet.firstNumber 1).trans ?_
  simp only [firstNumber]
  omega

end MqttPacket

end EspFirmware
