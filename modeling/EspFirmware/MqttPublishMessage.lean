import EspFirmware.MqttBuilding
import EspFirmware.MqttParsing

/-!
# PUBLISH and the messages with an id

A message gets the next id, which is counted over all connections.  What is
built is read back by the readers of the same file.
-/

namespace EspFirmware

open Library

namespace MqttConnection

variable {connection : MqttConnection} {body : List UInt8}

/-! ## Ids -/

theorem nextMessageId_ne_zero (counter : UInt16) :
    nextMessageId counter ≠ 0 := by
  rw [nextMessageId]
  split
  · next full =>
      intro zero
      have two : (counter + 1) + 1 = 0 := by
        rw [UInt16.add_assoc]
        exact zero
      rw [full] at two
      exact absurd two (by decide)
  · next room =>
      exact room

theorem assignMessageId_ne_zero (counter messageId : UInt16) :
    (assignMessageId counter messageId).1 ≠ 0 := by
  rw [assignMessageId]
  split
  · exact nextMessageId_ne_zero counter
  · next there =>
      exact there

/-- With room for it, an id is put behind the body. -/
theorem Built.appendMessageId_room
    (built : connection.Built body) (messageId : UInt16)
    (room : 5 + body.length ≤ connection.bufferLength.toNat) :
    (connection.appendMessageId messageId).2 =
        (assignMessageId connection.messageId messageId).1 ∧
      (connection.appendMessageId messageId).1.Built
          (body ++
            word16
              (assignMessageId connection.messageId messageId).1.toNat) ∧
        (connection.appendMessageId messageId).1.bufferLength =
            connection.bufferLength ∧
          (connection.appendMessageId messageId).1.messageId =
            (assignMessageId connection.messageId messageId).2 := by
  have length := built.length
  have fits :
      connection.message.length + 2 ≤ connection.bufferLength.toNat := by
    omega
  have counted :
      Built
        { connection with
          messageId := (assignMessageId connection.messageId messageId).2 }
        body :=
    ⟨built.length, built.stored⟩
  have pushed :=
    counted.push
      [UInt8.ofNat
          ((assignMessageId connection.messageId messageId).1.toNat >>> 8),
        UInt8.ofNat
          ((assignMessageId connection.messageId messageId).1.toNat &&& 0xFF)]
      fits
  rw [appendMessageId, dif_pos fits, ← word16_eq]
  exact ⟨rfl, pushed, rfl, rfl⟩

/-- Without room for it, an id is counted all the same. -/
theorem Built.appendMessageId_full
    (built : connection.Built body) (messageId : UInt16)
    (full : connection.bufferLength.toNat < 5 + body.length) :
    (connection.appendMessageId messageId).2 = 0 ∧
      (connection.appendMessageId messageId).1.bufferLength =
          connection.bufferLength ∧
        (connection.appendMessageId messageId).1.messageId =
          (assignMessageId connection.messageId messageId).2 := by
  have length := built.length
  have long :
      ¬connection.message.length + 2 ≤ connection.bufferLength.toNat := by
    omega
  rw [appendMessageId, dif_neg long]
  exact ⟨rfl, rfl, rfl⟩

/-! ## PUBLISH -/

/-- What becomes of a PUBLISH with a topic. -/
structure PublishBuilt
    (result : MqttConnection × UInt16) (before : MqttConnection)
    (topic : List UInt8) (qos : Fin 4) (retain : Bool) (id : UInt16)
    (data : List UInt8) : Prop where
  /-- With room for it, it is the packet on the wire, as long as two groups hold its size. -/
  whole :
    3 + (publishBody topic qos id data).length ≤
        before.bufferLength.toNat →
      result.2 = id ∧
        (IsPublish result.1.outbound topic qos retain id data ↔
          (publishBody topic qos id data).length < 16384)
  /-- Otherwise there is no message. -/
  refused :
    before.bufferLength.toNat <
        3 + (publishBody topic qos id data).length →
      result.1.outbound = []
  /-- An id is counted as soon as the topic fits. -/
  counter :
    result.1.messageId =
      if qos = 0 ∨ before.bufferLength.toNat < 5 + topic.length then
        before.messageId
      else
        nextMessageId before.messageId
  room : result.1.bufferLength = before.bufferLength

/-- What is appended behind the topic and the id is the data. -/
theorem builds_publish
    {topic : List UInt8} {qos : Fin 4} {id : UInt16}
    (built : connection.Built (mqttString topic ++ idBytes qos id))
    (retain : Int) (data : List UInt8) :
    Builds
        (close (connection.appendBytes data) .publish qos.val retain)
        connection .publish qos (flagField retain)
        (publishBody topic qos id data) ∧
      (close (connection.appendBytes data) .publish qos.val
        retain).SameFrame connection := by
  have level : qosField (qos.val : Int) = qos := by
    apply Fin.ext
    change ((qos.val : Int) % 4).toNat = qos.val
    omega
  have steps :=
    (extends_appendBytes _ data).builds built .publish qos.val retain
  rwa [level, List.append_assoc] at steps

/-- The buffer bounds a message. -/
theorem publishBody_small
    {topic data : List UInt8} {qos : Fin 4} {id : UInt16}
    {bufferLength : UInt16}
    (fits :
      3 + (publishBody topic qos id data).length ≤ bufferLength.toNat) :
    topic.length < 65536 ∧ 4 + topic.length + data.length < 128 ^ 4 := by
  have bound := bufferLength.toNat_lt
  rw [length_publishBody] at fits
  omega

theorem mqttMsgPublish_of_none
    {topic : Option CString}
    (missing : given topic = none) (connection : MqttConnection)
    (data : List UInt8) (qos retain : Int) (messageId : UInt16) :
    connection.mqttMsgPublish topic data qos retain messageId =
      (connection.initMessage.failMessage, messageId) := by
  rw [mqttMsgPublish, missing]

/-- With room for it, the topic is what a message begins with. -/
theorem appendString_room
    (connection : MqttConnection) (text : CString)
    (room : 5 + text.bytes.length ≤ connection.bufferLength.toNat) :
    ∃ named,
      connection.initMessage.appendString text = .ok named ∧
        named.Built (mqttString text.bytes) ∧
          named.SameFrame connection := by
  have step :=
    extends_appendString [] text _ (built_initMessage connection)
  have length : (mqttString text.bytes).length = 2 + text.bytes.length :=
    length_mqttString _
  have same :
      connection.initMessage.bufferLength = connection.bufferLength := rfl
  rw [List.nil_append, length, same] at step
  rcases step.1 (by omega) with ⟨named, taken, built, frame⟩
  exact ⟨named, taken, built, frame.bufferLength, frame.messageId⟩

theorem appendString_full
    (connection : MqttConnection) (text : CString)
    (long : connection.bufferLength.toNat < 5 + text.bytes.length) :
    ∃ failed,
      connection.initMessage.appendString text = .error failed ∧
        failed.SameFrame connection := by
  have step :=
    extends_appendString [] text _ (built_initMessage connection)
  have length : (mqttString text.bytes).length = 2 + text.bytes.length :=
    length_mqttString _
  have same :
      connection.initMessage.bufferLength = connection.bufferLength := rfl
  rw [List.nil_append, length, same] at step
  rcases step.2 (by omega) with ⟨failed, taken, frame⟩
  exact ⟨failed, taken, frame.bufferLength, frame.messageId⟩

variable {topic : Option CString} {text : CString}

/-- At the lowest level, the data comes right behind the topic. -/
theorem publishBuilt_of_lowest
    (there : given topic = some text)
    (room : 5 + text.bytes.length ≤ connection.bufferLength.toNat)
    (data : List UInt8) (retain : Int) (messageId : UInt16) :
    PublishBuilt (connection.mqttMsgPublish topic data 0 retain messageId)
      connection text.bytes 0 (flagField retain) 0 data := by
  rcases appendString_room connection text room with
    ⟨named, taken, built, frame⟩
  have noId :
      mqttString text.bytes ++ idBytes 0 0 = mqttString text.bytes :=
    List.append_nil _
  rw [← noId] at built
  rcases builds_publish built retain data with ⟨builds, finalFrame⟩
  rw [mqttMsgPublish, there]
  dsimp only
  rw [taken]
  refine ⟨fun fits => ⟨rfl, ?_⟩, fun long => ?_, ?_, ?_⟩
  · have small := publishBody_small fits
    rw [isPublish_iff_isPacket _ _ _ _ small.1 small.2]
    exact builds.whole (by rwa [frame.bufferLength])
  · exact builds.refused (by rwa [frame.bufferLength])
  · rw [if_pos (.inl rfl)]
    exact finalFrame.messageId.trans frame.messageId
  · exact finalFrame.bufferLength.trans frame.bufferLength

/-- At any other level, the next id comes between them. -/
theorem publishBuilt_of_counted
    (there : given topic = some text)
    (room : 5 + text.bytes.length ≤ connection.bufferLength.toNat)
    {qos : Fin 4} (counted : qos ≠ 0)
    (data : List UInt8) (retain : Int) (messageId : UInt16) :
    PublishBuilt
      (connection.mqttMsgPublish topic data qos.val retain messageId)
      connection text.bytes qos (flagField retain)
      (nextMessageId connection.messageId) data := by
  rcases appendString_room connection text room with
    ⟨named, taken, built, frame⟩
  have positive : (0 : Int) < qos.val := by
    have different : qos.val ≠ 0 := fun zero => counted (Fin.ext zero)
    omega
  have length : (mqttString text.bytes).length = 2 + text.bytes.length :=
    length_mqttString _
  have assigned :
      assignMessageId named.messageId 0 =
        (nextMessageId connection.messageId,
          nextMessageId connection.messageId) := by
    rw [frame.messageId]
    rfl
  have kept :
      (if qos = 0 ∨ connection.bufferLength.toNat < 5 + text.bytes.length then
          connection.messageId
        else
          nextMessageId connection.messageId) =
        nextMessageId connection.messageId :=
    if_neg (not_or.mpr ⟨counted, by omega⟩)
  rw [mqttMsgPublish, there]
  dsimp only
  rw [taken]
  dsimp only
  rw [if_pos positive]
  by_cases idFits : 7 + text.bytes.length ≤ connection.bufferLength.toNat
  · rcases built.appendMessageId_room 0 (by
        rw [frame.bufferLength, length]
        omega) with
      ⟨id, withId, sameRoom, counter⟩
    rw [assigned] at id withId counter
    rw [id, if_neg (nextMessageId_ne_zero _)]
    have body :
        word16 (nextMessageId connection.messageId).toNat =
          idBytes qos (nextMessageId connection.messageId) :=
      (if_neg counted).symm
    rw [body] at withId
    rcases builds_publish withId retain data with ⟨builds, finalFrame⟩
    rw [frame.bufferLength] at sameRoom
    refine ⟨fun fits => ⟨rfl, ?_⟩, fun long => ?_, ?_, ?_⟩
    · have small := publishBody_small fits
      rw [isPublish_iff_isPacket _ _ _ _ small.1 small.2]
      exact builds.whole (by rwa [sameRoom])
    · exact builds.refused (by rwa [sameRoom])
    · rw [kept]
      exact finalFrame.messageId.trans counter
    · exact finalFrame.bufferLength.trans sameRoom
  · rcases built.appendMessageId_full 0 (by
        rw [frame.bufferLength, length]
        omega) with
      ⟨none, sameRoom, counter⟩
    rw [assigned] at counter
    rw [none, if_pos rfl]
    refine ⟨fun fits => ?_, fun _ => rfl, ?_, ?_⟩
    · rw [length_publishBody, length_idBytes, if_neg counted] at fits
      omega
    · rw [kept]
      exact counter
    · exact sameRoom.trans frame.bufferLength

/-- Every PUBLISH with a topic is on the wire what it should be, if there is room for it. -/
theorem publishBuilt_mqttMsgPublish
    (there : given topic = some text)
    (connection : MqttConnection) (data : List UInt8)
    (qos : Fin 4) (retain : Int) (messageId : UInt16) :
    PublishBuilt
      (connection.mqttMsgPublish topic data qos.val retain messageId)
      connection text.bytes qos (flagField retain)
      (if qos = 0 then 0 else nextMessageId connection.messageId) data := by
  by_cases room : 5 + text.bytes.length ≤ connection.bufferLength.toNat
  · by_cases lowest : qos = 0
    · subst lowest
      exact publishBuilt_of_lowest there room data retain messageId
    · rw [if_neg lowest]
      exact
        publishBuilt_of_counted there room lowest data retain messageId
  · rcases appendString_full connection text (by omega) with
      ⟨failed, taken, frame⟩
    rw [mqttMsgPublish, there]
    dsimp only
    rw [taken]
    refine ⟨fun fits => ?_, fun _ => rfl, ?_, frame.bufferLength⟩
    · rw [length_publishBody] at fits
      omega
    · rw [if_pos (.inr (by omega))]
      exact frame.messageId

/-! ## Messages which are an id -/

/-- What becomes of a message which is an id. -/
structure IdBuilt
    (built before : MqttConnection)
    (type : MqttMessageType) (qos : Fin 4) (id : UInt16) : Prop where
  whole :
    5 ≤ before.bufferLength.toNat →
      IsPacket built.outbound type qos false (word16 id.toNat)
  refused : before.bufferLength.toNat < 5 → built.outbound = []
  room : built.bufferLength = before.bufferLength

theorem outbound_finiMessage_word
    {id : UInt16}
    (built : connection.Built (word16 id.toNat))
    (type : MqttMessageType) (qos : Fin 4) :
    IsPacket (connection.finiMessage type 0 qos.val 0).outbound type qos false
      (word16 id.toNat) := by
  have level : qosField (qos.val : Int) = qos := by
    apply Fin.ext
    change ((qos.val : Int) % 4).toNat = qos.val
    omega
  have packet :=
    (isPacket_finished_iff type qos.val 0 (word16 id.toNat)).mpr
      (show 2 < 16384 by decide)
  rw [built.outbound_finiMessage]
  rwa [level] at packet

/-- The id of a message is the one that was asked for, or else the next one. -/
theorem idBuilt_idMessage
    (connection : MqttConnection) (type : MqttMessageType) (qos : Fin 4)
    (messageId : UInt16) :
    IdBuilt (connection.idMessage type qos.val messageId) connection type qos
        (assignMessageId connection.messageId messageId).1 ∧
      (connection.idMessage type qos.val messageId).messageId =
        (assignMessageId connection.messageId messageId).2 := by
  have start := built_initMessage connection
  by_cases room : 5 ≤ connection.bufferLength.toNat
  · rcases start.appendMessageId_room messageId room with
      ⟨id, built, sameRoom, counter⟩
    have some :
        (connection.initMessage.appendMessageId messageId).2 ≠ 0 := by
      rw [id]
      exact assignMessageId_ne_zero _ _
    rw [idMessage, if_neg some]
    refine ⟨⟨fun _ => ?_, fun short => ?_, ?_⟩, ?_⟩
    · exact outbound_finiMessage_word built type qos
    · omega
    · rw [finiMessage]
      split <;> exact sameRoom
    · rw [finiMessage]
      split <;> exact counter
  · rcases start.appendMessageId_full messageId
        (by
          change connection.bufferLength.toNat < 5
          omega) with
      ⟨none, sameRoom, counter⟩
    rw [idMessage, if_pos none]
    refine ⟨⟨fun long => ?_, fun _ => rfl, sameRoom⟩, counter⟩
    omega

/-- What a message which is an id reads as. -/
theorem IdBuilt.read
    {built before : MqttConnection} {type : MqttMessageType} {qos : Fin 4}
    {id : UInt16}
    (result : IdBuilt built before type qos id)
    (leads : type.leadsWithId = true)
    (room : 5 ≤ before.bufferLength.toNat)
    (behind : List UInt8) {length : Nat}
    (within : built.outbound.length ≤ length) :
    (built.outbound.head?.bind mqttGetType) = some type ∧
      mqttGetTotalLength (built.outbound ++ behind) length =
          some (built.outbound.length : Int) ∧
        mqttGetId (built.outbound ++ behind) length = some id := by
  rcases result.whole room with ⟨small, same⟩
  rw [same] at within ⊢
  refine ⟨?_, ?_, ?_⟩
  · exact MqttPacket.mqttGetType_first _
  · exact mqttGetTotalLength_packet _ behind within
  · have body : word16 id.toNat = word16 id.toNat ++ [] :=
      (List.append_nil _).symm
    have short : (word16 id.toNat).length < 128 := by
      rw [length_word16]
      decide
    exact mqttGetId_leading leads body short behind within

/-! ## Messages which name a topic -/

/-- What is behind the fixed header of a message which names a topic. -/
def topicBody (id : UInt16) (topic behind : List UInt8) : List UInt8 :=
  word16 id.toNat ++ (mqttString topic ++ behind)

/-- What becomes of a message which names a topic. -/
structure TopicBuilt
    (result : MqttConnection × UInt16) (before : MqttConnection)
    (type : MqttMessageType) (topic behind : List UInt8) : Prop where
  whole :
    3 + (topicBody (nextMessageId before.messageId) topic behind).length ≤
        before.bufferLength.toNat →
      result.2 = nextMessageId before.messageId ∧
        (IsPacket result.1.outbound type 1 false
            (topicBody (nextMessageId before.messageId) topic behind) ↔
          (topicBody (nextMessageId before.messageId) topic behind).length <
            16384)
  refused :
    before.bufferLength.toNat <
        3 + (topicBody (nextMessageId before.messageId) topic behind).length →
      result.1.outbound = []
  /-- An id is counted in any case. -/
  counter : result.1.messageId = nextMessageId before.messageId
  room : result.1.bufferLength = before.bufferLength

theorem topicBuilt_topicMessage
    (there : given topic = some text)
    (connection : MqttConnection) (type : MqttMessageType)
    (behind : List UInt8) (messageId : UInt16) :
    TopicBuilt (connection.topicMessage type topic behind messageId)
      connection type text.bytes behind := by
  have start := built_initMessage connection
  have length (id : UInt16) :
      (topicBody id text.bytes behind).length =
        4 + text.bytes.length + behind.length := by
    rw [topicBody, List.length_append, List.length_append, length_word16,
      length_mqttString]
    omega
  have assigned :
      assignMessageId connection.initMessage.messageId 0 =
        (nextMessageId connection.messageId,
          nextMessageId connection.messageId) := rfl
  rw [topicMessage, there]
  dsimp only
  by_cases room : 5 ≤ connection.bufferLength.toNat
  · rcases start.appendMessageId_room 0 room with
      ⟨id, built, sameRoom, counter⟩
    rw [assigned] at id built counter
    rw [List.nil_append] at built
    rw [id, if_neg (nextMessageId_ne_zero _)]
    have steps :=
      ((extends_appendString
          (word16 (nextMessageId connection.messageId).toNat) text).bind
        (extends_appendBytes _ behind) (by simp)).builds built type 1 0
    rw [List.append_assoc] at steps
    rcases steps with ⟨builds, frame⟩
    have sameLength :
        (connection.initMessage.appendMessageId 0).1.bufferLength =
          connection.bufferLength := sameRoom
    refine ⟨fun fits => ⟨rfl, ?_⟩, fun long => ?_, ?_, ?_⟩
    · exact builds.whole (by rwa [sameLength])
    · exact builds.refused (by rwa [sameLength])
    · exact frame.messageId.trans counter
    · exact frame.bufferLength.trans sameLength
  · rcases start.appendMessageId_full 0
        (by
          change connection.bufferLength.toNat < 5
          omega) with
      ⟨none, sameRoom, counter⟩
    rw [assigned] at counter
    rw [none, if_pos rfl]
    refine ⟨fun fits => ?_, fun _ => rfl, counter, sameRoom⟩
    rw [length] at fits
    omega

end MqttConnection

/-! ## The packets -/

/--
`mqtt_msg_publish` builds the packet with exactly what it was given and with
the next id, which is counted as soon as the topic fits.
-/
theorem mqtt_msg_publish_on_wire
    (connection : MqttConnection) (topic : Option CString)
    (data : List UInt8) (qos : Fin 4) (retain : Int) (messageId : UInt16) :
    (given topic = none →
        connection.mqttMsgPublish topic data qos.val retain messageId =
          (connection.initMessage.failMessage, messageId)) ∧
      ∀ text, given topic = some text →
        MqttConnection.PublishBuilt
          (connection.mqttMsgPublish topic data qos.val retain messageId)
          connection text.bytes qos (MqttConnection.flagField retain)
          (if qos = 0 then
            0
          else
            MqttConnection.nextMessageId connection.messageId)
          data := by
  constructor
  · intro missing
    exact MqttConnection.mqttMsgPublish_of_none missing _ data _ retain _
  · intro text there
    exact
      MqttConnection.publishBuilt_mqttMsgPublish there connection data qos
        retain messageId

/-- The topic messages, which have no message without a topic. -/
theorem mqtt_msg_subscribe_on_wire
    (connection : MqttConnection) (topic : Option CString) (qos : Int)
    (messageId : UInt16) :
    (given topic = none →
        connection.mqttMsgSubscribe topic qos messageId =
            (connection.initMessage.failMessage, messageId) ∧
          connection.mqttMsgUnsubscribe topic messageId =
            (connection.initMessage.failMessage, messageId)) ∧
      ∀ text, given topic = some text →
        MqttConnection.TopicBuilt
            (connection.mqttMsgSubscribe topic qos messageId) connection
            .subscribe text.bytes [UInt8.ofInt qos] ∧
          MqttConnection.TopicBuilt
            (connection.mqttMsgUnsubscribe topic messageId) connection
            .unsubscribe text.bytes [] := by
  constructor
  · intro missing
    rw [MqttConnection.mqttMsgSubscribe, MqttConnection.mqttMsgUnsubscribe,
      MqttConnection.topicMessage, MqttConnection.topicMessage, missing]
    exact ⟨rfl, rfl⟩
  · intro text there
    exact
      ⟨MqttConnection.topicBuilt_topicMessage there connection _ _ _,
        MqttConnection.topicBuilt_topicMessage there connection _ _ _⟩

/-- A reply which is the packet with an id, and is read back with it. -/
structure ReplyBuilt
    (built before : MqttConnection)
    (type : MqttMessageType) (qos : Fin 4) (id : UInt16) : Prop where
  packet : IsPacket built.outbound type qos false (word16 id.toNat)
  counter : built.messageId = before.messageId
  room : built.bufferLength = before.bufferLength
  read :
    ∀ (behind : List UInt8) (length : Nat), built.outbound.length ≤ length →
      built.outbound.head?.bind mqttGetType = some type ∧
        mqttGetTotalLength (built.outbound ++ behind) length =
            some (built.outbound.length : Int) ∧
          mqttGetId (built.outbound ++ behind) length = some id

theorem replyBuilt_idMessage
    {connection : MqttConnection} {type : MqttMessageType} {id : UInt16}
    (room : 5 ≤ connection.bufferLength.toNat)
    (peer : id ≠ 0)
    (leads : type.leadsWithId = true)
    (qos : Fin 4) :
    ReplyBuilt (connection.idMessage type qos.val id) connection type qos
      id := by
  have built :=
    MqttConnection.idBuilt_idMessage connection type qos id
  have own :
      MqttConnection.assignMessageId connection.messageId id =
        (id, connection.messageId) := by
    rw [MqttConnection.assignMessageId, if_neg peer]
  rw [own] at built
  exact
    { packet := built.1.whole room
      counter := built.2
      room := built.1.room
      read := fun behind length => built.1.read leads room behind }

/--
The four replies of the QoS handshakes carry the id which they answer, count no
id, and are read back as they were built.
-/
theorem mqtt_replies_on_wire
    {connection : MqttConnection} {id : UInt16}
    (room : 5 ≤ connection.bufferLength.toNat)
    (peer : id ≠ 0) :
    ReplyBuilt (connection.mqttMsgPuback id) connection .puback 0 id ∧
      ReplyBuilt (connection.mqttMsgPubrec id) connection .pubrec 0 id ∧
        ReplyBuilt (connection.mqttMsgPubrel id) connection .pubrel 1 id ∧
          ReplyBuilt (connection.mqttMsgPubcomp id) connection .pubcomp 0 id :=
  ⟨replyBuilt_idMessage room peer rfl 0,
    replyBuilt_idMessage room peer rfl 0,
    replyBuilt_idMessage room peer rfl 1,
    replyBuilt_idMessage room peer rfl 0⟩

/-- A connection with a buffer of five bytes. -/
def smallConnection : MqttConnection where
  message := { data := 0, length := 0 }
  messageId := 0xFFFF
  buffer := [0, 0, 0, 0, 0]
  bufferLength := 5
  sized := by
    decide
  header := by
    decide

theorem mqtt_replies_on_wire_smallConnection :
    ReplyBuilt (smallConnection.mqttMsgPuback 0x1234) smallConnection .puback
        0 0x1234 ∧
      ReplyBuilt (smallConnection.mqttMsgPubrec 0x1234) smallConnection
          .pubrec 0 0x1234 ∧
        ReplyBuilt (smallConnection.mqttMsgPubrel 0x1234) smallConnection
            .pubrel 1 0x1234 ∧
          ReplyBuilt (smallConnection.mqttMsgPubcomp 0x1234) smallConnection
            .pubcomp 0 0x1234 :=
  mqtt_replies_on_wire (by decide) (by decide)

end EspFirmware
