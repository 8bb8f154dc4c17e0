import EspFirmware.MqttReceive

/-!
# What is delivered

A segment of whole packets is taken apart as it was put together, up to the
first packet which is not a PUBLISH.  What is behind that one is lost.
-/

namespace EspFirmware

open Library

/-! ## Replies -/

/-- The packet which is an id. -/
def idPacket (type : MqttMessageType) (qos : Fin 4) (id : UInt16) :
    MqttPacket where
  type := type
  dup := false
  qos := qos
  retain := false
  body := word16 id.toNat
  small := by
    rw [length_word16]
    decide

/-- The packet without anything behind the fixed header. -/
def barePacket (type : MqttMessageType) : MqttPacket where
  type := type
  dup := false
  qos := 0
  retain := false
  body := []
  small := by
    decide

/-- The reply to a PUBLISH: PUBACK at level 1, PUBREC at level 2. -/
def PublishPacket.ack (publish : PublishPacket) : Option (List UInt8) :=
  if publish.qos = 1 then
    some (idPacket .puback 0 publish.id).bytes
  else if publish.qos = 2 then
    some (idPacket .pubrec 0 publish.id).bytes
  else
    none

/-- The reply to another packet, which carries an id or not. -/
def MqttPacket.answer (packet : MqttPacket) (id : UInt16) :
    Option (List UInt8) :=
  match packet.type with
  | .pubrec => some (idPacket .pubrel 1 id).bytes
  | .pubrel => some (idPacket .pubcomp 0 id).bytes
  | .pingreq => some (barePacket .pingresp).bytes
  | _ => none

namespace MqttClient

/-- Packets are put into the queue, as far as they fit. -/
def putAll (queue : MsgQueue queueBufferSize) (packets : List (List UInt8)) :
    MsgQueue queueBufferSize :=
  packets.foldl (fun queue packet => (queue.puts packet).1) queue

/-- All that became of a client is that it has put replies into its queue. -/
structure Answered
    (after before : MqttClient) (replies : List (List UInt8)) : Prop where
  queue : after.msgQueue = putAll before.msgQueue replies
  counter : after.connection.messageId = before.connection.messageId
  room : after.connection.bufferLength = before.connection.bufferLength
  inBuffer : after.inBuffer.length = before.inBuffer.length
  others :
    { after with
      inBuffer := before.inBuffer
      connection := before.connection
      msgQueue := before.msgQueue } =
      before

variable {client after middle before : MqttClient}

theorem answered_refl (client : MqttClient) : client.Answered client [] where
  queue := rfl
  counter := rfl
  room := rfl
  inBuffer := rfl
  others := rfl

theorem Answered.trans
    {replies more : List (List UInt8)}
    (second : after.Answered middle more)
    (first : middle.Answered before replies) :
    after.Answered before (replies ++ more) where
  queue := by
    rw [second.queue, first.queue, putAll, putAll, putAll, List.foldl_append]
  counter := second.counter.trans first.counter
  room := second.room.trans first.room
  inBuffer := second.inBuffer.trans first.inBuffer
  others := by
    have firstOthers := first.others
    rw [← second.others] at firstOthers
    exact firstOthers

theorem Answered.connState
    {replies : List (List UInt8)} (answered : after.Answered before replies) :
    after.connState = before.connState := by
  rw [← answered.others]

/-- What is received is put over the buffer. -/
theorem answered_store
    {pdata : List UInt8}
    (fits : pdata.length ≤ client.inBuffer.length) :
    (client.store pdata).Answered client [] where
  queue := rfl
  counter := rfl
  room := rfl
  inBuffer := length_osMemcpy (by omega)
  others := rfl

/-- A reply that was built is put into the queue. -/
theorem answered_reply
    {connection : MqttConnection} {packet : MqttPacket}
    (bytes : connection.outbound = packet.bytes)
    (counter : connection.messageId = client.connection.messageId)
    (room : connection.bufferLength = client.connection.bufferLength) :
    (client.reply connection).Answered client [packet.bytes] where
  queue := by
    rw [← bytes]
    rfl
  counter := counter
  room := room
  inBuffer := rfl
  others := rfl

theorem answered_idReply
    {type : MqttMessageType} {qos : Fin 4} {id : UInt16}
    {connection : MqttConnection}
    (built : ReplyBuilt connection client.connection type qos id) :
    (client.reply connection).Answered client
      [(idPacket type qos id).bytes] := by
  rcases built.packet with ⟨small, same⟩
  exact answered_reply same built.counter built.room

/-- A PUBLISH is acknowledged by its level, with its own id. -/
theorem answered_acknowledge
    {publish : PublishPacket}
    (room : 5 ≤ client.connection.bufferLength.toNat)
    (peer : publish.qos ≠ 0 → publish.id ≠ 0) :
    Answered
      (client.acknowledge (mqttGetQos publish.packet.first)
        (if publish.qos = 0 then 0 else publish.id))
      client publish.ack.toList := by
  have value : (mqttGetQos publish.packet.first).toNat = publish.qos.val :=
    publish.packet.mqttGetQos_first
  have level (qos : Fin 4) :
      mqttGetQos publish.packet.first = UInt8.ofNat qos.val ↔
        publish.qos = qos := by
    have small := qos.isLt
    rw [← UInt8.toNat_inj, value, UInt8.toNat_ofNat', ← Fin.val_inj]
    omega
  have one : mqttGetQos publish.packet.first = 1 ↔ publish.qos = 1 :=
    level 1
  have two : mqttGetQos publish.packet.first = 2 ↔ publish.qos = 2 :=
    level 2
  rw [acknowledge, PublishPacket.ack]
  by_cases first : publish.qos = 1
  · have counted : publish.qos ≠ 0 := by
      rw [first]
      decide
    rw [if_pos (one.mpr first), if_pos first, if_neg counted]
    exact
      answered_idReply (replyBuilt_idMessage room (peer counted) rfl 0)
  · rw [if_neg (one.not.mpr first), if_neg first]
    by_cases second : publish.qos = 2
    · have counted : publish.qos ≠ 0 := by
        rw [second]
        decide
      rw [if_pos (two.mpr second), if_pos second, if_neg counted]
      exact
        answered_idReply (replyBuilt_idMessage room (peer counted) rfl 0)
    · rw [if_neg (two.not.mpr second), if_neg second]
      exact answered_refl client

/-- What a broker sends that keeps to the protocol. -/
def Proper (publish : PublishPacket) : Prop :=
  publish.topic ≠ [] ∧ (publish.qos ≠ 0 → publish.id ≠ 0)

/-- A client that can receive. -/
structure Receives (client : MqttClient) : Prop where
  state : client.connState = .mqttData
  buffer : client.inBuffer.length = mqttBufSize
  room : 5 ≤ client.connection.bufferLength.toNat

theorem Receives.answered
    {replies : List (List UInt8)}
    (receives : before.Receives) (answered : after.Answered before replies) :
    after.Receives where
  state := answered.connState.trans receives.state
  buffer := answered.inBuffer.trans receives.buffer
  room := by
    rw [answered.room]
    exact receives.room

/-! ## One packet -/

/-- What the callback is given of a PUBLISH; of an empty one at the very end it is `NULL`. -/
def delivered (publish : PublishPacket) (ending : Bool) :
    Option (List UInt8 × List UInt8) :=
  if publish.data = [] ∧ publish.qos ≠ 0 ∧ ending then
    none
  else
    some (publish.topic, publish.data)

/-- What the callback is given of a PUBLISH behind whose opening so much is there. -/
def deliveredOf (publish : PublishPacket) (rest : List UInt8) :
    Option (List UInt8 × List UInt8) :=
  if rest = [] ∧ publish.qos ≠ 0 then
    none
  else
    some (publish.topic, rest.take publish.data.length)

theorem deliveredOf_whole (publish : PublishPacket) (rest : List UInt8) :
    deliveredOf publish (publish.data ++ rest) =
      delivered publish (decide (rest = [])) := by
  have same :
      publish.data ++ rest = [] ∧ publish.qos ≠ 0 ↔
        publish.data = [] ∧ publish.qos ≠ 0 ∧ decide (rest = []) = true := by
    rw [List.append_eq_nil_iff, decide_eq_true_iff]
    tauto
  rw [deliveredOf, delivered, List.take_left]
  by_cases none : publish.data ++ rest = [] ∧ publish.qos ≠ 0
  · rw [if_pos none, if_pos (same.mp none)]
  · rw [if_neg none, if_neg (same.not.mp none)]

theorem deliverPublish_opening
    {publish : PublishPacket} (rest behind : List UInt8)
    (named : publish.topic ≠ []) :
    ∃ event,
      deliverPublish (publish.opening ++ (rest ++ behind))
            (publish.opening ++ rest).length =
          some event ∧
        mqttDataCb (publish.opening ++ (rest ++ behind)) event =
          deliveredOf publish rest := by
  have length :
      (publish.opening ++ rest).length = publish.dataPlace + rest.length := by
    rw [List.length_append, publish.length_opening]
  have positive : 0 < publish.dataPlace := by
    rw [← publish.length_opening]
    exact Nat.succ_pos _
  have topic :
      copyOf (publish.opening ++ (rest ++ behind)) (some publish.topicPlace)
          publish.topic.length =
        some publish.topic :=
    congrArg some (publish.topic_eq _)
  rw [deliverPublish, length,
    PublishPacket.mqttGetPublishTopic_opening _ named (Nat.le_add_right _ _),
    PublishPacket.mqttGetPublishData_opening _ named (Nat.le_add_right _ _)]
  refine ⟨_, rfl, ?_⟩
  rw [mqttDataCb]
  simp only [topic, Option.bind_eq_bind, Option.bind_some]
  cases rest with
  | nil =>
      rw [List.length_nil, Nat.add_zero, if_pos rfl, deliveredOf,
        List.take_nil]
      by_cases lowest : publish.qos = 0
      · rw [if_pos lowest, if_neg (fun all => all.2 lowest)]
        rfl
      · rw [if_neg lowest, if_pos ⟨rfl, lowest⟩, copyOf,
          if_neg (Nat.ne_of_gt positive)]
        rfl
  | cons byte rest =>
      have more : publish.dataPlace + (byte :: rest).length ≠ publish.dataPlace := by
        rw [List.length_cons]
        omega
      have data :
          copyOf (publish.opening ++ (byte :: rest ++ behind))
              (some publish.dataPlace)
              (min publish.data.length (byte :: rest).length) =
            some ((byte :: rest).take publish.data.length) := by
        rw [copyOf, publish.drop_dataPlace,
          List.take_append_of_le_length (Nat.min_le_right _ _),
          ← List.take_eq_take_min]
      rw [if_neg more, Nat.add_sub_cancel_left, data, deliveredOf,
        if_neg (fun all => List.cons_ne_nil _ _ all.1)]
      rfl

/-- The buffer while a segment is looked at. -/
theorem osMemcpy_zero (dest src : List UInt8) :
    osMemcpy dest 0 src = src ++ dest.drop src.length := by
  rw [osMemcpy, List.take_zero, List.nil_append, Nat.zero_add]

/--
A PUBLISH at the front is acknowledged and delivered as soon as its opening is
there, and the code goes on behind what it takes for its length.
-/
theorem readPacket_opening
    {publish : PublishPacket} {rest : List UInt8}
    (receives : client.Receives)
    (proper : Proper publish)
    (short : (publish.opening ++ rest).length < mqttBufSize)
    (stack : Nat → Nat → Bool) :
    ∃ after,
      client.readPacket (publish.opening ++ rest) stack =
          some
            (after, [.dataCb (deliveredOf publish rest)],
              if publish.bytes.length % 65536 <
                  (publish.opening ++ rest).length then
                some
                  ((publish.opening ++ rest).drop
                    (publish.bytes.length % 65536))
              else
                none) ∧
        after.Answered client publish.ack.toList := by
  have length :
      (publish.opening ++ rest).length = publish.dataPlace + rest.length := by
    rw [List.length_append, publish.length_opening]
  have positive : 0 < publish.dataPlace := by
    rw [← publish.length_opening]
    exact Nat.succ_pos _
  have buffered :
      (client.store (publish.opening ++ rest)).inBuffer =
        publish.opening ++
          (rest ++ client.inBuffer.drop (publish.opening ++ rest).length) := by
    change osMemcpy client.inBuffer 0 (publish.opening ++ rest) = _
    rw [osMemcpy_zero, List.append_assoc]
  have id :=
    PublishPacket.mqttGetId_opening
      (rest ++ client.inBuffer.drop (publish.opening ++ rest).length)
      proper.1 (show publish.dataPlace < mqttBufSize by omega)
  have header :=
    PublishPacket.readFixedHeader_opening
      (rest ++ client.inBuffer.drop (publish.opening ++ rest).length)
      (show publish.dataPlace ≤ (publish.opening ++ rest).length by omega)
  have total :
      mqttGetTotalLength
          (publish.opening ++
            (rest ++ client.inBuffer.drop (publish.opening ++ rest).length))
          (publish.opening ++ rest).length =
        some (publish.bytes.length : Int) := by
    rw [mqttGetTotalLength, header]
    rfl
  have kept :
      ((publish.bytes.length : Int) % 65536).toNat =
        publish.bytes.length % 65536 := by
    omega
  rcases deliverPublish_opening rest
      (client.inBuffer.drop (publish.opening ++ rest).length) proper.1 with
    ⟨event, delivers, copies⟩
  have loaded :
      (client.store (publish.opening ++ rest)).Answered client [] :=
    answered_store (by
      rw [receives.buffer]
      omega)
  have acknowledged :=
    answered_acknowledge
      (by
        rw [loaded.room]
        exact receives.room)
      proper.2
  have sameState :
      (client.store (publish.opening ++ rest)).connState = .mqttData :=
    receives.state
  have type : mqttGetType publish.packet.first = some .publish :=
    publish.packet.mqttGetType_first
  refine ⟨_, ?_, acknowledged.trans loaded⟩
  rw [readPacket, if_pos ⟨short, by omega⟩]
  simp only [buffered, sameState, publish.head_opening, id, total, kept,
    Option.bind_eq_bind, Option.bind_some, type, receiveData, delivers,
    copies]
  change (if True ∧ _ then some _ else some _) = _
  by_cases more :
      publish.bytes.length % 65536 < (publish.opening ++ rest).length
  · rw [if_pos more, if_pos ⟨trivial, more⟩]
  · rw [if_neg more, if_neg (fun both => more both.2)]

/-- Of a whole PUBLISH, everything is delivered, and the code goes on behind it. -/
theorem readPacket_publish
    {publish : PublishPacket} {rest : List UInt8}
    (receives : client.Receives)
    (proper : Proper publish)
    (short : (publish.bytes ++ rest).length < mqttBufSize)
    (stack : Nat → Nat → Bool) :
    ∃ after,
      client.readPacket (publish.bytes ++ rest) stack =
          some
            (after, [.dataCb (delivered publish (decide (rest = [])))],
              if rest = [] then none else some rest) ∧
        after.Answered client publish.ack.toList := by
  have layout :
      publish.bytes ++ rest = publish.opening ++ (publish.data ++ rest) := by
    rw [publish.bytes_eq, List.append_assoc]
  have length :
      (publish.bytes ++ rest).length = publish.bytes.length + rest.length :=
    List.length_append
  have small : publish.bytes.length % 65536 = publish.bytes.length := by
    have bound : mqttBufSize = 1024 := rfl
    omega
  have behind :
      (publish.bytes ++ rest).drop publish.bytes.length = rest :=
    List.drop_left
  have read :=
    readPacket_opening receives proper (by rwa [layout] at short) stack
  rw [← layout, small, length, deliveredOf_whole, behind] at read
  rcases read with ⟨after, read, acknowledged⟩
  refine ⟨after, ?_, acknowledged⟩
  rw [read]
  by_cases last : rest = []
  · have none : ¬publish.bytes.length < publish.bytes.length + rest.length := by
      rw [last, List.length_nil]
      omega
    rw [if_pos last, if_neg none]
  · have more := List.length_pos_iff.mpr last
    rw [if_neg last, if_pos (by omega)]

/-! ## Segments -/

/-- What the callback is given of PUBLISH packets with more behind them. -/
def deliveries (publishes : List PublishPacket) : List MqttAction :=
  publishes.map fun publish => .dataCb (delivered publish false)

/-- The acknowledgements of PUBLISH packets. -/
def acks (publishes : List PublishPacket) : List (List UInt8) :=
  publishes.filterMap PublishPacket.ack

theorem acks_concat (publishes : List PublishPacket) (last : PublishPacket) :
    acks (publishes ++ [last]) = acks publishes ++ last.ack.toList := by
  rw [acks, List.filterMap_append]
  cases ack : last.ack <;> simp [ack, acks]

/-- The code gets behind PUBLISH packets, whatever comes there. -/
theorem readPackets_publishes
    (publishes : List PublishPacket) {last : List UInt8}
    (receives : client.Receives)
    (proper : ∀ publish ∈ publishes, Proper publish)
    (more : last ≠ [])
    (short :
      (publishes.flatMap PublishPacket.bytes ++ last).length < mqttBufSize)
    (stack : Nat → Nat → Bool) :
    ∃ after,
      after.Answered client (acks publishes) ∧
        ∀ fuel,
          readPackets stack (fuel + publishes.length) client
              (publishes.flatMap PublishPacket.bytes ++ last) =
            (readPackets stack fuel after last).map fun result =>
              (result.1, deliveries publishes ++ result.2) := by
  induction publishes generalizing client with
  | nil =>
      refine ⟨client, answered_refl client, fun fuel => ?_⟩
      exact Option.map_id'.symm
  | cons publish publishes induction =>
      rw [List.flatMap_cons, List.append_assoc] at short ⊢
      rcases readPacket_publish receives
          (proper publish List.mem_cons_self) short stack with
        ⟨middle, read, acknowledged⟩
      have rest :
          publishes.flatMap PublishPacket.bytes ++ last ≠ [] := by
        intro none
        exact more (List.append_eq_nil_iff.mp none).2
      rw [decide_eq_false rest, if_neg rest] at read
      have behind :
          (publishes.flatMap PublishPacket.bytes ++ last).length <
            mqttBufSize := by
        rw [List.length_append] at short
        omega
      rcases induction (receives.answered acknowledged)
          (fun other member => proper other (.tail _ member)) behind with
        ⟨after, answered, reads⟩
      have acksCons :
          acks (publish :: publishes) =
            publish.ack.toList ++ acks publishes := by
        rw [acks, List.filterMap_cons]
        cases publish.ack <;> rfl
      refine ⟨after, ?_, fun fuel => ?_⟩
      · rw [acksCons]
        exact answered.trans acknowledged
      · rw [List.length_cons, ← Nat.add_assoc, readPackets, read]
        simp only [Option.bind_eq_bind, Option.bind_some, reads]
        cases readPackets stack fuel after last <;> rfl

/-- A packet which is not a PUBLISH, and which the client can answer. -/
structure Final (packet : MqttPacket) (id : UInt16) : Prop where
  other : packet.type ≠ .publish
  answerable :
    packet.type = .pubrec ∨ packet.type = .pubrel →
      id ≠ 0 ∧ packet.body.length < 128 ∧
        ∃ rest, packet.body = word16 id.toNat ++ rest

/-- A message without anything behind the fixed header. -/
theorem outbound_bareMessage
    (connection : MqttConnection) (type : MqttMessageType) :
    (connection.bareMessage type).outbound = (barePacket type).bytes := by
  have packet :=
    (MqttConnection.isPacket_finished_iff type 0 0 []).mpr
      (show 0 < 16384 by decide)
  rw [MqttConnection.bareMessage,
    (MqttConnection.built_initMessage connection).outbound_finiMessage]
  rcases packet with ⟨small, same⟩
  exact same

/-- The inner `switch` answers a packet by its type. -/
theorem receiveData_final
    {packet : MqttPacket} {id msgId : UInt16}
    (final : Final packet id)
    (room : 5 ≤ client.connection.bufferLength.toNat)
    (read : packet.type = .pubrec ∨ packet.type = .pubrel → msgId = id)
    (msgQos : UInt8) (len : Nat) :
    ∃ after,
      client.receiveData (some packet.type) msgQos msgId len =
          some (after, []) ∧
        after.Answered client (packet.answer id).toList := by
  have other := final.other
  have answerable := final.answerable
  rw [MqttPacket.answer]
  cases type : packet.type with
  | publish =>
      exact absurd type other
  | pubrec =>
      have same := read (.inl type)
      have peer := (answerable (.inl type)).1
      subst same
      exact
        ⟨_, rfl, answered_idReply (replyBuilt_idMessage room peer rfl 1)⟩
  | pubrel =>
      have same := read (.inr type)
      have peer := (answerable (.inr type)).1
      subst same
      exact
        ⟨_, rfl, answered_idReply (replyBuilt_idMessage room peer rfl 0)⟩
  | pingreq =>
      refine
        ⟨_, rfl, answered_reply (outbound_bareMessage _ .pingresp) ?_ rfl⟩
      rw [MqttConnection.mqttMsgPingresp, MqttConnection.bareMessage]
      exact MqttConnection.messageId_finiMessage _ _ _ _ _
  | connect | connack | puback | pubcomp | subscribe | suback | unsubscribe
  | unsuback | pingresp | disconnect =>
      exact ⟨client, rfl, answered_refl client⟩

/-- The code ends at a packet which is not a PUBLISH, whatever is behind it. -/
theorem readPacket_final
    {packet : MqttPacket} {id : UInt16} {behind : List UInt8}
    (receives : client.Receives)
    (final : Final packet id)
    (short : (packet.bytes ++ behind).length < mqttBufSize)
    (stack : Nat → Nat → Bool) :
    ∃ after,
      client.readPacket (packet.bytes ++ behind) stack =
          some (after, [], none) ∧
        after.Answered client (packet.answer id).toList := by
  have positive : 0 < packet.bytes.length := Nat.succ_pos _
  have length :
      (packet.bytes ++ behind).length = packet.bytes.length + behind.length :=
    List.length_append
  have loaded : (client.store (packet.bytes ++ behind)).Answered client [] :=
    answered_store (by rw [receives.buffer]; omega)
  have buffered :
      (client.store (packet.bytes ++ behind)).inBuffer =
        packet.bytes ++
          (behind ++
            client.inBuffer.drop (packet.bytes ++ behind).length) := by
    change osMemcpy client.inBuffer 0 (packet.bytes ++ behind) = _
    rw [osMemcpy_zero, List.append_assoc]
  have filled :
      mqttBufSize ≤
        (packet.bytes ++
          (behind ++
            client.inBuffer.drop (packet.bytes ++ behind).length)).length := by
    rw [← buffered, loaded.inBuffer, receives.buffer]
  have sameState :
      (client.store (packet.bytes ++ behind)).connState = .mqttData :=
    receives.state
  have total :=
    mqttGetTotalLength_packet packet
      (behind ++ client.inBuffer.drop (packet.bytes ++ behind).length)
      (show packet.bytes.length ≤ (packet.bytes ++ behind).length by omega)
  have head (back : List UInt8) :
      (packet.bytes ++ back)[0]? = some packet.first := rfl
  rcases mqttGetId_inside filled with ⟨msgId, found⟩
  have read : packet.type = .pubrec ∨ packet.type = .pubrel → msgId = id := by
    intro kind
    rcases final.answerable kind with ⟨-, few, rest, body⟩
    have leads : packet.type.leadsWithId = true := by
      rcases kind with kind | kind <;> rw [kind] <;> rfl
    have leading :=
      mqttGetId_leading leads body few
        (behind ++ client.inBuffer.drop (packet.bytes ++ behind).length)
        (show packet.bytes.length ≤ mqttBufSize by omega)
    rw [leading] at found
    exact (Option.some.inj found).symm
  rcases receiveData_final final
      (by rw [loaded.room]; exact receives.room) read
      (mqttGetQos packet.first) (packet.bytes ++ behind).length with
    ⟨after, received, answered⟩
  have noPublish : ¬some packet.type = some MqttMessageType.publish :=
    fun same => final.other (Option.some.inj same)
  refine ⟨after, ?_, answered.trans loaded⟩
  rw [readPacket, if_pos ⟨short, by omega⟩]
  simp only [buffered, sameState, head, found, total, received,
    packet.mqttGetType_first, Option.bind_eq_bind, Option.bind_some]
  exact if_neg fun both => noPublish both.1

/-- Every packet has at least one byte. -/
theorem length_le_flatMap_bytes (publishes : List PublishPacket) :
    publishes.length ≤
      (publishes.flatMap PublishPacket.bytes).length := by
  induction publishes with
  | nil =>
      exact Nat.le_refl 0
  | cons publish publishes induction =>
      have positive : 0 < publish.bytes.length := Nat.succ_pos _
      rw [List.flatMap_cons, List.length_append, List.length_cons]
      omega

/-- A segment ends with the packet at which the code does not go on. -/
theorem mqttTcpclientRecv_eq
    {after middle : MqttClient} {publishes : List PublishPacket}
    {last : List UInt8} {actions : List MqttAction}
    {stack : Nat → Nat → Bool}
    (reads :
      ∀ fuel,
        readPackets stack (fuel + publishes.length) client
            (publishes.flatMap PublishPacket.bytes ++ last) =
          (readPackets stack fuel middle last).map fun result =>
            (result.1, deliveries publishes ++ result.2))
    (ends : middle.readPacket last stack = some (after, actions, none)) :
    client.mqttTcpclientRecv
        (publishes.flatMap PublishPacket.bytes ++ last) stack =
      some (after, deliveries publishes ++ (actions ++ [.post])) := by
  have few := length_le_flatMap_bytes publishes
  have fuel :
      (publishes.flatMap PublishPacket.bytes ++ last).length + 1 =
        (publishes.flatMap PublishPacket.bytes).length + last.length -
              publishes.length +
            1 +
          publishes.length := by
    rw [List.length_append]
    omega
  rw [mqttTcpclientRecv, fuel, reads, readPackets, ends]
  rfl

/-- A segment of whole PUBLISH packets. -/
theorem recv_publishes
    (front : List PublishPacket) {last : PublishPacket}
    (receives : client.Receives)
    (proper : ∀ publish ∈ front ++ [last], Proper publish)
    (short :
      (front.flatMap PublishPacket.bytes ++ last.bytes).length < mqttBufSize)
    (stack : Nat → Nat → Bool) :
    ∃ after,
      client.mqttTcpclientRecv
            (front.flatMap PublishPacket.bytes ++ last.bytes) stack =
          some
            (after,
              deliveries front ++
                [.dataCb (delivered last true), .post]) ∧
        after.Answered client (acks (front ++ [last])) := by
  have positive : last.bytes ≠ [] := List.cons_ne_nil _ _
  rcases readPackets_publishes front receives
      (fun publish member => proper publish (List.mem_append_left _ member))
      positive short stack with
    ⟨middle, answered, reads⟩
  have lastShort : (last.bytes ++ []).length < mqttBufSize := by
    rw [List.length_append] at short ⊢
    rw [List.length_nil]
    omega
  rcases readPacket_publish (receives.answered answered)
      (proper last (List.mem_append_right _ List.mem_cons_self)) lastShort
      stack with
    ⟨after, read, acknowledged⟩
  rw [List.append_nil, if_pos rfl] at read
  refine ⟨after, mqttTcpclientRecv_eq reads read, ?_⟩
  rw [acks_concat]
  exact acknowledged.trans answered

end MqttClient

/--
A segment of whole PUBLISH packets is taken apart as it was put together: each
topic is delivered with its data, in order, and each packet is acknowledged by
its level and with its id.  Only the last one, when it is empty and carries an
id, makes the callback copy from `NULL`.
-/
theorem mqtt_recv_publishes
    {client : MqttClient} (front : List PublishPacket)
    {last : PublishPacket}
    (receives : client.Receives)
    (proper : ∀ publish ∈ front ++ [last], MqttClient.Proper publish)
    (short :
      (front.flatMap PublishPacket.bytes ++ last.bytes).length < mqttBufSize)
    (stack : Nat → Nat → Bool) :
    ∃ after,
      client.mqttTcpclientRecv
            (front.flatMap PublishPacket.bytes ++ last.bytes) stack =
          some
            (after,
              MqttClient.deliveries front ++
                [.dataCb (MqttClient.delivered last true), .post]) ∧
        after.Answered client (MqttClient.acks (front ++ [last])) :=
  MqttClient.recv_publishes front receives proper short stack

/-- The client of the firmware, once it is connected. -/
def mqttConnected : MqttClient :=
  { mqttInit with connState := .mqttData }

theorem receives_mqttConnected : mqttConnected.Receives where
  state := rfl
  buffer := List.length_replicate
  room := by
    decide

/-- A PUBLISH at the highest level. -/
def publishTwice : PublishPacket where
  dup := false
  qos := 2
  retain := false
  topic := [0x61, 0x62]
  id := 7
  data := [0x68, 0x69]
  topicSmall := by
    decide
  dataSmall := by
    decide

theorem mqtt_recv_publishes_two :
    ∃ after,
      mqttConnected.mqttTcpclientRecv
            ([publishTwice].flatMap PublishPacket.bytes ++
              publishNothing.bytes)
            (fun _ _ => false) =
          some
            (after,
              MqttClient.deliveries [publishTwice] ++
                [.dataCb (MqttClient.delivered publishNothing true),
                  .post]) ∧
        after.Answered mqttConnected
          (MqttClient.acks ([publishTwice] ++ [publishNothing])) :=
  mqtt_recv_publishes [publishTwice] receives_mqttConnected
    (by
      intro publish member
      simp only [List.cons_append, List.nil_append, List.mem_cons,
        List.not_mem_nil, or_false] at member
      rcases member with rfl | rfl <;>
        exact ⟨by decide, fun _ => by decide⟩)
    (by decide +kernel) (fun _ _ => false)

/--
The first packet which is not a PUBLISH is the last one that is looked at.  It
is answered, and what is behind it in the segment is lost, whatever it is.
-/
theorem mqtt_recv_loses_behind
    {client : MqttClient} (publishes : List PublishPacket)
    {packet : MqttPacket} {id : UInt16} {behind : List UInt8}
    (receives : client.Receives)
    (proper : ∀ publish ∈ publishes, MqttClient.Proper publish)
    (final : MqttClient.Final packet id)
    (short :
      (publishes.flatMap PublishPacket.bytes ++
        (packet.bytes ++ behind)).length < mqttBufSize)
    (stack : Nat → Nat → Bool) :
    ∃ after,
      client.mqttTcpclientRecv
            (publishes.flatMap PublishPacket.bytes ++
              (packet.bytes ++ behind))
            stack =
          some (after, MqttClient.deliveries publishes ++ [.post]) ∧
        after.Answered client
          (MqttClient.acks publishes ++ (packet.answer id).toList) := by
  rcases MqttClient.readPackets_publishes publishes receives proper
      (List.cons_ne_nil _ _) short stack with
    ⟨middle, answered, reads⟩
  have ready := receives.answered answered
  have lastShort : (packet.bytes ++ behind).length < mqttBufSize := by
    rw [List.length_append] at short
    omega
  rcases MqttClient.readPacket_final ready final lastShort stack with
    ⟨after, read, replied⟩
  exact
    ⟨after, MqttClient.mqttTcpclientRecv_eq reads read,
      replied.trans answered⟩

theorem mqtt_recv_loses_behind_pubrel :
    ∃ after,
      mqttConnected.mqttTcpclientRecv
            ([publishTwice].flatMap PublishPacket.bytes ++
              ((idPacket .pubrel 1 7).bytes ++ publishTwice.bytes))
            (fun _ _ => false) =
          some (after, MqttClient.deliveries [publishTwice] ++ [.post]) ∧
        after.Answered mqttConnected
          (MqttClient.acks [publishTwice] ++
            ((idPacket .pubrel 1 7).answer 7).toList) :=
  mqtt_recv_loses_behind [publishTwice] receives_mqttConnected
    (by
      intro publish member
      rw [List.mem_singleton.mp member]
      exact ⟨by decide, fun _ => by decide⟩)
    { other := by
        decide
      answerable := fun _ => ⟨by decide, by decide, [], rfl⟩ }
    (by decide +kernel) (fun _ _ => false)

/--
A PUBLISH which a segment does not hold to its end is delivered with the data
that is there, and acknowledged like a whole one.  The data that is missing is
then taken for packets: what was published is able to publish.
-/
theorem mqtt_recv_cut
    {client : MqttClient} (publishes : List PublishPacket)
    {last : PublishPacket} {received missing : List UInt8}
    (receives : client.Receives)
    (proper : ∀ publish ∈ publishes ++ [last], MqttClient.Proper publish)
    (split : last.data = received ++ missing)
    (cut : missing ≠ [])
    (counted : last.bytes.length < 65536)
    (short :
      (publishes.flatMap PublishPacket.bytes ++
        (last.opening ++ received)).length < mqttBufSize)
    (stack : Nat → Nat → Bool) :
    ∃ middle,
      client.mqttTcpclientRecv
            (publishes.flatMap PublishPacket.bytes ++
              (last.opening ++ received))
            stack =
          some
            (middle,
              MqttClient.deliveries publishes ++
                [.dataCb (MqttClient.deliveredOf last received), .post]) ∧
        middle.Answered client (MqttClient.acks (publishes ++ [last])) ∧
          ∀ inner final,
            missing = inner.flatMap PublishPacket.bytes ++ final.bytes →
              (∀ publish ∈ inner ++ [final], MqttClient.Proper publish) →
                missing.length < mqttBufSize →
                  ∃ after,
                    middle.mqttTcpclientRecv missing stack =
                        some
                          (after,
                            MqttClient.deliveries inner ++
                              [.dataCb (MqttClient.delivered final true),
                                .post]) ∧
                      after.Answered middle
                        (MqttClient.acks (inner ++ [final])) := by
  rcases MqttClient.readPackets_publishes publishes receives
      (fun publish member => proper publish (List.mem_append_left _ member))
      (List.cons_ne_nil _ _) short stack with
    ⟨ready, answered, reads⟩
  have ownShort : (last.opening ++ received).length < mqttBufSize := by
    rw [List.length_append] at short
    omega
  rcases MqttClient.readPacket_opening (receives.answered answered)
      (proper last (List.mem_append_right _ List.mem_cons_self)) ownShort
      stack with
    ⟨middle, read, acknowledged⟩
  have ending :
      ¬last.bytes.length % 65536 < (last.opening ++ received).length := by
    have absent := List.length_pos_iff.mpr cut
    rw [Nat.mod_eq_of_lt counted, last.bytes_eq, split, List.length_append,
      List.length_append, List.length_append]
    omega
  rw [if_neg ending] at read
  have all :
      middle.Answered client (MqttClient.acks (publishes ++ [last])) := by
    rw [MqttClient.acks_concat]
    exact acknowledged.trans answered
  refine ⟨middle, MqttClient.mqttTcpclientRecv_eq reads read, all, ?_⟩
  rintro inner final rfl innerProper innerShort
  exact
    MqttClient.recv_publishes inner (receives.answered all) innerProper
      innerShort stack

/-- A PUBLISH whose data holds another one. -/
def publishHiding : PublishPacket where
  dup := false
  qos := 1
  retain := false
  topic := [0x63]
  id := 9
  data := [0x68] ++ publishNothing.bytes
  topicSmall := by
    decide
  dataSmall := by
    rw [List.length_append, publishNothing.length_bytes]
    decide +kernel

theorem mqtt_recv_cut_publishHiding :
    ∃ middle,
      mqttConnected.mqttTcpclientRecv
            ([publishTwice].flatMap PublishPacket.bytes ++
              (publishHiding.opening ++ [0x68]))
            (fun _ _ => false) =
          some
            (middle,
              MqttClient.deliveries [publishTwice] ++
                [.dataCb (MqttClient.deliveredOf publishHiding [0x68]),
                  .post]) ∧
        middle.Answered mqttConnected
          (MqttClient.acks ([publishTwice] ++ [publishHiding])) ∧
          ∀ inner final,
            publishNothing.bytes =
                inner.flatMap PublishPacket.bytes ++ final.bytes →
              (∀ publish ∈ inner ++ [final], MqttClient.Proper publish) →
                publishNothing.bytes.length < mqttBufSize →
                  ∃ after,
                    middle.mqttTcpclientRecv publishNothing.bytes
                          (fun _ _ => false) =
                        some
                          (after,
                            MqttClient.deliveries inner ++
                              [.dataCb (MqttClient.delivered final true),
                                .post]) ∧
                      after.Answered middle
                        (MqttClient.acks (inner ++ [final])) :=
  mqtt_recv_cut [publishTwice] receives_mqttConnected
    (by
      intro publish member
      simp only [List.cons_append, List.nil_append, List.mem_cons,
        List.not_mem_nil, or_false] at member
      rcases member with rfl | rfl <;>
        exact ⟨by decide, fun _ => by decide⟩)
    rfl (List.cons_ne_nil _ _)
    (by
      rw [publishHiding.length_bytes]
      decide +kernel)
    (by decide +kernel) (fun _ _ => false)

end EspFirmware
