import EspFirmware.MqttOutbound
import EspFirmware.MqttSession

/-!
# What is sent, and in which order

Every packet that the task sends was put into the queue as a whole before.  It
is sent once, in its turn, and with all of its bytes.
-/

namespace EspFirmware

open Library

/-- What a sender sends. -/
def MqttSender.Sends : MqttSender → MqttMessageType → Prop
  | .connectCb, type => type = .connect
  | .timer, type => type = .pingreq
  | .task, type =>
      type = .publish ∨ type = .subscribe ∨ type = .puback ∨
        type = .pubrec ∨ type = .pubrel ∨ type = .pubcomp ∨ type = .pingresp

/-- What is sent is a whole packet, or nothing where a message could not be built. -/
def MqttSender.Whole (sender : MqttSender) (bytes : List UInt8) : Prop :=
  bytes = [] ∨ ∃ type, sender.Sends type ∧ WholePacket type bytes

/-- A call of the queue as the client makes it. -/
def WholeEntry : QueueEntry → Prop
  | .put packet _ =>
      packet.length ≤ mqttBufSize ∧ MqttSender.task.Whole packet
  | .get none => True
  | .get (some reply) => reply.1 = mqttBufSize

/-! ## The queue -/

namespace MsgQueue

variable {before middle after : MsgQueue queueBufferSize}

/-- Calls of the queue as the client makes them. -/
structure Grows (before after : MsgQueue queueBufferSize) : Prop where
  sound : before.Sound → after.Sound
  log :
    ∃ more,
      after.log = before.log ++ more ∧ ∀ entry ∈ more, WholeEntry entry

theorem Grows.refl (queue : MsgQueue queueBufferSize) :
    queue.Grows queue where
  sound := id
  log := by
    refine ⟨[], (List.append_nil queue.log).symm, ?_⟩
    intro entry member
    cases member

theorem Grows.trans
    (first : before.Grows middle) (second : middle.Grows after) :
    before.Grows after where
  sound := fun sound => second.sound (first.sound sound)
  log := by
    rcases first.log with ⟨more, log, whole⟩
    rcases second.log with ⟨rest, logRest, wholeRest⟩
    refine ⟨more ++ rest, ?_, ?_⟩
    · rw [logRest, log, List.append_assoc]
    · intro entry member
      rcases List.mem_append.mp member with old | new
      · exact whole entry old
      · exact wholeRest entry new

theorem grows_of_entry
    {entry : QueueEntry}
    (sound : before.Sound → after.Sound)
    (log : after.log = before.log ++ [entry])
    (whole : WholeEntry entry) :
    before.Grows after where
  sound := sound
  log := by
    refine ⟨[entry], log, ?_⟩
    intro other member
    rw [List.mem_singleton.mp member]
    exact whole

theorem grows_puts
    (queue : MsgQueue queueBufferSize) {packet : List UInt8}
    (whole : ∀ accepted, WholeEntry (.put packet accepted)) :
    queue.Grows (queue.puts packet).1 :=
  grows_of_entry (fun sound => sound.puts packet) rfl (whole _)

theorem grows_gets
    (queue : MsgQueue queueBufferSize) (isBegin : Bool) :
    queue.Grows (queue.gets mqttBufSize isBegin).1 := by
  refine
    grows_of_entry (fun sound => sound.gets mqttBufSize isBegin) rfl ?_
  cases (protoParseRb queue.rb mqttBufSize isBegin).1 with
  | none =>
      trivial
  | some packet =>
      rfl

theorem grows_putDropping
    {packet : List UInt8}
    (whole : ∀ accepted, WholeEntry (.put packet accepted))
    (stack : Nat → Bool) (queue : MsgQueue queueBufferSize) :
    queue.Grows (queue.putDropping stack packet).1 := by
  induction stack, queue using putDropping.induct packet with
  | case1 stack queue added count put =>
      have accepted : (queue.puts packet).2 ≠ none := by
        rw [put]
        exact Option.some_ne_none count
      rw [putDropping_of_put accepted]
      exact grows_puts queue whole
  | case2 stack queue full put emptied read =>
      have refused : (queue.puts packet).2 = none := by
        rw [put]
      have grown :=
        (grows_puts queue whole).trans
          (grows_gets (queue.puts packet).1 (stack 0))
      rw [putDropping_of_refused refused, put, read, if_pos rfl]
      rw [put, read] at grown
      exact grown
  | case3 stack queue full put rest dropped read induction =>
      have refused : (queue.puts packet).2 = none := by
        rw [put]
      have grown :=
        (grows_puts queue whole).trans
          (grows_gets (queue.puts packet).1 (stack 0))
      rw [putDropping_of_refused refused, put, read,
        if_neg (Option.some_ne_none dropped)]
      rw [put, read] at grown
      exact grown.trans induction

/-- The packets which were read. -/
def replies (queue : MsgQueue queueBufferSize) : List (List UInt8) :=
  (queue.log.filterMap FifoEntry.reply).map Prod.snd

theorem Grows.replies (grown : before.Grows after) :
    before.replies.Sublist after.replies := by
  rcases grown.log with ⟨more, log, -⟩
  rw [MsgQueue.replies, MsgQueue.replies, log, List.filterMap_append,
    List.map_append]
  exact List.sublist_append_left _ _

theorem replies_gets
    {queue : MsgQueue queueBufferSize} {isBegin : Bool}
    {packet : List UInt8}
    (read : (queue.gets mqttBufSize isBegin).2 = some packet) :
    (queue.gets mqttBufSize isBegin).1.replies =
      queue.replies ++ [packet] := by
  have log :
      (queue.gets mqttBufSize isBegin).1.log =
        queue.log ++
          [FifoEntry.get
            ((queue.gets mqttBufSize isBegin).2.map
              (Prod.mk mqttBufSize))] := rfl
  rw [MsgQueue.replies, log, read, List.filterMap_append, List.map_append]
  rfl

end MsgQueue

/-- Packets which are read with room for them are read as they were put. -/
theorem replies_of_cutTo
    {packets : List (List UInt8)} {replies : List (Nat × List UInt8)}
    (cut : List.Forall₂ MsgQueue.CutTo packets replies)
    (small : ∀ packet ∈ packets, packet.length ≤ mqttBufSize)
    (rooms : ∀ reply ∈ replies, reply.1 = mqttBufSize) :
    replies.map Prod.snd = packets := by
  induction cut with
  | nil =>
      rfl
  | @cons packet reply packets replies first rest induction =>
      have room := rooms reply List.mem_cons_self
      have fits := small packet List.mem_cons_self
      rw [List.map_cons, induction, first, room,
        List.take_of_length_le fits]
      · exact fun other member => small other (.tail _ member)
      · exact fun other member => rooms other (.tail _ member)

/-! ## The client -/

namespace MqttClient

/-- What a client has done to its buffer and its queue. -/
structure Advances (before after : MqttClient) : Prop where
  room : after.connection.bufferLength = 1024
  queue : before.msgQueue.Grows after.msgQueue

variable {client middle after : MqttClient}

theorem Advances.trans
    (first : client.Advances middle) (second : middle.Advances after) :
    client.Advances after where
  room := second.room
  queue := first.queue.trans second.queue

theorem advances_refl
    (room : client.connection.bufferLength = 1024) :
    client.Advances client where
  room := room
  queue := .refl client.msgQueue

/-- A message which is put into the queue is a whole packet that can be read. -/
theorem whole_of_complete
    {built : MqttConnection} {type : MqttMessageType}
    (room : client.connection.bufferLength = 1024)
    (complete : built.Complete client.connection type)
    (queued : MqttSender.task.Sends type) (accepted : Bool) :
    WholeEntry (.put built.outbound accepted) := by
  constructor
  · have length := built.length_outbound_le
    rw [complete.room, room] at length
    exact length
  · have small : client.connection.bufferLength.toNat < 16387 := by
      rw [room]
      decide
    exact (complete.whole small).imp id fun whole => ⟨type, queued, whole⟩

theorem advances_reply
    {built : MqttConnection} {type : MqttMessageType}
    (room : client.connection.bufferLength = 1024)
    (complete : built.Complete client.connection type)
    (queued : MqttSender.task.Sends type) :
    client.Advances (client.reply built) where
  room := complete.room.trans room
  queue :=
    MsgQueue.grows_puts client.msgQueue
      (whole_of_complete room complete queued)

theorem advances_enqueue
    {built : MqttConnection} {type : MqttMessageType}
    (room : client.connection.bufferLength = 1024)
    (complete : built.Complete client.connection type)
    (queued : MqttSender.task.Sends type)
    (pendingMsgId : UInt16) (stack : Nat → Bool) :
    client.Advances
      ({ client with
        connection := built
        pendingMsgId := pendingMsgId }.enqueue stack).1 where
  room := complete.room.trans room
  queue :=
    MsgQueue.grows_putDropping (whole_of_complete room complete queued) stack
      client.msgQueue

theorem advances_call
    (room : client.connection.bufferLength = 1024)
    (stack : Nat → Bool) (call : MqttCall) :
    client.Advances (client.call stack call).1 := by
  cases call with
  | publish topic data qos retain =>
      have complete :=
        MqttConnection.complete_mqttMsgPublish client.connection topic data
          qos retain client.pendingMsgId
      rw [MqttClient.call, mqttPublish]
      dsimp only
      split
      · exact ⟨complete.room.trans room, .refl client.msgQueue⟩
      · exact
          advances_enqueue room complete (.inl rfl) _ stack
  | subscribe topic qos =>
      have complete :=
        MqttConnection.complete_topicMessage client.connection .subscribe
          topic [UInt8.ofInt 0] client.pendingMsgId
      exact advances_enqueue room complete (.inr (.inl rfl)) _ stack

theorem advances_calls
    (room : client.connection.bufferLength = 1024)
    (stack : Nat → Nat → Bool) (calls : List MqttCall) :
    client.Advances (client.calls stack calls).1 := by
  induction calls generalizing client stack with
  | nil =>
      exact advances_refl room
  | cons call calls induction =>
      have first := advances_call room (stack 0) call
      exact first.trans (induction first.room _)

theorem advances_acknowledge
    (room : client.connection.bufferLength = 1024)
    (msgQos : UInt8) (msgId : UInt16) :
    client.Advances (client.acknowledge msgQos msgId) := by
  rw [acknowledge]
  split
  · exact
      advances_reply room
        (MqttConnection.complete_idMessage _ .puback 0 msgId)
        (.inr (.inr (.inl rfl)))
  · split
    · exact
        advances_reply room
          (MqttConnection.complete_idMessage _ .pubrec 0 msgId)
          (.inr (.inr (.inr (.inl rfl))))
    · exact advances_refl room

/-- The inner `switch` puts one reply into the queue, or none. -/
theorem advances_receiveData
    {msgType : Option MqttMessageType} {msgQos : UInt8} {msgId : UInt16}
    {len : Nat} {actions : List MqttAction}
    (room : client.connection.bufferLength = 1024)
    (received :
      client.receiveData msgType msgQos msgId len = some (after, actions)) :
    client.Advances after := by
  cases msgType with
  | none =>
      cases received
      exact advances_refl room
  | some type =>
      cases type with
      | publish =>
          rcases Option.bind_eq_some_iff.mp received with ⟨event, -, same⟩
          cases same
          exact advances_acknowledge room msgQos msgId
      | pubrec =>
          cases received
          exact
            advances_reply room
              (MqttConnection.complete_idMessage _ .pubrel 1 msgId)
              (.inr (.inr (.inr (.inr (.inl rfl)))))
      | pubrel =>
          cases received
          exact
            advances_reply room
              (MqttConnection.complete_idMessage _ .pubcomp 0 msgId)
              (.inr (.inr (.inr (.inr (.inr (.inl rfl))))))
      | pingreq =>
          cases received
          exact
            advances_reply room
              (MqttConnection.complete_bareMessage _ .pingresp)
              (.inr (.inr (.inr (.inr (.inr (.inr rfl))))))
      | connect | connack | puback | pubcomp | subscribe | suback
      | unsubscribe | unsuback | pingresp | disconnect =>
          cases received
          exact advances_refl room

theorem advances_readPacket
    {pdata : List UInt8} {stack : Nat → Nat → Bool}
    {actions : List MqttAction} {again : Option (List UInt8)}
    (room : client.connection.bufferLength = 1024)
    (read : client.readPacket pdata stack = some (after, actions, again)) :
    client.Advances after := by
  have stored : client.Advances (client.store pdata) :=
    ⟨room, .refl client.msgQueue⟩
  rw [readPacket] at read
  split at read
  · rcases Option.bind_eq_some_iff.mp read with ⟨first, -, read⟩
    rcases Option.bind_eq_some_iff.mp read with ⟨msgId, -, read⟩
    cases state : client.connState with
    | mqttConnectSending =>
        have sameState : (client.store pdata).connState = .mqttConnectSending :=
          state
        simp only [sameState] at read
        cases read
        refine stored.trans ?_
        rw [receiveConnack]
        split
        · split
          · exact advances_refl room
          · have made :=
              @advances_calls
                { client.store pdata with connState := .mqttData } room stack
                (client.store pdata).connectedCalls
            exact ⟨made.room, made.queue⟩
        · exact advances_refl room
    | mqttData =>
        have sameState : (client.store pdata).connState = .mqttData := state
        simp only [sameState] at read
        rcases Option.bind_eq_some_iff.mp read with ⟨total, -, read⟩
        rcases Option.bind_eq_some_iff.mp read with
          ⟨⟨middle, made⟩, received, read⟩
        have advanced := stored.trans (advances_receiveData room received)
        split at read
        · cases read
          exact advanced
        · cases read
          exact advanced
    | wifiInit | tcpReconnectReq | tcpReconnect | tcpConnecting =>
        have sameState : (client.store pdata).connState = client.connState :=
          rfl
        rw [state] at sameState
        simp only [sameState] at read
        cases read
        exact stored
  · cases read
    exact advances_refl room

theorem advances_readPackets
    {stack : Nat → Nat → Bool} {fuel : Nat} {pdata : List UInt8}
    {actions : List MqttAction}
    (room : client.connection.bufferLength = 1024)
    (read : readPackets stack fuel client pdata = some (after, actions)) :
    client.Advances after := by
  induction fuel generalizing client pdata after actions with
  | zero =>
      cases read
  | succ fuel induction =>
      rw [readPackets] at read
      rcases Option.bind_eq_some_iff.mp read with
        ⟨⟨middle, made, again⟩, packet, read⟩
      have first := advances_readPacket room packet
      cases again with
      | none =>
          cases read
          exact first
      | some rest =>
          rcases Option.bind_eq_some_iff.mp read with
            ⟨⟨last, more⟩, behind, same⟩
          cases same
          exact first.trans (induction first.room behind)

/-! ## Events -/

theorem advances_mqttConnect
    (room : client.connection.bufferLength = 1024)
    (cached : Option UInt32) :
    client.Advances (client.mqttConnect cached).1 := by
  rw [mqttConnect, mqttDisconnect]
  cases client.pCon with
  | none =>
      dsimp only
      split <;> exact ⟨room, .refl client.msgQueue⟩
  | some number =>
      dsimp only
      split <;> exact ⟨room, .refl client.msgQueue⟩

/-- The task sends what it reads from the queue, and nothing else. -/
theorem advances_mqttTask
    (room : client.connection.bufferLength = 1024)
    (answers : TaskAnswers) :
    client.Advances (client.mqttTask answers).1 ∧
      (((client.mqttTask answers).2 = [] ∨
          client.connState = .tcpReconnect) ∨
        ∃ packet,
          (client.mqttTask answers).2 = [.sent .task client.pCon packet] ∧
            (client.mqttTask answers).1.msgQueue.replies =
              client.msgQueue.replies ++ [packet]) := by
  have advanced :=
    MsgQueue.grows_gets client.msgQueue answers.isBegin
  rw [mqttTask]
  split
  · next state =>
      exact ⟨advances_mqttConnect room answers.cached, .inl (.inr state)⟩
  · split
    · exact ⟨advances_refl room, .inl (.inl rfl)⟩
    · dsimp only
      cases read : (client.msgQueue.gets mqttBufSize answers.isBegin).2 with
      | none =>
          exact ⟨⟨room, advanced⟩, .inl (.inl rfl)⟩
      | some packet =>
          refine ⟨⟨room, advanced⟩, .inr ⟨packet, rfl, ?_⟩⟩
          exact MsgQueue.replies_gets read
  · exact ⟨advances_refl room, .inl (.inl rfl)⟩

theorem advances_handle
    {event : MqttEvent} {actions : List MqttAction}
    (room : client.connection.bufferLength = 1024)
    (handled : client.handle event = some (after, actions)) :
    client.Advances after := by
  have same {result : MqttClient × List MqttAction}
      (returned : some result = some (after, actions))
      (advanced : client.Advances result.1) :
      client.Advances after := by
    rw [Option.some.inj returned] at advanced
    exact advanced
  have untouched : client.Advances client := advances_refl room
  cases event with
  | start cached =>
      exact same handled (advances_mqttConnect room cached)
  | stop =>
      refine same handled ?_
      rw [mqttDisconnect]
      split <;> exact ⟨room, untouched.queue⟩
  | dnsFound ipaddr =>
      refine same handled ?_
      cases ipaddr with
      | none =>
          exact ⟨room, untouched.queue⟩
      | some addr =>
          rw [mqttDnsFound]
          split <;> exact ⟨room, untouched.queue⟩
  | connectCb =>
      have complete :=
        MqttConnection.complete_mqttMsgConnect
          client.connection.mqttMsgInit client.connectInfo
      exact same handled ⟨complete.room.trans room, untouched.queue⟩
  | reconCb | disconCb | sentCb =>
      exact same handled ⟨room, untouched.queue⟩
  | recv pdata stack =>
      exact advances_readPackets room handled
  | timer =>
      have complete :=
        MqttConnection.complete_bareMessage client.connection .pingreq
      refine same handled ?_
      rw [mqttTimer]
      split
      · dsimp only
        split
        · exact ⟨complete.room.trans room, untouched.queue⟩
        · exact ⟨room, untouched.queue⟩
      · dsimp only
        split <;> exact ⟨room, untouched.queue⟩
      · exact ⟨room, untouched.queue⟩
  | task answers =>
      exact same handled (advances_mqttTask room answers).1
  | call call stack =>
      exact same handled (advances_call room stack call)

end MqttClient

/-! ## Runs -/

/-- The event in which a sender sends. -/
def MqttSender.kind : MqttSender → MqttEventKind
  | .connectCb => .connectCb
  | .timer => .timer
  | .task => .task

/-- Something is sent only in the event of its sender, by the task only in a session. -/
theorem kind_of_sent
    {before after : MqttControl} {kind : MqttEventKind}
    {actions : List MqttAction}
    (step : before.Step kind after actions)
    {sender : MqttSender} {pCon : Option Nat} {bytes : List UInt8}
    (member : .sent sender pCon bytes ∈ actions) :
    kind = sender.kind ∧
      (kind = .task → before.connState = .mqttData) := by
  cases step with
  | quiet passive plain | lost cause plain | arrived plain =>
      exact (plain _ member).elim
  | queued passive posts =>
      cases posts _ member
  | connect caller number =>
      rcases List.mem_append.mp member with heap | last
      · rcases MqttControl.heap_of_mem_connectHeap heap with ⟨event, same⟩
        cases same
      · rw [← List.mem_singleton.mp last] at number
        exact number.elim
  | disconnect =>
      rcases List.mem_map.mp member with ⟨block, -, same⟩
      cases same
  | resolved | retry request late =>
      simp at member
  | accepted waiting plain =>
      rcases List.mem_cons.mp member with same | last
      · cases same
      · exact (plain _ last).elim
  | tick session early | wait request early | idle other =>
      cases member
  | greet other | ping other session late =>
      rcases List.mem_cons.mp member with same | last
      · cases same
        exact ⟨rfl, MqttEventKind.noConfusion⟩
      · cases List.mem_singleton.mp last
  | send other session rested =>
      cases List.mem_singleton.mp member
      exact ⟨rfl, fun _ => session⟩

/-- A packet which the task sends. -/
def MqttEntry.taskPacket : MqttEntry → Option (List UInt8)
  | .did (.sent .task _ bytes) => some bytes
  | _ => none

/-- The packets which the task has sent. -/
def taskPackets (log : List MqttEntry) : List (List UInt8) :=
  log.filterMap MqttEntry.taskPacket

theorem taskPackets_append (front back : List MqttEntry) :
    taskPackets (front ++ back) = taskPackets front ++ taskPackets back :=
  List.filterMap_append

/-- The packets of the task are sent by it, in a session. -/
theorem taskPackets_entriesOf
    {before after : MqttControl} {kind : MqttEventKind}
    {actions : List MqttAction}
    (step : before.Step kind after actions)
    (other : kind = .task → before.connState ≠ .mqttData)
    (state : ConnState) :
    taskPackets (entriesOf kind state actions) = [] := by
  rw [taskPackets, List.filterMap_eq_nil_iff]
  intro entry member
  rcases List.mem_cons.mp member with rfl | done
  · rfl
  · rcases List.mem_map.mp done with ⟨action, acted, rfl⟩
    cases action with
    | sent sender pCon bytes =>
        cases sender with
        | connectCb | timer =>
            rfl
        | task =>
            rcases kind_of_sent step acted with ⟨rfl, session⟩
            exact absurd (session rfl) (other rfl)
    | heap event | connect pCon | gethostbyname pCon | disconnect pCon
    | connectedCb | disconnectedCb | publishedCb | dataCb copied | post =>
        rfl

/-- What a sender other than the task sends. -/
theorem whole_of_sent
    {client after : MqttClient} {event : MqttEvent}
    {actions : List MqttAction}
    (room : client.connection.bufferLength = 1024)
    (handled : client.handle event = some (after, actions))
    {sender : MqttSender} {pCon : Option Nat} {bytes : List UInt8}
    (member : .sent sender pCon bytes ∈ actions)
    (other : sender ≠ .task) :
    sender.Whole bytes := by
  have small (type : MqttMessageType) (built : MqttConnection)
      (complete : built.Complete client.connection type)
      (sends : sender.Sends type) :
      sender.Whole built.outbound := by
    have bound : client.connection.bufferLength.toNat < 16387 := by
      rw [room]
      decide
    exact (complete.whole bound).imp id fun whole => ⟨type, sends, whole⟩
  have kind := (kind_of_sent (MqttClient.step_handle handled) member).1
  cases sender with
  | task =>
      exact absurd rfl other
  | connectCb =>
      cases event with
      | connectCb =>
          cases handled
          rcases List.mem_cons.mp member with same | last
          · cases same
            have complete :=
              MqttConnection.complete_mqttMsgConnect
                client.connection.mqttMsgInit client.connectInfo
            exact small .connect _ ⟨complete.room, complete.whole⟩ rfl
          · cases List.mem_singleton.mp last
      | start cached | stop | dnsFound ipaddr | reconCb | disconCb | sentCb
      | recv pdata stack | timer | task answers | call call stack =>
          cases kind
  | timer =>
      cases event with
      | timer =>
          have made : client.mqttTimer = (after, actions) :=
            Option.some.inj handled
          have complete :=
            MqttConnection.complete_bareMessage client.connection .pingreq
          have sent := member
          rw [← show client.mqttTimer.2 = actions from congrArg Prod.snd made,
            MqttClient.mqttTimer] at sent
          split at sent
          · dsimp only at sent
            split at sent
            · rcases List.mem_cons.mp sent with same | last
              · cases same
                exact small .pingreq _ complete rfl
              · cases List.mem_singleton.mp last
            · cases sent
          · dsimp only at sent
            split at sent
            · cases List.mem_singleton.mp sent
            · cases sent
          · cases sent
      | start cached | stop | dnsFound ipaddr | connectCb | reconCb
      | disconCb | sentCb | recv pdata stack | task answers
      | call call stack =>
          cases kind

/-- The order of the packets, from the queue to the wire. -/
structure QueueOrder (client : MqttClient) (log : List MqttEntry) : Prop where
  room : client.connection.bufferLength = 1024
  sound : client.msgQueue.Sound
  whole : ∀ entry ∈ client.msgQueue.log, WholeEntry entry
  fed : (taskPackets log).Sublist client.msgQueue.replies
  sent :
    ∀ sender pCon bytes, .did (.sent sender pCon bytes) ∈ log →
      sender ≠ .task → sender.Whole bytes

theorem queueOrder_step
    {client : MqttClient} {world after : MqttWorld} {event : MqttEvent}
    (taken : (mqttSystem client).next world event = some after)
    (order : QueueOrder world.client world.log) :
    QueueOrder after.client after.log := by
  rcases mqttSystem_next taken with ⟨-, actions, handled, log⟩
  have advanced := MqttClient.advances_handle order.room handled
  have step := MqttClient.step_handle handled
  have grown := advanced.queue.replies
  refine
    { room := advanced.room
      sound := advanced.queue.sound order.sound
      whole := ?_
      fed := ?_
      sent := ?_ }
  · rcases advanced.queue.log with ⟨more, grew, whole⟩
    rw [grew]
    intro entry member
    rcases List.mem_append.mp member with old | new
    · exact order.whole entry old
    · exact whole entry new
  · have quiet
        (other :
          event.kind = .task → world.client.control.connState ≠ .mqttData) :
        (taskPackets after.log).Sublist after.client.msgQueue.replies := by
      rw [log, taskPackets_append, taskPackets_entriesOf step other,
        List.append_nil]
      exact order.fed.trans grown
    cases event with
    | task answers =>
        have made : world.client.mqttTask answers = (after.client, actions) :=
          Option.some.inj handled
        have task := (MqttClient.advances_mqttTask order.room answers).2
        rw [made] at task
        rcases task with (none | state) | ⟨packet, sent, read⟩
        · have idle : actions = [] := none
          have nothing : taskPackets after.log = taskPackets world.log := by
            rw [log, taskPackets_append, idle]
            exact List.append_nil _
          rw [nothing]
          exact order.fed.trans grown
        · refine quiet fun _ => ?_
          change world.client.connState ≠ .mqttData
          rw [state]
          exact ConnState.noConfusion
        · have done : actions = _ := sent
          have replies : after.client.msgQueue.replies = _ := read
          rw [replies, log, done, taskPackets_append]
          exact order.fed.append_right [packet]
    | start cached | stop | dnsFound ipaddr | connectCb | reconCb | disconCb
    | sentCb | recv pdata stack | timer | call call stack =>
        exact quiet MqttEventKind.noConfusion
  · intro sender pCon bytes member other
    rw [log] at member
    rcases List.mem_append.mp member with old | new
    · exact order.sent sender pCon bytes old other
    · rcases List.mem_cons.mp new with same | done
      · cases same
      · rcases List.mem_map.mp done with ⟨action, acted, same⟩
        cases same
        exact whole_of_sent order.room handled acted other

theorem mem_taskPackets
    {log : List MqttEntry} {pCon : Option Nat} {bytes : List UInt8}
    (member : .did (.sent .task pCon bytes) ∈ log) :
    bytes ∈ taskPackets log :=
  List.mem_filterMap.mpr ⟨_, member, rfl⟩

/-- What was read from the queue is what was put first, whole. -/
theorem QueueOrder.replies
    {client : MqttClient} {log : List MqttEntry}
    (order : QueueOrder client log) :
    ∃ waiting,
      client.msgQueue.log.filterMap FifoEntry.item =
          client.msgQueue.replies ++ waiting ∧
        ∀ packet ∈ client.msgQueue.replies, MqttSender.task.Whole packet := by
  rcases order.sound with ⟨stream, holds⟩
  rcases holds.history.exact with ⟨handed, items, cut⟩
  have put (packet : List UInt8) (member : packet ∈ handed) :
      packet.length ≤ mqttBufSize ∧ MqttSender.task.Whole packet := by
    have item :
        packet ∈ client.msgQueue.log.filterMap FifoEntry.item := by
      rw [items]
      exact List.mem_append_left _ member
    rcases List.mem_filterMap.mp item with ⟨entry, logged, same⟩
    cases entry with
    | put other accepted =>
        cases accepted with
        | false =>
            cases same
        | true =>
            cases same
            exact order.whole _ logged
    | get reply =>
        cases same
  have same : client.msgQueue.replies = handed := by
    refine replies_of_cutTo cut (fun packet member => (put packet member).1) ?_
    intro reply member
    rcases List.mem_filterMap.mp member with ⟨entry, logged, same⟩
    cases entry with
    | put other accepted =>
        cases same
    | get read =>
        cases read with
        | none =>
            cases same
        | some pair =>
            cases same
            exact order.whole _ logged
  rw [same]
  exact ⟨stream.messages, items, fun packet member => (put packet member).2⟩

/-- What a client has sent. -/
structure SentInOrder (world : MqttWorld) : Prop where
  /-- The task sends packets of the queue, each once and in their order. -/
  order :
    (taskPackets world.log).Sublist
      (world.client.msgQueue.log.filterMap FifoEntry.item)
  /-- Nothing but whole packets is sent. -/
  whole :
    ∀ sender pCon bytes, .did (.sent sender pCon bytes) ∈ world.log →
      sender.Whole bytes

variable {host : CString} {connectInfo : MqttConnectInfo} {calls : List MqttCall}

/--
In whatever order the events come: what the task sends are packets which the
queue took in, none twice and none before an older one, and every sender sends
whole packets of its own types.
-/
theorem mqtt_sends_in_order
    {world : MqttWorld}
    (reached :
      (mqttSystem (.init host connectInfo calls)).Reachable world) :
    SentInOrder world := by
  have order : QueueOrder world.client world.log := by
    induction reached with
    | start =>
        exact
          { room := rfl
            sound := ⟨_, MsgQueue.holds_init _⟩
            whole := by
              intro entry member
              cases member
            fed := List.nil_sublist _
            sent := by
              intro sender pCon bytes member
              cases member }
    | next _ taken induction =>
        exact queueOrder_step taken induction
  rcases order.replies with ⟨waiting, items, whole⟩
  constructor
  · rw [items]
    exact order.fed.trans (List.sublist_append_left _ _)
  · intro sender pCon bytes member
    by_cases task : sender = .task
    · subst task
      exact whole bytes (order.fed.subset (mem_taskPackets member))
    · exact order.sent sender pCon bytes member task

theorem mqtt_sends_in_order_mqttAfterShortSession :
    SentInOrder mqttAfterShortSession :=
  mqtt_sends_in_order reachable_mqttAfterShortSession

end EspFirmware
