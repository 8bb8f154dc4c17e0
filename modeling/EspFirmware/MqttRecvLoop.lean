import EspFirmware.MqttControl
import EspFirmware.MqttDelivery

/-!
# Where the receive loop ends

`mqtt_tcpclient_recv` goes on behind a PUBLISH by its length, of which 16 bits
are kept.  A length that is a multiple of 65536 is then 0, and the same bytes
are looked at again, for ever.
-/

namespace EspFirmware

open Library

/-! ## What the readers depend on -/

section Prefix

variable {buffer behind : List UInt8} {length : Nat}

theorem getElem?_append_inside
    {place : Nat} (inside : place < buffer.length) :
    (buffer ++ behind)[place]? = buffer[place]? :=
  List.getElem?_append_left inside

theorem readLength_append
    {i : Nat} {totlen : Int} (inside : length ≤ buffer.length) :
    readLength (buffer ++ behind) length i totlen =
      readLength buffer length i totlen := by
  induction i, totlen using readLength.induct length with
  | case1 i totlen more induction =>
      rw [readLength, readLength, if_pos more, if_pos more,
        getElem?_append_inside (by omega)]
      cases read : buffer[i]? with
      | none =>
          rfl
      | some byte =>
          simp only [Option.bind_eq_bind, Option.bind_some]
          split
          · rfl
          · exact induction byte
  | case2 i totlen done =>
      rw [readLength, readLength, if_neg done, if_neg done]

/-- The readers do not look behind the length that they are given. -/
theorem readFixedHeader_append (inside : length ≤ buffer.length) :
    readFixedHeader (buffer ++ behind) length =
      readFixedHeader buffer length := by
  rw [readFixedHeader, readLength_append inside, readFixedHeader]

theorem mqttGetTotalLength_append (inside : length ≤ buffer.length) :
    mqttGetTotalLength (buffer ++ behind) length =
      mqttGetTotalLength buffer length := by
  rw [mqttGetTotalLength, readFixedHeader_append inside, mqttGetTotalLength]

/-- The readers of a PUBLISH stay inside of the buffer. -/
theorem deliverPublish_inside (inside : length ≤ buffer.length) :
    ∃ event, deliverPublish buffer length = some event := by
  rcases readFixedHeader_inside inside with ⟨header, read⟩
  have topic :
      ∃ found, mqttGetPublishTopic buffer length = some found := by
    rw [mqttGetPublishTopic, read]
    simp only [Option.bind_eq_bind, Option.bind_some]
    split
    · exact ⟨_, rfl⟩
    · rcases readWord_inside
          (show header.2 + 1 < buffer.length by omega) with
        ⟨topiclen, word⟩
      rw [word]
      simp only [Option.bind_some]
      split <;> exact ⟨_, rfl⟩
  have data : ∃ found, mqttGetPublishData buffer length = some found := by
    rw [mqttGetPublishData, read]
    simp only [Option.bind_eq_bind, Option.bind_some]
    split
    · exact ⟨_, rfl⟩
    · rcases readWord_inside
          (show header.2 + 1 < buffer.length by omega) with
        ⟨topiclen, word⟩
      rcases getElem?_inside (show 0 < buffer.length by omega) with
        ⟨first, head⟩
      rw [word, head]
      simp only [Option.bind_some]
      split
      · exact ⟨_, rfl⟩
      · split
        · split <;> exact ⟨_, rfl⟩
        · exact ⟨_, rfl⟩
  rcases topic with ⟨topic, topicFound⟩
  rcases data with ⟨data, dataFound⟩
  rw [deliverPublish, topicFound, dataFound]
  exact ⟨_, rfl⟩

end Prefix

namespace MqttClient

variable {client : MqttClient}

/-! ## One packet, whatever it is -/

/-- A reply leaves the client able to receive. -/
theorem Receives.reply
    {connection : MqttConnection}
    (receives : client.Receives)
    (room : connection.bufferLength = client.connection.bufferLength) :
    (client.reply connection).Receives where
  state := receives.state
  buffer := receives.buffer
  room := by
    change 5 ≤ connection.bufferLength.toNat
    rw [room]
    exact receives.room

theorem bufferLength_idMessage
    (connection : MqttConnection) (type : MqttMessageType) (qos : Fin 4)
    (messageId : UInt16) :
    (connection.idMessage type qos.val messageId).bufferLength =
      connection.bufferLength :=
  (MqttConnection.idBuilt_idMessage connection type qos messageId).1.room

theorem Receives.acknowledge
    (receives : client.Receives) (msgQos : UInt8) (msgId : UInt16) :
    (client.acknowledge msgQos msgId).Receives := by
  rw [MqttClient.acknowledge]
  split
  · exact receives.reply (bufferLength_idMessage _ .puback 0 msgId)
  · split
    · exact receives.reply (bufferLength_idMessage _ .pubrec 0 msgId)
    · exact receives

/-- The inner `switch` always comes to its end. -/
theorem Receives.receiveData
    {len : Nat}
    (receives : client.Receives)
    (inside : len ≤ client.inBuffer.length)
    (msgType : Option MqttMessageType) (msgQos : UInt8) (msgId : UInt16) :
    ∃ after actions,
      client.receiveData msgType msgQos msgId len = some (after, actions) ∧
        after.Receives := by
  cases msgType with
  | none =>
      exact ⟨client, [], rfl, receives⟩
  | some type =>
      cases type with
      | publish =>
          rcases deliverPublish_inside inside with
            ⟨event, delivers⟩
          refine
            ⟨_, [.dataCb (mqttDataCb client.inBuffer event)], ?_,
              receives.acknowledge msgQos msgId⟩
          rw [MqttClient.receiveData, delivers]
          rfl
      | pubrec =>
          exact
            ⟨_, _, rfl, receives.reply (bufferLength_idMessage _ .pubrel 1 msgId)⟩
      | pubrel =>
          exact
            ⟨_, _, rfl, receives.reply (bufferLength_idMessage _ .pubcomp 0 msgId)⟩
      | pingreq =>
          refine ⟨_, _, rfl, receives.reply ?_⟩
          rw [MqttConnection.mqttMsgPingresp, MqttConnection.bareMessage,
            MqttConnection.finiMessage]
          split <;> rfl
      | connect | connack | puback | pubcomp | subscribe | suback
      | unsubscribe | unsuback | pingresp | disconnect =>
          exact ⟨client, [], rfl, receives⟩

/-- Where the code goes on in what it was given, if it does. -/
def onward (pdata : List UInt8) : Option (List UInt8) := do
  let total ← mqttGetTotalLength pdata pdata.length
  if pdata.head?.bind mqttGetType = some .publish ∧
      (total % 65536).toNat < pdata.length then
    some (pdata.drop (total % 65536).toNat)
  else
    none

/-- What one packet leads to depends only on the data that is there. -/
theorem Receives.readPacket
    {pdata : List UInt8}
    (receives : client.Receives)
    (short : pdata.length < mqttBufSize) (positive : 0 < pdata.length)
    (stack : Nat → Nat → Bool) :
    ∃ after actions,
      client.readPacket pdata stack =
          some (after, actions, onward pdata) ∧
        after.Receives := by
  have loaded : (client.store pdata).Answered client [] :=
    answered_store (by rw [receives.buffer]; omega)
  have stored := receives.answered loaded
  have buffered :
      (client.store pdata).inBuffer =
        pdata ++ client.inBuffer.drop pdata.length :=
    osMemcpy_zero client.inBuffer pdata
  have sameTotal :
      mqttGetTotalLength (client.store pdata).inBuffer pdata.length =
        mqttGetTotalLength pdata pdata.length := by
    rw [buffered]
    exact mqttGetTotalLength_append (Nat.le_refl _)
  have filled : mqttBufSize ≤ (client.store pdata).inBuffer.length :=
    stored.buffer.ge
  rcases mqttGetId_inside filled with ⟨msgId, found⟩
  have head :
      ∃ first,
        (client.store pdata).inBuffer[0]? = some first ∧
          pdata.head? = some first := by
    rw [buffered]
    cases pdata with
    | nil =>
        cases positive
    | cons first rest =>
        exact ⟨first, rfl, rfl⟩
  rcases head with ⟨first, read, front⟩
  have defined :
      ∃ total, mqttGetTotalLength pdata pdata.length = some total :=
    mqttGetTotalLength_inside (Nat.le_refl _)
  rcases defined with ⟨total, defined⟩
  rcases stored.receiveData (short.le.trans filled) (mqttGetType first)
      (mqttGetQos first) msgId with
    ⟨after, actions, received, ready⟩
  refine ⟨after, actions, ?_, ready⟩
  rw [MqttClient.readPacket, if_pos ⟨short, positive⟩]
  simp only [read, found, stored.state, sameTotal, defined, received, onward,
    front, Option.bind_eq_bind, Option.bind_some]
  split <;> rfl

/-! ## Where the code ends -/

/-- The data on which the code comes to its end: what it goes on with gets shorter. -/
inductive Ends : List UInt8 → Prop where
  | outside {pdata : List UInt8}
      (refused : pdata.length = 0 ∨ mqttBufSize ≤ pdata.length) :
      Ends pdata
  | last {pdata : List UInt8}
      (stops : onward pdata = none) :
      Ends pdata
  | more {pdata rest : List UInt8}
      (goesOn : onward pdata = some rest)
      (shorter : rest.length < pdata.length)
      (ends : Ends rest) :
      Ends pdata

/-- The code looks at data, and then goes back with what is left of it. -/
def GoesOn (pdata rest : List UInt8) : Prop :=
  pdata.length < mqttBufSize ∧ onward pdata = some rest

/-- At the front is a PUBLISH whose length is taken for 0. -/
def Endless (pdata : List UInt8) : Prop :=
  pdata.length < mqttBufSize ∧
    pdata.head?.bind mqttGetType = some .publish ∧
      ∃ total,
        mqttGetTotalLength pdata pdata.length = some total ∧
          total % 65536 = 0

/-- Data without bytes, or too much of it, is only reported. -/
theorem readPackets_outside
    {pdata : List UInt8}
    (outside : ¬(pdata.length < mqttBufSize ∧ 0 < pdata.length))
    (stack : Nat → Nat → Bool) (fuel : Nat) :
    readPackets stack (fuel + 1) client pdata = some (client, [.post]) := by
  rw [readPackets, MqttClient.readPacket, if_neg outside]
  rfl

/-- The code looks at other data once, and goes back for what it goes on with. -/
theorem Receives.readPackets_inside
    {pdata : List UInt8}
    (receives : client.Receives)
    (inside : pdata.length < mqttBufSize ∧ 0 < pdata.length)
    (stack : Nat → Nat → Bool) :
    ∃ after actions,
      after.Receives ∧
        ∀ fuel,
          readPackets stack (fuel + 1) client pdata =
            match onward pdata with
            | none => some (after, actions ++ [.post])
            | some rest =>
                (readPackets stack fuel after rest).map fun result =>
                  (result.1, actions ++ result.2) := by
  rcases receives.readPacket inside.1 inside.2 stack with
    ⟨after, actions, read, ready⟩
  refine ⟨after, actions, ready, fun fuel => ?_⟩
  rw [readPackets, read]
  cases onward pdata with
  | none =>
      rfl
  | some rest =>
      simp only [Option.bind_eq_bind, Option.bind_some]
      cases readPackets stack fuel after rest <;> rfl

/-- With enough fuel, the code comes to the end of such data. -/
theorem Ends.returns
    {pdata : List UInt8} (ends : Ends pdata)
    (receives : client.Receives) (stack : Nat → Nat → Bool)
    {fuel : Nat} (enough : pdata.length < fuel) :
    ∃ result, readPackets stack fuel client pdata = some result := by
  induction ends generalizing client fuel with
  | @outside pdata refused =>
      cases fuel with
      | zero =>
          omega
      | succ fuel =>
          exact ⟨_, readPackets_outside (by omega) stack fuel⟩
  | @last pdata stops =>
      cases fuel with
      | zero =>
          omega
      | succ fuel =>
          by_cases inside : pdata.length < mqttBufSize ∧ 0 < pdata.length
          · rcases receives.readPackets_inside inside stack with
              ⟨after, actions, -, reads⟩
            rw [reads, stops]
            exact ⟨_, rfl⟩
          · exact ⟨_, readPackets_outside inside stack fuel⟩
  | @more pdata rest goesOn shorter ends induction =>
      cases fuel with
      | zero =>
          omega
      | succ fuel =>
          by_cases inside : pdata.length < mqttBufSize ∧ 0 < pdata.length
          · rcases receives.readPackets_inside inside stack with
              ⟨after, actions, ready, reads⟩
            rcases induction ready (show rest.length < fuel by omega) with
              ⟨result, returned⟩
            refine ⟨(result.1, actions ++ result.2), ?_⟩
            rw [reads, goesOn]
            exact congrArg (Option.map _) returned
          · exact ⟨_, readPackets_outside inside stack fuel⟩

/-- What the code goes on with is shorter, unless the length was taken for 0. -/
theorem onward_cases
    {pdata rest : List UInt8} (goesOn : onward pdata = some rest) :
    rest.length < pdata.length ∨
      rest = pdata ∧
        pdata.head?.bind mqttGetType = some .publish ∧
          ∃ total,
            mqttGetTotalLength pdata pdata.length = some total ∧
              total % 65536 = 0 := by
  rw [onward] at goesOn
  rcases Option.bind_eq_some_iff.mp goesOn with ⟨total, defined, behind⟩
  split at behind
  · next inside =>
      have same := Option.some.inj behind
      by_cases zero : total % 65536 = 0
      · rw [zero, Int.toNat_zero, List.drop_zero] at same
        exact .inr ⟨same.symm, inside.1, total, defined, zero⟩
      · rw [← same, List.length_drop]
        exact .inl (by omega)
  · cases behind

/-- A PUBLISH whose length is taken for 0 is looked at again. -/
theorem Endless.goesOn
    {pdata : List UInt8} (endless : Endless pdata) : GoesOn pdata pdata := by
  rcases endless with ⟨short, publish, total, defined, zero⟩
  have positive : 0 < pdata.length := by
    cases pdata with
    | nil =>
        cases publish
    | cons first rest =>
        exact Nat.succ_pos _
  refine ⟨short, ?_⟩
  rw [onward, defined]
  simp only [Option.bind_eq_bind, Option.bind_some, zero, Int.toNat_zero,
    List.drop_zero]
  exact if_pos ⟨publish, positive⟩

theorem GoesOn.positive
    {pdata rest : List UInt8} (goesOn : GoesOn pdata rest) :
    0 < pdata.length := by
  cases pdata with
  | nil =>
      rcases Option.bind_eq_some_iff.mp goesOn.2 with ⟨total, -, behind⟩
      rw [if_neg (fun both => nomatch both.1)] at behind
      cases behind
  | cons first rest =>
      exact Nat.succ_pos _

/-- Where the code goes on and ends, it ends with what it goes on with, which is less. -/
theorem Ends.goesOn
    {pdata rest : List UInt8} (ends : Ends pdata)
    (goesOn : GoesOn pdata rest) :
    rest.length < pdata.length ∧ Ends rest := by
  have positive := goesOn.positive
  rcases goesOn with ⟨short, goesOn⟩
  cases ends with
  | outside refused =>
      omega
  | last stops =>
      rw [goesOn] at stops
      cases stops
  | @more _ other onward shorter ends =>
      rw [goesOn] at onward
      cases onward
      exact ⟨shorter, ends⟩

/-- The code does not end exactly where it comes to a PUBLISH whose length is taken for 0. -/
theorem not_ends_iff (pdata : List UInt8) :
    ¬Ends pdata ↔
      ∃ rest, Relation.ReflTransGen GoesOn pdata rest ∧ Endless rest := by
  constructor
  · intro never
    induction length : pdata.length using Nat.strong_induction_on
      generalizing pdata with
    | _ count induction =>
        have short : pdata.length < mqttBufSize := by
          by_contra long
          exact never (.outside (.inr (by omega)))
        cases goesOn : onward pdata with
        | none =>
            exact absurd (.last goesOn) never
        | some rest =>
            rcases onward_cases goesOn with shorter | ⟨-, endless⟩
            · rcases induction rest.length (by omega) rest
                  (fun ends => never (.more goesOn shorter ends)) rfl with
                ⟨last, reached, endless⟩
              exact ⟨last, .head ⟨short, goesOn⟩ reached, endless⟩
            · exact ⟨pdata, .refl, short, endless⟩
  · rintro ⟨rest, reached, endless⟩
    induction reached using Relation.ReflTransGen.head_induction_on with
    | refl =>
        intro ends
        exact Nat.lt_irrefl _ (ends.goesOn endless.goesOn).1
    | head goesOn _ induction =>
        intro ends
        exact induction (ends.goesOn goesOn).2

/-- Where the code comes to an end, it does so on ever shorter data. -/
theorem ends_of_returns
    {pdata : List UInt8} (receives : client.Receives)
    (stack : Nat → Nat → Bool) {fuel : Nat}
    {result : MqttClient × List MqttAction}
    (returned : readPackets stack fuel client pdata = some result) :
    Ends pdata := by
  induction fuel generalizing client pdata result with
  | zero =>
      cases returned
  | succ fuel induction =>
      by_cases inside : pdata.length < mqttBufSize ∧ 0 < pdata.length
      · rcases receives.readPackets_inside inside stack with
          ⟨after, actions, ready, reads⟩
        rw [reads] at returned
        cases goesOn : onward pdata with
        | none =>
            exact .last goesOn
        | some rest =>
            rw [goesOn] at returned
            rcases Option.map_eq_some_iff.mp returned with
              ⟨others, behind, -⟩
            have ends := induction ready behind
            rcases onward_cases goesOn with shorter | ⟨same, -⟩
            · exact .more goesOn shorter ends
            · -- the same data again: it ended with less fuel
              rw [same] at ends
              exact ends
      · exact .outside (by omega)

theorem Receives.returns_iff
    (receives : client.Receives) (pdata : List UInt8)
    (stack : Nat → Nat → Bool) :
    (client.mqttTcpclientRecv pdata stack).isSome ↔ Ends pdata := by
  rw [Option.isSome_iff_exists]
  constructor
  · rintro ⟨result, returned⟩
    exact ends_of_returns receives stack returned
  · intro ends
    exact ends.returns receives stack (Nat.lt_succ_self _)

/-- Outside of a session the code looks at its data once. -/
theorem isSome_mqttTcpclientRecv
    (buffer : client.inBuffer.length = mqttBufSize)
    (other : client.connState ≠ .mqttData)
    (pdata : List UInt8) (stack : Nat → Nat → Bool) :
    (client.mqttTcpclientRecv pdata stack).isSome := by
  rw [mqttTcpclientRecv, readPackets, MqttClient.readPacket]
  by_cases inside : pdata.length < mqttBufSize ∧ 0 < pdata.length
  · have stored : (client.store pdata).inBuffer.length = mqttBufSize := by
      rw [← buffer]
      exact (answered_store (by omega)).inBuffer
    rcases mqttGetId_inside stored.ge with ⟨msgId, found⟩
    rcases getElem?_inside
        (show 0 < (client.store pdata).inBuffer.length by omega) with
      ⟨first, read⟩
    have state : (client.store pdata).connState = client.connState := rfl
    rw [if_pos inside]
    simp only [found, read, state, Option.bind_eq_bind, Option.bind_some]
    cases waiting : client.connState with
    | mqttData =>
        exact absurd waiting other
    | _ =>
        rfl
  · rw [if_neg inside]
    rfl

/--
The runs of a client leave out exactly the data of a session on which the code
does not end; of every other event they go on.
-/
theorem handle_eq_none_iff
    (buffer : client.inBuffer.length = mqttBufSize)
    (room : 5 ≤ client.connection.bufferLength.toNat)
    (event : MqttEvent) :
    client.handle event = none ↔
      client.connState = .mqttData ∧
        ∃ pdata stack, event = .recv pdata stack ∧ ¬Ends pdata := by
  cases event with
  | recv pdata stack =>
      have only :
          (∃ data other,
              MqttEvent.recv pdata stack = .recv data other ∧ ¬Ends data) ↔
            ¬Ends pdata := by
        constructor
        · rintro ⟨data, other, same, never⟩
          cases same
          exact never
        · intro never
          exact ⟨pdata, stack, rfl, never⟩
      change client.mqttTcpclientRecv pdata stack = none ↔ _
      rw [only, ← Option.not_isSome_iff_eq_none]
      by_cases session : client.connState = .mqttData
      · have receives : client.Receives := ⟨session, buffer, room⟩
        rw [receives.returns_iff]
        exact ⟨fun never => ⟨session, never⟩, And.right⟩
      · exact
          ⟨fun none =>
              absurd (isSome_mqttTcpclientRecv buffer session pdata stack)
                none,
            fun both => absurd both.1 session⟩
  | start | stop | dnsFound | connectCb | reconCb | disconCb | sentCb | timer
  | task | call =>
      constructor
      · intro none
        cases none
      · rintro ⟨-, pdata, stack, same, -⟩
        cases same

end MqttClient

/--
In a session, `mqtt_tcpclient_recv` comes to its end exactly on the data on
which it goes on with ever less.  That is all data but that in which it comes,
from PUBLISH to PUBLISH, to one whose length is a multiple of 65536: there the
firmware never returns from the callback.
-/
theorem mqtt_recv_returns_iff
    {client : MqttClient} (receives : client.Receives)
    (pdata : List UInt8) (stack : Nat → Nat → Bool) :
    ((∃ fuel result,
        MqttClient.readPackets stack fuel client pdata = some result) ↔
      MqttClient.Ends pdata) ∧
      (MqttClient.Ends pdata →
        (client.mqttTcpclientRecv pdata stack).isSome) ∧
        (¬MqttClient.Ends pdata ↔
          ∃ rest,
            Relation.ReflTransGen MqttClient.GoesOn pdata rest ∧
              MqttClient.Endless rest) := by
  refine
    ⟨⟨?_, ?_⟩, (receives.returns_iff pdata stack).mpr,
      MqttClient.not_ends_iff pdata⟩
  · rintro ⟨fuel, result, returned⟩
    exact MqttClient.ends_of_returns receives stack returned
  · intro ends
    exact ⟨_, ends.returns receives stack (Nat.lt_succ_self _)⟩

-- A PINGRESP whose length goes on for six bytes is looked at once.
example :
    MqttClient.Ends [0xD0, 0x80, 0x80, 0x80, 0x80, 0x80, 0x00] :=
  .last (by decide +kernel)

/-- The fixed header of a PUBLISH with 65532 bytes behind it. -/
def endlessPublish : List UInt8 :=
  [0x30, 0xFC, 0xFF, 0x03]

example : mqttGetTotalLength endlessPublish 4 = some 65536 := by
  decide +kernel

theorem mqtt_recv_returns_iff_endless :
    ((∃ fuel result,
        MqttClient.readPackets (fun _ _ => true) fuel mqttConnected
            endlessPublish =
          some result) ↔
      MqttClient.Ends endlessPublish) ∧
      (MqttClient.Ends endlessPublish →
        (mqttConnected.mqttTcpclientRecv endlessPublish
          (fun _ _ => true)).isSome) ∧
        (¬MqttClient.Ends endlessPublish ↔
          ∃ rest,
            Relation.ReflTransGen MqttClient.GoesOn endlessPublish rest ∧
              MqttClient.Endless rest) :=
  mqtt_recv_returns_iff receives_mqttConnected endlessPublish fun _ _ => true

end EspFirmware
