import EspFirmware.MqttMessages

/-!
# What is built

The builders of `mqtt_msg.c` write exactly the packets of the wire, as long as
they fit, and never outside of the buffer.
-/

namespace EspFirmware

open Library

namespace MqttConnection

/-! ## The message while it is built -/

/-- The bytes of a message stand behind the place of the fixed header. -/
structure Built (connection : MqttConnection) (body : List UInt8) : Prop where
  length : connection.message.length = 3 + body.length
  stored :
    ∃ kind low high rest,
      connection.buffer = kind :: low :: high :: (body ++ rest)

/-- What the builders of a message leave alone. -/
structure SameFrame (after before : MqttConnection) : Prop where
  bufferLength : after.bufferLength = before.bufferLength
  messageId : after.messageId = before.messageId

theorem SameFrame.trans
    {after middle before : MqttConnection}
    (second : after.SameFrame middle) (first : middle.SameFrame before) :
    after.SameFrame before where
  bufferLength := second.bufferLength.trans first.bufferLength
  messageId := second.messageId.trans first.messageId

variable {connection : MqttConnection} {body : List UInt8}

theorem Built.within (built : connection.Built body) :
    3 + body.length ≤ connection.bufferLength.toNat := by
  rcases built.stored with ⟨kind, low, high, rest, stored⟩
  rw [← connection.sized, stored]
  simp only [List.length_cons, List.length_append]
  omega

theorem built_initMessage (connection : MqttConnection) :
    connection.initMessage.Built [] := by
  have room : 3 ≤ connection.buffer.length := by
    rw [connection.sized]
    exact connection.header
  refine ⟨rfl, ?_⟩
  change ∃ kind low high rest, connection.buffer = kind :: low :: high :: rest
  match connection.buffer, room with
  | kind :: low :: high :: rest, _ =>
      exact ⟨kind, low, high, rest, rfl⟩

/-- A copy behind the front of a buffer. -/
theorem osMemcpy_append
    (front rest src : List UInt8) {offset : Nat}
    (next : offset = front.length) :
    osMemcpy (front ++ rest) offset src =
      front ++ (src ++ rest.drop src.length) := by
  subst next
  rw [osMemcpy, List.take_left, List.drop_append,
    List.drop_eq_nil_of_le (Nat.le_add_right _ _), List.nil_append,
    Nat.add_sub_cancel_left, List.append_assoc]

theorem Built.push
    (built : connection.Built body) (bytes : List UInt8)
    (fits :
      connection.message.length + bytes.length ≤
        connection.bufferLength.toNat) :
    (connection.push bytes fits).Built (body ++ bytes) := by
  rcases built.stored with ⟨kind, low, high, rest, stored⟩
  constructor
  · rw [MqttConnection.push, List.length_append, ← Nat.add_assoc,
      ← built.length]
  · refine ⟨kind, low, high, rest.drop bytes.length, ?_⟩
    have front :
        connection.buffer = (kind :: low :: high :: body) ++ rest := stored
    have behind :
        connection.message.length = (kind :: low :: high :: body).length := by
      rw [built.length, List.length_cons, List.length_cons, List.length_cons]
      omega
    change osMemcpy connection.buffer connection.message.length bytes = _
    rw [front, osMemcpy_append _ _ _ behind, List.append_assoc]
    rfl

/-! ## Steps of a builder -/

/-- A step makes one body into another if there is room for it, and fails otherwise. -/
def Extends
    (step : MqttConnection → Except MqttConnection MqttConnection)
    (body after : List UInt8) : Prop :=
  ∀ connection : MqttConnection, connection.Built body →
    (3 + after.length ≤ connection.bufferLength.toNat →
      ∃ built,
        step connection = .ok built ∧ built.Built after ∧
          built.SameFrame connection) ∧
      (connection.bufferLength.toNat < 3 + after.length →
        ∃ failed,
          step connection = .error failed ∧ failed.SameFrame connection)

variable
    {first second : MqttConnection → Except MqttConnection MqttConnection}
    {middle after : List UInt8}

/-- A step which changes the body without a length. -/
theorem extends_of_change
    {change : MqttConnection → MqttConnection}
    (changed :
      ∀ connection : MqttConnection, connection.Built body →
        (change connection).Built after ∧
          (change connection).SameFrame connection)
    (same : after.length = body.length) :
    Extends (fun connection => .ok (change connection)) body after := by
  intro connection built
  constructor
  · intro _
    exact ⟨_, rfl, changed connection built⟩
  · intro long
    have within := built.within
    omega

theorem extends_ok (body : List UInt8) : Extends .ok body body :=
  extends_of_change (fun _ built => ⟨built, rfl, rfl⟩) rfl

theorem Extends.bind
    (one : Extends first body middle) (two : Extends second middle after)
    (grows : middle.length ≤ after.length) :
    Extends (fun connection => first connection >>= second) body after := by
  intro connection built
  have firstStep := one connection built
  constructor
  · intro fits
    rcases firstStep.1 (by omega) with ⟨halfway, taken, half, frame⟩
    rcases (two halfway half).1 (by rw [frame.bufferLength]; omega) with
      ⟨done, takenNext, whole, frameNext⟩
    refine ⟨done, ?_, whole, frameNext.trans frame⟩
    change first connection >>= second = _
    rw [taken]
    exact takenNext
  · intro long
    by_cases room : 3 + middle.length ≤ connection.bufferLength.toNat
    · rcases firstStep.1 room with ⟨halfway, taken, half, frame⟩
      rcases (two halfway half).2 (by rw [frame.bufferLength]; omega) with
        ⟨failed, takenNext, frameNext⟩
      refine ⟨failed, ?_, frameNext.trans frame⟩
      change first connection >>= second = _
      rw [taken]
      exact takenNext
    · rcases firstStep.2 (by omega) with ⟨failed, taken, frame⟩
      refine ⟨failed, ?_, frame⟩
      change first connection >>= second = _
      rw [taken]
      rfl

theorem extends_appendBytes (body bytes : List UInt8) :
    Extends (fun connection => connection.appendBytes bytes) body
      (body ++ bytes) := by
  intro connection built
  rw [List.length_append, ← Nat.add_assoc, ← built.length]
  constructor
  · intro fits
    exact
      ⟨connection.push bytes fits, dif_pos fits, built.push bytes fits, rfl,
        rfl⟩
  · intro long
    exact ⟨connection, dif_neg (by omega), rfl, rfl⟩

/-- The two bytes of a length, as `append_string` and `append_message_id` write them. -/
theorem word16_eq (value : Nat) :
    [UInt8.ofNat (value >>> 8), UInt8.ofNat (value &&& 0xFF)] =
      word16 value := by
  rw [word16, Nat.shiftRight_eq_div_pow,
    show value &&& 0xFF = value % 256 from
      Nat.and_two_pow_sub_one_eq_mod value 8]

theorem extends_appendString (body : List UInt8) (string : CString) :
    Extends (fun connection => connection.appendString string) body
      (body ++ mqttString string.bytes) := by
  intro connection built
  have bytes :
      UInt8.ofNat (string.strlen >>> 8) ::
          UInt8.ofNat (string.strlen &&& 0xFF) :: string.bytes =
        mqttString string.bytes := by
    rw [mqttString, ← word16_eq]
    rfl
  have length : string.strlen = string.bytes.length := rfl
  rw [List.length_append, length_mqttString, ← Nat.add_assoc,
    ← built.length]
  constructor
  · intro fits
    have room :
        connection.message.length + string.strlen + 2 ≤
          connection.bufferLength.toNat := by
      omega
    refine
      ⟨_, dif_pos room, ?_, rfl, rfl⟩
    rw [← bytes]
    exact built.push _ _
  · intro long
    exact ⟨connection, dif_neg (by omega), rfl, rfl⟩

/-! ## The fixed header -/

/-- The two bits of a level. -/
def qosField (qos : Int) : Fin 4 where
  val := (qos % 4).toNat
  isLt := by
    omega

/-- The bit of a flag. -/
def flagField (flag : Int) : Bool :=
  flag % 2 = 1

/-- The low byte of a number. -/
theorem toNat_ofInt (number : Int) :
    (UInt8.ofInt number).toNat = (number % 256).toNat := by
  rw [UInt8.ofInt, UInt8.toNat_ofNat']
  omega

theorem ofInt_land_three (qos : Int) :
    UInt8.ofInt qos &&& 3 = UInt8.ofNat (qosField qos).val := by
  rw [← UInt8.toNat_inj, UInt8.toNat_and, UInt8.toNat_ofNat']
  refine (Nat.and_two_pow_sub_one_eq_mod _ 2).trans ?_
  rw [toNat_ofInt]
  change (qos % 256).toNat % 4 = (qos % 4).toNat % 2 ^ 8
  omega

theorem ofInt_land_one (flag : Int) :
    UInt8.ofInt flag &&& 1 = UInt8.ofNat (flagField flag).toNat := by
  rw [← UInt8.toNat_inj, UInt8.toNat_and, UInt8.toNat_ofNat']
  refine (Nat.and_two_pow_sub_one_eq_mod _ 1).trans ?_
  rw [toNat_ofInt, flagField]
  by_cases odd : flag % 2 = 1
  · rw [decide_eq_true odd, Bool.toNat_true]
    omega
  · rw [decide_eq_false odd, Bool.toNat_false]
    omega

theorem fixedHeader_eq
    (type : MqttMessageType) (qos retain : Int) {body : List UInt8}
    (small : body.length < 128 ^ 4) :
    fixedHeader type 0 qos retain =
      MqttPacket.first
        { type := type
          dup := false
          qos := qosField qos
          retain := flagField retain
          body := body
          small := small } := by
  have dup : UInt8.ofInt 0 &&& 1 = 0 := by
    decide
  have digits :
      ∀ (qos : Fin 4) (retain : Bool),
        (type.code &&& 0x0F) <<< 4 ||| (0 : UInt8) <<< 3 |||
            UInt8.ofNat qos.val <<< 1 ||| UInt8.ofNat retain.toNat =
          UInt8.ofNat
            (16 * type.code.toNat + 8 * false.toNat + 2 * qos.val +
              retain.toNat) := by
    cases type <;> decide
  rw [fixedHeader, dup, ofInt_land_three, ofInt_land_one]
  exact digits (qosField qos) (flagField retain)

/-- The number of bytes in one group. -/
theorem encode128_of_lt {number : Nat} (small : number < 128) :
    encode128 number = [UInt8.ofNat number] := by
  rw [encode128, if_pos small]

/-- The number of bytes in two groups. -/
theorem encode128_of_lt_square
    {number : Nat} (large : 128 ≤ number) (small : number < 16384) :
    encode128 number =
      [UInt8.ofNat (0x80 ||| number % 128), UInt8.ofNat (number / 128)] := by
  have high : 0x80 ||| number % 128 = 128 + number % 128 := by
    have group := Nat.mod_lt number (show 0 < 2 ^ 7 by decide)
    exact (Nat.two_pow_add_eq_or_of_lt group 1).symm
  rw [encode128, if_neg (by omega), encode128_of_lt (by omega), high]

/-- A number with more than two groups. -/
theorem three_le_length_encode128
    {number : Nat} (large : 16384 ≤ number) :
    3 ≤ (encode128 number).length := by
  have groups := groups_encode128 number
  have bound := groups.lt_pow
  by_contra short
  have few : (encode128 number).length ≤ 2 := by
    omega
  have smaller := Nat.pow_le_pow_right (show 0 < 128 by decide) few
  omega

/-- The fixed header which `fini_message` writes. -/
def finished (type : MqttMessageType) (qos retain : Int) (body : List UInt8) :
    List UInt8 :=
  fixedHeader type 0 qos retain ::
    if 127 < body.length then
      UInt8.ofNat (0x80 ||| body.length % 128) ::
        UInt8.ofNat (body.length / 128) :: body
    else
      UInt8.ofNat body.length :: body

theorem Built.outbound_finiMessage
    (built : connection.Built body)
    (type : MqttMessageType) (qos retain : Int) :
    (connection.finiMessage type 0 qos retain).outbound =
      finished type qos retain body := by
  rcases built.stored with ⟨kind, low, high, rest, stored⟩
  have remaining :
      connection.message.length - mqttMaxFixedHeaderSize = body.length := by
    rw [built.length]
    exact Nat.add_sub_cancel_left 3 body.length
  rw [finished, outbound, finiMessage]
  simp only [remaining]
  split
  · simp only [stored, List.set_cons_zero, List.set_cons_succ, List.drop_zero,
      List.take_succ_cons, List.take_left]
  · simp only [stored, List.set_cons_zero, List.set_cons_succ,
      List.drop_succ_cons, List.drop_zero, List.take_succ_cons,
      List.take_left]

/-- The header has room for two groups of seven bits. -/
theorem isPacket_finished_iff
    (type : MqttMessageType) (qos retain : Int) (body : List UInt8) :
    IsPacket (finished type qos retain body) type (qosField qos)
        (flagField retain) body ↔
      body.length < 16384 := by
  constructor
  · rintro ⟨small, same⟩
    by_contra large
    have groups := three_le_length_encode128 (Nat.le_of_not_lt large)
    have lengths := congrArg List.length same
    rw [MqttPacket.length_bytes, finished, if_pos (by omega)] at lengths
    simp only [List.length_cons, MqttPacket.groups] at lengths
    omega
  · intro small
    have allowed : body.length < 128 ^ 4 := by
      omega
    refine ⟨allowed, ?_⟩
    rw [finished, fixedHeader_eq type qos retain allowed, MqttPacket.bytes]
    congr 1
    change _ = encode128 body.length ++ body
    split
    · next large =>
        rw [encode128_of_lt_square (by omega) small]
        rfl
    · next few =>
        rw [encode128_of_lt (by omega)]
        rfl

/-! ## Finished messages -/

@[simp]
theorem outbound_failMessage (connection : MqttConnection) :
    connection.failMessage.outbound = [] :=
  rfl

@[simp]
theorem messageId_finiMessage
    (connection : MqttConnection) (type : MqttMessageType)
    (dup qos retain : Int) :
    (connection.finiMessage type dup qos retain).messageId =
      connection.messageId := by
  rw [finiMessage]
  split <;> rfl

/-- A message is its packet, or there is none. -/
structure Builds
    (built before : MqttConnection)
    (type : MqttMessageType) (qos : Fin 4) (retain : Bool)
    (body : List UInt8) : Prop where
  whole :
    3 + body.length ≤ before.bufferLength.toNat →
      (IsPacket built.outbound type qos retain body ↔ body.length < 16384)
  refused :
    before.bufferLength.toNat < 3 + body.length → built.outbound = []

/-- Where the steps of a builder lead to a body, its message is the packet with that body. -/
theorem Extends.builds
    {step : MqttConnection → Except MqttConnection MqttConnection}
    {start after : List UInt8}
    (steps : Extends step start after)
    (built : connection.Built start)
    (type : MqttMessageType) (qos retain : Int) :
    Builds (close (step connection) type qos retain) connection type
        (qosField qos) (flagField retain) after ∧
      (close (step connection) type qos retain).SameFrame connection := by
  have taken := steps connection built
  by_cases fits : 3 + after.length ≤ connection.bufferLength.toNat
  · rcases taken.1 fits with ⟨done, stepped, whole, frame⟩
    rw [stepped, close]
    refine ⟨⟨fun _ => ?_, fun long => ?_⟩, ?_⟩
    · rw [whole.outbound_finiMessage]
      exact isPacket_finished_iff type qos retain after
    · omega
    · refine SameFrame.trans ?_ frame
      rw [finiMessage]
      split <;> exact ⟨rfl, rfl⟩
  · rcases taken.2 (by omega) with ⟨failed, stepped, frame⟩
    rw [stepped, close]
    refine ⟨⟨fun _ => ?_, fun _ => rfl⟩, frame.bufferLength, frame.messageId⟩
    omega

end MqttConnection

end EspFirmware
