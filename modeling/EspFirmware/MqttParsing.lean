import EspFirmware.Library.SignedWord
import EspFirmware.MqttPackets

/-!
# Reading messages

The readers of `mqtt_msg.c`, over the whole buffer and the length which the
caller passes.  They return `none` where they read outside of the buffer.  A
remaining length of more than four bytes, which is no MQTT, is summed up like
any other: the `int` wraps.
-/

namespace EspFirmware

open Library

/-- `totlen += (byte & 0x7f) << shift`. -/
def addGroup (totlen : Int) (byte : UInt8) (shift : Nat) : Int :=
  intOf (totlen + intShiftLeft (byte &&& 0x7F).toNat shift)

/-- The loop over the remaining length: `totlen` and `i` behind it. -/
def readLength (buffer : List UInt8) (length i : Nat) (totlen : Int) :
    Option (Int × Nat) :=
  if i < length then do
    let byte ← buffer[i]?
    if byte &&& 0x80 = 0 then
      return (addGroup totlen byte (7 * (i - 1)), i + 1)
    else
      readLength buffer length (i + 1) (addGroup totlen byte (7 * (i - 1)))
  else
    some (totlen, i)
termination_by length - i

/-- What three of the readers begin with: `totlen`, and `i` behind the fixed header. -/
def readFixedHeader (buffer : List UInt8) (length : Nat) :
    Option (Int × Nat) := do
  let (totlen, i) ← readLength buffer length 1 0
  return (intOf (totlen + i), i)

/-- Two bytes, the high one first. -/
def readWord (buffer : List UInt8) (i : Nat) : Option Nat := do
  let high ← buffer[i]?
  let low ← buffer[i + 1]?
  return high.toNat <<< 8 ||| low.toNat

/-- `mqtt_get_total_length`. -/
def mqttGetTotalLength (buffer : List UInt8) (length : Nat) : Option Int :=
  (readFixedHeader buffer length).map Prod.fst

/-- `mqtt_get_publish_topic`: the place of the topic, and what `*length` is then. -/
def mqttGetPublishTopic (buffer : List UInt8) (length : Nat) :
    Option (Option Nat × Nat) := do
  let (_, i) ← readFixedHeader buffer length
  if length ≤ i + 2 then
    return (none, length)
  else
    let topiclen ← readWord buffer i
    if length < i + 2 + topiclen then
      return (none, length)
    else
      return (some (i + 2), topiclen)

/-- The end of `mqtt_get_publish_data`, behind everything in front of the data. -/
def dataAt (totlen : Int) (length i : Nat) : Option Nat × Nat :=
  if totlen < i then
    (none, length)
  else if totlen ≤ length then
    (some i, (totlen - i).toNat)
  else
    (some i, length - i)

/-- `mqtt_get_publish_data`: the place of the data, and what `*length` is then. -/
def mqttGetPublishData (buffer : List UInt8) (length : Nat) :
    Option (Option Nat × Nat) := do
  let (totlen, i) ← readFixedHeader buffer length
  if length ≤ i + 2 then
    return (none, length)
  else
    let topiclen ← readWord buffer i
    if length ≤ i + 2 + topiclen then
      return (none, 0)
    else
      let first ← buffer[0]?
      if 0 < mqttGetQos first then
        if length ≤ i + 2 + topiclen + 2 then
          return (none, length)
        else
          return dataAt totlen length (i + 2 + topiclen + 2)
      else
        return dataAt totlen length (i + 2 + topiclen)

/-- The loop of `mqtt_get_id` over the remaining length. -/
def skipLength (buffer : List UInt8) (length i : Nat) : Option Nat :=
  if i < length then do
    let byte ← buffer[i]?
    if byte &&& 0x80 = 0 then
      return i + 1
    else
      skipLength buffer length (i + 1)
  else
    some i
termination_by length - i

/-- The id of a PUBLISH. -/
def getPublishId (buffer : List UInt8) (length : Nat) (first : UInt8) :
    Option UInt16 := do
  let i ← skipLength buffer length 1
  if length ≤ i + 2 then
    return 0
  else
    let topiclen ← readWord buffer i
    if length ≤ i + 2 + topiclen then
      return 0
    else if 0 < mqttGetQos first then
      if length ≤ i + 2 + topiclen + 2 then
        return 0
      else
        let id ← readWord buffer (i + 2 + topiclen)
        return UInt16.ofNat id
    else
      return 0

/-- The id right behind a fixed header of two bytes. -/
def getLeadingId (buffer : List UInt8) (length : Nat) : Option UInt16 :=
  if 4 ≤ length then do
    let remaining ← buffer[1]?
    if remaining &&& 0x80 = 0 then
      let id ← readWord buffer 2
      return UInt16.ofNat id
    else
      return 0
  else
    some 0

/-- The messages whose id `mqtt_get_id` looks for behind the fixed header. -/
def MqttMessageType.leadsWithId : MqttMessageType → Bool
  | .puback | .pubrec | .pubrel | .pubcomp | .suback | .unsuback
  | .subscribe => true
  | _ => false

/-- `mqtt_get_id`, which returns 0 when there is none. -/
def mqttGetId (buffer : List UInt8) (length : Nat) : Option UInt16 :=
  if length < 1 then
    some 0
  else do
    let first ← buffer[0]?
    match mqttGetType first with
    | some .publish => getPublishId buffer length first
    | some type =>
        if type.leadsWithId then
          getLeadingId buffer length
        else
          return 0
    | none => return 0

/-! ## The remaining length -/

variable {buffer front behind bytes : List UInt8} {length : Nat}

theorem getElem?_front
    {place : Nat} (front behind : List UInt8) (byte : UInt8)
    (here : place = front.length) :
    (front ++ byte :: behind)[place]? = some byte := by
  subst here
  rw [List.getElem?_append_right (Nat.le_refl _), Nat.sub_self]
  rfl

/-- A group which is read is added as a digit to the base 128. -/
theorem addGroup_eq
    {totlen place : Nat} (byte : UInt8)
    (few : place < 4) (small : totlen < 128 ^ place) :
    addGroup totlen byte (7 * place) =
        (totlen + byte.toNat % 128 * 128 ^ place : Nat) ∧
      totlen + byte.toNat % 128 * 128 ^ place < 128 ^ (place + 1) := by
  have digit := Nat.mod_lt byte.toNat (show 0 < 128 by decide)
  have power : 2 ^ (7 * place) = 128 ^ place := Nat.pow_mul 2 7 place
  have sum :
      totlen + byte.toNat % 128 * 128 ^ place < 128 ^ (place + 1) := by
    have most : byte.toNat % 128 * 128 ^ place ≤ 127 * 128 ^ place :=
      Nat.mul_le_mul_right _ (by omega)
    rw [Nat.pow_succ]
    omega
  have large : 128 ^ (place + 1) ≤ 128 ^ 4 :=
    Nat.pow_le_pow_right (by decide) (by omega)
  have shifted :
      intShiftLeft (byte.toNat % 128 : Nat) (7 * place) =
        (byte.toNat % 128 * 2 ^ (7 * place) : Nat) :=
    intShiftLeft_natCast (by omega) (by rw [power]; omega)
  refine ⟨?_, sum⟩
  rw [addGroup, toNat_land_low, shifted, power, ← Nat.cast_add]
  exact intOf_natCast (by omega)

/-- The loop reads a number from its groups. -/
theorem readLength_groups
    {number totlen : Nat}
    (groups : Groups bytes number)
    (whole : buffer = front ++ (bytes ++ behind))
    (nonempty : 0 < front.length)
    (few : front.length - 1 + bytes.length ≤ 4)
    (within : front.length + bytes.length ≤ length)
    (small : totlen < 128 ^ (front.length - 1)) :
    readLength buffer length front.length totlen =
      some
        (((totlen + number * 128 ^ (front.length - 1) : Nat) : Int),
          front.length + bytes.length) := by
  induction groups generalizing front totlen with
  | @last byte ends =>
      rw [List.length_singleton] at few within
      have read := getElem?_front front behind byte rfl
      have added := addGroup_eq byte (by omega) small
      have digit : byte.toNat % 128 = byte.toNat := Nat.mod_eq_of_lt ends
      subst whole
      rw [readLength, if_pos (by omega), List.cons_append, List.nil_append,
        read]
      simp only [Option.bind_eq_bind, Option.bind_some, added.1]
      rw [if_pos ((land_high_eq_zero_iff byte).mpr ends), digit]
      rfl
  | @more byte rest number goesOn groups induction =>
      rw [List.length_cons] at few within
      have read := getElem?_front front (rest ++ behind) byte rfl
      have added := addGroup_eq byte (by omega) small
      have longer : (front ++ [byte]).length = front.length + 1 := by
        simp
      have power :
          128 ^ front.length = 128 ^ (front.length - 1) * 128 := by
        rw [← Nat.pow_succ]
        congr 1
        omega
      have next :
          readLength buffer length (front ++ [byte]).length
              (totlen + byte.toNat % 128 * 128 ^ (front.length - 1) : Nat) =
            some
              (((totlen + byte.toNat % 128 * 128 ^ (front.length - 1) +
                  number * 128 ^ ((front ++ [byte]).length - 1) : Nat) : Int),
                (front ++ [byte]).length + rest.length) := by
        apply induction
        · rw [whole, List.append_assoc]
          rfl
        · omega
        · omega
        · omega
        · have place : front.length - 1 + 1 = (front ++ [byte]).length - 1 := by
            omega
          rw [← place]
          exact added.2
      have high : ¬byte &&& 0x80 = 0 := by
        rw [land_high_eq_zero_iff]
        omega
      rw [longer, Nat.add_sub_cancel] at next
      subst whole
      rw [readLength, if_pos (by omega), List.cons_append, read]
      simp only [Option.bind_eq_bind, Option.bind_some, added.1]
      rw [if_neg high, ← List.cons_append, next, List.length_cons, power]
      congr 2
      · congr 1
        ring
      · omega

/-- The loop which only skips the groups goes as far. -/
theorem skipLength_groups
    {number : Nat}
    (groups : Groups bytes number)
    (whole : buffer = front ++ (bytes ++ behind))
    (within : front.length + bytes.length ≤ length) :
    skipLength buffer length front.length =
      some (front.length + bytes.length) := by
  induction groups generalizing front with
  | @last byte ends =>
      rw [List.length_singleton] at within
      have read := getElem?_front front behind byte rfl
      subst whole
      rw [skipLength, if_pos (by omega), List.cons_append, List.nil_append,
        read]
      simp only [Option.bind_eq_bind, Option.bind_some]
      rw [if_pos ((land_high_eq_zero_iff byte).mpr ends)]
      rfl
  | @more byte rest number goesOn groups induction =>
      rw [List.length_cons] at within
      have read := getElem?_front front (rest ++ behind) byte rfl
      have longer : (front ++ [byte]).length = front.length + 1 := by
        simp
      have next :
          skipLength buffer length (front ++ [byte]).length =
            some ((front ++ [byte]).length + rest.length) := by
        apply induction
        · rw [whole, List.append_assoc]
          rfl
        · omega
      have high : ¬byte &&& 0x80 = 0 := by
        rw [land_high_eq_zero_iff]
        omega
      rw [longer] at next
      subst whole
      rw [skipLength, if_pos (by omega), List.cons_append, read]
      simp only [Option.bind_eq_bind, Option.bind_some]
      rw [if_neg high, ← List.cons_append, next, List.length_cons]
      congr 1
      omega

/-- A word in the middle of a buffer. -/
theorem readWord_word16
    {value place : Nat} (small : value < 65536)
    (front behind : List UInt8) (here : place = front.length) :
    readWord (front ++ (word16 value ++ behind)) place = some value := by
  have high :=
    getElem?_front front (UInt8.ofNat (value % 256) :: behind)
      (UInt8.ofNat (value / 256)) here
  have low :
      (front ++ UInt8.ofNat (value / 256) ::
          UInt8.ofNat (value % 256) :: behind)[place + 1]? =
        some (UInt8.ofNat (value % 256)) := by
    have split :=
      getElem?_front (front ++ [UInt8.ofNat (value / 256)]) behind
        (UInt8.ofNat (value % 256))
        (show place + 1 = _ by
          simp [here])
    rwa [List.append_assoc] at split
  have lowBound : (UInt8.ofNat (value % 256)).toNat < 2 ^ 8 :=
    UInt8.toNat_lt _
  rw [readWord, word16, List.cons_append, List.cons_append, List.nil_append,
    high, low]
  simp only [Option.bind_eq_bind, Option.bind_some]
  rw [← Nat.shiftLeft_add_eq_or_of_lt lowBound, Nat.shiftLeft_eq]
  have value := word16_value small
  change some _ = some _
  congr 1
  omega

/-! ## Reads stay inside -/

theorem getElem?_inside
    {place : Nat} (inside : place < buffer.length) :
    ∃ byte, buffer[place]? = some byte :=
  ⟨_, List.getElem?_eq_getElem inside⟩

theorem readWord_inside
    {place : Nat} (inside : place + 1 < buffer.length) :
    ∃ value, readWord buffer place = some value := by
  rcases getElem?_inside (show place < buffer.length by omega) with
    ⟨high, highRead⟩
  rcases getElem?_inside inside with ⟨low, lowRead⟩
  rw [readWord, highRead, lowRead]
  exact ⟨_, rfl⟩

theorem skipLength_inside
    {place : Nat} (inside : length ≤ buffer.length) :
    ∃ behind, skipLength buffer length place = some behind := by
  induction place using skipLength.induct length with
  | case1 place more induction =>
      rcases getElem?_inside (Nat.lt_of_lt_of_le more inside) with
        ⟨byte, read⟩
      rw [skipLength, if_pos more, read]
      simp only [Option.bind_eq_bind, Option.bind_some]
      split
      · exact ⟨_, rfl⟩
      · exact induction
  | case2 place done =>
      rw [skipLength, if_neg done]
      exact ⟨_, rfl⟩

theorem readLength_inside
    {place : Nat} {totlen : Int} (inside : length ≤ buffer.length) :
    ∃ read, readLength buffer length place totlen = some read := by
  induction place, totlen using readLength.induct length with
  | case1 place totlen more induction =>
      rcases getElem?_inside (Nat.lt_of_lt_of_le more inside) with
        ⟨byte, read⟩
      rw [readLength, if_pos more, read]
      simp only [Option.bind_eq_bind, Option.bind_some]
      split
      · exact ⟨_, rfl⟩
      · exact induction byte
  | case2 place totlen done =>
      rw [readLength, if_neg done]
      exact ⟨_, rfl⟩

/-- Whatever is in the buffer, a length is read. -/
theorem readFixedHeader_inside (inside : length ≤ buffer.length) :
    ∃ header, readFixedHeader buffer length = some header := by
  have found : ∃ read, readLength buffer length 1 0 = some read :=
    readLength_inside inside
  rcases found with ⟨read, found⟩
  rw [readFixedHeader, found]
  exact ⟨_, rfl⟩

theorem mqttGetTotalLength_inside (inside : length ≤ buffer.length) :
    ∃ total, mqttGetTotalLength buffer length = some total := by
  rcases readFixedHeader_inside inside with ⟨header, read⟩
  rw [mqttGetTotalLength, read]
  exact ⟨_, rfl⟩

theorem getPublishId_inside
    (inside : length ≤ buffer.length) (first : UInt8) :
    ∃ id, getPublishId buffer length first = some id := by
  have found : ∃ i, skipLength buffer length 1 = some i :=
    skipLength_inside inside
  rcases found with ⟨i, skipped⟩
  rw [getPublishId, skipped]
  simp only [Option.bind_eq_bind, Option.bind_some]
  split
  · exact ⟨0, rfl⟩
  · rcases readWord_inside (show i + 1 < buffer.length by omega) with
      ⟨topiclen, topic⟩
    rw [topic]
    simp only [Option.bind_some]
    split
    · exact ⟨0, rfl⟩
    · split
      · split
        · exact ⟨0, rfl⟩
        · rcases readWord_inside
              (show i + 2 + topiclen + 1 < buffer.length by omega) with
            ⟨id, read⟩
          rw [read]
          exact ⟨_, rfl⟩
      · exact ⟨0, rfl⟩

theorem getLeadingId_inside (inside : length ≤ buffer.length) :
    ∃ id, getLeadingId buffer length = some id := by
  rw [getLeadingId]
  split
  · rcases getElem?_inside (show 1 < buffer.length by omega) with
      ⟨remaining, read⟩
    rcases readWord_inside (show 2 + 1 < buffer.length by omega) with
      ⟨id, word⟩
    rw [read, word]
    simp only [Option.bind_eq_bind, Option.bind_some]
    split <;> exact ⟨_, rfl⟩
  · exact ⟨0, rfl⟩

/-- `mqtt_get_id` never reads behind the length that it is given. -/
theorem mqttGetId_inside (inside : length ≤ buffer.length) :
    ∃ id, mqttGetId buffer length = some id := by
  rw [mqttGetId]
  split
  · exact ⟨0, rfl⟩
  · rcases getElem?_inside (show 0 < buffer.length by omega) with
      ⟨first, read⟩
    rw [read]
    simp only [Option.bind_eq_bind, Option.bind_some]
    split
    · exact getPublishId_inside inside first
    · split
      · exact getLeadingId_inside inside
      · exact ⟨0, rfl⟩
    · exact ⟨0, rfl⟩

/-! ## A packet at the front -/

theorem groups_packet (packet : MqttPacket) :
    Groups packet.groups packet.body.length :=
  groups_encode128 packet.body.length

/-- The header tells the length of the packet, whatever is behind it. -/
theorem readFixedHeader_header
    (packet : MqttPacket) (rest : List UInt8)
    (within : 1 + packet.groups.length ≤ length) :
    readFixedHeader (packet.first :: (packet.groups ++ rest)) length =
      some ((packet.bytes.length : Int), 1 + packet.groups.length) := by
  have few := packet.length_groups_le
  have small := packet.small
  have total := packet.length_bytes
  have read :
      readLength (packet.first :: (packet.groups ++ rest)) length
          [packet.first].length 0 =
        some
          (((0 + packet.body.length * 128 ^ ([packet.first].length - 1) : Nat) :
              Int),
            [packet.first].length + packet.groups.length) := by
    apply readLength_groups (groups_packet packet)
    · rfl
    · exact Nat.one_pos
    · rw [List.length_singleton]
      omega
    · rw [List.length_singleton]
      omega
    · exact Nat.one_pos
  rw [List.length_singleton, Nat.sub_self, Nat.pow_zero, Nat.mul_one,
    Nat.zero_add] at read
  rw [readFixedHeader, read]
  simp only [Option.bind_eq_bind, Option.bind_some]
  have same :
      packet.body.length + (1 + packet.groups.length) =
        packet.bytes.length := by
    omega
  rw [← Nat.cast_add, same, intOf_natCast (by omega)]
  rfl

theorem skipLength_header
    (packet : MqttPacket) (rest : List UInt8)
    (within : 1 + packet.groups.length ≤ length) :
    skipLength (packet.first :: (packet.groups ++ rest)) length 1 =
      some (1 + packet.groups.length) := by
  have skipped :
      skipLength (packet.first :: (packet.groups ++ rest)) length
          [packet.first].length =
        some ([packet.first].length + packet.groups.length) := by
    apply skipLength_groups (groups_packet packet)
    · rfl
    · rw [List.length_singleton]
      omega
  rwa [List.length_singleton] at skipped

/-- A packet tells its whole length. -/
theorem mqttGetTotalLength_packet
    (packet : MqttPacket) (behind : List UInt8)
    (within : packet.bytes.length ≤ length) :
    mqttGetTotalLength (packet.bytes ++ behind) length =
      some (packet.bytes.length : Int) := by
  have total := packet.length_bytes
  have header :=
    readFixedHeader_header packet (packet.body ++ behind)
      (show 1 + packet.groups.length ≤ length by omega)
  rw [mqttGetTotalLength, MqttPacket.bytes, List.cons_append,
    List.append_assoc, header]
  rfl

/-- An id right behind a short fixed header is read. -/
theorem mqttGetId_leading
    {packet : MqttPacket} {id : UInt16} {rest : List UInt8}
    (type : packet.type.leadsWithId = true)
    (body : packet.body = word16 id.toNat ++ rest)
    (short : packet.body.length < 128)
    (behind : List UInt8)
    (within : packet.bytes.length ≤ length) :
    mqttGetId (packet.bytes ++ behind) length = some id := by
  have total := packet.length_bytes
  have groups : packet.groups = [UInt8.ofNat packet.body.length] := by
    rw [MqttPacket.groups, encode128, if_pos short]
  have bodyLength : 2 ≤ packet.body.length := by
    rw [body, List.length_append, length_word16]
    omega
  have one : packet.groups.length = 1 := by
    rw [groups]
    rfl
  have whole :
      packet.bytes ++ behind =
        packet.first :: UInt8.ofNat packet.body.length ::
          (word16 id.toNat ++ (rest ++ behind)) := by
    rw [MqttPacket.bytes, groups, body]
    simp
  have low : UInt8.ofNat packet.body.length &&& 0x80 = 0 := by
    rw [land_high_eq_zero_iff, UInt8.toNat_ofNat']
    omega
  have read :
      readWord
          (packet.first :: UInt8.ofNat packet.body.length ::
            (word16 id.toNat ++ (rest ++ behind)))
          2 =
        some id.toNat :=
    readWord_word16 id.toNat_lt
      [packet.first, UInt8.ofNat packet.body.length] (rest ++ behind) rfl
  rw [mqttGetId, if_neg (by omega), whole]
  have head :
      (packet.first :: UInt8.ofNat packet.body.length ::
        (word16 id.toNat ++ (rest ++ behind)))[0]? = some packet.first := rfl
  rw [head]
  simp only [Option.bind_eq_bind, Option.bind_some,
    packet.mqttGetType_first]
  have leading :
      getLeadingId
          (packet.first :: UInt8.ofNat packet.body.length ::
            (word16 id.toNat ++ (rest ++ behind))) length =
        some id := by
    rw [getLeadingId, if_pos (by omega)]
    change (if UInt8.ofNat packet.body.length &&& 0x80 = 0 then _ else _) = _
    rw [if_pos low]
    change (readWord _ 2).bind _ = _
    rw [read]
    change some (UInt16.ofNat id.toNat) = some id
    rw [UInt16.ofNat_toNat]
  split
  · next same =>
      rw [Option.some.inj same] at type
      cases type
  · next same =>
      rw [← Option.some.inj same, if_pos type, leading]
  · next same =>
      cases same

/-! ## A PUBLISH at the front -/

namespace PublishPacket

variable (publish : PublishPacket) (rest : List UInt8)

/-- Where the topic is. -/
def topicPlace : Nat :=
  1 + publish.packet.groups.length + 2

/-- Where the data is. -/
def dataPlace : Nat :=
  publish.topicPlace + publish.topic.length +
    (idBytes publish.qos publish.id).length

/-- What is in front of the data. -/
def opening : List UInt8 :=
  publish.packet.first ::
    (publish.packet.groups ++
      (word16 publish.topic.length ++
        (publish.topic ++ idBytes publish.qos publish.id)))

theorem bytes_eq : publish.bytes = publish.opening ++ publish.data := by
  have whole :
      publish.bytes =
        publish.packet.first :: (publish.packet.groups ++
          (word16 publish.topic.length ++ publish.topic ++
            (idBytes publish.qos publish.id ++ publish.data))) := rfl
  rw [whole, opening]
  simp only [List.cons_append, List.append_assoc]

theorem length_opening : publish.opening.length = publish.dataPlace := by
  rw [opening, List.length_cons, List.length_append, List.length_append,
    List.length_append, length_word16, dataPlace, topicPlace]
  omega

theorem length_bytes :
    publish.bytes.length = publish.dataPlace + publish.data.length := by
  rw [bytes_eq, List.length_append, length_opening]

/-- The parts of a PUBLISH, behind which is its data. -/
theorem opening_append :
    publish.opening ++ rest =
      (publish.packet.first :: publish.packet.groups) ++
        (word16 publish.topic.length ++
          (publish.topic ++ (idBytes publish.qos publish.id ++ rest))) := by
  rw [opening]
  simp only [List.cons_append, List.append_assoc]

theorem topic_eq :
    ((publish.opening ++ rest).drop publish.topicPlace).take
        publish.topic.length =
      publish.topic := by
  have place :
      publish.topicPlace =
        ((publish.packet.first :: publish.packet.groups) ++
          word16 publish.topic.length).length := by
    rw [topicPlace, List.length_append, List.length_cons, length_word16]
    omega
  rw [opening_append, ← List.append_assoc, place, List.drop_left,
    List.take_left]

theorem drop_dataPlace :
    (publish.opening ++ rest).drop publish.dataPlace = rest := by
  rw [← length_opening, List.drop_left]

theorem readWord_topic :
    readWord (publish.opening ++ rest)
        (1 + publish.packet.groups.length) =
      some publish.topic.length := by
  rw [opening_append]
  apply readWord_word16 publish.topicSmall
  rw [List.length_cons, Nat.add_comm]

theorem head_opening :
    (publish.opening ++ rest)[0]? = some publish.packet.first :=
  rfl

theorem qos_pos_iff :
    0 < mqttGetQos publish.packet.first ↔ publish.qos ≠ 0 := by
  have value : (mqttGetQos publish.packet.first).toNat = publish.qos.val :=
    publish.packet.mqttGetQos_first
  rw [UInt8.lt_iff_toNat_lt, value, ← Fin.val_ne_zero_iff]
  exact Nat.pos_iff_ne_zero

theorem length_idBytes_of_ne (counted : publish.qos ≠ 0) :
    (idBytes publish.qos publish.id).length = 2 := by
  rw [length_idBytes, if_neg counted]

/-- How the places follow each other. -/
theorem dataPlace_eq :
    publish.dataPlace =
      1 + publish.packet.groups.length + 2 + publish.topic.length +
        (idBytes publish.qos publish.id).length :=
  rfl

variable {publish} {length : Nat}

theorem readFixedHeader_opening (within : publish.dataPlace ≤ length) :
    readFixedHeader (publish.opening ++ rest) length =
      some
        ((publish.bytes.length : Int),
          1 + publish.packet.groups.length) := by
  have place := publish.dataPlace_eq
  rw [opening_append]
  exact readFixedHeader_header publish.packet _ (by omega)

/-- The topic is found as soon as everything in front of the data is there. -/
theorem mqttGetPublishTopic_opening
    (named : publish.topic ≠ [])
    (within : publish.dataPlace ≤ length) :
    mqttGetPublishTopic (publish.opening ++ rest) length =
      some (some publish.topicPlace, publish.topic.length) := by
  have positive := List.length_pos_iff.mpr named
  have place := publish.dataPlace_eq
  rw [mqttGetPublishTopic, readFixedHeader_opening rest within]
  simp only [Option.bind_eq_bind, Option.bind_some]
  rw [if_neg (by omega), publish.readWord_topic rest]
  simp only [Option.bind_some]
  rw [if_neg (by omega)]
  rfl

/-- The data is found as soon as a byte of it, or of something else, is there. -/
theorem mqttGetPublishData_opening
    (named : publish.topic ≠ [])
    (within : publish.dataPlace ≤ length) :
    mqttGetPublishData (publish.opening ++ rest) length =
      some
        (if length = publish.dataPlace then
          (none, if publish.qos = 0 then 0 else length)
        else
          (some publish.dataPlace,
            min publish.data.length (length - publish.dataPlace))) := by
  have positive := List.length_pos_iff.mpr named
  have total := publish.length_bytes
  have place := publish.dataPlace_eq
  rw [mqttGetPublishData, readFixedHeader_opening rest within]
  simp only [Option.bind_eq_bind, Option.bind_some]
  rw [if_neg (by omega), publish.readWord_topic rest]
  simp only [Option.bind_some]
  -- of what is there, the packet's own data is found
  have clipped (more : length ≠ publish.dataPlace) :
      dataAt publish.bytes.length length publish.dataPlace =
        (some publish.dataPlace,
          min publish.data.length (length - publish.dataPlace)) := by
    rw [dataAt, if_neg (by omega)]
    split
    · rw [Nat.min_eq_left (by omega)]
      exact congrArg (Prod.mk _) (by omega)
    · rw [Nat.min_eq_right (by omega)]
  by_cases lowest : publish.qos = 0
  · have noId : (idBytes publish.qos publish.id).length = 0 := by
      rw [length_idBytes, if_pos lowest]
    have here :
        1 + publish.packet.groups.length + 2 + publish.topic.length =
          publish.dataPlace := by
      omega
    rw [here]
    by_cases ending : length = publish.dataPlace
    · rw [if_pos ending.le, if_pos ending, if_pos lowest]
      rfl
    · rw [if_neg (by omega), head_opening, if_neg ending]
      simp only [Option.bind_some]
      rw [if_neg (publish.qos_pos_iff.not.mpr (not_not.mpr lowest)),
        clipped ending]
      rfl
  · have id := publish.length_idBytes_of_ne lowest
    have here :
        1 + publish.packet.groups.length + 2 + publish.topic.length + 2 =
          publish.dataPlace := by
      omega
    rw [if_neg (by omega), head_opening]
    simp only [Option.bind_some]
    rw [if_pos (publish.qos_pos_iff.mpr lowest), here]
    by_cases ending : length = publish.dataPlace
    · rw [if_pos ending.le, if_pos ending, if_neg lowest]
      rfl
    · rw [if_neg (by omega), if_neg ending, clipped ending]
      rfl

/-- How `mqtt_get_id` goes on behind the topic. -/
theorem mqttGetId_topic
    (named : publish.topic ≠ [])
    (within : publish.dataPlace ≤ length) :
    mqttGetId (publish.opening ++ rest) length =
      if length ≤
          1 + publish.packet.groups.length + 2 + publish.topic.length then
        some 0
      else if 0 < mqttGetQos publish.packet.first then
        if length ≤
            1 + publish.packet.groups.length + 2 + publish.topic.length +
              2 then
          some 0
        else
          (readWord (publish.opening ++ rest)
            (1 + publish.packet.groups.length + 2 +
              publish.topic.length)).map UInt16.ofNat
      else
        some 0 := by
  have positive := List.length_pos_iff.mpr named
  have place := publish.dataPlace_eq
  have header :
      skipLength (publish.opening ++ rest) length 1 =
        some (1 + publish.packet.groups.length) := by
    rw [opening_append]
    exact skipLength_header publish.packet _ (by omega)
  have type : mqttGetType publish.packet.first = some .publish :=
    publish.packet.mqttGetType_first
  rw [mqttGetId, if_neg (by omega), head_opening]
  simp only [Option.bind_eq_bind, Option.bind_some, type]
  rw [getPublishId, header]
  simp only [Option.bind_eq_bind, Option.bind_some]
  rw [if_neg (by omega), publish.readWord_topic rest]
  simp only [Option.bind_some]
  rw [Option.map_eq_bind]
  rfl

/-- The id is found as soon as something is behind it. -/
theorem mqttGetId_opening
    (named : publish.topic ≠ [])
    (within : publish.dataPlace < length) :
    mqttGetId (publish.opening ++ rest) length =
      some (if publish.qos = 0 then 0 else publish.id) := by
  have place := publish.dataPlace_eq
  rw [mqttGetId_topic rest named within.le, if_neg (by omega)]
  by_cases lowest : publish.qos = 0
  · rw [if_neg (publish.qos_pos_iff.not.mpr (not_not.mpr lowest)),
      if_pos lowest]
  · have id := publish.length_idBytes_of_ne lowest
    have here :
        1 + publish.packet.groups.length + 2 + publish.topic.length =
          ((publish.packet.first :: publish.packet.groups) ++
            word16 publish.topic.length ++ publish.topic).length := by
      rw [List.length_append, List.length_append, List.length_cons,
        length_word16]
      omega
    have found :
        readWord (publish.opening ++ rest)
            (1 + publish.packet.groups.length + 2 + publish.topic.length) =
          some publish.id.toNat := by
      rw [opening_append, idBytes, if_neg lowest, ← List.append_assoc,
        ← List.append_assoc]
      exact readWord_word16 publish.id.toNat_lt _ _ here
    rw [if_pos (publish.qos_pos_iff.mpr lowest), if_neg (by omega),
      if_neg lowest, found, Option.map_some, UInt16.ofNat_toNat]

/-- An id at the very end is not found. -/
theorem mqttGetId_ending (named : publish.topic ≠ []) :
    mqttGetId (publish.opening ++ rest) publish.dataPlace = some 0 := by
  have place := publish.dataPlace_eq
  rw [mqttGetId_topic rest named (Nat.le_refl _)]
  by_cases lowest : publish.qos = 0
  · have noId : (idBytes publish.qos publish.id).length = 0 := by
      rw [length_idBytes, if_pos lowest]
    rw [if_pos (by omega)]
  · have id := publish.length_idBytes_of_ne lowest
    rw [if_neg (by omega), if_pos (publish.qos_pos_iff.mpr lowest),
      if_pos (by omega)]

end PublishPacket

/--
What the readers find of a PUBLISH.  Only an empty one at the very end has no
data, and no id.
-/
structure PublishRead
    (publish : PublishPacket) (buffer : List UInt8)
    (length bufferLength : Nat) : Prop where
  type : buffer.head?.bind mqttGetType = some .publish
  dup :
    buffer.head?.map (fun first => (mqttGetDup first).toNat) =
      some publish.dup.toNat
  qos :
    buffer.head?.map (fun first => (mqttGetQos first).toNat) =
      some publish.qos.val
  retain :
    buffer.head?.map (fun first => (mqttGetRetain first).toNat) =
      some publish.retain.toNat
  total :
    mqttGetTotalLength buffer length = some (publish.bytes.length : Int)
  id :
    ¬(publish.data = [] ∧ publish.bytes.length = bufferLength) →
      mqttGetId buffer bufferLength =
        some (if publish.qos = 0 then 0 else publish.id)
  noId :
    publish.data = [] → publish.bytes.length = bufferLength →
      mqttGetId buffer bufferLength = some 0
  topic :
    ∃ place,
      mqttGetPublishTopic buffer length =
          some (some place, publish.topic.length) ∧
        (buffer.drop place).take publish.topic.length = publish.topic
  data :
    ¬(publish.data = [] ∧ publish.bytes.length = length) →
      ∃ place,
        mqttGetPublishData buffer length =
            some (some place, publish.data.length) ∧
          (buffer.drop place).take publish.data.length = publish.data
  noData :
    publish.data = [] → publish.bytes.length = length →
      mqttGetPublishData buffer length =
        some (none, if publish.qos = 0 then 0 else length)

/--
Every PUBLISH at the front of what was received is read as it is on the wire.
Only when it carries nothing and ends with the length that is passed, its data
is `NULL`, with the length of the whole packet unless its level is 0, and its
id is 0.
-/
theorem mqtt_publish_read_back
    (publish : PublishPacket) (behind : List UInt8)
    {length bufferLength : Nat}
    (named : publish.topic ≠ [])
    (within : publish.bytes.length ≤ length)
    (inside : publish.bytes.length ≤ bufferLength) :
    PublishRead publish (publish.bytes ++ behind) length bufferLength := by
  have lengths := publish.length_bytes
  have layout :
      publish.bytes ++ behind = publish.opening ++ (publish.data ++ behind) := by
    rw [publish.bytes_eq, List.append_assoc]
  have data :=
    PublishPacket.mqttGetPublishData_opening (publish.data ++ behind) named
      (show publish.dataPlace ≤ length by omega)
  rw [layout]
  exact
    { type := publish.packet.mqttGetType_first
      dup := congrArg some publish.packet.mqttGetDup_first
      qos := congrArg some publish.packet.mqttGetQos_first
      retain := congrArg some publish.packet.mqttGetRetain_first
      total := by
        rw [← layout]
        exact mqttGetTotalLength_packet publish.packet behind within
      id := by
        intro more
        have longer : publish.dataPlace ≠ bufferLength := by
          intro ending
          exact more ⟨List.length_eq_zero_iff.mp (by omega), by omega⟩
        exact PublishPacket.mqttGetId_opening _ named (by omega)
      noId := by
        intro empty last
        rw [empty, List.length_nil, Nat.add_zero] at lengths
        rw [← last, lengths]
        exact PublishPacket.mqttGetId_ending _ named
      topic :=
        ⟨_, PublishPacket.mqttGetPublishTopic_opening _ named (by omega),
          publish.topic_eq _⟩
      data := by
        intro more
        refine ⟨publish.dataPlace, ?_, ?_⟩
        · have longer : length ≠ publish.dataPlace := by
            intro ending
            exact more ⟨List.length_eq_zero_iff.mp (by omega), by omega⟩
          rw [data, if_neg longer, Nat.min_eq_left (by omega)]
        · rw [publish.drop_dataPlace, List.take_left]
      noData := by
        intro empty last
        rw [empty, List.length_nil] at lengths
        rw [data, if_pos (by omega)] }

/-- A PUBLISH with an id, a topic of one character, and no data. -/
def publishNothing : PublishPacket where
  dup := false
  qos := 1
  retain := true
  topic := [0x61]
  id := 0x1234
  data := []
  topicSmall := by
    decide
  dataSmall := by
    decide

theorem length_publishNothing : publishNothing.bytes.length = 7 := by
  rw [publishNothing.length_bytes]
  decide +kernel

theorem mqtt_publish_read_back_nothing :
    PublishRead publishNothing (publishNothing.bytes ++ []) 7 1024 ∧
      PublishRead publishNothing (publishNothing.bytes ++ []) 7 7 :=
  ⟨mqtt_publish_read_back publishNothing [] (by decide)
      length_publishNothing.le
      (length_publishNothing.le.trans (by decide)),
    mqtt_publish_read_back publishNothing [] (by decide)
      length_publishNothing.le length_publishNothing.le⟩

end EspFirmware
