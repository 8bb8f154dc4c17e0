import EspFirmware.StoredConfig

/-!
# The answer to a device discovery

`udp_send_deviceinfo` reads the configuration without asking whether there is
one, and prints its fields as strings.  This is safe exactly when the sector
happens to hold terminated strings and a data length that can be rounded up.
-/

namespace EspFirmware

open Library DeviceConfig

/-! ## Texts -/

/-- `DeviceConfig_strtype`. -/
def DeviceConfig.strtype (type : UInt32) : List UInt8 :=
  match DeviceType.ofCode type with
  | some .none => ascii "None"
  | some .temperature => ascii "Temperature"
  | some .heater => ascii "Heater"
  | some .lighting => ascii "Lighting"
  | some .camera => ascii "Camera"
  | none => ascii "???"

/-- A byte as `%d` prints it. -/
def decimal (byte : UInt8) : List UInt8 :=
  if byte < 10 then
    [48 + byte]
  else if byte < 100 then
    [48 + byte / 10, 48 + byte % 10]
  else
    [48 + byte / 100, 48 + byte / 10 % 10, 48 + byte % 10]

/-- A digit as `%x` prints it. -/
def hexDigit (nibble : UInt8) : UInt8 :=
  if nibble < 10 then 48 + nibble else 87 + nibble

/-- A byte as `%02x` prints it. -/
def hexByte (byte : UInt8) : List UInt8 :=
  [hexDigit (byte / 16), hexDigit (byte % 16)]

/-- `inet_ntoa`. -/
def inetNtoa (addr : UInt32) : List UInt8 :=
  (ascii ".").intercalate ((wordBytes addr).map decimal)

/-- `str_mac`. -/
def strMac (mac : Chars 6) : List UInt8 :=
  (ascii ":").intercalate (mac.bytes.map hexByte)

/-! ## The answer -/

/-- The bytes of a `struct DeviceConfig` in memory. -/
def DeviceConfig.memory (conf : DeviceConfig) : List UInt8 :=
  conf.name.bytes ++
    (conf.room.bytes ++
      (wordBytes conf.type ++ wordBytes conf.dataLen ++
        wordBytes (UInt32.ofNat ((conf.data.map Buffer.address).getD 0))))

/-- `BROADCAST_RESPONSE_BUF_SIZE`. -/
def broadcastResponseBufSize : Nat := 200

/-- The text of `udp_send_deviceinfo`, unless a string runs out of the configuration. -/
def deviceInfo (conf : DeviceConfig) (ip : UInt32) (mac : Chars 6) :
    Option (List UInt8) :=
  match stringAt conf.memory 0, stringAt conf.memory 32 with
  | some name, some room =>
      let shown := if 0 < name.length then name else strMac mac
      some
        (ascii "NAME:" ++ shown ++ ascii " IP:" ++ inetNtoa ip ++
          ascii " MAC:" ++ strMac mac ++ ascii " ROOM:" ++ room ++
            ascii " TYPE:" ++ DeviceConfig.strtype conf.type)
  | _, _ => none

/-- What `udp_send_deviceinfo` does. -/
inductive DeviceInfoReply where
  | silent
  | overread
  | sent (text : List UInt8)
deriving DecidableEq

/-- The outcomes of the calls made by `udp_send_deviceinfo`. -/
structure DeviceInfoAnswers where
  ip : Option UInt32
  mac : Option (Chars 6)
  read : ReadAnswers

/-- `udp_send_deviceinfo`. -/
def udpSendDeviceinfo (flash : Flash) (answers : DeviceInfoAnswers) :
    DeviceInfoReply × List ConfigAction :=
  match answers.ip, answers.mac with
  | some ip, some mac =>
      let read := readConfig flash answers.read
      match read.result with
      | none => (.silent, read.trace)
      | some conf =>
          match deviceInfo conf ip mac with
          | none => (.overread, read.trace)
          | some text => (.sent text, read.trace ++ osFree conf.data)
  | _, _ => (.silent, [])

/-! ## Lengths -/

theorem length_decimal_le (byte : UInt8) :
    (decimal byte).length ≤ 3 := by
  rw [decimal]
  split
  · simp
  · split <;> simp

/-- The length of non-empty parts with a separator of one byte between them. -/
theorem length_intercalate
    (separator : UInt8) (part : List UInt8) (parts : List (List UInt8)) :
    ([separator].intercalate (part :: parts)).length =
      part.length + (parts.map fun next => next.length + 1).sum := by
  induction parts generalizing part with
  | nil =>
      simp [List.intercalate]
  | cons next rest induction =>
      have tail := induction next
      simp only [List.intercalate, List.intersperse, List.flatten_cons,
        List.length_append, List.length_singleton, List.map_cons,
        List.sum_cons] at tail ⊢
      omega

theorem length_inetNtoa_le (addr : UInt32) :
    (inetNtoa addr).length ≤ 15 := by
  have dot : ascii "." = [46] := by
    decide
  have short := length_decimal_le
  rw [inetNtoa, dot]
  simp only [wordBytes, toLittleEndian, List.map_cons, List.map_nil]
  rw [length_intercalate]
  simp only [List.map_cons, List.map_nil, List.sum_cons, List.sum_nil]
  have first := short (UInt8.ofNat addr.toNat)
  have second := short (UInt8.ofNat (addr.toNat / 256))
  have third := short (UInt8.ofNat (addr.toNat / 256 / 256))
  have fourth := short (UInt8.ofNat (addr.toNat / 256 / 256 / 256))
  omega

theorem length_strMac (mac : Chars 6) :
    (strMac mac).length = 17 := by
  have colon : ascii ":" = [58] := by
    decide
  rcases mac with ⟨bytes, six⟩
  rcases bytes with _ | ⟨first, rest⟩
  · cases six
  · have count : rest.length = 5 := by
      simpa using six
    have each :
        (rest.map hexByte).map (fun part => part.length + 1) =
          List.replicate rest.length 3 := by
      rw [List.map_map]
      change rest.map (fun _ => 3) = List.replicate rest.length 3
      exact List.map_const'
    rw [strMac, colon]
    simp only [List.map_cons]
    rw [length_intercalate, each, count]
    rfl

theorem length_strtype_le (type : UInt32) :
    (DeviceConfig.strtype type).length ≤ 11 := by
  rw [DeviceConfig.strtype]
  split <;> decide

/-! ## Well-formed configurations -/

/-- Both texts are terminated, and the data block is as long as the length says. -/
structure DeviceConfig.WellFormed (conf : DeviceConfig) : Prop where
  name : 0 ∈ conf.name.bytes
  room : 0 ∈ conf.room.bytes
  data :
    match conf.data with
    | none => conf.dataLen = 0
    | some block => conf.dataLen.toNat ≤ block.bytes.length

/-- The answer prints a well-formed configuration from inside of it, and fits its buffer. -/
theorem DeviceConfig.WellFormed.deviceInfo_fits
    {conf : DeviceConfig}
    (wellFormed : conf.WellFormed)
    (ip : UInt32) (mac : Chars 6) :
    ∃ text,
      deviceInfo conf ip mac = some text ∧
        text.length < broadcastResponseBufSize := by
  have name : stringAt conf.memory 0 = some (before 0 conf.name.bytes) :=
    stringAt_append List.length_nil.symm wellFormed.name _
  have room : stringAt conf.memory 32 = some (before 0 conf.room.bytes) :=
    stringAt_append conf.name.length_bytes.symm wellFormed.room _
  have nameLength := length_before_lt wellFormed.name
  have roomLength := length_before_lt wellFormed.room
  rw [Chars.length_bytes] at nameLength roomLength
  have literals :
      (ascii "NAME:").length = 5 ∧ (ascii " IP:").length = 4 ∧
        (ascii " MAC:").length = 5 ∧ (ascii " ROOM:").length = 6 ∧
          (ascii " TYPE:").length = 6 := by
    decide
  have ipLength := length_inetNtoa_le ip
  have macLength := length_strMac mac
  have typeLength := length_strtype_le conf.type
  have shownLength :
      (if 0 < (before 0 conf.name.bytes).length then
        before 0 conf.name.bytes
      else
        strMac mac).length ≤ 31 := by
    split <;> omega
  simp only [deviceInfo, name, room]
  refine ⟨_, rfl, ?_⟩
  simp only [List.length_append, literals, broadcastResponseBufSize]
  omega

/-! ## Exactly the contents that are read safely -/

/-- A configuration that is read is well formed, and the answer made from it is safe. -/
def ReadsSafely (flash : Flash) (read : ReadAnswers) : Prop :=
  ∀ conf,
    (readConfig flash read).result = some conf →
      conf.WellFormed ∧
        ∀ ip mac,
          ∃ text,
            (udpSendDeviceinfo flash
                { ip := some ip, mac := some mac, read := read }).1 =
              .sent text ∧
              text.length < broadcastResponseBufSize

/-- What is read is well formed exactly if its texts are terminated and its length can be rounded. -/
theorem wellFormed_stored_iff (flash : Flash) (address : Nat) :
    (stored flash address).WellFormed ↔
      0 ∈ readRange flash deviceConfigNameAddr 32 ∧
        0 ∈ readRange flash deviceConfigRoomAddr 32 ∧
          storedLen flash ≤ 0xfffffffc := by
  have data :
      (match (stored flash address).data with
        | none => (stored flash address).dataLen = 0
        | some block =>
            (stored flash address).dataLen.toNat ≤ block.bytes.length) ↔
        storedLen flash ≤ 0xfffffffc := by
    rw [← le_flashAlignLen_iff, UInt32.le_iff_toNat_le]
    by_cases empty : storedLen flash = 0
    · simp [stored, empty]
    · simp [stored, empty]
  constructor
  · intro wellFormed
    exact ⟨wellFormed.name, wellFormed.room, data.mp wellFormed.data⟩
  · rintro ⟨name, room, bounded⟩
    exact ⟨name, room, data.mpr bounded⟩

/--
Whatever the sector holds, a configuration that is read is safe exactly if the
read fails, or both texts are terminated and the length does not wrap.
-/
theorem reads_safely_iff (flash : Flash) (read : ReadAnswers) :
    ReadsSafely flash read ↔
      ¬ read.Succeed (storedLen flash) ∨
        (0 ∈ readRange flash deviceConfigNameAddr 32 ∧
          0 ∈ readRange flash deviceConfigRoomAddr 32 ∧
            storedLen flash ≤ 0xfffffffc) := by
  have result := result_readConfig flash read
  by_cases succeed : read.Succeed (storedLen flash)
  · rw [if_pos succeed] at result
    rw [← wellFormed_stored_iff flash (read.block.getD 0)]
    constructor
    · intro safe
      exact Or.inr (safe _ result).1
    · rintro (fails | wellFormed)
      · exact absurd succeed fails
      · intro conf equal
        rw [result] at equal
        cases equal
        refine ⟨wellFormed, ?_⟩
        intro ip mac
        rcases wellFormed.deviceInfo_fits ip mac with ⟨text, printed, fits⟩
        refine ⟨text, ?_, fits⟩
        simp only [udpSendDeviceinfo, result, printed]
  · rw [if_neg succeed] at result
    refine iff_of_true ?_ (Or.inl succeed)
    intro conf equal
    rw [result] at equal
    cases equal

/-! ## A device that was never configured -/

/-- Reads which succeed, with some answer of the allocator. -/
def successfulReads (block : Option Nat) : ReadAnswers where
  name := true
  room := true
  type := true
  len := true
  block := block
  data := true

/-- A sector which is erased but for a data length of zero. -/
def zeroLengthFlash : Flash := fun address =>
  if deviceConfigLenAddr ≤ address ∧ address < deviceConfigLenAddr + 4 then
    0
  else
    0xFF

/--
The erased sector is read as two texts without an end and a length without a
block, and a sector with a length of zero does so whatever the allocator says.
-/
theorem unconfigured_device_unsafe :
    ¬ ReadsSafely (fun _ => 0xFF) (successfulReads (some 0)) ∧
      ∀ block, ¬ ReadsSafely zeroLengthFlash (successfulReads block) := by
  have unterminated
      {flash : Flash} {read : ReadAnswers}
      (succeed : read.Succeed (storedLen flash))
      (name : 0 ∉ readRange flash deviceConfigNameAddr 32) :
      ¬ ReadsSafely flash read := by
    intro safe
    have result := result_readConfig flash read
    rw [if_pos succeed] at result
    exact name ((wellFormed_stored_iff flash _).mp (safe _ result).1).1
  have zero : storedLen zeroLengthFlash = 0 := by
    decide
  constructor
  · refine unterminated ⟨rfl, rfl, rfl, rfl, fun _ => ⟨rfl, rfl⟩⟩ ?_
    decide
  · intro block
    refine
      unterminated
        ⟨rfl, rfl, rfl, rfl, fun nonzero => absurd zero nonzero⟩ ?_
    decide

end EspFirmware
