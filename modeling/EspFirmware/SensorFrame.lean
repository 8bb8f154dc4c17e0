import EspFirmware.PulseDecoding

/-!
# What the bits of a frame mean, and what is read from them

The data sheet divides the 40 bits of a frame into the 16 bits of the
humidity, the sign, the 15 bits of the temperature, and a checksum of eight
bits, the highest bit of each first.
-/

namespace EspFirmware

open Library

/-! ## Bits of a frame -/

@[simp]
theorem length_frameBits (data : DataBits) (first count : Nat) :
    (frameBits data first count).length = min count (41 - first) := by
  rw [frameBits, List.length_take, List.length_drop, Vector.length_toList]
  simp only [readBufferSize]
  omega

theorem frameBits_succ
    (data : DataBits) {first : Nat}
    (inside : 1 + first < readBufferSize)
    (count : Nat) :
    frameBits data first (count + 1) =
      data[1 + first] :: frameBits data (first + 1) count := by
  have within : 1 + first < data.toList.length := by
    rw [Vector.length_toList]
    exact inside
  rw [frameBits, List.drop_eq_getElem_cons within, List.take_succ_cons,
    Vector.getElem_toList, frameBits, Nat.add_assoc]

/-- A part of a part of the frame. -/
theorem take_drop_frameBits
    (data : DataBits) {first count skipped part : Nat}
    (within : skipped + part ≤ count) :
    ((frameBits data first count).drop skipped).take part =
      frameBits data (first + skipped) part := by
  rw [frameBits, List.drop_take, List.take_take, List.drop_drop,
    Nat.min_eq_left (by omega), frameBits, Nat.add_assoc]

/-- The first bit of the frame is no part of what comes behind it. -/
theorem frameBits_set
    (data : DataBits) (bit : Bool) {first : Nat}
    (behind : 0 < first)
    (count : Nat) :
    frameBits (data.set 1 bit) first count = frameBits data first count := by
  rw [frameBits, Vector.toList_set, List.drop_set_of_lt (by omega), frameBits]

theorem bitsValue_frameBits_lt
    (data : DataBits) (first count : Nat) :
    bitsValue (frameBits data first count) < 2 ^ count := by
  apply Nat.lt_of_lt_of_le (bitsValue_lt _)
  apply Nat.pow_le_pow_right (by decide)
  rw [length_frameBits]
  exact Nat.min_le_left _ _

/-- A byte of the frame. -/
def frameByte (data : DataBits) (byte : Nat) : Nat :=
  bitsValue (frameBits data (8 * byte) 8)

/-! ## The checksum -/

/-- The checksum of the data sheet is right. -/
def ValidFrame (data : DataBits) : Prop :=
  (frameByte data 0 + frameByte data 1 + frameByte data 2 +
    frameByte data 3) % 256 = frameByte data 4

instance (data : DataBits) : Decidable (ValidFrame data) :=
  inferInstanceAs (Decidable (_ = _))

/-- The bytes which `checksum` fills and does not use are those of the frame. -/
theorem toNat_dataBytes
    (data : DataBits) {byte : Nat}
    (inside : byte < 5) :
    (dataBytes data byte).toNat = frameByte data byte := by
  rw [dataBytes, toNat_packWords_zero (by decide),
    take_drop_frameBits data (by simp only [readBufferSize]; omega),
    Nat.zero_add, Nat.mul_comm, frameByte]

/-- The first five bits of a frame are the high bits of its first byte. -/
theorem frameByte_zero_div (data : DataBits) :
    frameByte data 0 / 8 =
      bitsValue [data[1], data[2], data[3], data[4], data[5]] := by
  have eight : 2 ^ min 3 (41 - 5) = 8 := by
    decide
  have low := bitsValue_lt (frameBits data 5 3)
  rw [length_frameBits, eight] at low
  have bits : frameBits data 0 8 =
      [data[1], data[2], data[3], data[4], data[5]] ++
        frameBits data 5 3 := by
    rw [frameBits_succ data (by decide), frameBits_succ data (by decide),
      frameBits_succ data (by decide), frameBits_succ data (by decide),
      frameBits_succ data (by decide)]
    rfl
  rw [frameByte, Nat.mul_zero, bits, bitsValue_append, length_frameBits,
    eight]
  omega

/-- `checksum` looks at the five highest bits of the first byte. -/
theorem checksum_iff (data : DataBits) :
    checksum data = true ↔ frameByte data 0 / 8 ∈ [0, 3, 5, 9, 17] := by
  have bits :
      ∀ first second third fourth fifth : Bool,
        (first.toNat + second.toNat + third.toNat + fourth.toNat ==
            fifth.toNat) = true ↔
          bitsValue [first, second, third, fourth, fifth] ∈
            [0, 3, 5, 9, 17] := by
    decide
  rw [checksum, bits, frameByte_zero_div]

/--
`checksum` is the checksum of the data sheet for a valid frame whose five
highest bits it takes for right, and for an invalid one whose bits it does
not.
-/
theorem checksum_valid_iff (data : DataBits) :
    (checksum data = true ↔ ValidFrame data) ↔
      (frameByte data 0 / 8 ∈ [0, 3, 5, 9, 17] ↔ ValidFrame data) := by
  rw [checksum_iff]

/-! ## The reading -/

/-- The reading which the data sheet gives a frame. -/
def sheetReading (data : DataBits) : Dht where
  humidity := BitVec.ofNat 16 (bitsValue (frameBits data 0 16))
  temperature := BitVec.ofNat 16 (bitsValue (frameBits data 17 15))
  negativeTemp := data[17]

/--
`set_dht` takes the highest bit of the humidity for the sign, and leaves the
sign in the temperature.
-/
theorem setDht_eq (dht : Dht) (data : DataBits) :
    dht.setDht data =
      { humidity := BitVec.ofNat 16 (bitsValue (frameBits data 1 15))
        temperature := BitVec.ofNat 16 (bitsValue (frameBits data 16 16))
        negativeTemp := data[1] || dht.negativeTemp } := by
  have words (cleared : DataBits) (word : Nat) (inside : word < 2) :
      packWords (fun _ => (0 : BitVec 16)) 0
          (frameBits cleared 0 (readBufferSize - 10)) word =
        BitVec.ofNat 16 (bitsValue (frameBits cleared (word * 16) 16)) := by
    apply BitVec.eq_of_toNat_eq
    rw [toNat_packWords_zero (by decide),
      take_drop_frameBits cleared (by simp only [readBufferSize]; omega),
      Nat.zero_add, BitVec.toNat_ofNat,
      Nat.mod_eq_of_lt (bitsValue_frameBits_lt cleared (word * 16) 16)]
  have humidity (cleared : DataBits)
      (clear : cleared[1] = false) :
      bitsValue (frameBits cleared (0 * 16) 16) =
        bitsValue (frameBits cleared 1 15) := by
    rw [Nat.zero_mul, frameBits_succ cleared (by decide), bitsValue_cons]
    change cleared[1].toNat * _ + _ = _
    rw [clear, Bool.toNat_false, Nat.zero_mul, Nat.zero_add]
  simp only [Dht.setDht]
  rw [words _ 0 (by decide), words _ 1 (by decide)]
  cases sign : data[1] with
  | false =>
      rw [if_neg Bool.false_ne_true, if_neg Bool.false_ne_true,
        humidity data sign, Bool.false_or]
  | true =>
      rw [if_pos rfl, if_pos rfl, humidity _ (Vector.getElem_set_self _),
        frameBits_set data false (by decide),
        frameBits_set data false (by decide), Bool.true_or]

/-- The reading is right when no temperature is negative and no humidity high. -/
theorem setDht_boot_eq_iff (data : DataBits) :
    Dht.boot.setDht data = sheetReading data ↔
      data[1] = false ∧ data[17] = false := by
  have high := bitsValue_frameBits_lt data 1 15
  have low := bitsValue_frameBits_lt data 17 15
  have humidity : bitsValue (frameBits data 0 16) =
      data[1].toNat * 2 ^ 15 + bitsValue (frameBits data 1 15) := by
    rw [frameBits_succ data (by decide), bitsValue_cons, length_frameBits]
    rfl
  have temperature : bitsValue (frameBits data 16 16) =
      data[17].toNat * 2 ^ 15 + bitsValue (frameBits data 17 15) := by
    rw [frameBits_succ data (by decide), bitsValue_cons, length_frameBits]
    rfl
  rw [setDht_eq, sheetReading, humidity, temperature, Dht.mk.injEq]
  cases first : data[1] with
  | false =>
      cases sign : data[17] with
      | false =>
          simp [Dht.boot]
      | true =>
          simp [Dht.boot]
  | true =>
      constructor
      · rintro ⟨same, -⟩
        have numbers := congrArg BitVec.toNat same
        rw [BitVec.toNat_ofNat, BitVec.toNat_ofNat, Bool.toNat_true,
          Nat.mod_eq_of_lt (by omega), Nat.mod_eq_of_lt (by omega)] at numbers
        omega
      · rintro ⟨impossible, -⟩
        cases impossible

/-! ## Encoding -/

/--
A reading as the sensor sends it, behind a protocol bit, and with a last
entry which is not used.
-/
def encodeReading
    (lead trail : Bool)
    (humidity : BitVec 16) (negative : Bool) (magnitude : BitVec 15)
    (check : BitVec 8) : DataBits where
  toArray :=
    (lead :: (valueBits 16 humidity.toNat ++
      (negative :: (valueBits 15 magnitude.toNat ++
        (valueBits 8 check.toNat ++ [trail]))))).toArray
  size_toArray := by
    simp [readBufferSize]

section Encoding

variable
    (lead trail : Bool)
    (humidity : BitVec 16) (negative : Bool) (magnitude : BitVec 15)
    (check : BitVec 8)

theorem sheetReading_encodeReading :
    sheetReading
        (encodeReading lead trail humidity negative magnitude check) =
      { humidity := humidity
        temperature := magnitude.setWidth 16
        negativeTemp := negative } := by
  have word :
      frameBits
          (encodeReading lead trail humidity negative magnitude check) 0 16 =
        valueBits 16 humidity.toNat :=
    rfl
  have rest :
      frameBits
          (encodeReading lead trail humidity negative magnitude check) 17 15 =
        valueBits 15 magnitude.toNat :=
    rfl
  have sign :
      (encodeReading lead trail humidity negative magnitude check)[17] =
        negative :=
    rfl
  rw [sheetReading, word, rest, sign, bitsValue_valueBits,
    bitsValue_valueBits, Nat.mod_eq_of_lt humidity.isLt,
    Nat.mod_eq_of_lt magnitude.isLt, BitVec.ofNat_toNat, BitVec.ofNat_toNat,
    BitVec.setWidth_eq]

/-- A reading which is encoded and decoded is the same when it is dry and warm enough. -/
theorem setDht_encodeReading_eq_iff :
    Dht.boot.setDht
          (encodeReading lead trail humidity negative magnitude check) =
        { humidity := humidity
          temperature := magnitude.setWidth 16
          negativeTemp := negative } ↔
      humidity.toNat < 2 ^ 15 ∧ negative = false := by
  have first :
      (encodeReading lead trail humidity negative magnitude check)[1] =
        humidity.toNat.testBit 15 :=
    rfl
  have sign :
      (encodeReading lead trail humidity negative magnitude check)[17] =
        negative :=
    rfl
  have small : humidity.toNat.testBit 15 = false ↔
      humidity.toNat < 2 ^ 15 := by
    have bounded := humidity.isLt
    rw [Nat.testBit_eq_decide_div_mod_eq, decide_eq_false_iff_not]
    omega
  rw [← sheetReading_encodeReading lead trail humidity negative magnitude
    check, setDht_boot_eq_iff, first, sign, small]

end Encoding

/--
A frame is decoded as the data sheet says exactly when neither the highest
bit of its humidity nor its sign is set, and so is a reading which was
encoded.
-/
theorem setDht_decodes_iff (data : DataBits) :
    (Dht.boot.setDht data = sheetReading data ↔
      data[1] = false ∧ data[17] = false) ∧
    ∀ (lead trail : Bool) (humidity : BitVec 16) (negative : Bool)
      (magnitude : BitVec 15) (check : BitVec 8),
      Dht.boot.setDht
            (encodeReading lead trail humidity negative magnitude check) =
          { humidity := humidity
            temperature := magnitude.setWidth 16
            negativeTemp := negative } ↔
        humidity.toNat < 2 ^ 15 ∧ negative = false := by
  constructor
  · exact setDht_boot_eq_iff data
  · exact setDht_encodeReading_eq_iff

/-- 65.2 % and -10.1 °C are read as 65.2 % and 3286.9 °C. -/
theorem setDht_below_zero :
    ¬∀ data : DataBits, Dht.boot.setDht data = sheetReading data := by
  intro decoded
  have reading :=
    decoded (encodeReading false false 652 true 101 0x73)
  revert reading
  decide

/-- 65.2 % and 35.1 °C, with one wrong bit in the checksum. -/
theorem checksum_wrong_bit :
    ¬∀ data : DataBits, checksum data = true ↔ ValidFrame data := by
  intro holds
  have wrong :=
    holds (encodeReading false false 652 false 351 0xEF)
  revert wrong
  decide

/-! ## Pulses of a stream -/

theorem foldl_set_range
    (samples : Samples) {count size : Nat}
    (inside : count ≤ size) :
    (List.range count).foldl
        (fun raw index => raw.set (index + 1) (samples index))
        (List.replicate (size + 1) false) =
      false :: ((List.range count).map samples ++
        List.replicate (size - count) false) := by
  induction count with
  | zero =>
      rfl
  | succ count induction =>
      have length : ((List.range count).map samples).length = count := by
        simp
      have next : List.replicate (size - count) false =
          false :: List.replicate (size - (count + 1)) false := by
        rw [← List.replicate_succ]
        congr 1
        omega
      rw [List.range_succ, List.foldl_append, induction (by omega),
        List.foldl_cons, List.foldl_nil, List.set_cons_succ, next,
        List.set_append, length, if_neg (Nat.lt_irrefl count), Nat.sub_self,
        List.set_cons_zero, List.map_append, List.append_assoc]
      rfl

/-- A block whose first byte is skipped has no room for the last sample. -/
theorem foldl_set_range_succ (samples : Samples) (size : Nat) :
    (List.range (size + 1)).foldl
        (fun raw index => raw.set (index + 1) (samples index))
        (List.replicate (size + 1) false) =
      false :: (List.range size).map samples := by
  rw [List.range_succ, List.foldl_append,
    foldl_set_range samples (Nat.le_refl size), Nat.sub_self,
    List.replicate_zero, List.append_nil, List.foldl_cons, List.foldl_nil,
    List.set_eq_of_length_le (by simp)]

/-- `raw_data` is a zero and all samples but the last one. -/
theorem rawData_eq (samples : Samples) :
    rawData samples =
      false :: (List.range (maxReadTime - 1)).map samples :=
  foldl_set_range_succ samples (maxReadTime - 1)

/-- A stream which begins with pulses, and is quiet from then on. -/
def pulseStream (pulses : List Bool) : Samples :=
  fun index => pulses[index]?.getD false

theorem map_pulseStream
    {pulses : List Bool} {size : Nat}
    (short : pulses.length ≤ size) :
    (List.range size).map (pulseStream pulses) =
      pulses ++ List.replicate (size - pulses.length) false := by
  apply List.ext_getElem
  · simp
    omega
  · intro index inside _
    rw [List.getElem_map, List.getElem_range, pulseStream,
      List.getElem_append]
    split
    · rename_i pulse
      rw [List.getElem?_eq_getElem pulse, Option.getD_some]
    · rename_i quiet
      rw [List.getElem?_eq_none (by omega), Option.getD_none,
        List.getElem_replicate]

/-- The bits of a stream are those of its pulses. -/
theorem getDataBits_pulseStream
    {pulses : List Bool}
    (short : pulses.length < maxReadTime)
    (last : pulses.getLast? ≠ some true) :
    getDataBits (rawData (pulseStream pulses)) = getDataBits pulses := by
  have front (samples : List Bool) :
      PulseScan.start.run (false :: samples) =
        PulseScan.start.run samples :=
    @PulseScan.run_more_zeros PulseScan.start [] rfl (by simp) 1 samples
  have back := @PulseScan.run_more_zeros PulseScan.start pulses rfl last
    (maxReadTime - 1 - pulses.length) []
  rw [List.append_nil, List.append_nil] at back
  rw [getDataBits, rawData_eq, map_pulseStream (by omega), front, back,
    getDataBits]

/-! ## Readings one after the other -/

/-- The frame of the stream is accepted, and its first bit is set. -/
def setsSign (samples : Samples) : Bool :=
  checksum (getDataBits (rawData samples)) &&
    signBit (getDataBits (rawData samples))

theorem negativeTemp_readBits (dht : Dht) (data : DataBits) :
    ((dht.readBits data).getD dht).negativeTemp =
      (dht.negativeTemp || (checksum data && data[1])) := by
  rw [Dht.readBits]
  cases checksum data with
  | false =>
      rw [if_neg Bool.false_ne_true, Option.getD_none, Bool.false_and,
        Bool.or_false]
  | true =>
      rw [if_pos rfl, Option.getD_some, setDht_eq, Bool.true_and,
        Bool.or_comm]

theorem negativeTemp_afterRead (dht : Dht) (samples : Samples) :
    (dht.afterRead samples).negativeTemp =
      (dht.negativeTemp || setsSign samples) := by
  rw [Dht.afterRead, Dht.read, negativeTemp_readBits, setsSign, signBit]

/-- Once it is set, the sign is not cleared any more. -/
theorem negativeTemp_afterReads (dht : Dht) (history : List Samples) :
    (dht.afterReads history).negativeTemp =
      (dht.negativeTemp || history.any setsSign) := by
  rw [Dht.afterReads]
  induction history generalizing dht with
  | nil =>
      rw [List.foldl_nil, List.any_nil, Bool.or_false]
  | cons samples history induction =>
      rw [List.foldl_cons, induction, negativeTemp_afterRead,
        List.any_cons, Bool.or_assoc]

/-- A number is printed without the code of a minus sign. -/
theorem minus_not_mem_shortText (number : BitVec 16) :
    45 ∉ shortText number := by
  intro member
  rcases List.mem_map.mp member with ⟨digit, among, minus⟩
  have decimal :=
    Nat.isDigit_of_mem_toDigits (by decide) (by decide) among
  rcases Char.isDigit_iff_toNat.mp decimal with ⟨low, high⟩
  have nine : '9'.toNat = 57 := rfl
  have zero : '0'.toNat = 48 := rfl
  have code := congrArg UInt8.toNat minus
  rw [UInt8.toNat_ofNat', Nat.mod_eq_of_lt (by omega)] at code
  change digit.toNat = 45 at code
  omega

/-- The sign can be seen in the text. -/
theorem minus_mem_text_iff (dht : Dht) :
    45 ∈ dht.text ↔ dht.negativeTemp = true := by
  have humidity := minus_not_mem_shortText dht.humidity
  have temperature := minus_not_mem_shortText dht.temperature
  rw [Dht.text]
  cases dht.negativeTemp with
  | false =>
      have blank : 45 ∉ ascii " " := by
        decide
      simp [humidity, temperature, blank]
  | true =>
      have minus : 45 ∈ ascii " -" := by
        decide
      simp [minus]

/-- An accepted frame gives everything but the sign. -/
theorem getTemperature_text
    {samples : Samples}
    (accepted : checksum (getDataBits (rawData samples)) = true)
    (dht : Dht) :
    dht.getTemperature samples =
      some (dht.setDht (getDataBits (rawData samples))).text := by
  rw [Dht.getTemperature, Dht.read, Dht.readBits, if_pos accepted,
    Option.map_some]

/-- Texts which are the same have the same sign. -/
theorem negativeTemp_of_getTemperature_eq
    {samples : Samples}
    (accepted : checksum (getDataBits (rawData samples)) = true)
    {first second : Dht}
    (same : first.getTemperature samples = second.getTemperature samples) :
    ((getDataBits (rawData samples))[1] || first.negativeTemp) =
      ((getDataBits (rawData samples))[1] || second.negativeTemp) := by
  rw [getTemperature_text accepted, getTemperature_text accepted,
    Option.some_inj] at same
  have minus := congrArg (45 ∈ ·) same
  simpa only [minus_mem_text_iff, setDht_eq, eq_iff_iff,
    ← Bool.eq_iff_iff] using minus

/--
An accepted frame reads the same after two histories exactly when it sets the
sign itself, or both histories set it, or neither does.
-/
theorem getTemperature_eq_iff
    (samples : Samples)
    (accepted : checksum (getDataBits (rawData samples)) = true)
    (first second : List Samples) :
    (Dht.boot.afterReads first).getTemperature samples =
        (Dht.boot.afterReads second).getTemperature samples ↔
      (getDataBits (rawData samples))[1] = true ∨
        first.any setsSign = second.any setsSign := by
  have sign (history : List Samples) :
      (Dht.boot.afterReads history).negativeTemp = history.any setsSign := by
    rw [negativeTemp_afterReads]
    exact Bool.false_or _
  constructor
  · intro same
    have signs := negativeTemp_of_getTemperature_eq accepted same
    rw [sign, sign] at signs
    cases bit : (getDataBits (rawData samples))[1] with
    | false =>
        rw [bit, Bool.false_or, Bool.false_or] at signs
        exact Or.inr signs
    | true =>
        exact Or.inl rfl
  · intro same
    rw [getTemperature_text accepted, getTemperature_text accepted,
      setDht_eq, setDht_eq, sign, sign]
    rcases same with bit | same
    · rw [bit, Bool.true_or, Bool.true_or]
    · rw [same]

/-- Six pulses, of which the second and the last are long. -/
def highFrame : List Bool :=
  [false, true, false, false, false, true].flatMap fun bit =>
    List.replicate (if bit then dataBitHighThreshold + 1 else 1) true ++
      [false]

/-- A pin which rests is read after nothing, and after a frame with a high first bit. -/
theorem getTemperature_high :
    (Dht.boot.afterReads []).getTemperature (pulseStream []) =
        (Dht.boot.afterReads [pulseStream highFrame]).getTemperature
          (pulseStream []) ↔
      (getDataBits (rawData (pulseStream [])))[1] = true ∨
        ([] : List Samples).any setsSign =
          [pulseStream highFrame].any setsSign := by
  apply getTemperature_eq_iff
  rw [getDataBits_pulseStream (by decide) (by decide)]
  decide

/-- A frame with a high first bit leaves its sign to a pin which rests. -/
theorem getTemperature_sticky :
    ¬∀ (samples : Samples) (first second : List Samples),
      checksum (getDataBits (rawData samples)) = true →
      (Dht.boot.afterReads first).getTemperature samples =
        (Dht.boot.afterReads second).getTemperature samples := by
  intro independent
  have quiet : getDataBits (rawData (pulseStream [])) = getDataBits [] :=
    getDataBits_pulseStream (by decide) (by decide)
  have high :
      getDataBits (rawData (pulseStream highFrame)) =
        getDataBits highFrame :=
    getDataBits_pulseStream (by decide) (by decide)
  have accepted : checksum (getDataBits (rawData (pulseStream []))) = true := by
    rw [quiet]
    decide
  have signs :=
    negativeTemp_of_getTemperature_eq accepted
      (independent (pulseStream []) [] [pulseStream highFrame] accepted)
  rw [negativeTemp_afterReads, negativeTemp_afterReads, List.any_cons,
    setsSign, high, quiet] at signs
  revert signs
  decide

end EspFirmware
