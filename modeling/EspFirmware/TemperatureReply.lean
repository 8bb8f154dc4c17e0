import EspFirmware.SensorFrame

/-!
# The reply with the temperature

`Temperature_get_temperature` formats its reply into a buffer of ten bytes and
always sends ten bytes.  A byte of the buffer which was never stored is what
the stack held before.
-/

namespace EspFirmware

open Library

/-! ## The reply -/

/-- The size of `buff`, which is also what is sent of it. -/
def buffSize : Nat := 10

/-- A store to a byte of `buff`. -/
structure BuffStore where
  byte : UInt8
  index : Nat
deriving DecidableEq

/-- The bytes of `buff`, where something was stored. -/
abbrev Buff :=
  List (Option UInt8)

/-- Stores one behind the other. -/
def storesFrom (start : Nat) : List UInt8 → List BuffStore
  | [] => []
  | byte :: rest => { byte, index := start } :: storesFrom (start + 1) rest

/-- The stores of `os_sprintf(buff, ..)`: the text and its terminator. -/
def sprintfStores (text : List UInt8) : List BuffStore :=
  storesFrom 0 (text ++ [0])

/-- The buffer behind stores, those outside of it left out. -/
def Buff.storeAll (buff : Buff) (stores : List BuffStore) : Buff :=
  stores.foldl (fun buff store => buff.set store.index (some store.byte)) buff

/-- The stores to the buffer, and the bytes of it which are sent. -/
structure TemperatureReply where
  stores : List BuffStore
  sent : Buff
deriving DecidableEq

/-- What `Temperature_get_temperature` does with a reading. -/
def Dht.reply (dht : Dht) : TemperatureReply where
  stores := sprintfStores dht.text
  sent :=
    (Buff.storeAll (List.replicate buffSize none)
      (sprintfStores dht.text)).take buffSize

/-- `Temperature_get_temperature`: its reply, if any. -/
def Dht.temperatureReply (dht : Dht) (samples : Samples) :
    Option TemperatureReply :=
  (dht.read samples).map Dht.reply

/-- The stores are inside of the buffer, and all that is sent was stored. -/
structure TemperatureReply.Fits (reply : TemperatureReply) : Prop where
  inside : ∀ store ∈ reply.stores, store.index < buffSize
  stored : none ∉ reply.sent

/-! ## Replies which fit -/

/-- The numbers which are printed with eight digits, or with seven and a sign. -/
def FitsReply (negative : Bool) (humidity temperature : Nat) : Prop :=
  if negative then
    10 ≤ humidity ∧ humidity < 100 ∧ 10000 ≤ temperature ∨
      100 ≤ humidity ∧ humidity < 1000 ∧
        1000 ≤ temperature ∧ temperature < 10000 ∨
      1000 ≤ humidity ∧ humidity < 10000 ∧
        100 ≤ temperature ∧ temperature < 1000 ∨
      10000 ≤ humidity ∧ 10 ≤ temperature ∧ temperature < 100
  else
    100 ≤ humidity ∧ humidity < 1000 ∧ 10000 ≤ temperature ∨
      1000 ≤ humidity ∧ humidity < 10000 ∧
        1000 ≤ temperature ∧ temperature < 10000 ∨
      10000 ≤ humidity ∧ 100 ≤ temperature ∧ temperature < 1000

theorem length_shortText (number : BitVec 16) :
    (shortText number).length = (Nat.toDigits 10 number.toNat).length :=
  List.length_map _

/-- How many digits a number has. -/
theorem length_toDigits_cases {number : Nat} (short : number < 2 ^ 16) :
    number < 10 ∧ (Nat.toDigits 10 number).length = 1 ∨
      10 ≤ number ∧ number < 100 ∧ (Nat.toDigits 10 number).length = 2 ∨
        100 ≤ number ∧ number < 1000 ∧
            (Nat.toDigits 10 number).length = 3 ∨
          1000 ≤ number ∧ number < 10000 ∧
              (Nat.toDigits 10 number).length = 4 ∨
            10000 ≤ number ∧ (Nat.toDigits 10 number).length = 5 := by
  have bound {digits : Nat} (some : 0 < digits) :
      (Nat.toDigits 10 number).length ≤ digits ↔ number < 10 ^ digits :=
    Nat.length_toDigits_le_iff (by decide) some
  have positive : 0 < (Nat.toDigits 10 number).length :=
    Nat.length_toDigits_pos
  have one := @bound 1 (by decide)
  have two := @bound 2 (by decide)
  have three := @bound 3 (by decide)
  have four := @bound 4 (by decide)
  have five := @bound 5 (by decide)
  omega

/-- The text has nine bytes exactly for numbers of the right sizes. -/
theorem length_text_iff (dht : Dht) :
    dht.text.length = 9 ↔
      FitsReply dht.negativeTemp dht.humidity.toNat
        dht.temperature.toNat := by
  have humidity := length_toDigits_cases dht.humidity.isLt
  have temperature := length_toDigits_cases dht.temperature.isLt
  have blank : (ascii " ").length = 1 := by
    decide
  have minus : (ascii " -").length = 2 := by
    decide
  rw [Dht.text, FitsReply]
  cases dht.negativeTemp with
  | false =>
      simp only [Bool.false_eq_true, if_false, List.length_append,
        length_shortText, blank]
      omega
  | true =>
      simp only [if_true, List.length_append, length_shortText, minus]
      omega

/-! ## The buffer -/

theorem index_of_mem_storesFrom
    {start : Nat} {bytes : List UInt8} {index : Nat} :
    (∃ store ∈ storesFrom start bytes, store.index = index) ↔
      start ≤ index ∧ index < start + bytes.length := by
  induction bytes generalizing start with
  | nil =>
      constructor
      · rintro ⟨_, member, -⟩
        cases member
      · intro within
        rw [List.length_nil] at within
        omega
  | cons byte bytes induction =>
      simp only [storesFrom, List.mem_cons, exists_eq_or_imp, induction,
        List.length_cons]
      omega

/-- What the buffer holds behind the stores. -/
theorem getElem?_storeAll
    (bytes : List UInt8) (buff : Buff) (start index : Nat) :
    (buff.storeAll (storesFrom start bytes))[index]? =
      if start ≤ index ∧ index < start + bytes.length ∧
          index < buff.length then
        some bytes[index - start]?
      else
        buff[index]? := by
  induction bytes generalizing buff start with
  | nil =>
      rw [if_neg]
      · rfl
      · simp only [List.length_nil]
        omega
  | cons byte bytes induction =>
      have next := induction (buff.set start (some byte)) (start + 1)
      rw [List.length_set] at next
      refine Eq.trans next ?_
      rw [List.length_cons]
      by_cases here : start = index
      · subst here
        rw [if_neg (by omega), List.getElem?_set, if_pos rfl]
        by_cases inside : start < buff.length
        · rw [if_pos inside, if_pos (by omega), Nat.sub_self]
          rfl
        · rw [if_neg inside, if_neg (by omega),
            List.getElem?_eq_none (Nat.le_of_not_lt inside)]
      · rw [List.getElem?_set_ne here]
        by_cases stored :
            start + 1 ≤ index ∧ index < start + 1 + bytes.length ∧
              index < buff.length
        · have place : index - start = index - (start + 1) + 1 := by
            omega
          rw [if_pos stored, if_pos (by omega), place,
            List.getElem?_cons_succ]
        · rw [if_neg stored, if_neg (by omega)]

/-- All of a buffer was stored when the text and its terminator are as long. -/
theorem none_not_mem_sent_iff (dht : Dht) :
    none ∉ dht.reply.sent ↔ buffSize ≤ dht.text.length + 1 := by
  have length : (dht.text ++ [0]).length = dht.text.length + 1 :=
    List.length_append
  rw [List.mem_iff_getElem?, not_exists]
  constructor
  · intro stored
    by_contra short
    apply stored (dht.text.length + 1)
    rw [Dht.reply, List.getElem?_take, if_pos (Nat.lt_of_not_le short),
      sprintfStores, getElem?_storeAll, if_neg (by omega),
      List.getElem?_replicate, if_pos (Nat.lt_of_not_le short)]
  · intro long index
    rw [Dht.reply, List.getElem?_take]
    by_cases inside : index < buffSize
    · rw [if_pos inside, sprintfStores, getElem?_storeAll, length,
        List.length_replicate, if_pos (by omega),
        List.getElem?_eq_getElem (by rw [length]; omega)]
      simp
    · rw [if_neg inside]
      simp

/-- The stores are inside of the buffer when the text and its terminator fit. -/
theorem stores_inside_iff (dht : Dht) :
    (∀ store ∈ dht.reply.stores, store.index < buffSize) ↔
      dht.text.length + 1 ≤ buffSize := by
  have length : (dht.text ++ [0]).length = dht.text.length + 1 :=
    List.length_append
  have stores (index : Nat) :
      (∃ store ∈ dht.reply.stores, store.index = index) ↔
        index < dht.text.length + 1 := by
    rw [Dht.reply, sprintfStores, index_of_mem_storesFrom, length]
    omega
  constructor
  · intro inside
    rcases (stores dht.text.length).mpr (Nat.lt_succ_self _) with
      ⟨store, member, last⟩
    rw [← last]
    exact inside store member
  · intro fits store member
    have early := (stores store.index).mp ⟨store, member, rfl⟩
    omega

theorem fits_reply_iff (dht : Dht) :
    dht.reply.Fits ↔
      FitsReply dht.negativeTemp dht.humidity.toNat
        dht.temperature.toNat := by
  rw [← length_text_iff]
  constructor
  · intro fits
    have inside := (stores_inside_iff dht).mp fits.inside
    have stored := (none_not_mem_sent_iff dht).mp fits.stored
    simp only [buffSize] at inside stored
    omega
  · intro nine
    refine
      ⟨(stores_inside_iff dht).mpr ?_, (none_not_mem_sent_iff dht).mpr ?_⟩
    · rw [nine]
      decide
    · rw [nine]
      decide

/--
The reply fits its buffer, and all of what is sent was formatted, exactly for
numbers whose digits fill it.
-/
theorem temperature_reply_fits_iff
    (samples : Samples)
    (accepted : checksum (getDataBits (rawData samples)) = true)
    (history : List Samples) :
    (∃ reply,
      (Dht.boot.afterReads history).temperatureReply samples = some reply ∧
        reply.Fits) ↔
      FitsReply
        ((getDataBits (rawData samples))[1] || history.any setsSign)
        (bitsValue (frameBits (getDataBits (rawData samples)) 1 15))
        (bitsValue (frameBits (getDataBits (rawData samples)) 16 16)) := by
  have humidity :=
    bitsValue_frameBits_lt (getDataBits (rawData samples)) 1 15
  have temperature :=
    bitsValue_frameBits_lt (getDataBits (rawData samples)) 16 16
  have reading :
      (Dht.boot.afterReads history).temperatureReply samples =
        some
          ((Dht.boot.afterReads history).setDht
            (getDataBits (rawData samples))).reply := by
    rw [Dht.temperatureReply, Dht.read, Dht.readBits, if_pos accepted,
      Option.map_some]
  rw [reading]
  simp only [Option.some.injEq, exists_eq_left']
  rw [fits_reply_iff, setDht_eq, negativeTemp_afterReads]
  simp only [BitVec.toNat_ofNat, Dht.boot, Bool.false_or]
  rw [Nat.mod_eq_of_lt (by omega), Nat.mod_eq_of_lt (by omega)]

/-- A frame with a high first bit is read twice. -/
theorem temperature_reply_fits_iff_high :
    (∃ reply,
      (Dht.boot.afterReads [pulseStream highFrame]).temperatureReply
            (pulseStream highFrame) =
          some reply ∧
        reply.Fits) ↔
      FitsReply
        ((getDataBits (rawData (pulseStream highFrame)))[1] ||
          [pulseStream highFrame].any setsSign)
        (bitsValue
          (frameBits (getDataBits (rawData (pulseStream highFrame))) 1 15))
        (bitsValue
          (frameBits (getDataBits (rawData (pulseStream highFrame))) 16
            16)) := by
  apply temperature_reply_fits_iff
  rw [getDataBits_pulseStream (by decide) (by decide)]
  decide

/-- Of a pin which rests, six of the ten bytes which are sent were never stored. -/
theorem temperature_reply_unstored :
    Dht.boot.temperatureReply (pulseStream []) =
        some
          { stores := sprintfStores (ascii "0 0")
            sent :=
              [some 48, some 32, some 48, some 0, none, none, none, none,
                none, none] } ∧
      ¬∃ reply,
        Dht.boot.temperatureReply (pulseStream []) = some reply ∧
          reply.Fits := by
  have quiet :
      Dht.boot.temperatureReply (pulseStream []) =
        some
          { stores := sprintfStores (ascii "0 0")
            sent :=
              [some 48, some 32, some 48, some 0, none, none, none, none,
                none, none] } := by
    rw [Dht.temperatureReply, Dht.read,
      getDataBits_pulseStream (by decide) (by decide)]
    decide
  refine ⟨quiet, ?_⟩
  rintro ⟨reply, sent, fits⟩
  rw [quiet, Option.some.injEq] at sent
  rw [← sent] at fits
  exact fits.stored (by decide)

end EspFirmware
