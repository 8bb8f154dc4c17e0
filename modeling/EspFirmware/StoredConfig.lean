import EspFirmware.DeviceConfig

/-!
# What the configuration sector holds

`DeviceConfig_save_config` fills a buffer by offsets behind the guard and
`DeviceConfig_read_config` reads at absolute addresses.  Here both are brought
to one layout: the contents which a chip holds, and the contents which a
complete or an unfinished save leaves.
-/

namespace EspFirmware

open Library

/-- What a configuration says, whichever block holds its data. -/
structure Contents where
  name : Chars 32
  room : Chars 32
  type : UInt32
  dataLen : UInt32
  data : List UInt8
deriving DecidableEq

namespace DeviceConfig

/-- The data which a save writes: of a null pointer nothing is copied into the zeroed buffer. -/
def payload (conf : DeviceConfig) : List UInt8 :=
  match conf.data with
  | some data => data.bytes.take conf.dataLen.toNat
  | none => List.replicate conf.dataLen.toNat 0

/-- What a configuration says. -/
def contents (conf : DeviceConfig) : Contents where
  name := conf.name
  room := conf.room
  type := conf.type
  dataLen := conf.dataLen
  data := conf.payload

/-- The data block is as long as it is said to be, and short of the whole address space. -/
structure Sound (conf : DeviceConfig) : Prop where
  addressable : conf.dataLen.toNat + 79 < 2 ^ 32
  block :
    ∀ data, conf.data = some data →
      conf.dataLen.toNat ≤ data.bytes.length

theorem Sound.length_payload
    {conf : DeviceConfig}
    (sound : conf.Sound) :
    conf.payload.length = conf.dataLen.toNat := by
  cases present : conf.data with
  | none =>
      rw [payload, present, List.length_replicate]
  | some data =>
      have long := sound.block data present
      rw [payload, present, List.length_take]
      omega

theorem Sound.le_flashAlignLen
    {conf : DeviceConfig}
    (sound : conf.Sound) :
    conf.dataLen.toNat ≤ (flashAlignLen conf.dataLen).toNat := by
  have bound := sound.addressable
  rw [toNat_flashAlignLen]
  omega

/-- The size of a save does not wrap. -/
theorem Sound.toNat_savedSize
    {conf : DeviceConfig}
    (sound : conf.Sound) :
    conf.savedSize.toNat = 76 + (flashAlignLen conf.dataLen).toNat := by
  have bound := sound.addressable
  have aligned := toNat_flashAlignLen conf.dataLen
  have fixed : (UInt32.ofNat guardSize + deviceConfigFixedLen).toNat = 76 := by
    rfl
  rw [savedSize, UInt32.toNat_add, fixed]
  omega

end DeviceConfig

/-! ## Layout -/

/-- The guard and the fixed part. -/
def Contents.header (contents : Contents) : List UInt8 :=
  wordBytes deviceConfigGuardValue ++ contents.name.bytes ++
    contents.room.bytes ++ wordBytes contents.type ++
      wordBytes contents.dataLen

@[simp]
theorem Contents.length_header (contents : Contents) :
    contents.header.length = 76 := by
  simp [header]

/-- The copies of the guard and the fixed part are consecutive, whatever the size of the buffer. -/
theorem DeviceConfig.savedFixed_eq (conf : DeviceConfig) :
    osMemcpy
        (osMemcpy
          (osMemcpy
            (osMemcpy
              (osMemcpy (List.replicate conf.savedSize.toNat 0) 0
                (wordBytes deviceConfigGuardValue))
              (guardSize + deviceConfigNameOffset) conf.name.bytes)
            (guardSize + deviceConfigRoomOffset) conf.room.bytes)
          (guardSize + deviceConfigTypeOffset) (wordBytes conf.type))
        (guardSize + deviceConfigLenOffset) (wordBytes conf.dataLen) =
      conf.contents.header ++
        List.replicate (conf.savedSize.toNat - 76) 0 := by
  have start :
      List.replicate conf.savedSize.toNat (0 : UInt8) =
        [] ++ List.replicate conf.savedSize.toNat 0 := by
    rw [List.nil_append]
  rw [start, osMemcpy_zeros [] _ List.length_nil.symm,
    osMemcpy_zeros _ _ (by simp; rfl), osMemcpy_zeros _ _ (by simp; rfl),
    osMemcpy_zeros _ _ (by simp; rfl), osMemcpy_zeros _ _ (by simp; rfl)]
  simp [Contents.header, DeviceConfig.contents]
  omega

/-- A saved buffer begins with the guard and the fixed part. -/
theorem DeviceConfig.savedBuffer_header (conf : DeviceConfig) :
    ∃ rest, conf.savedBuffer = conf.contents.header ++ rest := by
  have fixed := conf.savedFixed_eq
  cases present : conf.data with
  | none =>
      simp only [DeviceConfig.savedBuffer, present]
      exact ⟨_, fixed⟩
  | some data =>
      by_cases empty : conf.dataLen = 0
      · simp only [DeviceConfig.savedBuffer, present, if_pos empty]
        exact ⟨_, fixed⟩
      · simp only [DeviceConfig.savedBuffer, present, if_neg empty]
        rw [fixed, osMemcpy_zeros _ _ (by simp; rfl), List.append_assoc]
        exact ⟨_, rfl⟩

/-- The copies of a save are consecutive. -/
theorem DeviceConfig.Sound.savedBuffer_eq
    {conf : DeviceConfig}
    (sound : conf.Sound) :
    conf.savedBuffer =
      conf.contents.header ++
        (conf.payload ++
          List.replicate
            ((flashAlignLen conf.dataLen).toNat - conf.dataLen.toNat) 0) := by
  have aligned := sound.le_flashAlignLen
  have fixed := conf.savedFixed_eq
  rw [sound.toNat_savedSize, Nat.add_sub_cancel_left] at fixed
  have start :
      List.replicate conf.savedSize.toNat (0 : UInt8) =
        List.replicate (76 + (flashAlignLen conf.dataLen).toNat) 0 := by
    rw [sound.toNat_savedSize]
  have padding :
      List.replicate (flashAlignLen conf.dataLen).toNat (0 : UInt8) =
        List.replicate conf.dataLen.toNat 0 ++
          List.replicate
            ((flashAlignLen conf.dataLen).toNat - conf.dataLen.toNat) 0 := by
    rw [List.replicate_append_replicate, Nat.add_sub_cancel' aligned]
  cases present : conf.data with
  | none =>
      simp only [DeviceConfig.savedBuffer, present]
      rw [start, fixed, DeviceConfig.payload, present, padding]
  | some data =>
      have long := sound.block data present
      by_cases empty : conf.dataLen = 0
      · simp only [DeviceConfig.savedBuffer, present, if_pos empty]
        rw [start, fixed, DeviceConfig.payload, present, padding]
        simp [empty]
      · simp only [DeviceConfig.savedBuffer, present, if_neg empty]
        rw [start, fixed, osMemcpy_zeros _ _ (by simp; rfl),
          List.append_assoc, DeviceConfig.payload, present, List.length_take,
          Nat.min_eq_left long]

theorem DeviceConfig.Sound.length_savedBuffer
    {conf : DeviceConfig}
    (sound : conf.Sound) :
    conf.savedBuffer.length = 76 + (flashAlignLen conf.dataLen).toNat := by
  have aligned := sound.le_flashAlignLen
  rw [sound.savedBuffer_eq, List.length_append, List.length_append,
    Contents.length_header, sound.length_payload, List.length_replicate]
  omega

/-! ## What a read yields -/

/-- The data length which a chip holds. -/
def storedLen (flash : Flash) : UInt32 :=
  Chars.word
    ⟨readRange flash deviceConfigLenAddr 4,
      length_readRange flash deviceConfigLenAddr 4⟩

/-- What the configuration addresses of a chip say. -/
def storedContents (flash : Flash) : Contents where
  name :=
    ⟨readRange flash deviceConfigNameAddr 32,
      length_readRange flash deviceConfigNameAddr 32⟩
  room :=
    ⟨readRange flash deviceConfigRoomAddr 32,
      length_readRange flash deviceConfigRoomAddr 32⟩
  type :=
    Chars.word
      ⟨readRange flash deviceConfigTypeAddr 4,
        length_readRange flash deviceConfigTypeAddr 4⟩
  dataLen := storedLen flash
  data :=
    (readRange flash deviceConfigDataAddr
      (flashAlignLen (storedLen flash)).toNat).take (storedLen flash).toNat

/-- The device which a chip stores, when it has a configuration. -/
def storedType (flash : Flash) : Option DeviceType :=
  if DeviceConfig.alreadyExists flash true then
    DeviceType.ofCode (storedContents flash).type
  else
    none

namespace DeviceConfig

/-- The configuration which a read yields, with its data in the block at `address`. -/
def stored (flash : Flash) (address : Nat) : DeviceConfig where
  name := (storedContents flash).name
  room := (storedContents flash).room
  type := (storedContents flash).type
  dataLen := storedLen flash
  data :=
    if storedLen flash = 0 then
      none
    else
      some
        { address := address
          bytes :=
            readRange flash deviceConfigDataAddr
              (flashAlignLen (storedLen flash)).toNat }

@[simp]
theorem contents_stored (flash : Flash) (address : Nat) :
    (stored flash address).contents = storedContents flash := by
  by_cases empty : storedLen flash = 0
  · simp [contents, payload, stored, storedContents, empty]
  · simp [contents, payload, stored, storedContents, empty]

theorem sound_stored
    {flash : Flash} (address : Nat)
    (bound : (storedLen flash).toNat + 79 < 2 ^ 32) :
    (stored flash address).Sound where
  addressable := bound
  block := by
    intro data present
    have aligned := toNat_flashAlignLen (storedLen flash)
    by_cases empty : storedLen flash = 0
    · simp [stored, empty]
    · simp only [stored, if_neg empty, Option.some.injEq] at present
      subst present
      rw [length_readRange]
      simp only [stored]
      omega

/-- None of the calls of `DeviceConfig_read_config` fails, when it reads this data length. -/
def ReadAnswers.Succeed (answers : ReadAnswers) (dataLen : UInt32) : Prop :=
  answers.name = true ∧ answers.room = true ∧ answers.type = true ∧
    answers.len = true ∧
      (dataLen ≠ 0 → answers.block.isSome = true ∧ answers.data = true)

instance (answers : ReadAnswers) (dataLen : UInt32) :
    Decidable (answers.Succeed dataLen) :=
  inferInstanceAs (Decidable (_ ∧ _ ∧ _ ∧ _ ∧ (_ → _)))

theorem result_readData (flash : Flash) (answers : ReadAnswers) :
    (readData flash answers (storedLen flash)).result =
      if answers.block.isSome = true ∧ answers.data = true then
        some
          { address := answers.block.getD 0
            bytes :=
              readRange flash deviceConfigDataAddr
                (flashAlignLen (storedLen flash)).toNat }
      else
        none := by
  cases block : answers.block with
  | none =>
      simp [readData, block]
  | some address =>
      cases read : answers.data <;>
        simp [readData, block, read, readFromFlash]

/-- A read whose calls succeed yields what the chip holds, and any other yields nothing. -/
theorem result_readConfig (flash : Flash) (answers : ReadAnswers) :
    (readConfig flash answers).result =
      if answers.Succeed (storedLen flash) then
        some (stored flash (answers.block.getD 0))
      else
        none := by
  cases name : answers.name with
  | false =>
      simp [readConfig, readFromFlash, ReadAnswers.Succeed, name]
  | true =>
  cases room : answers.room with
  | false =>
      simp [readConfig, readFromFlash, ReadAnswers.Succeed, name, room]
  | true =>
  cases type : answers.type with
  | false =>
      simp [readConfig, readFromFlash, ReadAnswers.Succeed, name, room, type]
  | true =>
  cases len : answers.len with
  | false =>
      simp [readConfig, readFromFlash, ReadAnswers.Succeed, name, room, type,
        len]
  | true =>
      have data := result_readData flash answers
      have held :
          Chars.word
              ⟨readRange flash deviceConfigLenAddr 4,
                length_readRange flash deviceConfigLenAddr 4⟩ =
            storedLen flash :=
        rfl
      simp only [readConfig, readFromFlash, name, room, type, len, if_true]
      change
        Traced.result (if storedLen flash = 0 then _ else _) = _
      by_cases empty : storedLen flash = 0
      · rw [if_pos empty]
        simp [stored, storedContents, empty, ReadAnswers.Succeed, name, room,
          type, len, held]
      · rw [if_neg empty]
        change
          Option.map _ (readData flash answers (storedLen flash)).result = _
        rw [data]
        simp [stored, storedContents, empty, ReadAnswers.Succeed, name, room,
          type, len, held]

end DeviceConfig

/-- The flash answers and the allocator serves; asked for no bytes it may still answer null. -/
structure DeviceConfig.ReadAnswers.Healthy
    (answers : ReadAnswers) (dataLen : UInt32) : Prop where
  name : answers.name = true
  room : answers.room = true
  type : answers.type = true
  len : answers.len = true
  data : answers.data = true
  block : flashAlignLen dataLen ≠ 0 → answers.block.isSome = true

/-- A chip holds a configuration: it is found, and reading it yields these contents. -/
def Stores (flash : Flash) (contents : Contents) : Prop :=
  DeviceConfig.alreadyExists flash true = true ∧
    ∀ answers : DeviceConfig.ReadAnswers,
      answers.Healthy (storedLen flash) →
        ∃ conf,
          (DeviceConfig.readConfig flash answers).result = some conf ∧
            conf.contents = contents

theorem flashAlignLen_eq_zero_iff (n : UInt32) :
    flashAlignLen n = 0 ↔ n = 0 ∨ ¬ n ≤ 0xfffffffc := by
  have bound := n.toNat_lt
  have top : (0xfffffffc : UInt32).toNat = 4294967292 := by
    rfl
  have zero : (0 : UInt32).toNat = 0 := by
    rfl
  rw [← UInt32.toNat_inj, ← UInt32.toNat_inj, UInt32.le_iff_toNat_le,
    toNat_flashAlignLen]
  omega

/-- A chip holds what its addresses say, if the length which they say can be rounded up. -/
theorem stores_iff (flash : Flash) (contents : Contents) :
    Stores flash contents ↔
      DeviceConfig.alreadyExists flash true = true ∧
        storedContents flash = contents ∧
          storedLen flash ≤ 0xfffffffc := by
  constructor
  · rintro ⟨found, reads⟩
    have bounded : storedLen flash ≤ 0xfffffffc := by
      by_contra wraps
      have aligned := (flashAlignLen_eq_zero_iff _).mpr (Or.inr wraps)
      have nonzero : storedLen flash ≠ 0 := by
        intro zero
        exact wraps (zero ▸ by decide)
      rcases reads
        { name := true, room := true, type := true, len := true
          block := none, data := true }
        ⟨rfl, rfl, rfl, rfl, rfl, fun space => absurd aligned space⟩ with
        ⟨conf, result, _⟩
      rw [DeviceConfig.result_readConfig] at result
      simp [DeviceConfig.ReadAnswers.Succeed, nonzero] at result
    refine ⟨found, ?_, bounded⟩
    rcases reads
      { name := true, room := true, type := true, len := true
        block := some 0, data := true }
      ⟨rfl, rfl, rfl, rfl, rfl, fun _ => rfl⟩ with
      ⟨conf, result, equal⟩
    rw [DeviceConfig.result_readConfig] at result
    simp only [DeviceConfig.ReadAnswers.Succeed, Option.isSome_some, and_self,
      implies_true, if_true, Option.some.injEq] at result
    rw [← equal, ← result, DeviceConfig.contents_stored]
  · rintro ⟨found, equal, bounded⟩
    refine ⟨found, ?_⟩
    intro answers healthy
    have succeed : answers.Succeed (storedLen flash) := by
      refine
        ⟨healthy.name, healthy.room, healthy.type, healthy.len, ?_⟩
      intro nonzero
      refine ⟨healthy.block ?_, healthy.data⟩
      rw [Ne, flashAlignLen_eq_zero_iff]
      simp [nonzero, bounded]
    refine ⟨DeviceConfig.stored flash (answers.block.getD 0), ?_, ?_⟩
    · rw [DeviceConfig.result_readConfig, if_pos succeed]
    · rw [DeviceConfig.contents_stored, equal]

/-! ## Images -/

section Image

variable {flash : Flash} {contents : Contents} {rest : List UInt8}

/-- The guard is found where an image begins with it. -/
theorem alreadyExists_eq
    {guard : UInt32} {count : Nat} {rest : List UInt8}
    (image :
      readRange flash deviceConfigGuardAddr count =
        wordBytes guard ++ rest) :
    DeviceConfig.alreadyExists flash true =
      decide (guard = deviceConfigGuardValue) := by
  have whole :
      readRange flash deviceConfigGuardAddr count =
        [] ++ wordBytes guard ++ rest := by
    rw [image, List.nil_append]
  have part :
      readRange flash deviceConfigGuardAddr 4 = wordBytes guard :=
    readRange_middle whole rfl (length_wordBytes guard).symm
  have word :
      Chars.word
          ⟨readRange flash deviceConfigGuardAddr 4, length_readRange _ _ _⟩ =
        guard :=
    Chars.word_eq part
  simp only [DeviceConfig.alreadyExists, readFromFlash, if_true, word]

/-- The length which a header says. -/
theorem storedLen_of_image
    {count : Nat}
    (image :
      readRange flash deviceConfigGuardAddr count =
        contents.header ++ rest) :
    storedLen flash = contents.dataLen := by
  have typeLen :
      readRange flash deviceConfigGuardAddr count =
        (wordBytes deviceConfigGuardValue ++ contents.name.bytes ++
          contents.room.bytes ++ wordBytes contents.type) ++
            wordBytes contents.dataLen ++ rest := by
    rw [image, Contents.header]
  apply Chars.word_eq
  exact readRange_middle typeLen (by simp; rfl) (by simp)

/-- What a header and data say. -/
theorem storedContents_of_image
    {count : Nat}
    (image :
      readRange flash deviceConfigGuardAddr count = contents.header ++ rest)
    (bounded : contents.dataLen ≤ 0xfffffffc)
    (inside : (flashAlignLen contents.dataLen).toNat ≤ rest.length) :
    storedContents flash =
      { contents with data := rest.take contents.dataLen.toNat } := by
  have guardName :
      readRange flash deviceConfigGuardAddr count =
        wordBytes deviceConfigGuardValue ++ contents.name.bytes ++
          (contents.room.bytes ++ wordBytes contents.type ++
            wordBytes contents.dataLen ++ rest) := by
    rw [image]
    simp [Contents.header]
  have name :
      readRange flash deviceConfigNameAddr 32 = contents.name.bytes :=
    readRange_middle guardName (by rw [length_wordBytes]; rfl) (by simp)
  have nameRoom :
      readRange flash deviceConfigGuardAddr count =
        (wordBytes deviceConfigGuardValue ++ contents.name.bytes) ++
          contents.room.bytes ++
            (wordBytes contents.type ++ wordBytes contents.dataLen ++ rest) := by
    rw [image]
    simp [Contents.header]
  have room :
      readRange flash deviceConfigRoomAddr 32 = contents.room.bytes :=
    readRange_middle nameRoom (by simp; rfl) (by simp)
  have roomType :
      readRange flash deviceConfigGuardAddr count =
        (wordBytes deviceConfigGuardValue ++ contents.name.bytes ++
          contents.room.bytes) ++ wordBytes contents.type ++
            (wordBytes contents.dataLen ++ rest) := by
    rw [image]
    simp [Contents.header]
  have type :
      readRange flash deviceConfigTypeAddr 4 = wordBytes contents.type :=
    readRange_middle roomType (by simp; rfl) (by simp)
  have word := storedLen_of_image image
  have data :
      readRange flash deviceConfigDataAddr
          (flashAlignLen contents.dataLen).toNat =
        rest.take (flashAlignLen contents.dataLen).toNat := by
    have split :
        readRange flash deviceConfigGuardAddr count =
          contents.header ++
            rest.take (flashAlignLen contents.dataLen).toNat ++
              rest.drop (flashAlignLen contents.dataLen).toNat := by
      rw [image, List.append_assoc, List.take_append_drop]
    apply readRange_middle split
    · rw [Contents.length_header]
      rfl
    · rw [List.length_take]
      omega
  have short :
      contents.dataLen.toNat ≤ (flashAlignLen contents.dataLen).toNat := by
    rw [← UInt32.le_iff_toNat_le]
    exact (le_flashAlignLen_iff _).mpr bounded
  simp only [storedContents, name, room, word, data]
  rw [Chars.word_eq type, List.take_take, Nat.min_eq_left short]

end Image

/-! ## Unfinished saves -/

/-- The chip when a save has erased the sector and programmed some words. -/
def DeviceConfig.afterWords
    (flash : Flash) (conf : DeviceConfig) (words : Nat) :
    Flash :=
  spiFlashWrite
    (spiFlashEraseSector flash (deviceConfigGuardAddr >>> 12))
    deviceConfigGuardAddr (conf.savedBuffer.take (words * wordSize))

/-- Words which hold the guard and the fixed part. -/
def headerWords : Nat := 19

/-- A configuration whose data is programmed only as far as some number of words reaches. -/
def Contents.torn (contents : Contents) (words : Nat) : Contents :=
  let programmed := (words - headerWords) * wordSize
  { contents with
    data :=
      contents.data.take programmed ++
        List.replicate (contents.data.length - programmed) 0xFF }

/-- The sector can hold the configuration. -/
def Contents.Fits (contents : Contents) : Prop :=
  76 + (flashAlignLen contents.dataLen).toNat ≤ sectorSize

section Unfinished

variable (flash : Flash) {conf : DeviceConfig} {words : Nat}

/-- The sector is the programmed words, and ones. -/
theorem sector_afterWords (conf : DeviceConfig) (words : Nat) :
    readRange (conf.afterWords flash words) deviceConfigGuardAddr sectorSize =
      (conf.savedBuffer.take (words * wordSize)).take sectorSize ++
        List.replicate
          (sectorSize - (conf.savedBuffer.take (words * wordSize)).length)
          0xFF := by
  have blank :
      readRange (spiFlashEraseSector flash (deviceConfigGuardAddr >>> 12))
          deviceConfigGuardAddr sectorSize =
        List.replicate sectorSize 0xFF :=
    flashCell.readRange_erase flash deviceConfigGuardAddr sectorSize
  exact flashCell.readRange_write_erased blank _

/-- The guard is the first word which a save programs. -/
theorem DeviceConfig.alreadyExists_afterWords
    (conf : DeviceConfig) (words : Nat) :
    alreadyExists (conf.afterWords flash words) true =
      decide (0 < words) := by
  by_cases programmed : 0 < words
  · have image :
        ∃ rest,
          readRange (conf.afterWords flash words) deviceConfigGuardAddr
              sectorSize =
            wordBytes deviceConfigGuardValue ++ rest := by
      have long : 4 ≤ min sectorSize (words * wordSize) := by
        rw [sectorSize, wordSize]
        omega
      rcases conf.savedBuffer_header with ⟨rest, saved⟩
      rw [sector_afterWords, saved, Contents.header, List.take_take]
      simp only [List.append_assoc]
      rw [List.take_append, length_wordBytes,
        List.take_of_length_le (by simpa using long), List.append_assoc]
      exact ⟨_, rfl⟩
    rcases image with ⟨rest, equal⟩
    rw [alreadyExists_eq equal]
    simp [programmed]
  · have none : words = 0 := by
      omega
    have image :
        readRange (conf.afterWords flash words) deviceConfigGuardAddr
            sectorSize =
          wordBytes 0xFFFFFFFF ++ List.replicate 4092 0xFF := by
      rw [sector_afterWords, none]
      rfl
    rw [alreadyExists_eq image]
    simp [programmed]
    decide

/-- A word which the save has not reached is still erased. -/
theorem erased_afterWords
    (conf : DeviceConfig) {words offset : Nat}
    (behind : words * wordSize ≤ offset)
    (inside : offset + 4 ≤ sectorSize) :
    readRange (conf.afterWords flash words)
        (deviceConfigGuardAddr + offset) 4 =
      List.replicate 4 0xFF := by
  have short :
      ((conf.savedBuffer.take (words * wordSize)).take sectorSize).length ≤
        offset := by
    simp only [List.length_take]
    omega
  rw [readRange_part _ inside, sector_afterWords, List.drop_append,
    List.drop_eq_nil_of_le short, List.nil_append, List.drop_replicate,
    List.take_replicate]
  congr 1
  simp only [List.length_take] at short ⊢
  omega

/-- Words which hold the guard and the fixed part up to the type. -/
def typeWords : Nat := 18

/-- The type is read back once its word is programmed, and is erased before. -/
theorem DeviceConfig.type_afterWords
    (conf : DeviceConfig) (words : Nat) :
    (storedContents (conf.afterWords flash words)).type =
      if typeWords ≤ words then conf.type else 0xFFFFFFFF := by
  by_cases programmed : typeWords ≤ words
  · rcases conf.savedBuffer_header with ⟨rest, saved⟩
    have long : 72 ≤ min sectorSize (words * wordSize) := by
      rw [typeWords] at programmed
      rw [sectorSize, wordSize]
      omega
    have layout :
        conf.savedBuffer =
          (wordBytes deviceConfigGuardValue ++ conf.name.bytes ++
            conf.room.bytes ++ wordBytes conf.type) ++
              (wordBytes conf.dataLen ++ rest) := by
      rw [saved, Contents.header]
      simp [contents]
    have image := sector_afterWords flash conf words
    rw [List.take_take, layout, List.take_append,
      List.take_of_length_le (by simpa using long), List.append_assoc]
      at image
    rw [if_pos programmed]
    apply Chars.word_eq
    exact readRange_middle image (by simp; rfl) (by simp)
  · have behind : words * wordSize ≤ 68 := by
      rw [typeWords] at programmed
      rw [wordSize]
      omega
    rw [if_neg programmed]
    apply Chars.word_eq
    exact erased_afterWords flash conf behind (by decide)

/-- The type which a chip stores after the first words of a save. -/
theorem storedType_afterWords (conf : DeviceConfig) (words : Nat) :
    storedType (conf.afterWords flash words) =
      if typeWords ≤ words then DeviceType.ofCode conf.type else none := by
  have erased : DeviceType.ofCode 0xFFFFFFFF = none := by
    decide
  rw [storedType, DeviceConfig.alreadyExists_afterWords,
    DeviceConfig.type_afterWords]
  by_cases programmed : typeWords ≤ words
  · have positive : 0 < words := Nat.lt_of_lt_of_le (by decide) programmed
    simp [programmed, positive]
  · simp [programmed, erased]

/-- Before the fixed part is complete the length is still erased. -/
theorem storedLen_afterWords_of_lt
    (conf : DeviceConfig)
    (partly : words < headerWords) :
    storedLen (conf.afterWords flash words) = 0xFFFFFFFF := by
  have behind : words * wordSize ≤ 72 := by
    rw [headerWords] at partly
    rw [wordSize]
    omega
  apply Chars.word_eq
  exact erased_afterWords flash conf behind (by decide)

/-- From then on the sector begins with the header. -/
theorem DeviceConfig.Sound.sector_of_le
    (sound : conf.Sound)
    (complete : headerWords ≤ words) :
    readRange (conf.afterWords flash words) deviceConfigGuardAddr sectorSize =
      conf.contents.header ++
        (((conf.payload ++
          List.replicate
            ((flashAlignLen conf.dataLen).toNat - conf.dataLen.toNat) 0).take
              (min sectorSize (words * wordSize) - 76)) ++
          List.replicate
            (sectorSize - (conf.savedBuffer.take (words * wordSize)).length)
            0xFF) := by
  have long : 76 ≤ min sectorSize (words * wordSize) := by
    rw [headerWords] at complete
    rw [sectorSize, wordSize]
    omega
  have header :
      conf.contents.header.take (min sectorSize (words * wordSize)) =
        conf.contents.header :=
    List.take_of_length_le (by simpa using long)
  rw [sector_afterWords, List.take_take, ← List.append_assoc]
  congr 1
  rw [sound.savedBuffer_eq, List.take_append, header,
    Contents.length_header]

/-- What remains of padded data of which a part was programmed. -/
theorem take_programmed
    (data : List UInt8) {padding programmed blank : Nat}
    (covered :
      data.length ≤ min programmed (data.length + padding) + blank) :
    (((data ++ List.replicate padding 0).take programmed) ++
        List.replicate blank 0xFF).take data.length =
      data.take programmed ++
        List.replicate (data.length - programmed) 0xFF := by
  by_cases whole : data.length ≤ programmed
  · have front :
        (data ++ List.replicate padding 0).take programmed =
          data ++ (List.replicate padding 0).take (programmed - data.length) := by
      rw [List.take_append, List.take_of_length_le whole]
    rw [front, List.append_assoc, List.take_left,
      List.take_of_length_le whole, Nat.sub_eq_zero_of_le whole,
      List.replicate_zero, List.append_nil]
  · have part : programmed < data.length := Nat.lt_of_not_le whole
    rw [List.take_append_of_le_length (Nat.le_of_lt part), List.take_append,
      List.take_take, List.take_replicate, List.length_take]
    rw [Nat.min_eq_right (Nat.le_of_lt part),
      Nat.min_eq_left (Nat.le_of_lt part)]
    congr 2
    omega

/-- The end of the sector cuts nothing off a configuration that fits. -/
theorem DeviceConfig.Sound.data_torn
    (sound : conf.Sound)
    (fits : conf.contents.Fits)
    (complete : headerWords ≤ words) :
    (conf.contents.torn words).data =
      conf.payload.take (min sectorSize (words * wordSize) - 76) ++
        List.replicate
          (conf.payload.length - (min sectorSize (words * wordSize) - 76))
          0xFF := by
  have space : 76 + (flashAlignLen conf.dataLen).toNat ≤ sectorSize := fits
  have aligned := sound.le_flashAlignLen
  have payload := sound.length_payload
  rw [headerWords] at complete
  simp only [Contents.torn, contents, wordSize, headerWords]
  by_cases within : words * 4 ≤ sectorSize
  · have equal : min sectorSize (words * 4) - 76 = (words - 19) * 4 := by
      omega
    rw [equal]
  · have beyond :
        conf.payload.length ≤ min sectorSize (words * 4) - 76 := by
      omega
    have beyond' : conf.payload.length ≤ (words - 19) * 4 := by
      rw [sectorSize] at within beyond
      omega
    rw [List.take_of_length_le beyond, List.take_of_length_le beyond',
      Nat.sub_eq_zero_of_le beyond, Nat.sub_eq_zero_of_le beyond']

/-- Then the data is as far as it was programmed. -/
theorem DeviceConfig.Sound.storedContents_afterWords
    (sound : conf.Sound)
    (fits : conf.contents.Fits)
    (complete : headerWords ≤ words) :
    storedContents (conf.afterWords flash words) =
      conf.contents.torn words := by
  have space : 76 + (flashAlignLen conf.dataLen).toNat ≤ sectorSize := fits
  have aligned := sound.le_flashAlignLen
  have bound := sound.addressable
  have payload := sound.length_payload
  have size := sound.length_savedBuffer
  have bounded : conf.contents.dataLen ≤ 0xfffffffc := by
    rw [UInt32.le_iff_toNat_le]
    change conf.dataLen.toNat ≤ 4294967292
    omega
  have covered :
      conf.payload.length ≤
        min (min sectorSize (words * wordSize) - 76)
            (conf.payload.length +
              ((flashAlignLen conf.dataLen).toNat - conf.dataLen.toNat)) +
          (sectorSize - (conf.savedBuffer.take (words * wordSize)).length) := by
    rw [List.length_take, size, payload]
    omega
  have inside :
      (flashAlignLen conf.contents.dataLen).toNat ≤
        (((conf.payload ++
          List.replicate
            ((flashAlignLen conf.dataLen).toNat - conf.dataLen.toNat) 0).take
              (min sectorSize (words * wordSize) - 76)) ++
          List.replicate
            (sectorSize - (conf.savedBuffer.take (words * wordSize)).length)
            0xFF).length := by
    rw [List.length_append, List.length_replicate, List.length_take,
      List.length_take, size, List.length_append, List.length_replicate,
      payload]
    change (flashAlignLen conf.dataLen).toNat ≤ _
    omega
  rw [storedContents_of_image (sound.sector_of_le flash complete) bounded
    inside]
  have len : conf.contents.dataLen.toNat = conf.payload.length :=
    payload.symm
  rw [len, take_programmed conf.payload covered,
    ← sound.data_torn fits complete]
  rfl

/-- When a chip holds a configuration after the first words of a save. -/
theorem DeviceConfig.Sound.stores_afterWords_iff
    (sound : conf.Sound) (words : Nat)
    {contents : Contents}
    (fits : conf.contents.Fits ∨ contents.Fits) :
    Stores (conf.afterWords flash words) contents ↔
      headerWords ≤ words ∧ conf.contents.torn words = contents := by
  have bound := sound.addressable
  have sameLen
      (len : conf.contents.dataLen = contents.dataLen) :
      conf.contents.Fits := by
    rcases fits with fits | fits
    · exact fits
    · rw [Contents.Fits, len]
      exact fits
  rw [stores_iff, DeviceConfig.alreadyExists_afterWords]
  constructor
  · rintro ⟨found, equal, bounded⟩
    have complete : headerWords ≤ words := by
      by_contra partly
      rw [storedLen_afterWords_of_lt flash conf (Nat.lt_of_not_le partly)]
        at bounded
      exact absurd bounded (by decide)
    have len : conf.contents.dataLen = contents.dataLen := by
      rw [← equal]
      exact (storedLen_of_image (sound.sector_of_le flash complete)).symm
    rw [← equal,
      sound.storedContents_afterWords flash (sameLen len) complete]
    exact ⟨complete, rfl⟩
  · rintro ⟨complete, equal⟩
    have len : conf.contents.dataLen = contents.dataLen := by
      rw [← equal]
      rfl
    refine ⟨?_, ?_, ?_⟩
    · rw [headerWords] at complete
      simp only [decide_eq_true_eq]
      omega
    · rw [sound.storedContents_afterWords flash (sameLen len) complete, equal]
    · rw [storedLen_of_image (sound.sector_of_le flash complete),
        UInt32.le_iff_toNat_le]
      change conf.dataLen.toNat ≤ 4294967292
      omega

end Unfinished

/-- Enough words leave nothing of the data out. -/
theorem Contents.torn_of_le
    {contents : Contents} {words : Nat}
    (whole : contents.data.length ≤ (words - headerWords) * wordSize) :
    contents.torn words = contents := by
  simp only [torn, List.take_of_length_le whole,
    Nat.sub_eq_zero_of_le whole, List.replicate_zero, List.append_nil]

namespace DeviceConfig

/-! ## Outcomes of a save -/

/-- None of the calls of a save fails. -/
def SaveAnswers.Complete (answers : SaveAnswers) : Prop :=
  answers.buf.isSome = true ∧ answers.erase = .ok ∧ answers.write = .ok

instance (answers : SaveAnswers) : Decidable answers.Complete :=
  inferInstanceAs (Decidable (_ ∧ _ ∧ _))

/-- How many words a save programs, once the sector is erased. -/
def SaveAnswers.words (answers : SaveAnswers) (conf : DeviceConfig) :
    Option Nat :=
  match answers.buf, answers.erase, answers.write with
  | none, _, _ => none
  | some _, .failed false, _ => none
  | some _, .failed true, _ => some 0
  | some _, .ok, .failed words => some words
  | some _, .ok, .ok => some conf.savedBuffer.length

/-- The chip after a save. -/
theorem flash_saveConfig
    (flash : Flash) (answers : SaveAnswers) (conf : DeviceConfig) :
    (saveConfig flash answers conf).flash =
      match answers.words conf with
      | none => flash
      | some words => conf.afterWords flash words := by
  have all :
      conf.savedBuffer.take (conf.savedBuffer.length * wordSize) =
        conf.savedBuffer := by
    apply List.take_of_length_le
    rw [wordSize]
    omega
  rcases answers with ⟨buf, erase, write⟩
  cases buf with
  | none =>
      rfl
  | some buf =>
      cases erase with
      | failed erased =>
          cases erased with
          | false =>
              rfl
          | true =>
              change spiFlashEraseSector flash _ = conf.afterWords flash 0
              funext address
              simp [afterWords, spiFlashWrite, Library.CellKind.write]
      | ok =>
          cases write with
          | failed words =>
              rfl
          | ok =>
              simp only [saveConfig, writeToFlash, SaveAnswers.words,
                WriteAnswer.programmed, afterWords, all]

/-- A save returns 0 exactly when none of its calls fails. -/
theorem success_saveConfig
    (flash : Flash) (answers : SaveAnswers) (conf : DeviceConfig) :
    (saveConfig flash answers conf).success = decide answers.Complete := by
  rcases answers with ⟨buf, erase, write⟩
  cases buf with
  | none =>
      simp [saveConfig, SaveAnswers.Complete]
  | some buf =>
      rcases erase with _ | erased
      · simp [saveConfig, writeToFlash, SaveAnswers.Complete]
      · cases erased <;>
          simp [saveConfig, writeToFlash, SaveAnswers.Complete]

/-- A complete save stores what it was given. -/
theorem Sound.stores_saveConfig
    {flash : Flash} {answers : SaveAnswers} {conf : DeviceConfig}
    (sound : conf.Sound)
    (fits : conf.contents.Fits)
    (complete : answers.Complete) :
    Stores (saveConfig flash answers conf).flash conf.contents := by
  rcases answers with ⟨buf, erase, write⟩
  rcases complete with ⟨allocated, rfl, rfl⟩
  rcases Option.isSome_iff_exists.mp allocated with ⟨address, rfl⟩
  have size := sound.length_savedBuffer
  have payload := sound.length_payload
  have aligned := sound.le_flashAlignLen
  rw [flash_saveConfig]
  simp only [SaveAnswers.words]
  rw [sound.stores_afterWords_iff flash _ (Or.inl fits), headerWords]
  refine ⟨by omega, Contents.torn_of_le ?_⟩
  change conf.payload.length ≤ _
  rw [headerWords, wordSize]
  omega

/-- After a complete save the chip says the length which was saved. -/
theorem Sound.storedLen_saveConfig
    {flash : Flash} {answers : SaveAnswers} {conf : DeviceConfig}
    (sound : conf.Sound)
    (fits : conf.contents.Fits)
    (complete : answers.Complete) :
    storedLen (saveConfig flash answers conf).flash = conf.dataLen := by
  have stores :
      Stores (saveConfig flash answers conf).flash conf.contents :=
    sound.stores_saveConfig fits complete
  have equal := ((stores_iff _ _).mp stores).2.1
  exact congrArg Contents.dataLen equal

end DeviceConfig

end EspFirmware
