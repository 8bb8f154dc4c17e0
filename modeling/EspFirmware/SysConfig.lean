import EspFirmware.DeviceInfo
import EspFirmware.Flash
import EspFirmware.Library.Transition

/-!
# The configuration with two places

`modules/config.c` keeps its configuration in two sectors, and in a third one a
flag which says where the newer one is.  No result of the calls for the flash
chip is looked at.
-/

namespace EspFirmware

open Library

/-! ## The configuration in memory -/

/-- `CFG_HOLDER`. -/
def cfgHolder : UInt32 := 0x00FF55A4

/-- `CFG_LOCATION`. -/
def cfgLocation : Nat := 0x3C

/-- `sizeof(SYSCFG)`, with three bytes behind `security`. -/
def sysCfgSize : Nat := 292

/-- A text which is printed into an array of zeros. -/
def Chars.ofText (size : Nat) (text : List UInt8) (fits : text.length ≤ size) :
    Chars size where
  bytes := text ++ List.replicate (size - text.length) 0
  length_bytes := by
    rw [List.length_append, List.length_replicate]
    omega

/-- `SYSCFG`. -/
structure SysCfg where
  holder : UInt32
  deviceId : Chars 16
  staSsid : Chars 64
  staPwd : Chars 64
  staType : UInt32
  mqttHost : Chars 64
  mqttPort : UInt32
  mqttUser : Chars 32
  mqttPass : Chars 32
  mqttKeepalive : UInt32
  security : UInt8
deriving DecidableEq

/-- A configuration as it lies in memory. -/
def SysCfg.memory (cfg : SysCfg) : Chars sysCfgSize where
  bytes :=
    wordBytes cfg.holder ++
      (cfg.deviceId.bytes ++ cfg.staSsid.bytes ++ cfg.staPwd.bytes ++
        wordBytes cfg.staType ++ cfg.mqttHost.bytes ++
        wordBytes cfg.mqttPort ++ cfg.mqttUser.bytes ++ cfg.mqttPass.bytes ++
        wordBytes cfg.mqttKeepalive ++ [cfg.security, 0, 0, 0])
  length_bytes := by
    simp [sysCfgSize]

/-- The member `cfg_holder` of what lies in memory. -/
def holderOf (sysCfg : Chars sysCfgSize) : UInt32 :=
  UInt32.ofNat (ofLittleEndian (sysCfg.bytes.take 4))

theorem holderOf_memory (cfg : SysCfg) : holderOf cfg.memory = cfg.holder := by
  have fits : cfg.holder.toNat < 256 ^ 4 := cfg.holder.toNat_lt
  have front : cfg.memory.bytes.take 4 = wordBytes cfg.holder :=
    List.take_left' (length_wordBytes cfg.holder)
  rw [holderOf, front, wordBytes, ofLittleEndian_toLittleEndian fits,
    UInt32.ofNat_toNat]

/-- A digit as `%X` prints it. -/
def upperHexDigit (nibble : UInt8) : UInt8 :=
  if nibble < 10 then 48 + nibble else 55 + nibble

/-- A word as `%08X` prints it. -/
def upperHexWord (word : UInt32) : List UInt8 :=
  (wordBytes word).reverse.flatMap fun byte =>
    [upperHexDigit (byte / 16), upperHexDigit (byte % 16)]

theorem length_upperHexWord (word : UInt32) :
    (upperHexWord word).length = 8 := by
  simp [upperHexWord, wordBytes, toLittleEndian]

/-- What `CFG_Load` makes of a configuration without the holder. -/
def defaultSysCfg (chipId : UInt32) : SysCfg where
  holder := cfgHolder
  deviceId :=
    .ofText 16 (ascii "DVES_" ++ upperHexWord chipId) (by
      rw [List.length_append, length_upperHexWord]
      decide)
  staSsid := .ofText 64 (ascii "DVES_HOME") (by decide)
  staPwd := .ofText 64 (ascii "yourpassword") (by decide)
  staType := 3
  mqttHost := .ofText 64 (ascii "192.168.11.122") (by decide)
  mqttPort := 1880
  mqttUser := .ofText 32 (ascii "DVES_USER") (by decide)
  mqttPass := .ofText 32 (ascii "DVES_PASS") (by decide)
  mqttKeepalive := 120
  security := 0

/-! ## Saving and loading -/

/-- The address of a sector of the configuration. -/
def cfgAddr (sector : Nat) : Nat :=
  (cfgLocation + sector) * sectorSize

/-- How the calls of `CFG_Save` end. -/
structure CfgAnswers where
  readFlag : Bool
  erase : EraseAnswer
  write : WriteAnswer
  eraseFlag : EraseAnswer
  writeFlag : WriteAnswer
deriving DecidableEq

/-- `spi_flash_erase_sector`, whose result nobody looks at. -/
def eraseSector (flash : Flash) (sector : Nat) : EraseAnswer → Flash
  | .ok | .failed true => spiFlashEraseSector flash sector
  | .failed false => flash

/-- `spi_flash_write`, whose result nobody looks at. -/
def writeAt
    (flash : Flash) (addr : Nat) (data : List UInt8) (answer : WriteAnswer) :
    Flash :=
  spiFlashWrite flash addr (answer.programmed data)

/-- The chip, and the two variables of the module. -/
structure CfgDevice where
  flash : Flash
  sysCfg : Chars sysCfgSize
  saveFlag : Chars 4

/-- `saveFlag.flag`. -/
def flagOf (saveFlag : Chars 4) : UInt8 :=
  saveFlag.bytes.headD 0

/-- `saveFlag.flag = flag`. -/
def setFlag (saveFlag : Chars 4) (flag : UInt8) : Chars 4 where
  bytes := saveFlag.bytes.set 0 flag
  length_bytes := by
    simp

namespace CfgDevice

/-- One of the two branches of `CFG_Save`. -/
def saveTo
    (device : CfgDevice) (sector : Nat) (flag : UInt8)
    (answers : CfgAnswers) :
    CfgDevice :=
  let erased :=
    eraseSector device.flash (cfgLocation + sector) answers.erase
  let written :=
    writeAt erased (cfgAddr sector) device.sysCfg.bytes answers.write
  let saveFlag := setFlag device.saveFlag flag
  let unflagged := eraseSector written (cfgLocation + 3) answers.eraseFlag
  { device with
    flash :=
      writeAt unflagged (cfgAddr 3) saveFlag.bytes answers.writeFlag
    saveFlag := saveFlag }

/-- `CFG_Save`. -/
def cfgSave (device : CfgDevice) (answers : CfgAnswers) : CfgDevice :=
  let saveFlag :=
    (readFromFlash device.flash answers.readFlag (cfgAddr 3) 4).getD
      device.saveFlag
  let device := { device with saveFlag := saveFlag }
  if flagOf saveFlag = 0 then
    device.saveTo 1 1 answers
  else
    device.saveTo 0 0 answers

/-- `CFG_Load`, with the outcomes of its two reads. -/
def cfgLoad
    (device : CfgDevice) (chipId : UInt32) (readFlag readCfg : Bool)
    (answers : CfgAnswers) :
    CfgDevice :=
  let saveFlag :=
    (readFromFlash device.flash readFlag (cfgAddr 3) 4).getD device.saveFlag
  let place := if flagOf saveFlag = 0 then cfgAddr 0 else cfgAddr 1
  let sysCfg :=
    (readFromFlash device.flash readCfg place sysCfgSize).getD device.sysCfg
  let device := { device with sysCfg := sysCfg, saveFlag := saveFlag }
  if holderOf sysCfg ≠ cfgHolder then
    { device with sysCfg := (defaultSysCfg chipId).memory }.cfgSave answers
  else
    device

end CfgDevice

/-! ## Losing power -/

/-- Where power is lost in `CFG_Save`. -/
inductive CfgCut where
  | beforeErase
  | afterWords (words : Nat)
  | flagErased
  | done
deriving DecidableEq

/-- The calls before power is lost succeed, and those behind do nothing. -/
def CfgCut.answers : CfgCut → CfgAnswers
  | beforeErase =>
      { readFlag := true
        erase := .failed false
        write := .failed 0
        eraseFlag := .failed false
        writeFlag := .failed 0 }
  | afterWords words =>
      { readFlag := true
        erase := .ok
        write := .failed words
        eraseFlag := .failed false
        writeFlag := .failed 0 }
  | flagErased =>
      { readFlag := true
        erase := .ok
        write := .ok
        eraseFlag := .ok
        writeFlag := .failed 0 }
  | done =>
      { readFlag := true
        erase := .ok
        write := .ok
        eraseFlag := .ok
        writeFlag := .ok }

theorem readRange_eraseSector_apart
    (flash : Flash) {sector start count : Nat} (answer : EraseAnswer)
    (apart :
      start + count ≤ sector * sectorSize ∨
        sector * sectorSize + sectorSize ≤ start) :
    readRange (eraseSector flash sector answer) start count =
      readRange flash start count := by
  match answer with
  | .ok | .failed true =>
      exact flashCell.readRange_erase_apart flash apart
  | .failed false =>
      rfl

theorem readRange_writeAt_apart
    (flash : Flash) {addr start count : Nat} {data : List UInt8}
    (answer : WriteAnswer)
    (apart : start + count ≤ addr ∨ addr + data.length ≤ start) :
    readRange (writeAt flash addr data answer) start count =
      readRange flash start count := by
  refine flashCell.readRange_write_apart flash ?_
  have short : (answer.programmed data).length ≤ data.length := by
    cases answer with
    | ok =>
        exact Nat.le_refl _
    | failed words =>
        exact List.length_take_le' _ _
  omega

/-- A call which does nothing. -/
theorem writeAt_failed_zero
    (flash : Flash) (addr : Nat) (data : List UInt8) :
    writeAt flash addr data (.failed 0) = flash := by
  funext address
  rw [writeAt, WriteAnswer.programmed, Nat.zero_mul, List.take_zero,
    spiFlashWrite, CellKind.write]
  simp

/-- What is written into a sector that was erased is read back. -/
theorem readRange_writeAt_erased
    (flash : Flash) (sector : Nat) {data : List UInt8}
    (fits : data.length ≤ sectorSize) :
    readRange
        (writeAt (eraseSector flash sector .ok) (sector * sectorSize) data .ok)
        (sector * sectorSize) data.length =
      data := by
  have blank :=
    @CellKind.readRange_erase_part _ flashCell flash (sector * sectorSize) _ _
      fits
  have read := flashCell.readRange_write_erased blank data
  rw [List.take_length, Nat.sub_self, List.replicate_zero,
    List.append_nil] at read
  exact read

/-! ## What counts -/

/-- The flag on the chip. -/
def storedFlag (flash : Flash) : Chars 4 :=
  ⟨readRange flash (cfgAddr 3) 4, length_readRange _ _ _⟩

/-- The configuration in one of the two places. -/
def storedAt (flash : Flash) (second : Bool) : Chars sysCfgSize :=
  ⟨readRange flash (cfgAddr second.toNat) sysCfgSize, length_readRange _ _ _⟩

/-- The configuration that counts, and whether it is in the second place. -/
structure TwoPlaces where
  current : Chars sysCfgSize
  second : Bool

/-- What the chip holds. -/
def twoPlaces (flash : Flash) : TwoPlaces :=
  let second := decide (flagOf (storedFlag flash) ≠ 0)
  { current := storedAt flash second
    second := second }

/--
What is left when power is lost while a configuration is saved: from the first
place to the second one, erasing the flag is enough.
-/
def TwoPlaces.save
    (places : TwoPlaces) (new : Chars sysCfgSize) : CfgCut → TwoPlaces
  | .beforeErase | .afterWords _ => places
  | .flagErased =>
      if places.second then
        places
      else
        { current := new, second := true }
  | .done => { current := new, second := !places.second }

/-- What a save into one of the places leaves on the chip. -/
structure Saved
    (before after : Flash) (second : Bool) (new : Chars sysCfgSize)
    (saveFlag : Chars 4) (cut : CfgCut) : Prop where
  other : storedAt after (!second) = storedAt before (!second)
  flag :
    match cut with
    | .beforeErase | .afterWords _ => storedFlag after = storedFlag before
    | .flagErased => flagOf (storedFlag after) = 0xFF
    | .done => storedFlag after = saveFlag
  written : cut = .flagErased ∨ cut = .done → storedAt after second = new

/-- The first half of a save does not reach beyond its sector. -/
theorem readRange_slot_apart
    (flash : Flash) {sector start count : Nat} (cfg : Chars sysCfgSize)
    (answers : CfgAnswers)
    (apart :
      start + count ≤ cfgAddr sector ∨
        cfgAddr sector + sectorSize ≤ start) :
    readRange
        (writeAt
          (eraseSector flash (cfgLocation + sector) answers.erase)
          (cfgAddr sector) cfg.bytes answers.write)
        start count =
      readRange flash start count := by
  have small : cfg.bytes.length ≤ sectorSize := by
    rw [cfg.length_bytes]
    decide
  rw [readRange_writeAt_apart _ _ (by omega),
    readRange_eraseSector_apart _ _ apart]

/-- The second half of a save does not reach beyond the sector of the flag. -/
theorem readRange_flag_apart
    (flash : Flash) {start count : Nat} (saveFlag : Chars 4)
    (answers : CfgAnswers)
    (apart : start + count ≤ cfgAddr 3) :
    readRange
        (writeAt (eraseSector flash (cfgLocation + 3) answers.eraseFlag)
          (cfgAddr 3) saveFlag.bytes answers.writeFlag)
        start count =
      readRange flash start count := by
  rw [readRange_writeAt_apart _ _ (.inl apart),
    readRange_eraseSector_apart _ _ (.inl apart)]

theorem cfgAddr_toNat_le (second : Bool) :
    cfgAddr second.toNat + sectorSize ≤ cfgAddr 3 := by
  cases second <;> decide

/-- The flag is switched, whatever became of the configuration. -/
theorem storedFlag_saveTo
    (device : CfgDevice) (sector : Nat) (flag : UInt8) (answers : CfgAnswers)
    (erased : answers.eraseFlag = .ok) (written : answers.writeFlag = .ok) :
    storedFlag (device.saveTo sector flag answers).flash =
      setFlag device.saveFlag flag := by
  have length := (setFlag device.saveFlag flag).length_bytes
  have fits : (setFlag device.saveFlag flag).bytes.length ≤ sectorSize := by
    rw [length]
    decide
  have read :=
    readRange_writeAt_erased
      (writeAt
        (eraseSector device.flash (cfgLocation + sector) answers.erase)
        (cfgAddr sector) device.sysCfg.bytes answers.write)
      (cfgLocation + 3) fits
  rw [length] at read
  refine Chars.ext (Eq.trans ?_ read)
  simp only [storedFlag, CfgDevice.saveTo, erased, written]
  rfl

theorem saved_saveTo
    (device : CfgDevice) (second : Bool) (flag : UInt8) (cut : CfgCut) :
    Saved device.flash (device.saveTo second.toNat flag cut.answers).flash
      second device.sysCfg (setFlag device.saveFlag flag) cut where
  other := by
    have below := cfgAddr_toNat_le (!second)
    have apart :
        cfgAddr (!second).toNat + sysCfgSize ≤ cfgAddr second.toNat ∨
          cfgAddr second.toNat + sectorSize ≤ cfgAddr (!second).toNat := by
      cases second <;> decide
    have small : sysCfgSize ≤ sectorSize := by
      decide
    refine Chars.ext ?_
    exact
      (readRange_flag_apart _ _ cut.answers (by omega)).trans
        (readRange_slot_apart _ _ cut.answers apart)
  flag := by
    have above := cfgAddr_toNat_le second
    have kept (answers : CfgAnswers) :=
      @readRange_slot_apart device.flash second.toNat (cfgAddr 3) 4
        device.sysCfg answers (.inr above)
    have unflagged (answers : CfgAnswers)
        (erase : answers.eraseFlag = .failed false)
        (write : answers.writeFlag = .failed 0) :
        storedFlag (device.saveTo second.toNat flag answers).flash =
          storedFlag device.flash := by
      refine Chars.ext (Eq.trans ?_ (kept answers))
      simp only [storedFlag, CfgDevice.saveTo, erase, write,
        writeAt_failed_zero, eraseSector]
    cases cut with
    | beforeErase =>
        exact unflagged _ rfl rfl
    | afterWords words =>
        exact unflagged _ rfl rfl
    | flagErased =>
        have blank :=
          @CellKind.readRange_erase_part _ flashCell
            (writeAt
              (eraseSector device.flash (cfgLocation + second.toNat) .ok)
              (cfgAddr second.toNat) device.sysCfg.bytes .ok)
            (cfgAddr 3) 4 sectorSize (by decide)
        have same :
            (storedFlag
                (device.saveTo second.toNat flag
                  CfgCut.flagErased.answers).flash).bytes =
              List.replicate 4 0xFF := by
          refine Eq.trans ?_ blank
          simp only [storedFlag, CfgDevice.saveTo, CfgCut.answers,
            writeAt_failed_zero, eraseSector]
          rfl
        rw [flagOf, same]
        rfl
    | done =>
        exact storedFlag_saveTo device second.toNat flag _ rfl rfl
  written := by
    intro complete
    have above := cfgAddr_toNat_le second
    have small : sysCfgSize ≤ sectorSize := by
      decide
    have length := device.sysCfg.length_bytes
    have read :=
      readRange_writeAt_erased device.flash (cfgLocation + second.toNat)
        (show device.sysCfg.bytes.length ≤ sectorSize by omega)
    rw [length] at read
    have apart (answers : CfgAnswers) :=
      @readRange_flag_apart
        (writeAt (eraseSector device.flash (cfgLocation + second.toNat) .ok)
          (cfgAddr second.toNat) device.sysCfg.bytes .ok)
        (cfgAddr second.toNat) sysCfgSize (setFlag device.saveFlag flag)
        answers (by omega)
    refine Chars.ext ?_
    rcases complete with rfl | rfl
    · exact (apart CfgCut.flagErased.answers).trans read
    · exact (apart CfgCut.done.answers).trans read

theorem flagOf_setFlag (saveFlag : Chars 4) (flag : UInt8) :
    flagOf (setFlag saveFlag flag) = flag := by
  have length := saveFlag.length_bytes
  change (saveFlag.bytes.set 0 flag).headD 0 = flag
  cases bytes : saveFlag.bytes with
  | nil =>
      rw [bytes] at length
      cases length
  | cons first rest =>
      rfl

theorem twoPlaces_eq
    {flash : Flash} {second : Bool}
    (flag : decide (flagOf (storedFlag flash) ≠ 0) = second) :
    twoPlaces flash =
      { current := storedAt flash second, second := second } := by
  rw [← flag]
  rfl

/-- A save into the place that does not count. -/
theorem twoPlaces_of_saved
    {before after : Flash} {second : Bool} {new : Chars sysCfgSize}
    {saveFlag : Chars 4} {cut : CfgCut}
    (saved : Saved before after second new saveFlag cut)
    (unused : decide (flagOf (storedFlag before) ≠ 0) = !second)
    (flag : decide (flagOf saveFlag ≠ 0) = second) :
    twoPlaces after = (twoPlaces before).save new cut := by
  rw [twoPlaces_eq unused]
  cases cut with
  | beforeErase | afterWords words =>
      have same : storedFlag after = storedFlag before := saved.flag
      rw [← same] at unused
      rw [twoPlaces_eq unused, saved.other]
      rfl
  | flagErased =>
      have ones : flagOf (storedFlag after) = 0xFF := saved.flag
      have set : decide (flagOf (storedFlag after) ≠ 0) = true := by
        rw [ones]
        decide
      rw [twoPlaces_eq set]
      cases second with
      | false =>
          have other : storedAt after true = storedAt before true :=
            saved.other
          rw [other]
          rfl
      | true =>
          rw [saved.written (.inl rfl)]
          rfl
  | done =>
      have same : storedFlag after = saveFlag := saved.flag
      rw [← same] at flag
      rw [twoPlaces_eq flag, saved.written (.inr rfl), TwoPlaces.save,
        Bool.not_not]

/-- Wherever power is lost, `CFG_Save` is the step of the two places. -/
theorem twoPlaces_cfgSave (device : CfgDevice) (cut : CfgCut) :
    twoPlaces (device.cfgSave cut.answers).flash =
      (twoPlaces device.flash).save device.sysCfg cut := by
  have read : cut.answers.readFlag = true := by
    cases cut <;> rfl
  have flag :
      (readFromFlash device.flash cut.answers.readFlag (cfgAddr 3) 4).getD
          device.saveFlag =
        storedFlag device.flash := by
    rw [read]
    rfl
  rw [CfgDevice.cfgSave, flag]
  by_cases clear : flagOf (storedFlag device.flash) = 0
  · rw [if_pos clear]
    refine
      twoPlaces_of_saved
        (saved_saveTo { device with saveFlag := storedFlag device.flash } true
          1 cut)
        (decide_eq_false (not_not.mpr clear)) ?_
    rw [flagOf_setFlag]
    rfl
  · rw [if_neg clear]
    refine
      twoPlaces_of_saved
        (saved_saveTo { device with saveFlag := storedFlag device.flash } false
          0 cut)
        (decide_eq_true clear) ?_
    rw [flagOf_setFlag]
    rfl

/-! ## Runs -/

/-- The application saves a configuration, or the device starts. -/
inductive CfgStep where
  | save (new : Chars sysCfgSize) (cut : CfgCut)
  | boot (chipId : UInt32) (cut : CfgCut)
deriving DecidableEq

/-- A step of the device; power may be lost in it. -/
def CfgDevice.step (device : CfgDevice) : CfgStep → CfgDevice
  | .save new cut => { device with sysCfg := new }.cfgSave cut.answers
  | .boot chipId cut => device.cfgLoad chipId true true cut.answers

/-- What is loaded where a configuration counts. -/
def loadedOf (current : Chars sysCfgSize) (chipId : UInt32) :
    Chars sysCfgSize :=
  if holderOf current = cfgHolder then
    current
  else
    (defaultSysCfg chipId).memory

/-- A default configuration counts, and is loaded at the next start. -/
theorem loadedOf_default (chipId other : UInt32) :
    loadedOf (defaultSysCfg chipId).memory other =
      (defaultSysCfg chipId).memory :=
  if_pos (holderOf_memory _)

/-- The same step of the two places. -/
def TwoPlaces.step (places : TwoPlaces) : CfgStep → TwoPlaces
  | .save new cut => places.save new cut
  | .boot chipId cut =>
      if holderOf places.current = cfgHolder then
        places
      else
        places.save (defaultSysCfg chipId).memory cut

/-- `CFG_Load` loads what counts, and saves a default configuration only where nothing does. -/
theorem cfgLoad_spec
    (device : CfgDevice) (chipId : UInt32) (cut : CfgCut) :
    twoPlaces (device.step (.boot chipId cut)).flash =
        (twoPlaces device.flash).step (.boot chipId cut) ∧
      (device.step (.boot chipId cut)).sysCfg =
        loadedOf (twoPlaces device.flash).current chipId := by
  have current :
      (readFromFlash device.flash true
            (if flagOf (storedFlag device.flash) = 0 then
              cfgAddr 0
            else
              cfgAddr 1)
            sysCfgSize).getD
          device.sysCfg =
        (twoPlaces device.flash).current := by
    by_cases clear : flagOf (storedFlag device.flash) = 0
    · rw [if_pos clear, twoPlaces_eq (decide_eq_false (not_not.mpr clear))]
      rfl
    · rw [if_neg clear, twoPlaces_eq (decide_eq_true clear)]
      rfl
  have flag :
      (readFromFlash device.flash true (cfgAddr 3) 4).getD device.saveFlag =
        storedFlag device.flash := rfl
  have saved (device : CfgDevice) :
      (device.cfgSave cut.answers).sysCfg = device.sysCfg := by
    rw [CfgDevice.cfgSave]
    split <;> rfl
  rw [CfgDevice.step, CfgDevice.cfgLoad, flag, current, TwoPlaces.step,
    loadedOf]
  by_cases valid : holderOf (twoPlaces device.flash).current = cfgHolder
  · rw [if_neg (not_not.mpr valid), if_pos valid, if_pos valid]
    exact ⟨rfl, rfl⟩
  · rw [if_pos valid, if_neg valid, if_neg valid]
    exact ⟨twoPlaces_cfgSave _ cut, saved _⟩

/-- Every step of the device is one of the two places. -/
theorem twoPlaces_step (device : CfgDevice) (step : CfgStep) :
    twoPlaces (device.step step).flash =
      (twoPlaces device.flash).step step := by
  cases step with
  | save new cut =>
      exact twoPlaces_cfgSave { device with sysCfg := new } cut
  | boot chipId cut =>
      exact (cfgLoad_spec device chipId cut).1

theorem twoPlaces_steps (device : CfgDevice) (steps : List CfgStep) :
    twoPlaces (steps.foldl CfgDevice.step device).flash =
      steps.foldl TwoPlaces.step (twoPlaces device.flash) := by
  induction steps generalizing device with
  | nil =>
      rfl
  | cons step steps induction =>
      rw [List.foldl_cons, List.foldl_cons, induction, twoPlaces_step]

/-- What a device keeps, wherever power is lost. -/
structure KeepsConfig (device : CfgDevice) (places : TwoPlaces) : Prop where
  chip : twoPlaces device.flash = places
  /-- A save leaves the new configuration or the one before. -/
  atomic :
    ∀ new cut,
      (twoPlaces (device.step (.save new cut)).flash).current = new ∨
        (twoPlaces (device.step (.save new cut)).flash).current =
          places.current
  /-- A save which is complete leaves the new one. -/
  saved :
    ∀ new,
      (twoPlaces (device.step (.save new .done)).flash).current = new
  /-- Exactly what counts is loaded. -/
  loaded :
    ∀ chipId cut,
      (device.step (.boot chipId cut)).sysCfg =
        loadedOf places.current chipId

/--
After any run of saves and starts, in each of which power may be lost: the chip
holds what the two places do, so that there is always one whole configuration.
-/
theorem cfg_survives_power_cuts (device : CfgDevice) (steps : List CfgStep) :
    KeepsConfig (steps.foldl CfgDevice.step device)
      (steps.foldl TwoPlaces.step (twoPlaces device.flash)) := by
  have chip := twoPlaces_steps device steps
  refine ⟨chip, ?_, ?_, ?_⟩
  · intro new cut
    rw [twoPlaces_step, chip, TwoPlaces.step]
    cases cut with
    | beforeErase | afterWords words =>
        exact .inr rfl
    | flagErased =>
        rw [TwoPlaces.save]
        split
        · exact .inr rfl
        · exact .inl rfl
    | done =>
        exact .inl rfl
  · intro new
    rw [twoPlaces_step]
    rfl
  · intro chipId cut
    rw [(cfgLoad_spec _ chipId cut).2, chip]

/-! ## A write that fails -/

/-- The first words of a configuration, behind which the chip is still erased. -/
def tornCfg (cfg : Chars sysCfgSize) (words : Nat) : Chars sysCfgSize where
  bytes :=
    cfg.bytes.take (words * wordSize) ++
      List.replicate (sysCfgSize - (cfg.bytes.take (words * wordSize)).length)
        0xFF
  length_bytes := by
    have length := List.length_take_le' (words * wordSize) cfg.bytes
    rw [cfg.length_bytes] at length
    rw [List.length_append, List.length_replicate]
    omega

/-- All calls of `CFG_Save` succeed but the one which writes the configuration. -/
def tornAnswers (words : Nat) : CfgAnswers :=
  { CfgCut.done.answers with write := .failed words }

theorem storedAt_saveTo_torn
    (device : CfgDevice) (second : Bool) (flag : UInt8) (words : Nat) :
    storedAt (device.saveTo second.toNat flag (tornAnswers words)).flash
        second =
      tornCfg device.sysCfg words := by
  have above := cfgAddr_toNat_le second
  have small : sysCfgSize ≤ sectorSize := by
    decide
  have blank :=
    @CellKind.readRange_erase_part _ flashCell device.flash
      (cfgAddr second.toNat) sysCfgSize sectorSize small
  have read :=
    flashCell.readRange_write_erased blank
      (device.sysCfg.bytes.take (words * wordSize))
  have whole :
      (device.sysCfg.bytes.take (words * wordSize)).take sysCfgSize =
        device.sysCfg.bytes.take (words * wordSize) := by
    refine List.take_of_length_le ?_
    have length := List.length_take_le' (words * wordSize) device.sysCfg.bytes
    rwa [device.sysCfg.length_bytes] at length
  rw [whole] at read
  have apart :=
    @readRange_flag_apart
      (writeAt (eraseSector device.flash (cfgLocation + second.toNat) .ok)
        (cfgAddr second.toNat) device.sysCfg.bytes (.failed words))
      (cfgAddr second.toNat) sysCfgSize (setFlag device.saveFlag flag)
      (tornAnswers words) (by omega)
  exact Chars.ext (apart.trans read)

/-- What is torn is what counts. -/
theorem twoPlaces_saveTo_torn
    (device : CfgDevice) {second : Bool} {flag : UInt8}
    (switched : decide (flag ≠ 0) = second) (words : Nat) :
    twoPlaces (device.saveTo second.toNat flag (tornAnswers words)).flash =
      { current := tornCfg device.sysCfg words, second := second } := by
  have flagged :=
    storedFlag_saveTo device second.toNat flag (tornAnswers words) rfl rfl
  rw [← flagOf_setFlag device.saveFlag flag, ← flagged] at switched
  rw [twoPlaces_eq switched, storedAt_saveTo_torn]

/-- What is loaded of a configuration that is torn. -/
theorem loadedOf_tornCfg
    (cfg : Chars sysCfgSize) (words : Nat) (chipId : UInt32) :
    loadedOf (tornCfg cfg words) chipId =
      if words = 0 ∨ holderOf cfg ≠ cfgHolder then
        (defaultSysCfg chipId).memory
      else
        tornCfg cfg words := by
  by_cases none : words = 0
  · have holder : holderOf (tornCfg cfg words) ≠ cfgHolder := by
      rw [none]
      have bytes :
          (tornCfg cfg 0).bytes.take 4 = List.replicate 4 0xFF := by
        change
          (cfg.bytes.take (0 * wordSize) ++
              List.replicate
                (sysCfgSize - (cfg.bytes.take (0 * wordSize)).length)
                0xFF).take 4 =
            _
        rw [Nat.zero_mul, List.take_zero]
        rfl
      rw [holderOf, bytes]
      decide
    rw [loadedOf, if_neg holder, if_pos (.inl none)]
  · have length := cfg.length_bytes
    have holder : holderOf (tornCfg cfg words) = holderOf cfg := by
      have front :
          (tornCfg cfg words).bytes.take 4 = cfg.bytes.take 4 := by
        have enough : 4 ≤ words * wordSize := by
          rw [wordSize]
          omega
        rw [tornCfg, List.take_append_of_le_length, List.take_take,
          Nat.min_eq_left enough]
        rw [List.length_take, length, sysCfgSize]
        omega
      rw [holderOf, front, holderOf]
    rw [loadedOf, holder]
    by_cases valid : holderOf cfg = cfgHolder
    · rw [if_pos valid, if_neg (not_or.mpr ⟨none, not_not.mpr valid⟩)]
    · rw [if_neg valid, if_pos (.inr valid)]

/--
The flag is switched although the write has failed: what was saved before does
not count any more, and what is loaded is the torn configuration as soon as its
first word was written, or else a default one.
-/
theorem cfg_save_ignores_failed_write
    (device : CfgDevice) (words : Nat) :
    twoPlaces (device.cfgSave (tornAnswers words)).flash =
        { current := tornCfg device.sysCfg words
          second := !(twoPlaces device.flash).second } ∧
      ∀ chipId cut,
        ((device.cfgSave (tornAnswers words)).step (.boot chipId cut)).sysCfg =
          if words = 0 ∨ holderOf device.sysCfg ≠ cfgHolder then
            (defaultSysCfg chipId).memory
          else
            tornCfg device.sysCfg words := by
  have chip :
      twoPlaces (device.cfgSave (tornAnswers words)).flash =
        { current := tornCfg device.sysCfg words
          second := !(twoPlaces device.flash).second } := by
    have flag :
        (readFromFlash device.flash (tornAnswers words).readFlag (cfgAddr 3)
              4).getD
            device.saveFlag =
          storedFlag device.flash := rfl
    rw [CfgDevice.cfgSave, flag]
    by_cases clear : flagOf (storedFlag device.flash) = 0
    · rw [if_pos clear, twoPlaces_eq (decide_eq_false (not_not.mpr clear))]
      exact
        @twoPlaces_saveTo_torn
          { device with saveFlag := storedFlag device.flash } true 1
          (by decide) words
    · rw [if_neg clear, twoPlaces_eq (decide_eq_true clear)]
      exact
        @twoPlaces_saveTo_torn
          { device with saveFlag := storedFlag device.flash } false 0
          (by decide) words
  refine ⟨chip, ?_⟩
  intro chipId cut
  rw [(cfgLoad_spec _ chipId cut).2, chip, loadedOf_tornCfg]

end EspFirmware
