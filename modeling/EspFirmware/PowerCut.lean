import EspFirmware.ConfigRecord

/-!
# Losing power during a save

The guard is the first word which a save programs, so from the second word on
a configuration is found although its fields, or a part of its data, are still
erased.  A cut is harmless only before the guard, or once the fixed part is
complete and the erased bytes of the data happen to be right.
-/

namespace EspFirmware

open Library DeviceConfig

/-- Where power is lost in a save. -/
inductive CutPoint where
  | beforeErase
  | afterWords (words : Nat)
deriving DecidableEq

/-- The chip when power is lost in `write_to_flash`, called by `DeviceConfig_save_config`. -/
def powerCut (flash : Flash) (conf : DeviceConfig) (cut : CutPoint) : Flash :=
  match cut with
  | .beforeErase => flash
  | .afterWords words =>
      (writeToFlash flash .ok (.failed words) deviceConfigGuardAddr
        conf.savedBuffer).1

theorem powerCut_afterWords
    (flash : Flash) (conf : DeviceConfig) (words : Nat) :
    powerCut flash conf (.afterWords words) = conf.afterWords flash words := by
  rfl

/-- After the reboot there is no configuration, or the old one, or the new one. -/
def Survives (flash : Flash) (old : Option Record) (new : Record) : Prop :=
  alreadyExists flash true = false ∨
    (∃ record, old = some record ∧ Stores flash record.contents) ∨
      Stores flash new.contents

/-- A cut which leaves no mixture of programmed and erased fields. -/
def CutPoint.Safe
    (cut : CutPoint) (old : Option Record) (new : Record) : Prop :=
  match cut with
  | .beforeErase => True
  | .afterWords words =>
      words = 0 ∨
        headerWords ≤ words ∧
          ((∃ record,
              old = some record ∧
                new.contents.torn words = record.contents) ∨
            new.contents.torn words = new.contents)

section

variable
    {flash : Flash} {old : Option Record}
    {new : Record} {conf : DeviceConfig}

/-- What is left of a configuration that was there when power was lost too early. -/
theorem survives_beforeErase
    (holds : Holds flash old) :
    Survives flash old new := by
  cases old with
  | none =>
      exact Or.inl holds
  | some record =>
      exact Or.inr (Or.inl ⟨record, rfl, holds⟩)

/-- The cuts during the write. -/
theorem survives_afterWords
    (represents : conf.Represents new)
    (fits : new.Fits) (words : Nat) :
    Survives (conf.afterWords flash words) old new ↔
      (CutPoint.afterWords words).Safe old new := by
  have fits' : conf.contents.Fits := by
    rw [represents.contents_eq]
    exact fits
  have stores (contents : Contents) :
      Stores (conf.afterWords flash words) contents ↔
        headerWords ≤ words ∧ new.contents.torn words = contents := by
    rw [represents.sound.stores_afterWords_iff flash words (Or.inl fits'),
      represents.contents_eq]
  simp only [Survives, CutPoint.Safe, stores,
    DeviceConfig.alreadyExists_afterWords, decide_eq_false_iff_not,
    Nat.not_lt, Nat.le_zero]
  constructor
  · rintro (none | ⟨record, held, complete, equal⟩ | ⟨complete, equal⟩)
    · exact Or.inl none
    · exact Or.inr ⟨complete, Or.inl ⟨record, held, equal⟩⟩
    · exact Or.inr ⟨complete, Or.inr equal⟩
  · rintro (none | ⟨complete, ⟨record, held, equal⟩ | equal⟩)
    · exact Or.inl none
    · exact Or.inr (Or.inl ⟨record, held, complete, equal⟩)
    · exact Or.inr (Or.inr ⟨complete, equal⟩)

/-- The configuration survives exactly the cuts which leave no mixture. -/
theorem survives_power_cut_iff
    (holds : Holds flash old)
    (represents : conf.Represents new)
    (fits : new.Fits) (cut : CutPoint) :
    Survives (powerCut flash conf cut) old new ↔ cut.Safe old new := by
  cases cut with
  | beforeErase =>
      exact iff_of_true (survives_beforeErase holds) trivial
  | afterWords words =>
      exact survives_afterWords represents fits words

end

/-! ## A camera whose data is half programmed -/

/-- A lamp, as it is stored. -/
def lamp : Record where
  name := textOf ⟨[76, 97, 109, 112], by decide⟩
  room := .zeros 32
  type := .lighting
  data := []
  addressable := by decide

/-- The configuration from which the lamp is saved. -/
def lampConfig : DeviceConfig where
  name := lamp.name
  room := lamp.room
  type := lamp.type.code
  dataLen := 0
  data := none

/-- The camera which the lamp is to become. -/
def lampCamera : Record where
  name := lamp.name
  room := lamp.room
  type := .camera
  data := defaultCameraData
  addressable := by decide

/-- The configuration from which the camera is saved. -/
def lampCameraConfig : DeviceConfig where
  name := lamp.name
  room := lamp.room
  type := 4
  dataLen := cameraDataSize
  data := some ⟨1, defaultCameraData⟩

/-- A chip on which the lamp was saved. -/
def lampFlash : Flash :=
  (saveConfig (fun _ => 0xFF) { buf := some 1, erase := .ok, write := .ok }
    lampConfig).flash

theorem lampConfig_represents :
    lampConfig.Represents lamp where
  sound :=
    { addressable := by decide
      block := by
        intro data present
        cases present }
  contents_eq := by rfl

theorem lampCameraConfig_represents :
    lampCameraConfig.Represents lampCamera where
  sound :=
    { addressable := by decide
      block := by
        intro data present
        cases present
        decide }
  contents_eq := by rfl

theorem lampFlash_holds :
    Holds lampFlash (some lamp) := by
  have fits : lampConfig.contents.Fits := by
    change 76 + (flashAlignLen 0).toNat ≤ sectorSize
    decide
  exact lampConfig_represents.sound.stores_saveConfig fits (by decide)

theorem lampCamera_fits :
    lampCamera.Fits := by
  change 76 + (flashAlignLen 8).toNat ≤ sectorSize
  decide

/--
Power is lost before the last word of the data, or right behind the guard:
what is found is neither the lamp nor the camera.
-/
theorem lampCamera_torn :
    Holds lampFlash (some lamp) ∧
      lampCameraConfig.Represents lampCamera ∧
        lampCamera.Fits ∧
          ¬ Survives (powerCut lampFlash lampCameraConfig (.afterWords 20))
              (some lamp) lampCamera ∧
            ¬ Survives (powerCut lampFlash lampCameraConfig (.afterWords 1))
                (some lamp) lampCamera := by
  refine
    ⟨lampFlash_holds, lampCameraConfig_represents, lampCamera_fits, ?_, ?_⟩
  · rw [powerCut_afterWords,
      survives_afterWords lampCameraConfig_represents lampCamera_fits]
    rintro (none | ⟨_, ⟨record, held, equal⟩ | equal⟩)
    · cases none
    · cases held
      exact absurd equal (by decide)
    · exact absurd equal (by decide)
  · rw [powerCut_afterWords,
      survives_afterWords lampCameraConfig_represents lampCamera_fits]
    rintro (none | ⟨complete, _⟩)
    · cases none
    · exact absurd complete (by decide)

theorem survives_power_cut_iff_lamp :
    Survives (powerCut lampFlash lampCameraConfig (.afterWords 21))
      (some lamp) lampCamera :=
  (survives_power_cut_iff lampFlash_holds lampCameraConfig_represents
    lampCamera_fits (.afterWords 21)).mpr
      (Or.inr ⟨by decide, Or.inr (by decide)⟩)

end EspFirmware
