import EspFirmware.StoredConfig

/-!
# The configuration as a record

The purpose of the configuration store is to keep one record.  This file says
what the record is and what each command makes of it, and then what a setter
does with the record which it has loaded: nothing, a save of the changed
record that may fail, and for a change of type the initialisation of the
device.
-/

namespace EspFirmware

open Library DeviceConfig

/-! ## Records and commands -/

/-- A configuration, its data far below the size of the address space. -/
structure Record where
  name : Chars 32
  room : Chars 32
  type : DeviceType
  data : List UInt8
  addressable : data.length + 79 < 2 ^ 32

/-- An object which a caller passes by address and length. -/
structure DataArgument where
  data : Option Buffer
  len : UInt32
  inside :
    ∀ buffer, data = some buffer → len.toNat ≤ buffer.bytes.length
  addressable : len.toNat + 79 < 2 ^ 32

/-- The bytes of the object; of a null pointer a save reads nothing and writes zeros. -/
def DataArgument.bytes (argument : DataArgument) : List UInt8 :=
  match argument.data with
  | some buffer => buffer.bytes.take argument.len.toNat
  | none => List.replicate argument.len.toNat 0

@[simp]
theorem DataArgument.length_bytes (argument : DataArgument) :
    argument.bytes.length = argument.len.toNat := by
  cases present : argument.data with
  | none =>
      rw [bytes, present, List.length_replicate]
  | some buffer =>
      have long := argument.inside buffer present
      rw [bytes, present, List.length_take]
      omega

/-- The first 31 bytes of a string, padded with zeros. -/
def textOf (string : CString) : Chars 32 where
  bytes :=
    string.bytes.take 31 ++
      List.replicate (32 - (string.bytes.take 31).length) 0
  length_bytes := by
    rw [List.length_append, List.length_replicate, List.length_take]
    omega

/-- The data which a device of some type starts with. -/
def DeviceType.defaultData : DeviceType → List UInt8
  | .camera => [0x00, 0x96, 0x00, 0x00, 5, 4, 0, 0]
  | .none | .temperature | .heater | .lighting => []

namespace Record

/-- The record of a device that was never configured. -/
def blank : Record where
  name := .zeros 32
  room := .zeros 32
  type := .none
  data := []
  addressable := by simp

/-- What a configuration which holds the record says. -/
def contents (record : Record) : Contents where
  name := record.name
  room := record.room
  type := record.type.code
  dataLen := UInt32.ofNat record.data.length
  data := record.data

theorem toNat_dataLen (record : Record) :
    record.contents.dataLen.toNat = record.data.length := by
  have bound := record.addressable
  change (UInt32.ofNat record.data.length).toNat = _
  rw [UInt32.toNat_ofNat']
  omega

theorem contents_inj {left right : Record} :
    left.contents = right.contents ↔ left = right := by
  constructor
  · intro equal
    rcases left with ⟨name, room, type, data, bound⟩
    rcases right with ⟨name', room', type', data', bound'⟩
    simp only [contents, Contents.mk.injEq, DeviceType.code_inj] at equal
    rcases equal with ⟨rfl, rfl, rfl, _, rfl⟩
    rfl
  · exact congrArg contents

/-- The sector can hold the record. -/
def Fits (record : Record) : Prop :=
  record.contents.Fits

end Record

theorem defaultData_fits (type : DeviceType) :
    76 + (flashAlignLen (UInt32.ofNat type.defaultData.length)).toNat ≤
      sectorSize := by
  cases type <;> decide

/-- A command which changes the configuration. -/
inductive Command where
  | setName (name : CString)
  | setRoom (room : CString)
  | setType (type : DeviceType)
  | setData (argument : DataArgument)

namespace Command

/-- The record which a command asks for. -/
def update (command : Command) (record : Record) : Record :=
  match command with
  | setName name => { record with name := textOf name }
  | setRoom room => { record with room := textOf room }
  | setType type =>
      if type = record.type then
        record
      else
        { record with
          type := type
          data := type.defaultData
          addressable := by cases type <;> decide }
  | setData argument =>
      { record with
        data := argument.bytes
        addressable := by
          rw [argument.length_bytes]
          exact argument.addressable }

/-- Whether a command is to be saved; setting the same type again is not. -/
def Saves (command : Command) (record : Record) : Prop :=
  match command with
  | setType type => type ≠ record.type
  | setName _ | setRoom _ | setData _ => True

instance (command : Command) (record : Record) :
    Decidable (command.Saves record) := by
  cases command <;> unfold Saves <;> infer_instance

/-- A changed type comes with its default data. -/
theorem update_setType
    {type : DeviceType} {record : Record}
    (new : (setType type).Saves record) :
    ((setType type).update record).type = type ∧
      ((setType type).update record).data = type.defaultData := by
  rw [update, if_neg new]
  exact ⟨rfl, rfl⟩

/-- The command as the code performs it. -/
def perform
    (command : Command) (flash : Flash) (answers : DeviceConfig.SetAnswers) :
    ConfigCall :=
  match command with
  | setName name => DeviceConfig.setName flash answers name
  | setRoom room => DeviceConfig.setRoom flash answers room
  | setType type => DeviceConfig.setType flash answers type
  | setData argument =>
      DeviceConfig.setData flash answers argument.data argument.len

end Command

/-! ## Configurations that hold a record -/

namespace DeviceConfig

/-- A configuration in memory holds a record. -/
structure Represents (conf : DeviceConfig) (record : Record) : Prop where
  sound : conf.Sound
  contents_eq : conf.contents = record.contents

theorem zeroed_represents :
    zeroed.Represents Record.blank where
  sound :=
    { addressable := by decide
      block := by
        intro data present
        cases present }
  contents_eq := by rfl

theorem textField_eq (text : CString) :
    textField text = textOf text := by
  have short : text.bytes.take (minLen text) = text.bytes.take 31 := by
    rw [minLen, CString.strlen]
    split
    · rw [List.take_of_length_le (Nat.le_refl _),
        List.take_of_length_le (by omega)]
    · rfl
  apply Chars.ext
  change
    osMemcpy ([] ++ List.replicate 32 0) 0 (text.bytes.take (minLen text)) = _
  rw [osMemcpy_zeros [] _ List.length_nil.symm, short, List.nil_append]
  rfl

end DeviceConfig

/-! ## Which traces save -/

/-- A write of the configuration that has succeeded. -/
def ConfigAction.saves : ConfigAction → Bool
  | .writeToFlash _ _ success => success
  | .osZalloc .. | .osFree .. | .softwareUartConfig .. | .driverInit ..
  | .cameraReset .. => false

/-- Whether a configuration was saved. -/
def saved (trace : List ConfigAction) : Bool :=
  trace.any ConfigAction.saves

@[simp]
theorem saved_nil :
    saved [] = false := by
  rfl

@[simp]
theorem saved_cons (action : ConfigAction) (trace : List ConfigAction) :
    saved (action :: trace) = (action.saves || saved trace) := by
  rfl

@[simp]
theorem saved_append (left right : List ConfigAction) :
    saved (left ++ right) = (saved left || saved right) := by
  simp [saved]

/-- A call to the allocator. -/
def ConfigAction.isHeap : ConfigAction → Bool
  | .osZalloc .. | .osFree .. => true
  | .writeToFlash .. | .softwareUartConfig .. | .driverInit ..
  | .cameraReset .. => false

theorem saved_of_heap
    {trace : List ConfigAction}
    (heap : trace.all ConfigAction.isHeap = true) :
    saved trace = false := by
  rw [saved, List.any_eq_false]
  intro action member
  have isHeap := List.all_eq_true.mp heap action member
  cases action with
  | osZalloc | osFree => exact Bool.false_ne_true
  | writeToFlash | softwareUartConfig | driverInit | cameraReset =>
      cases isHeap

namespace DeviceConfig

@[simp]
theorem saved_osFree (data : Option Buffer) :
    saved (osFree data) = false := by
  cases data <;> rfl

/-- A read of the configuration only allocates and frees. -/
theorem readConfig_heap (flash : Flash) (answers : ReadAnswers) :
    (readConfig flash answers).trace.all ConfigAction.isHeap = true := by
  simp only [readConfig, readData]
  repeat' split
  all_goals simp [ConfigAction.isHeap]

theorem loadConfig_heap (flash : Flash) (answers : LoadAnswers) :
    (loadConfig flash answers).trace.all ConfigAction.isHeap = true := by
  rw [loadConfig]
  split
  · exact readConfig_heap flash answers.read
  · rfl

@[simp]
theorem saved_loadConfig (flash : Flash) (answers : LoadAnswers) :
    saved (loadConfig flash answers).trace = false :=
  saved_of_heap (loadConfig_heap flash answers)

@[simp]
theorem saved_deviceSetDefaultData
    (config : DeviceConfig) (type : DeviceType) (block : Option Nat) :
    saved (deviceSetDefaultData config type block).trace = false := by
  cases type <;> cases block <;> rfl

@[simp]
theorem saved_saveConfig
    (flash : Flash) (answers : SaveAnswers) (conf : DeviceConfig) :
    saved (saveConfig flash answers conf).trace =
      (saveConfig flash answers conf).success := by
  cases buf : answers.buf <;> simp [saveConfig, buf, ConfigAction.saves]

/-! ## What a setter does -/

/-- The possible outcomes of a command for the record which was loaded. -/
inductive Performed
    (flash : Flash) (answers : SetAnswers)
    (command : Command) (record : Record) :
    ConfigCall → Prop where
  | unchanged {trace : List ConfigAction}
      (type : DeviceType)
      (already : command = .setType type)
      (same : type = record.type)
      (heap : trace.all ConfigAction.isHeap = true) :
      Performed flash answers command record
        { flash := flash, trace := trace, success := true }
  | withoutDefaults {trace : List ConfigAction}
      (camera : command = .setType .camera)
      (new : command.Saves record)
      (full : answers.defaults = none)
      (quiet : saved trace = false) :
      Performed flash answers command record
        { flash := flash, trace := trace, success := false }
  | refused {trace : List ConfigAction}
      (conf : DeviceConfig)
      (represents : conf.Represents (command.update record))
      (new : command.Saves record)
      (ready : command = .setType .camera → answers.defaults ≠ none)
      (incomplete : ¬ answers.save.Complete)
      (quiet : saved trace = false) :
      Performed flash answers command record
        { flash := (saveConfig flash answers.save conf).flash
          trace := trace
          success := false }
  | stored {trace : List ConfigAction}
      (conf : DeviceConfig)
      (represents : conf.Represents (command.update record))
      (complete : answers.save.Complete)
      (text : ∀ type, command ≠ .setType type)
      (wrote : saved trace = true) :
      Performed flash answers command record
        { flash := (saveConfig flash answers.save conf).flash
          trace := trace
          success := true }
  | initialised {before : List ConfigAction}
      (conf : DeviceConfig) (type : DeviceType)
      (represents : conf.Represents (command.update record))
      (retyped : command = .setType type)
      (new : command.Saves record)
      (ready : command = .setType .camera → answers.defaults ≠ none)
      (complete : answers.save.Complete)
      (wrote : saved before = true) :
      Performed flash answers command record
        { flash := (saveConfig flash answers.save conf).flash
          trace :=
            before ++
              (deviceInit (saveConfig flash answers.save conf).flash
                answers.init).trace
          success :=
            (deviceInit (saveConfig flash answers.save conf).flash
              answers.init).result }

section Performed

variable
    {flash : Flash} {answers : SetAnswers} {record : Record}

/-- A setter which ends with the save of the updated record. -/
theorem performed_saveConfig
    {command : Command} {conf : DeviceConfig} {trace : List ConfigAction}
    (represents : conf.Represents (command.update record))
    (text : ∀ type, command ≠ .setType type)
    (wrote : saved trace = (saveConfig flash answers.save conf).success) :
    Performed flash answers command record
      { flash := (saveConfig flash answers.save conf).flash
        trace := trace
        success := (saveConfig flash answers.save conf).success } := by
  have new : command.Saves record := by
    cases command with
    | setType type =>
        exact absurd rfl (text type)
    | setName name | setRoom room | setData argument =>
        trivial
  rw [success_saveConfig] at wrote ⊢
  by_cases complete : answers.save.Complete
  · rw [decide_eq_true complete] at wrote ⊢
    exact .stored conf represents complete text wrote
  · rw [decide_eq_false complete] at wrote ⊢
    exact
      .refused conf represents new (fun retyped => absurd retyped (text _))
        complete wrote

/-- A setter of a text field also frees the data it has loaded. -/
theorem saveAndFree_eq
    (flash : Flash) (answers : SetAnswers)
    (loaded : List ConfigAction) (conf : DeviceConfig) :
    saveAndFree flash answers loaded conf =
      { flash := (saveConfig flash answers.save conf).flash
        trace :=
          loaded ++ (saveConfig flash answers.save conf).trace ++
            if (saveConfig flash answers.save conf).success then
              osFree conf.data
            else
              []
        success := (saveConfig flash answers.save conf).success } := by
  simp only [saveAndFree]
  cases success : (saveConfig flash answers.save conf).success <;> simp

theorem performed_saveAndFree
    {command : Command} {conf : DeviceConfig} {loaded : List ConfigAction}
    (represents : conf.Represents (command.update record))
    (text : ∀ type, command ≠ .setType type)
    (quiet : saved loaded = false) :
    Performed flash answers command record
      (saveAndFree flash answers loaded conf) := by
  rw [saveAndFree_eq]
  apply performed_saveConfig represents text
  rw [saved_append, saved_append, quiet]
  split <;> simp

/-- The default data makes up the record which a change of type asks for. -/
theorem represents_defaults
    {loaded config : DeviceConfig} {type : DeviceType} {block : Option Nat}
    (represents : loaded.Represents record)
    (new : type ≠ record.type)
    (defaults :
      (deviceSetDefaultData { loaded with data := none, dataLen := 0 }
        type block).result = some config) :
    { config with type := type.code }.Represents
      ((Command.setType type).update record) := by
  have name : loaded.name = record.name :=
    congrArg Contents.name represents.contents_eq
  have room : loaded.room = record.room :=
    congrArg Contents.room represents.contents_eq
  have small : cameraDataSize.toNat + 79 < 2 ^ 32 := by
    decide
  have empty : (0 : UInt32).toNat + 79 < 2 ^ 32 := by
    decide
  have covered : cameraDataSize.toNat ≤ defaultCameraData.length := by
    decide
  rw [Command.update, if_neg new]
  cases type with
  | camera =>
      cases block with
      | none =>
          cases defaults
      | some address =>
          cases defaults
          refine ⟨⟨small, ?_⟩, ?_⟩
          · intro data present
            cases present
            exact covered
          · simp only [contents, payload, Record.contents, name, room]
            rfl
  | none | temperature | heater | lighting =>
      cases defaults
      refine ⟨⟨empty, ?_⟩, ?_⟩
      · intro data present
        cases present
      · simp only [contents, payload, Record.contents, name, room]
        rfl

/-- Only the default data of a camera is allocated. -/
theorem deviceSetDefaultData_eq_none_iff
    {config : DeviceConfig} {type : DeviceType} {block : Option Nat} :
    (deviceSetDefaultData config type block).result = none ↔
      type = .camera ∧ block = none := by
  cases type <;> cases block <;> simp [deviceSetDefaultData]

/-- `DeviceConfig_set_type` on the record which was loaded. -/
theorem performed_setType
    {type : DeviceType}
    (represents : (loadConfig flash answers.load).result.Represents record) :
    Performed flash answers (.setType type) record
      (setType flash answers type) := by
  have code : (loadConfig flash answers.load).result.type = record.type.code :=
    congrArg Contents.type represents.contents_eq
  have success := success_saveConfig flash answers.save
  simp only [setType]
  by_cases same : type = record.type
  · rw [if_pos (by rw [code, same])]
    exact .unchanged type rfl same (loadConfig_heap flash answers.load)
  · rw [if_neg (by rw [code, DeviceType.code_inj]; exact same)]
    have new : (Command.setType type).Saves record := same
    split
    · rename_i failed
      rcases deviceSetDefaultData_eq_none_iff.mp failed with ⟨rfl, full⟩
      exact .withoutDefaults rfl new full (by simp)
    · rename_i config defaults
      have updated := represents_defaults represents same defaults
      have ready :
          Command.setType type = .setType .camera →
            answers.defaults ≠ none := by
        intro camera full
        cases camera
        rw [deviceSetDefaultData_eq_none_iff.mpr ⟨rfl, full⟩] at defaults
        cases defaults
      have result := success { config with type := type.code }
      by_cases complete : answers.save.Complete
      · rw [decide_eq_true complete] at result
        rw [if_pos result]
        exact
          .initialised _ type updated rfl new ready complete (by simp [result])
      · rw [decide_eq_false complete] at result
        rw [if_neg (by simp [result])]
        exact .refused _ updated new ready complete (by simp [result])

/-- `DeviceConfig_set_data` on the record which was loaded. -/
theorem performed_setData
    {argument : DataArgument}
    (represents : (loadConfig flash answers.load).result.Represents record) :
    Performed flash answers (.setData argument) record
      (setData flash answers argument.data argument.len) := by
  have name : (loadConfig flash answers.load).result.name = record.name :=
    congrArg Contents.name represents.contents_eq
  have room : (loadConfig flash answers.load).result.room = record.room :=
    congrArg Contents.room represents.contents_eq
  have code : (loadConfig flash answers.load).result.type = record.type.code :=
    congrArg Contents.type represents.contents_eq
  have updated :
      { (loadConfig flash answers.load).result with
        data := argument.data
        dataLen := argument.len }.Represents
          ((Command.setData argument).update record) := by
    refine ⟨⟨argument.addressable, argument.inside⟩, ?_⟩
    simp only [contents, payload, Command.update, Record.contents, name, room,
      code, argument.length_bytes, UInt32.ofNat_toNat]
    rfl
  exact performed_saveConfig updated (by simp) (by simp)

/-- Every command performs on the record which was loaded. -/
theorem performed
    (command : Command)
    (represents : (loadConfig flash answers.load).result.Represents record) :
    Performed flash answers command record
      (command.perform flash answers) := by
  have sound := represents.sound
  have equal := represents.contents_eq
  cases command with
  | setName name =>
      apply performed_saveAndFree
      · refine ⟨⟨sound.addressable, sound.block⟩, ?_⟩
        rw [textField_eq]
        exact congrArg (fun held => { held with name := textOf name }) equal
      · simp
      · simp
  | setRoom room =>
      apply performed_saveAndFree
      · refine ⟨⟨sound.addressable, sound.block⟩, ?_⟩
        rw [textField_eq]
        exact congrArg (fun held => { held with room := textOf room }) equal
      · simp
      · simp
  | setType type =>
      exact performed_setType represents
  | setData argument =>
      exact performed_setData represents

end Performed

/-! ## Loading -/

/-- Neither the search for a configuration nor the read of it fails. -/
def LoadAnswers.Succeed (answers : LoadAnswers) (dataLen : UInt32) : Prop :=
  answers.guard = true ∧ answers.read.Succeed dataLen

instance (answers : LoadAnswers) (dataLen : UInt32) :
    Decidable (answers.Succeed dataLen) :=
  inferInstanceAs (Decidable (_ ∧ _))

end DeviceConfig

/-- A chip holds a record, or no configuration. -/
def Holds (flash : Flash) (held : Option Record) : Prop :=
  match held with
  | none => DeviceConfig.alreadyExists flash true = false
  | some record => Stores flash record.contents

/-- What a setter starts from: after a failed read that is a blank record. -/
def loaded (held : Option Record) (answers : DeviceConfig.LoadAnswers) :
    Record :=
  match held with
  | none => .blank
  | some record =>
      if answers.Succeed record.contents.dataLen then record else .blank

theorem loaded_eq
    (held : Option Record) (answers : DeviceConfig.LoadAnswers) :
    loaded held answers = held.getD .blank ∨
      loaded held answers = .blank := by
  cases held with
  | none =>
      exact Or.inl rfl
  | some record =>
      rw [loaded]
      split
      · exact Or.inl rfl
      · exact Or.inr rfl

namespace DeviceConfig

/-- The shared beginning of the setters loads the record, or a blank one. -/
theorem represents_loadConfig
    {flash : Flash} {held : Option Record}
    (holds : Holds flash held)
    (answers : LoadAnswers) :
    (loadConfig flash answers).result.Represents (loaded held answers) := by
  have unread : alreadyExists flash false = false := by
    rfl
  cases held with
  | none =>
      have missing : alreadyExists flash answers.guard = false := by
        cases answers.guard
        · exact unread
        · exact holds
      rw [loadConfig, missing]
      exact zeroed_represents
  | some record =>
      rcases (stores_iff flash record.contents).mp holds with
        ⟨found, equal, _⟩
      have len : storedLen flash = record.contents.dataLen :=
        congrArg Contents.dataLen equal
      rw [loadConfig, loaded]
      cases guard : answers.guard with
      | false =>
          rw [unread]
          simp only [LoadAnswers.Succeed, guard, Bool.false_eq_true, false_and,
            if_false]
          exact zeroed_represents
      | true =>
          rw [found]
          simp only [LoadAnswers.Succeed, guard, true_and, if_true,
            result_readConfig, len]
          by_cases read : answers.read.Succeed record.contents.dataLen
          · rw [if_pos read, if_pos read]
            have bound := record.addressable
            refine ⟨sound_stored _ ?_, ?_⟩
            · rw [len, record.toNat_dataLen]
              exact bound
            · exact (contents_stored flash _).trans equal
          · rw [if_neg read, if_neg read]
            exact zeroed_represents

end DeviceConfig

/-! ## Calls that do not fail -/

namespace DeviceConfig

/-- Every read succeeds and every allocation is served. -/
structure LoadAnswers.Served (answers : LoadAnswers) : Prop where
  guard : answers.guard = true
  name : answers.read.name = true
  room : answers.read.room = true
  type : answers.read.type = true
  len : answers.read.len = true
  data : answers.read.data = true
  block : answers.read.block.isSome = true

theorem LoadAnswers.Served.succeed
    {answers : LoadAnswers}
    (served : answers.Served) (dataLen : UInt32) :
    answers.Succeed dataLen :=
  ⟨served.guard, served.name, served.room, served.type, served.len,
    fun _ => ⟨served.block, served.data⟩⟩

/-- No call up to the save fails; the initialisation behind it may. -/
structure SetAnswers.Served (answers : SetAnswers) : Prop where
  load : answers.load.Served
  defaults : answers.defaults.isSome = true
  save : answers.save.Complete

end DeviceConfig

/-- Answers without a failure, except that the camera stays silent. -/
def silentCamera : SetAnswers where
  load :=
    { guard := true
      read :=
        { name := true, room := true, type := true, len := true
          block := some 1, data := true } }
  defaults := some 2
  save := { buf := some 3, erase := .ok, write := .ok }
  init :=
    { load :=
        { guard := true
          read :=
            { name := true, room := true, type := true, len := true
              block := some 4, data := true } }
      reset := false }

theorem silentCamera_served :
    silentCamera.Served where
  load := by constructor <;> rfl
  defaults := by rfl
  save := by decide

/-- When every call is served, a setter starts from the record that is kept. -/
theorem loaded_of_served
    {answers : DeviceConfig.LoadAnswers}
    (served : answers.Served) (held : Option Record) :
    loaded held answers = held.getD .blank := by
  cases held with
  | none =>
      rfl
  | some record =>
      rw [loaded, if_pos (served.succeed record.contents.dataLen)]
      rfl

/-- A save of a changed type fits and stores the record. -/
theorem DeviceConfig.Represents.stores_changed_type
    {answers : SaveAnswers}
    {conf : DeviceConfig} {type : DeviceType} {record : Record}
    (represents : conf.Represents ((Command.setType type).update record))
    (flash : Flash)
    (new : (Command.setType type).Saves record)
    (complete : answers.Complete) :
    Stores (saveConfig flash answers conf).flash
      ((Command.setType type).update record).contents := by
  have data := (Command.update_setType new).2
  have fits : conf.contents.Fits := by
    rw [represents.contents_eq, Contents.Fits, Record.contents, data]
    exact defaultData_fits type
  rw [← represents.contents_eq]
  exact represents.sound.stores_saveConfig fits complete

end EspFirmware
