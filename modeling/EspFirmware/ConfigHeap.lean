import EspFirmware.HeaterControl
import EspFirmware.Library.Custody

/-!
# Which configuration calls leave the heap as it was

No call frees a block twice, or one which it did not allocate, so what it leaves
behind are the blocks which it leaks.  `DeviceConfig_set_data` and `DeviceInit`
leak the data block which they read, the other calls only on some of their
paths.
-/

namespace EspFirmware

open Library

/-! ## Blocks of a trace -/

/-- What a call of the allocator does with blocks. -/
def ConfigAction.heapEvents : ConfigAction → List (HeapEvent Nat)
  | .osZalloc _ (some address) => [.take address]
  | .osFree address => [.free address]
  | .osZalloc _ none | .writeToFlash _ _ _ | .softwareUartConfig _ _ _
  | .driverInit _ _ | .cameraReset _ => []

/-- What a call does with blocks. -/
def configEvents (trace : List ConfigAction) : List (HeapEvent Nat) :=
  trace.flatMap ConfigAction.heapEvents

/-- These blocks are allocated and not freed, and every other one is freed once. -/
def Leaks (trace : List ConfigAction) (blocks : Multiset Nat) : Prop :=
  custody 0 (configEvents trace) = some blocks

/-- Every block is freed once, behind its allocation. -/
def Neutral (trace : List ConfigAction) : Prop :=
  Leaks trace 0

@[simp]
theorem configEvents_append (front back : List ConfigAction) :
    configEvents (front ++ back) = configEvents front ++ configEvents back :=
  List.flatMap_append

theorem leaks_nil :
    Leaks [] 0 :=
  rfl

/-- Blocks are leaked by either of two calls. -/
theorem Leaks.append
    {front back : List ConfigAction} {first second : Multiset Nat}
    (leaks : Leaks front first)
    (leaksNext : Leaks back second) :
    Leaks (front ++ back) (first + second) := by
  have framed := custody_frame leaksNext first
  rw [Multiset.zero_add] at framed
  rw [Leaks, configEvents_append, custody_append_of leaks, framed,
    Multiset.add_comm]

/-- A call is neutral when it leaks nothing. -/
theorem Leaks.neutral_iff
    {trace : List ConfigAction} {blocks : Multiset Nat}
    (leaks : Leaks trace blocks) :
    Neutral trace ↔ blocks = 0 := by
  rw [Neutral, Leaks, leaks, Option.some_inj]

/-- The block of a data pointer. -/
def dataBlock (data : Option Buffer) : Multiset Nat :=
  match data with
  | some buffer => {buffer.address}
  | none => 0

theorem dataBlock_eq_zero_iff (data : Option Buffer) :
    dataBlock data = 0 ↔ data = none := by
  cases data with
  | none =>
      simp [dataBlock]
  | some buffer =>
      simp [dataBlock]

/-- No block is freed twice, and none is left exactly when the condition holds. -/
def FreesIff (trace : List ConfigAction) (condition : Prop) : Prop :=
  ∃ blocks, Leaks trace blocks ∧ (blocks = 0 ↔ condition)

theorem FreesIff.neutral_iff
    {trace : List ConfigAction} {condition : Prop}
    (frees : FreesIff trace condition) :
    Neutral trace ↔ condition := by
  rcases frees with ⟨blocks, leaks, empty⟩
  rw [leaks.neutral_iff, empty]

theorem FreesIff.congr
    {trace : List ConfigAction} {condition other : Prop}
    (frees : FreesIff trace condition)
    (same : condition ↔ other) :
    FreesIff trace other := by
  rcases frees with ⟨blocks, leaks, empty⟩
  exact ⟨blocks, leaks, empty.trans same⟩

/-- Two calls leave nothing when neither of them does. -/
theorem FreesIff.append
    {front back : List ConfigAction} {first second : Prop}
    (frees : FreesIff front first)
    (freesNext : FreesIff back second) :
    FreesIff (front ++ back) (first ∧ second) := by
  rcases frees with ⟨blocks, leaks, empty⟩
  rcases freesNext with ⟨others, leaksNext, emptyNext⟩
  refine ⟨blocks + others, leaks.append leaksNext, ?_⟩
  rw [add_eq_zero, empty, emptyNext]

theorem Leaks.freesIff
    {trace : List ConfigAction} {blocks : Multiset Nat} {condition : Prop}
    (leaks : Leaks trace blocks)
    (empty : blocks = 0 ↔ condition) :
    FreesIff trace condition :=
  ⟨blocks, leaks, empty⟩

theorem Leaks.freesIff_dataBlock
    {trace : List ConfigAction} {data : Option Buffer}
    (leaks : Leaks trace (dataBlock data)) :
    FreesIff trace (data = none) :=
  ⟨dataBlock data, leaks, dataBlock_eq_zero_iff data⟩

/-- Data which is freed is not leaked. -/
theorem Leaks.osFree
    {trace : List ConfigAction} {data : Option Buffer}
    (leaks : Leaks trace (dataBlock data)) :
    Neutral (trace ++ osFree data) := by
  rw [Neutral, Leaks, configEvents_append, custody_append_of leaks]
  cases data with
  | none =>
      rfl
  | some buffer =>
      exact custody_free 0 buffer.address []

namespace DeviceConfig

theorem neutral_saveConfig
    (flash : Flash) (answers : SaveAnswers) (conf : DeviceConfig) :
    Neutral (saveConfig flash answers conf).trace := by
  rw [saveConfig]
  split
  · rfl
  · exact custody_free 0 _ []

theorem leaks_readData
    (flash : Flash) (answers : ReadAnswers) (dataLen : UInt32) :
    Leaks (readData flash answers dataLen).trace
      (dataBlock (readData flash answers dataLen).result) := by
  rw [readData]
  split
  · rfl
  · split
    · exact custody_free 0 _ []
    · rfl

/-- The data which was read, if any. -/
theorem leaks_readConfig (flash : Flash) (answers : ReadAnswers) :
    Leaks (readConfig flash answers).trace
      (dataBlock ((readConfig flash answers).result.bind data)) := by
  rw [readConfig]
  split
  · rfl
  · split
    · rfl
    · split
      · rfl
      · split
        · rfl
        · split
          · rfl
          · rename_i len _ _
            have leaks := leaks_readData flash answers len.word
            dsimp only
            cases block : (readData flash answers len.word).result with
            | none =>
                rw [block] at leaks
                exact leaks
            | some buffer =>
                rw [block] at leaks
                exact leaks

theorem leaks_loadConfig (flash : Flash) (answers : LoadAnswers) :
    Leaks (loadConfig flash answers).trace
      (dataBlock (loadConfig flash answers).result.data) := by
  rw [loadConfig]
  split
  · have leaks := leaks_readConfig flash answers.read
    dsimp only
    cases read : (readConfig flash answers.read).result with
    | none =>
        rw [read] at leaks
        exact leaks
    | some conf =>
        rw [read] at leaks
        exact leaks
  · rfl

theorem neutral_initDriver (conf : DeviceConfig) (reset : Bool) :
    Neutral (initDriver conf reset).trace := by
  rw [initDriver]
  split
  · rfl
  · rfl
  · rfl
  · simp only [cameraInit]
    split
    · rfl
    · split
      · rfl
      · rfl
  · rfl
  · rfl

/-- `DeviceInit` keeps the data which it reads. -/
theorem leaks_deviceInit (flash : Flash) (answers : InitAnswers) :
    Leaks (deviceInit flash answers).trace
      (dataBlock (loadConfig flash answers.load).result.data) := by
  have leaks := leaks_loadConfig flash answers.load
  simp only [loadConfig, deviceInit] at leaks ⊢
  split
  · rename_i found
    simp only [found, if_true] at leaks ⊢
    cases read : (readConfig flash answers.load.read).result with
    | none =>
        rw [read] at leaks
        exact leaks
    | some conf =>
        rw [read] at leaks
        have both := leaks.append (neutral_initDriver conf answers.reset)
        rw [Multiset.add_zero] at both
        exact both
  · rfl

theorem leaks_defaults
    (config : DeviceConfig) (type : DeviceType) (block : Option Nat)
    (bare : config.data = none) :
    Leaks (deviceSetDefaultData config type block).trace
      (dataBlock
        ((deviceSetDefaultData config type block).result.bind data)) := by
  cases type with
  | camera =>
      cases block with
      | none =>
          rfl
      | some address =>
          rfl
  | none | temperature | heater | lighting =>
      simp only [deviceSetDefaultData, Option.bind_some, bare]
      rfl

/-! ## When data is read -/

/-- The beginning which the calls share reads a data block. -/
def LoadAnswers.LoadData (answers : LoadAnswers) (flash : Flash) : Prop :=
  alreadyExists flash answers.guard = true ∧
    answers.read.Succeed (storedLen flash) ∧ storedLen flash ≠ 0

/-- The type which `DeviceConfig_set_type` finds: the stored one, or `NONE`. -/
def LoadAnswers.typeFound (answers : LoadAnswers) (flash : Flash) : UInt32 :=
  if alreadyExists flash answers.guard = true ∧
      answers.read.Succeed (storedLen flash) then
    (storedContents flash).type
  else
    DeviceType.none.code

theorem data_loadConfig_eq_none_iff (flash : Flash) (answers : LoadAnswers) :
    (loadConfig flash answers).result.data = none ↔
      ¬ answers.LoadData flash := by
  have read := result_readConfig flash answers.read
  rw [loadConfig, LoadAnswers.LoadData]
  split
  · rename_i found
    dsimp only
    rw [read]
    split
    · rename_i succeed
      simp [stored, found, succeed]
    · rename_i failed
      simp [zeroed, failed]
  · rename_i absent
    simp [zeroed, absent]

theorem type_loadConfig (flash : Flash) (answers : LoadAnswers) :
    (loadConfig flash answers).result.type = answers.typeFound flash := by
  have read := result_readConfig flash answers.read
  rw [loadConfig, LoadAnswers.typeFound]
  split
  · rename_i found
    dsimp only
    rw [read]
    split
    · rename_i succeed
      rw [if_pos ⟨found, succeed⟩]
      rfl
    · rename_i failed
      rw [if_neg fun both => failed both.2]
      rfl
  · rename_i absent
    rw [if_neg fun both => absent both.1]
    rfl

/-! ## The calls -/

/-- A name or a room is set: data which was read is freed if the save succeeds. -/
theorem freesIff_setText
    (flash : Flash) (answers : SetAnswers) (conf : DeviceConfig)
    (same : conf.data = (loadConfig flash answers.load).result.data) :
    FreesIff
      (saveAndFree flash answers (loadConfig flash answers.load).trace
        conf).trace
      (answers.load.LoadData flash → answers.save.Complete) := by
  have loads := leaks_loadConfig flash answers.load
  have saves := loads.append (neutral_saveConfig flash answers.save conf)
  rw [Multiset.add_zero, ← same] at saves
  simp only [saveAndFree, success_saveConfig, decide_eq_true_eq]
  split
  · rename_i complete
    exact saves.osFree.freesIff (by simp [complete])
  · rename_i failed
    refine saves.freesIff ?_
    rw [dataBlock_eq_zero_iff, same, data_loadConfig_eq_none_iff]
    simp only [failed, imp_false]

theorem freesIff_setData
    (flash : Flash) (answers : SetAnswers)
    (data : Option Buffer) (len : UInt32) :
    FreesIff (setData flash answers data len).trace
      (¬ answers.load.LoadData flash) := by
  have saves :=
    (leaks_loadConfig flash answers.load).append
      (neutral_saveConfig flash answers.save
        { (loadConfig flash answers.load).result with
          data := data, dataLen := len })
  rw [Multiset.add_zero] at saves
  rw [← data_loadConfig_eq_none_iff]
  exact saves.freesIff_dataBlock

theorem freesIff_deviceInit (flash : Flash) (answers : InitAnswers) :
    FreesIff (deviceInit flash answers).trace
      (¬ answers.load.LoadData flash) := by
  rw [← data_loadConfig_eq_none_iff]
  exact (leaks_deviceInit flash answers).freesIff_dataBlock

/-- A chip on which a configuration was saved says that it has one. -/
theorem loadData_saveConfig_iff
    {save : SaveAnswers} {conf : DeviceConfig}
    (flash : Flash)
    (answers : LoadAnswers)
    (sound : conf.Sound)
    (fits : conf.contents.Fits)
    (complete : save.Complete) :
    answers.LoadData (saveConfig flash save conf).flash ↔
      answers.Succeed conf.dataLen ∧ conf.dataLen ≠ 0 := by
  have stores :
      Stores (saveConfig flash save conf).flash conf.contents :=
    sound.stores_saveConfig fits complete
  have found := ((stores_iff _ _).mp stores).1
  rw [LoadAnswers.LoadData, LoadAnswers.Succeed,
    sound.storedLen_saveConfig fits complete, and_assoc]
  cases guard : answers.guard with
  | false =>
      have unread :
          alreadyExists (saveConfig flash save conf).flash false = false :=
        rfl
      simp [unread]
  | true =>
      simp [found]

/-- The end of `DeviceConfig_set_type`, once a configuration is there to be saved. -/
theorem freesIff_retype
    (flash : Flash) (answers : SetAnswers) (conf : DeviceConfig)
    {front : List ConfigAction}
    (leaks : Leaks front (dataBlock conf.data))
    (sound : conf.Sound)
    (fits : conf.contents.Fits)
    (filled : conf.data = none ↔ conf.dataLen = 0) :
    FreesIff
      (if (saveConfig flash answers.save conf).success then
        { flash := (saveConfig flash answers.save conf).flash
          trace :=
            front ++ (saveConfig flash answers.save conf).trace ++
              osFree conf.data ++
                (deviceInit (saveConfig flash answers.save conf).flash
                  answers.init).trace
          success :=
            (deviceInit (saveConfig flash answers.save conf).flash
              answers.init).result }
      else
        { flash := (saveConfig flash answers.save conf).flash
          trace := front ++ (saveConfig flash answers.save conf).trace
          success := false } : ConfigCall).trace
      (conf.data ≠ none →
        answers.save.Complete ∧
          ¬ answers.init.load.Succeed conf.dataLen) := by
  have saves := leaks.append (neutral_saveConfig flash answers.save conf)
  rw [Multiset.add_zero] at saves
  simp only [success_saveConfig, decide_eq_true_eq]
  split
  · rename_i complete
    have inits :=
      saves.osFree.append
        (leaks_deviceInit (saveConfig flash answers.save conf).flash
          answers.init)
    rw [Multiset.zero_add] at inits
    refine inits.freesIff ?_
    rw [dataBlock_eq_zero_iff, data_loadConfig_eq_none_iff,
      loadData_saveConfig_iff flash _ sound fits complete, Ne, ← filled]
    simp only [complete, true_and]
    tauto
  · rename_i failed
    refine saves.freesIff ?_
    rw [dataBlock_eq_zero_iff]
    simp only [failed, false_and, imp_false, not_not]

/-- The type stays and no data is read, or new camera data is saved and not read back. -/
def SetAnswers.TypeFrees
    (answers : SetAnswers) (flash : Flash) (type : DeviceType) : Prop :=
  if type.code = answers.load.typeFound flash then
    ¬ answers.load.LoadData flash
  else
    type = .camera → answers.defaults.isSome = true →
      answers.save.Complete ∧ ¬ answers.init.load.Succeed cameraDataSize

theorem freesIff_setType
    (flash : Flash) (answers : SetAnswers) (type : DeviceType) :
    FreesIff (setType flash answers type).trace
      (answers.TypeFrees flash type) := by
  have loads := leaks_loadConfig flash answers.load
  have frees := loads.osFree
  simp only [setType, SetAnswers.TypeFrees, type_loadConfig]
  split
  · rw [← data_loadConfig_eq_none_iff]
    exact loads.freesIff_dataBlock
  · have defaults :=
      leaks_defaults
        { (loadConfig flash answers.load).result with
          data := none, dataLen := 0 }
        type answers.defaults rfl
    have front := frees.append defaults
    rw [Multiset.zero_add] at front
    cases type with
    | camera =>
        cases block : answers.defaults with
        | none =>
            rw [block] at front
            exact front.freesIff (by simp [deviceSetDefaultData, dataBlock])
        | some address =>
            rw [block] at front
            have small : cameraDataSize.toNat + 79 < 2 ^ 32 := by
              decide
            have covered :
                cameraDataSize.toNat ≤ defaultCameraData.length := by
              decide
            have fits :
                76 + (flashAlignLen cameraDataSize).toNat ≤ sectorSize := by
              decide
            refine
              (freesIff_retype flash answers
                { (loadConfig flash answers.load).result with
                  data :=
                    some { address := address, bytes := defaultCameraData }
                  dataLen := cameraDataSize
                  type := DeviceType.camera.code }
                front ⟨small, ?_⟩ fits ?_).congr ?_
            · intro data present
              cases present
              exact covered
            · simp [cameraDataSize]
            · simp
    | none | temperature | heater | lighting =>
        have empty : (0 : UInt32).toNat + 79 < 2 ^ 32 := by
          decide
        have fits : 76 + (flashAlignLen 0).toNat ≤ sectorSize := by
          decide
        refine
          (freesIff_retype flash answers
            { (loadConfig flash answers.load).result with
              data := none
              dataLen := 0
              type := DeviceType.code _ }
            front ⟨empty, ?_⟩ fits ?_).congr ?_
        · simp
        · simp
        · simp

/-! ## Any number of calls -/

/-- The calls which read and write the stored configuration. -/
inductive ConfigOp where
  | setName (name : CString)
  | setRoom (room : CString)
  | setType (type : DeviceType)
  | setData (data : Option Buffer) (len : UInt32)
  | deviceInit

namespace ConfigOp

/-- A call. -/
def perform (op : ConfigOp) (flash : Flash) (answers : SetAnswers) :
    ConfigCall :=
  match op with
  | setName name => DeviceConfig.setName flash answers name
  | setRoom room => DeviceConfig.setRoom flash answers room
  | setType type => DeviceConfig.setType flash answers type
  | setData data len => DeviceConfig.setData flash answers data len
  | deviceInit =>
      let init := DeviceConfig.deviceInit flash answers.init
      { flash := flash, trace := init.trace, success := init.result }

/-- No data is read, or it is freed. -/
def Frees (op : ConfigOp) (flash : Flash) (answers : SetAnswers) : Prop :=
  match op with
  | setName _ | setRoom _ =>
      answers.load.LoadData flash → answers.save.Complete
  | setType type => answers.TypeFrees flash type
  | setData _ _ => ¬ answers.load.LoadData flash
  | deviceInit => ¬ answers.init.load.LoadData flash

theorem freesIff_perform
    (op : ConfigOp) (flash : Flash) (answers : SetAnswers) :
    FreesIff (op.perform flash answers).trace (op.Frees flash answers) := by
  cases op with
  | setName name =>
      exact freesIff_setText flash answers _ rfl
  | setRoom room =>
      exact freesIff_setText flash answers _ rfl
  | setType type =>
      exact freesIff_setType flash answers type
  | setData data len =>
      exact freesIff_setData flash answers data len
  | deviceInit =>
      exact freesIff_deviceInit flash answers.init

end ConfigOp

/-- Calls one after the other, each with the outcomes of the calls which it makes. -/
abbrev ConfigCalls := List (ConfigOp × SetAnswers)

namespace ConfigCalls

/-- What calls do, one after the other. -/
def trace (flash : Flash) : ConfigCalls → List ConfigAction
  | [] => []
  | (op, answers) :: rest =>
      let call := op.perform flash answers
      call.trace ++ trace call.flash rest

/-- Every call finds a chip and outcomes for which it frees what it reads. -/
def Free (flash : Flash) : ConfigCalls → Prop
  | [] => True
  | (op, answers) :: rest =>
      op.Frees flash answers ∧ Free (op.perform flash answers).flash rest

theorem freesIff_trace (flash : Flash) (calls : ConfigCalls) :
    FreesIff (calls.trace flash) (calls.Free flash) := by
  induction calls generalizing flash with
  | nil =>
      exact leaks_nil.freesIff (by simp [Free])
  | cons call rest induction =>
      exact
        (call.1.freesIff_perform flash call.2).append
          (induction (call.1.perform flash call.2).flash)

end ConfigCalls

/--
A call frees every block which it allocates, each of them once, exactly when it
reads no data block, or sets a name or a room and the save succeeds, or sets
another type and no camera data is lost by a failing save or read back by
`DeviceInit`.  Calls one after the other leave the heap as it was exactly when
each of them does.
-/
theorem config_calls_free_iff (flash : Flash) :
    (∀ op answers,
        Neutral (ConfigOp.perform op flash answers).trace ↔
          op.Frees flash answers) ∧
      ∀ calls : ConfigCalls,
        Neutral (calls.trace flash) ↔ calls.Free flash := by
  constructor
  · intro op answers
    exact (op.freesIff_perform flash answers).neutral_iff
  · intro calls
    exact (calls.freesIff_trace flash).neutral_iff

/-- A new camera keeps the data which `DeviceInit` reads, although nothing fails. -/
theorem config_calls_leak_camera :
    ¬∀ flash op answers,
      Neutral (ConfigOp.perform op flash answers).trace := by
  intro neutral
  have frees :=
    ((ConfigOp.setType .camera).freesIff_perform erasedFlash
      RxAnswers.served.input.set).neutral_iff.mp (neutral _ _ _)
  have changed :
      ¬ DeviceType.camera.code =
        RxAnswers.served.input.set.load.typeFound erasedFlash := by
    decide +kernel
  rw [ConfigOp.Frees, SetAnswers.TypeFrees, if_neg changed] at frees
  exact (frees rfl rfl).2 (by decide)

end DeviceConfig

end EspFirmware
