import EspFirmware.PowerCut

/-!
# A failed configuration change

A setter fails before the sector is erased, while the sector is written, or,
for a change of type, in the initialisation of the device after the new
configuration was saved.  Only the first kind of failure leaves the stored
configuration alone in general, and after the last kind the same change of
type is answered with success without another initialisation.
-/

namespace EspFirmware

open Library DeviceConfig

/-! ## Initialisation -/

/-- The driver of a device type was initialised, and a camera also reset. -/
def InitialisedAs (type : DeviceType) (trace : List ConfigAction) : Prop :=
  match type with
  | .none => True
  | .temperature | .heater | .lighting => .driverInit type true ∈ trace
  | .camera =>
      .driverInit .camera true ∈ trace ∧ .cameraReset true ∈ trace

theorem InitialisedAs.append_left
    {type : DeviceType} {trace : List ConfigAction}
    (initialised : InitialisedAs type trace)
    (before : List ConfigAction) :
    InitialisedAs type (before ++ trace) := by
  cases type with
  | none =>
      trivial
  | temperature | heater | lighting =>
      exact List.mem_append_right before initialised
  | camera =>
      exact
        ⟨List.mem_append_right before initialised.1,
          List.mem_append_right before initialised.2⟩

/-- None of the calls of `DeviceInit` fails for a record with the default data of its type. -/
def DeviceConfig.InitAnswers.Succeed
    (answers : InitAnswers) (record : Record) : Prop :=
  answers.load.Succeed record.contents.dataLen ∧
    (record.type = .camera → answers.reset = true)

instance (answers : InitAnswers) (record : Record) :
    Decidable (answers.Succeed record) :=
  inferInstanceAs (Decidable (_ ∧ (_ → _)))

section Initialise

variable
    {flash : Flash} {record : Record}

/-- The camera is initialised from its default data. -/
theorem cameraInit_stored
    (stores : Stores flash record.contents)
    (camera : record.type = .camera)
    (default : record.data = record.type.defaultData)
    (address : Nat) :
    cameraInit (stored flash address) =
      { trace := [.softwareUartConfig 38400 5 4], result := true } := by
  rcases (stores_iff flash record.contents).mp stores with ⟨_, equal, _⟩
  have data : record.data = defaultCameraData := by
    rw [default, camera]
    rfl
  have len : storedLen flash = 8 := by
    have same : storedLen flash = record.contents.dataLen :=
      congrArg Contents.dataLen equal
    rw [same, Record.contents, data]
    rfl
  have whole :
      (storedContents flash).data =
        readRange flash deviceConfigDataAddr 8 := by
    simp only [storedContents, len]
    rw [List.take_of_length_le (by rw [length_readRange]; decide)]
    rfl
  have bytes :
      readRange flash deviceConfigDataAddr 8 = defaultCameraData := by
    rw [← whole, equal]
    exact data
  have block :
      stored flash address =
        { stored flash address with
          dataLen := 8
          data := some ⟨address, defaultCameraData⟩ } := by
    rw [← bytes]
    simp only [stored, len]
    rfl
  rw [block]
  rfl

/-- The driver of the stored type is initialised. -/
theorem initDriver_stored
    (stores : Stores flash record.contents)
    (default : record.data = record.type.defaultData)
    (address : Nat) (reset : Bool) :
    ((initDriver (stored flash address) reset).result = true ↔
        (record.type = .camera → reset = true)) ∧
      ((record.type = .camera → reset = true) →
        InitialisedAs record.type
          (initDriver (stored flash address) reset).trace) := by
  rcases (stores_iff flash record.contents).mp stores with ⟨_, equal, _⟩
  have code :
      DeviceType.ofCode (stored flash address).type = some record.type := by
    have same : (stored flash address).type = record.type.code :=
      congrArg Contents.type equal
    rw [same, DeviceType.ofCode_code]
  rw [initDriver, code]
  cases type : record.type with
  | camera =>
      simp only [cameraInit_stored stores type default address, if_true]
      simp [InitialisedAs]
  | none | temperature | heater | lighting =>
      simp [InitialisedAs]

/-- `DeviceInit` on a stored record with the default data of its type. -/
theorem deviceInit_of_stores
    (stores : Stores flash record.contents)
    (default : record.data = record.type.defaultData)
    (answers : InitAnswers) :
    ((deviceInit flash answers).result = true ↔ answers.Succeed record) ∧
      (answers.Succeed record →
        InitialisedAs record.type (deviceInit flash answers).trace) := by
  rcases (stores_iff flash record.contents).mp stores with ⟨found, equal, _⟩
  have len : storedLen flash = record.contents.dataLen :=
    congrArg Contents.dataLen equal
  have driver :=
    initDriver_stored stores default (answers.load.read.block.getD 0)
      answers.reset
  have read := result_readConfig flash answers.load.read
  rw [len] at read
  simp only [InitAnswers.Succeed, LoadAnswers.Succeed]
  cases guard : answers.load.guard with
  | false =>
      have unread : alreadyExists flash false = false := by
        rfl
      simp [deviceInit, guard, unread]
  | true =>
      simp only [deviceInit, guard, found, if_true, true_and]
      by_cases succeed :
          answers.load.read.Succeed record.contents.dataLen
      · rw [if_pos succeed] at read
        simp only [read, succeed, true_and]
        refine ⟨driver.1, ?_⟩
        intro reset
        exact (driver.2 reset).append_left _
      · rw [if_neg succeed] at read
        simp [read, succeed]

end Initialise

/-! ## Where a call fails -/

/-- The part of a call in which its first failure lies. -/
inductive Stage where
  | succeeds
  | beforeErase
  | afterWords (words : Nat)
  | afterSave
deriving DecidableEq

/-- Where a save fails. -/
def DeviceConfig.SaveAnswers.stage (answers : SaveAnswers) : Stage :=
  match answers.buf, answers.erase, answers.write with
  | none, _, _ => .beforeErase
  | some _, .failed false, _ => .beforeErase
  | some _, .failed true, _ => .afterWords 0
  | some _, .ok, .failed words => .afterWords words
  | some _, .ok, .ok => .succeeds

/-- Where a command fails. -/
def Command.stage
    (command : Command) (held : Option Record) (answers : SetAnswers) :
    Stage :=
  match command with
  | setType type =>
      if type = (loaded held answers.load).type then
        .succeeds
      else if type = .camera ∧ answers.defaults = none then
        .beforeErase
      else
        match answers.save.stage with
        | .succeeds =>
            if answers.init.Succeed
                (command.update (loaded held answers.load)) then
              .succeeds
            else
              .afterSave
        | stage => stage
  | setName _ | setRoom _ | setData _ => answers.save.stage

/-- What a call that fails at some stage has done to the chip. -/
def Stage.Describes
    (stage : Stage) (flash : Flash) (new : Record) (call : ConfigCall) :
    Prop :=
  match stage with
  | .succeeds => call.success = true
  | .beforeErase => call.success = false ∧ call.flash = flash
  | .afterWords words =>
      call.success = false ∧
        ∃ conf : DeviceConfig,
          conf.Represents new ∧ call.flash = conf.afterWords flash words
  | .afterSave => call.success = false ∧ Stores call.flash new.contents

section Stages

variable
    {flash : Flash} {held : Option Record}
    {command : Command} {answers : SetAnswers}

theorem DeviceConfig.SaveAnswers.stage_eq_succeeds_iff
    {answers : SaveAnswers} :
    answers.stage = .succeeds ↔ answers.Complete := by
  rcases answers with ⟨buf, erase, write⟩
  cases buf with
  | none =>
      simp [stage, Complete]
  | some buf =>
      cases erase with
      | ok =>
          cases write <;> simp [stage, Complete]
      | failed erased =>
          cases erased <;> simp [stage, Complete]

theorem DeviceConfig.SaveAnswers.stage_ne_afterSave
    (answers : SaveAnswers) :
    answers.stage ≠ .afterSave := by
  rw [stage]
  split <;> simp

/-- A save that fails has done to the chip what its stage says. -/
theorem describes_refused
    {answers : SaveAnswers} {conf : DeviceConfig} {new : Record}
    {trace : List ConfigAction}
    (represents : conf.Represents new)
    (incomplete : ¬ answers.Complete) :
    answers.stage.Describes flash new
      { flash := (saveConfig flash answers conf).flash
        trace := trace
        success := false } := by
  have failing := mt SaveAnswers.stage_eq_succeeds_iff.mp incomplete
  rw [flash_saveConfig]
  rcases answers with ⟨buf, erase, write⟩
  cases buf with
  | none =>
      exact ⟨rfl, rfl⟩
  | some buf =>
      cases erase with
      | failed erased =>
          cases erased with
          | false =>
              exact ⟨rfl, rfl⟩
          | true =>
              exact ⟨rfl, conf, represents, rfl⟩
      | ok =>
          cases write with
          | failed words =>
              exact ⟨rfl, conf, represents, rfl⟩
          | ok =>
              exact absurd rfl failing

theorem Command.stage_of_text
    (text : ∀ type, command ≠ .setType type) :
    command.stage held answers = answers.save.stage := by
  cases command with
  | setType type =>
      exact absurd rfl (text type)
  | setName name | setRoom room | setData argument =>
      rfl

/-- A change of type which reaches its save fails in the save or in the initialisation. -/
theorem Command.stage_of_ready
    {type : DeviceType}
    (new : (Command.setType type).Saves (loaded held answers.load))
    (ready : type = .camera → answers.defaults ≠ none) :
    (Command.setType type).stage held answers =
      if answers.save.Complete then
        if answers.init.Succeed
            ((Command.setType type).update (loaded held answers.load)) then
          .succeeds
        else
          .afterSave
      else
        answers.save.stage := by
  have reached : ¬ (type = .camera ∧ answers.defaults = none) :=
    fun failed => ready failed.1 failed.2
  simp only [stage, if_neg new, if_neg reached]
  by_cases complete : answers.save.Complete
  · rw [if_pos complete, SaveAnswers.stage_eq_succeeds_iff.mpr complete]
  · rw [if_neg complete]
    have failing := mt SaveAnswers.stage_eq_succeeds_iff.mp complete
    split
    · rename_i succeeds
      exact absurd succeeds failing
    · rfl

/-- A call fails where its answers say, and has done to the chip what the stage says. -/
theorem stage_describes
    (holds : Holds flash held)
    (command : Command) (answers : SetAnswers) :
    (command.stage held answers).Describes flash
      (command.update (loaded held answers.load))
      (command.perform flash answers) := by
  have start := represents_loadConfig holds answers.load
  have calls := performed command start
  generalize command.perform flash answers = call at calls
  cases calls with
  | unchanged type already same heap =>
      subst already
      have stage :
          (Command.setType type).stage held answers = .succeeds :=
        if_pos same
      rw [stage]
      rfl
  | withoutDefaults camera new full quiet =>
      subst camera
      have stage :
          (Command.setType .camera).stage held answers = .beforeErase :=
        (if_neg new).trans (if_pos ⟨rfl, full⟩)
      rw [stage]
      exact ⟨rfl, rfl⟩
  | refused conf represents new ready incomplete quiet =>
      have stage : command.stage held answers = answers.save.stage := by
        cases command with
        | setType type =>
            have ready' : type = .camera → answers.defaults ≠ none :=
              fun camera => ready (congrArg Command.setType camera)
            rw [Command.stage_of_ready new ready', if_neg incomplete]
        | setName name | setRoom room | setData argument =>
            rfl
      rw [stage]
      exact describes_refused represents incomplete
  | stored conf represents complete text wrote =>
      rw [Command.stage_of_text text,
        SaveAnswers.stage_eq_succeeds_iff.mpr complete]
      rfl
  | initialised conf type represents retyped new ready complete wrote =>
      subst retyped
      have ready' : type = .camera → answers.defaults ≠ none :=
        fun camera => ready (congrArg Command.setType camera)
      have stores :=
        represents.stores_changed_type flash new complete
      have updated := Command.update_setType new
      have init :=
        deviceInit_of_stores stores (by rw [updated.1, updated.2])
          answers.init
      rw [Command.stage_of_ready new ready', if_pos complete]
      by_cases succeed :
          answers.init.Succeed
            ((Command.setType type).update (loaded held answers.load))
      · rw [if_pos succeed]
        exact init.1.mpr succeed
      · rw [if_neg succeed]
        exact ⟨Bool.eq_false_iff.mpr (mt init.1.mp succeed), stores⟩

theorem Stage.Describes.failed
    {stage : Stage} {new : Record} {call : ConfigCall}
    (describes : stage.Describes flash new call)
    (fails : stage ≠ .succeeds) :
    call.success = false := by
  cases stage with
  | succeeds =>
      exact absurd rfl fails
  | beforeErase | afterWords words | afterSave =>
      exact describes.1

/-- Only a command that saves can fail. -/
theorem Command.saves_of_fails
    (fails : command.stage held answers ≠ .succeeds) :
    command.Saves (loaded held answers.load) := by
  cases command with
  | setType type =>
      intro same
      exact fails (if_pos same)
  | setName name | setRoom room | setData argument =>
      trivial

/-- Only a change of type fails after its save. -/
theorem Command.setType_of_afterSave
    (after : command.stage held answers = .afterSave) :
    ∃ type, command = .setType type := by
  cases command with
  | setType type =>
      exact ⟨type, rfl⟩
  | setName name | setRoom room | setData argument =>
      exact absurd after answers.save.stage_ne_afterSave

end Stages

/-! ## What is left of the configuration -/

/-- The failed call leaves on the chip what was held before it. -/
def Stage.Leaves (stage : Stage) (held : Option Record) (new : Record) : Prop :=
  match stage with
  | .succeeds | .beforeErase => True
  | .afterWords words =>
      match held with
      | none => words = 0
      | some old =>
          headerWords ≤ words ∧ new.contents.torn words = old.contents
  | .afterSave => False

/-- When an unfinished save leaves what was held before. -/
theorem holds_afterWords_iff
    {held : Option Record} {conf : DeviceConfig} {new : Record}
    (fits : (held.getD .blank).Fits)
    (represents : conf.Represents new)
    (flash : Flash) (words : Nat) :
    Holds (conf.afterWords flash words) held ↔
      (Stage.afterWords words).Leaves held new := by
  cases held with
  | none =>
      change alreadyExists (conf.afterWords flash words) true = false ↔ _
      rw [DeviceConfig.alreadyExists_afterWords, decide_eq_false_iff_not,
        Nat.not_lt, Nat.le_zero]
      rfl
  | some old =>
      have fits' : old.contents.Fits := fits
      change Stores (conf.afterWords flash words) old.contents ↔ _
      rw [represents.sound.stores_afterWords_iff flash words (Or.inr fits'),
        represents.contents_eq]
      rfl

/-- A chip holds at most one record. -/
theorem held_of_stores
    {flash : Flash} {held : Option Record} {record : Record}
    (stores : Stores flash record.contents)
    (holds : Holds flash held) :
    held = some record := by
  rcases (stores_iff flash record.contents).mp stores with ⟨found, equal, _⟩
  cases held with
  | none =>
      change alreadyExists flash true = false at holds
      rw [found] at holds
      cases holds
  | some old =>
      rcases (stores_iff flash old.contents).mp holds with ⟨_, equal', _⟩
      rw [Record.contents_inj.mp (equal'.symm.trans equal)]

/-! ## A failed change of type, and the same change again -/

/-- The allocator initialises no device. -/
theorem type_eq_none_of_heap
    {type : DeviceType} {trace : List ConfigAction}
    (heap : trace.all ConfigAction.isHeap = true)
    (initialised : InitialisedAs type trace) :
    type = .none := by
  have noDriver (type : DeviceType) : .driverInit type true ∉ trace := by
    intro member
    have isHeap := List.all_eq_true.mp heap _ member
    cases isHeap
  cases type with
  | none =>
      rfl
  | temperature | heater | lighting =>
      exact absurd initialised (noDriver _)
  | camera =>
      exact absurd initialised.1 (noDriver _)

section Retry

variable
    {flash : Flash} {held : Option Record} {type : DeviceType}

/-- While another type is stored, a change of type that succeeds initialises the device. -/
theorem initialised_of_setType
    (holds : Holds flash held)
    (new : (Command.setType type).Saves (held.getD .blank))
    (retry : SetAnswers)
    (success : (setType flash retry type).success = true) :
    InitialisedAs type (setType flash retry type).trace := by
  have start := represents_loadConfig holds retry.load
  have calls := performed (.setType type) start
  change Performed _ _ _ _ (setType flash retry type) at calls
  generalize setType flash retry type = call at calls success ⊢
  cases calls with
  | unchanged type' already same heap =>
      cases already
      rcases loaded_eq held retry.load with equal | equal
      · rw [equal] at same
        exact absurd same new
      · rw [same, equal]
        trivial
  | withoutDefaults camera new full quiet =>
      cases success
  | refused conf represents new ready incomplete quiet =>
      cases success
  | stored conf represents complete text wrote =>
      exact absurd rfl (text type)
  | initialised conf type' represents retyped changed ready complete wrote =>
      cases retyped
      have updated := Command.update_setType changed
      have init :=
        deviceInit_of_stores
          (represents.stores_changed_type flash changed complete)
          (by rw [updated.1, updated.2]) retry.init
      have initialised := init.2 (init.1.mp success)
      rw [updated.1] at initialised
      exact initialised.append_left _

/-- When the type is stored already, a change to it that reads the flash does nothing. -/
theorem setType_stored
    (holds : Holds flash held)
    (same : type = (held.getD .blank).type)
    {retry : SetAnswers}
    (served : retry.load.Served) :
    (setType flash retry type).success = true ∧
      (setType flash retry type).trace.all ConfigAction.isHeap = true := by
  have start := represents_loadConfig holds retry.load
  rw [loaded_of_served served] at start
  have calls := performed (.setType type) start
  change Performed _ _ _ _ (setType flash retry type) at calls
  generalize setType flash retry type = call at calls ⊢
  cases calls with
  | unchanged type' already same heap =>
      exact ⟨rfl, heap⟩
  | withoutDefaults camera new full quiet =>
      cases camera
      exact absurd same new
  | refused conf represents new ready incomplete quiet =>
      exact absurd same new
  | stored conf represents complete text wrote =>
      exact absurd rfl (text type)
  | initialised conf type' represents retyped new ready complete wrote =>
      exact absurd same new

end Retry

/-! ## Exactly the failures that change nothing -/

/--
What is asked of a command that fails: the configuration stored before is
still there, and if the command was a change of type, the same change does not
succeed later without an initialisation.
-/
structure ChangesNothing
    (flash : Flash) (held : Option Record)
    (command : Command) (answers : SetAnswers) : Prop where
  unchanged :
    (command.perform flash answers).success = false →
      Holds (command.perform flash answers).flash held
  retried :
    ∀ type, command = .setType type →
      (command.perform flash answers).success = false →
        ∀ retry : SetAnswers,
          (setType (command.perform flash answers).flash retry
              type).success = true →
            InitialisedAs type
              (setType (command.perform flash answers).flash retry type).trace

section

variable
    {flash : Flash} {held : Option Record}
    {command : Command} {answers : SetAnswers}

/-- A failed call has left what was held exactly when its stage does. -/
theorem holds_of_stage_iff
    (holds : Holds flash held)
    (fits : (held.getD .blank).Fits)
    (new : command.Saves (held.getD .blank))
    (fails : command.stage held answers ≠ .succeeds) :
    Holds (command.perform flash answers).flash held ↔
      (command.stage held answers).Leaves held
        (command.update (loaded held answers.load)) := by
  have describes := stage_describes holds command answers
  cases stage : command.stage held answers with
  | succeeds =>
      exact absurd stage fails
  | beforeErase =>
      rw [stage] at describes
      rw [describes.2]
      exact iff_of_true holds trivial
  | afterWords words =>
      rw [stage] at describes
      rcases describes with ⟨_, conf, represents, equal⟩
      rw [equal]
      exact holds_afterWords_iff fits represents flash words
  | afterSave =>
      rw [stage] at describes
      rcases Command.setType_of_afterSave stage with ⟨type, rfl⟩
      refine iff_of_false ?_ id
      intro kept
      have changed := Command.saves_of_fails fails
      rw [held_of_stores describes.2 kept] at new
      exact new (Command.update_setType changed).1.symm

/-- A call that fails without leaving what was held changes something. -/
theorem not_changesNothing
    (holds : Holds flash held)
    (fits : (held.getD .blank).Fits)
    (new : command.Saves (held.getD .blank))
    (fails : command.stage held answers ≠ .succeeds)
    (lost :
      ¬ (command.stage held answers).Leaves held
        (command.update (loaded held answers.load))) :
    ¬ ChangesNothing flash held command answers := by
  intro changes
  have failed := (stage_describes holds command answers).failed fails
  have kept := changes.unchanged failed
  exact lost ((holds_of_stage_iff holds fits new fails).mp kept)

/--
A failed command changes nothing exactly if it does not fail, or if it asks for
another record than the stored one and fails where that leaves the stored one.
-/
theorem failed_change_changes_nothing_iff
    (holds : Holds flash held)
    (fits : (held.getD .blank).Fits) :
    ChangesNothing flash held command answers ↔
      command.stage held answers = .succeeds ∨
        command.Saves (held.getD .blank) ∧
          (command.stage held answers).Leaves held
            (command.update (loaded held answers.load)) := by
  have describes := stage_describes holds command answers
  by_cases succeeds : command.stage held answers = .succeeds
  · rw [succeeds] at describes
    change (command.perform flash answers).success = true at describes
    refine iff_of_true ?_ (Or.inl succeeds)
    constructor
    · intro failed
      rw [describes] at failed
      cases failed
    · intro type _ failed
      rw [describes] at failed
      cases failed
  · have failed := describes.failed succeeds
    have changed := Command.saves_of_fails succeeds
    constructor
    · intro changes
      have kept := changes.unchanged failed
      have new : command.Saves (held.getD .blank) := by
        cases command with
        | setType type =>
            intro same
            rcases setType_stored kept same silentCamera_served.load with
              ⟨success, heap⟩
            have none :=
              type_eq_none_of_heap heap
                (changes.retried type rfl failed silentCamera success)
            rcases loaded_eq held answers.load with equal | equal
            · rw [equal] at changed
              exact changed same
            · rw [equal] at changed
              exact changed none
        | setName name | setRoom room | setData argument =>
            trivial
      exact
        Or.inr ⟨new, (holds_of_stage_iff holds fits new succeeds).mp kept⟩
    · rintro (succeeds' | ⟨new, leaves⟩)
      · exact absurd succeeds' succeeds
      · have kept := (holds_of_stage_iff holds fits new succeeds).mpr leaves
        constructor
        · exact fun _ => kept
        · rintro type rfl _ retry success
          exact initialised_of_setType kept new retry success

end

/-! ## A lamp that fails to become something else -/

theorem lamp_fits :
    lamp.Fits := by
  change 76 + (flashAlignLen 0).toNat ≤ sectorSize
  decide

/-- The write of the new configuration fails at its first word. -/
def failingWrite : SetAnswers :=
  { silentCamera with
    save := { buf := some 3, erase := .ok, write := .failed 0 } }

/-- A name for the lamp. -/
def deskName : CString where
  bytes := [68, 101, 115, 107]
  nonzero := by decide

/--
A name whose write fails takes the whole configuration with it.  A camera that
does not answer its reset is stored as a camera, and the next attempt succeeds
without another initialisation.
-/
theorem lamp_lost :
    Holds lampFlash (some lamp) ∧
      ¬ ChangesNothing lampFlash (some lamp) (.setName deskName)
          failingWrite ∧
        ¬ ChangesNothing lampFlash (some lamp) (.setType .camera)
            silentCamera ∧
          (setType lampFlash silentCamera .camera).success = false ∧
            (setType (setType lampFlash silentCamera .camera).flash
                silentCamera .camera).success = true ∧
              ¬ InitialisedAs .camera
                  (setType (setType lampFlash silentCamera .camera).flash
                    silentCamera .camera).trace := by
  have unnamed :
      (Command.setName deskName).stage (some lamp) failingWrite =
        .afterWords 0 := by
    rfl
  have silent :
      (Command.setType .camera).stage (some lamp) silentCamera =
        .afterSave := by
    decide
  have renamed : (Command.setName deskName).Saves lamp := trivial
  have new : (Command.setType .camera).Saves lamp := by
    decide
  have describes :=
    stage_describes lampFlash_holds (.setType .camera) silentCamera
  rw [silent] at describes
  have camera :
      Holds (setType lampFlash silentCamera .camera).flash
        (some
          ((Command.setType .camera).update
            (loaded (some lamp) silentCamera.load))) :=
    describes.2
  have again := setType_stored camera rfl silentCamera_served.load
  refine
    ⟨lampFlash_holds, ?_, ?_, describes.1, again.1, ?_⟩
  · apply not_changesNothing lampFlash_holds lamp_fits renamed
    · rw [unnamed]
      simp
    · rw [unnamed]
      rintro ⟨complete, _⟩
      exact absurd complete (by decide)
  · apply not_changesNothing lampFlash_holds lamp_fits new
    · rw [silent]
      simp
    · rw [silent]
      exact id
  · intro initialised
    cases type_eq_none_of_heap again.2 initialised

theorem failed_change_changes_nothing_iff_lamp :
    ChangesNothing lampFlash (some lamp) (.setName deskName)
      { silentCamera with
        save := { buf := none, erase := .ok, write := .ok } } :=
  (failed_change_changes_nothing_iff lampFlash_holds lamp_fits).mpr
    (Or.inr ⟨trivial, trivial⟩)

end EspFirmware
