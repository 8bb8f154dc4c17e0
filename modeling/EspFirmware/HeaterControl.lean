import EspFirmware.DeviceSteps

/-!
# The heater does only what it was last told

Whenever the stored device is a heater, GPIO2 is low exactly while `heater.c`
holds the heater to be on.  The pin comes from other drivers when the type is
changed: this goes wrong when the PWM unit was started before, or when the new
type is stored but `Heater_init` does not run and the pin is as another driver
has left it.
-/

namespace EspFirmware

open Library DeviceConfig

/-! ## Traces and drivers -/

/-- The trace calls none of the functions which initialise a driver. -/
def drivesNothing (trace : List ConfigAction) : Bool :=
  trace.all fun
    | .driverInit _ _ => false
    | _ => true

@[simp]
theorem drivesNothing_append (left right : List ConfigAction) :
    drivesNothing (left ++ right) =
      (drivesNothing left && drivesNothing right) :=
  List.all_append

theorem drivesNothing_of_heap
    {trace : List ConfigAction}
    (heap : trace.all ConfigAction.isHeap = true) :
    drivesNothing trace = true := by
  rw [List.all_eq_true] at heap
  rw [drivesNothing, List.all_eq_true]
  intro action member
  have isHeap := heap action member
  cases action with
  | driverInit type success =>
      cases isHeap
  | _ =>
      rfl

@[simp]
theorem drivesNothing_osFree (data : Option Buffer) :
    drivesNothing (osFree data) = true := by
  cases data <;> rfl

theorem drivesNothing_saveConfig
    (flash : Flash) (answers : SaveAnswers) (conf : DeviceConfig) :
    drivesNothing (saveConfig flash answers conf).trace = true := by
  cases buf : answers.buf <;> simp [saveConfig, buf, drivesNothing]

theorem drivesNothing_defaults
    (config : DeviceConfig) (type : DeviceType) (block : Option Nat) :
    drivesNothing (deviceSetDefaultData config type block).trace = true := by
  cases type with
  | camera =>
      cases block <;> rfl
  | none | temperature | heater | lighting =>
      rfl

namespace Drivers

/-- Such a trace leaves the drivers alone. -/
theorem performAll_drivesNothing
    (drivers : Drivers) {trace : List ConfigAction}
    (quiet : drivesNothing trace = true) :
    drivers.performAll (configEffects trace) = drivers := by
  induction trace with
  | nil =>
      rfl
  | cons action rest induction =>
      rw [drivesNothing, List.all_cons, Bool.and_eq_true] at quiet
      have same : drivers.perform (.config action) = drivers := by
        cases action with
        | driverInit type success =>
            cases quiet.1
        | _ =>
            rfl
      change (drivers.perform (.config action)).performAll _ = drivers
      rw [same]
      exact induction quiet.2

theorem performAll_configEffects_append
    (drivers : Drivers) (front back : List ConfigAction) :
    drivers.performAll (configEffects (front ++ back)) =
      (drivers.performAll (configEffects front)).performAll
        (configEffects back) := by
  rw [configEffects, List.map_append, performAll_append]
  rfl

/-- What the drivers of a device type are initialised to. -/
def initialised (drivers : Drivers) : Option DeviceType → Drivers
  | some .heater => drivers.heaterInit
  | some .lighting => drivers.lightingInit
  | some .temperature | some .camera | some .none | none => drivers

theorem performAll_initDriver
    (drivers : Drivers) (conf : DeviceConfig) (reset : Bool) :
    drivers.performAll (configEffects (initDriver conf reset).trace) =
      drivers.initialised (DeviceType.ofCode conf.type) := by
  cases type : DeviceType.ofCode conf.type with
  | none =>
      simp [initDriver, type, initialised, configEffects]
  | some known =>
      cases known with
      | camera =>
          simp only [initDriver, type, initialised, cameraInit]
          split
          · rfl
          · split <;> rfl
      | none | temperature | heater | lighting =>
          simp [initDriver, type, initialised, configEffects, perform]

/-- `DeviceInit` initialises the driver of the stored device, if it can read the configuration. -/
theorem performAll_deviceInit
    (drivers : Drivers) (flash : Flash) (answers : InitAnswers) :
    drivers.performAll (configEffects (deviceInit flash answers).trace) =
      if answers.load.Succeed (storedLen flash) then
        drivers.initialised (storedType flash)
      else
        drivers := by
  have heap := readConfig_heap flash answers.load.read
  have read := result_readConfig flash answers.load.read
  have quiet :=
    drivers.performAll_drivesNothing (drivesNothing_of_heap heap)
  cases guard : answers.load.guard with
  | false =>
      have absent : alreadyExists flash false = false := rfl
      simp [deviceInit, guard, absent, configEffects, LoadAnswers.Succeed]
  | true =>
      cases found : alreadyExists flash true with
      | false =>
          simp [deviceInit, guard, found, configEffects, storedType,
            initialised]
      | true =>
          by_cases succeed : answers.load.read.Succeed (storedLen flash)
          · rw [if_pos succeed] at read
            simp only [deviceInit, guard, found, if_true, read]
            rw [performAll_configEffects_append, quiet,
              performAll_initDriver]
            simp [LoadAnswers.Succeed, guard, succeed, storedType, found,
              stored]
          · rw [if_neg succeed] at read
            simp only [deviceInit, guard, found, if_true, read]
            rw [quiet]
            simp [LoadAnswers.Succeed, succeed]

end Drivers

/-! ## The stored type -/

namespace DeviceConfig

/-- The setters start from the stored type, or from none. -/
theorem ofCode_type_loadConfig (flash : Flash) (answers : LoadAnswers) :
    DeviceType.ofCode (loadConfig flash answers).result.type =
        some DeviceType.none ∨
      DeviceType.ofCode (loadConfig flash answers).result.type =
        storedType flash := by
  have read := result_readConfig flash answers.read
  cases guard : answers.guard with
  | false =>
      have absent : alreadyExists flash false = false := rfl
      simp only [loadConfig, guard, absent]
      exact Or.inl rfl
  | true =>
      cases found : alreadyExists flash true with
      | false =>
          simp only [loadConfig, guard, found]
          exact Or.inl rfl
      | true =>
          simp only [loadConfig, guard, found, if_true, read]
          by_cases succeed : answers.read.Succeed (storedLen flash)
          · rw [if_pos succeed, storedType, found, if_pos rfl]
            exact Or.inr rfl
          · rw [if_neg succeed]
            exact Or.inl rfl

/-- A save programs the type, and the guard before it. -/
def SaveAnswers.ReachesType (answers : SaveAnswers) : Prop :=
  match answers.buf, answers.erase, answers.write with
  | some _, .ok, .ok => True
  | some _, .ok, .failed words => typeWords ≤ words
  | _, _, _ => False

instance (answers : SaveAnswers) : Decidable answers.ReachesType := by
  unfold SaveAnswers.ReachesType
  split <;> infer_instance

theorem SaveAnswers.Complete.reachesType
    {answers : SaveAnswers}
    (complete : answers.Complete) :
    answers.ReachesType := by
  rcases answers with ⟨buf, erase, write⟩
  rcases complete with ⟨allocated, rfl, rfl⟩
  rcases Option.isSome_iff_exists.mp allocated with ⟨address, rfl⟩
  trivial

theorem typeWords_le_length_savedBuffer (conf : DeviceConfig) :
    typeWords ≤ conf.savedBuffer.length := by
  rcases conf.savedBuffer_header with ⟨rest, equal⟩
  rw [equal, List.length_append, Contents.length_header, typeWords]
  omega

/-- A save which completes stores the type. -/
theorem storedType_of_complete
    {answers : SaveAnswers}
    (flash : Flash) (conf : DeviceConfig)
    (complete : answers.Complete) :
    storedType (saveConfig flash answers conf).flash =
      DeviceType.ofCode conf.type := by
  rcases answers with ⟨buf, erase, write⟩
  rcases complete with ⟨allocated, rfl, rfl⟩
  rcases Option.isSome_iff_exists.mp allocated with ⟨address, rfl⟩
  rw [flash_saveConfig]
  simp only [SaveAnswers.words]
  rw [storedType_afterWords,
    if_pos (typeWords_le_length_savedBuffer conf)]

/-- The stored type after a save. -/
theorem storedType_saveConfig
    (flash : Flash) (answers : SaveAnswers) (conf : DeviceConfig) :
    storedType (saveConfig flash answers conf).flash = storedType flash ∨
      storedType (saveConfig flash answers conf).flash = none ∨
        answers.ReachesType ∧
          storedType (saveConfig flash answers conf).flash =
            DeviceType.ofCode conf.type := by
  by_cases complete : answers.Complete
  · exact
      Or.inr
        (Or.inr
          ⟨complete.reachesType, storedType_of_complete flash conf complete⟩)
  · rw [flash_saveConfig]
    rcases answers with ⟨buf, erase, write⟩
    cases buf with
    | none =>
        exact Or.inl rfl
    | some buf =>
        cases erase with
        | failed erased =>
            cases erased with
            | false =>
                exact Or.inl rfl
            | true =>
                refine Or.inr (Or.inl ?_)
                simp only [SaveAnswers.words]
                rw [storedType_afterWords, if_neg (by decide)]
        | ok =>
            cases write with
            | failed words =>
                simp only [SaveAnswers.words]
                rw [storedType_afterWords]
                by_cases reached : typeWords ≤ words
                · rw [if_pos reached]
                  exact Or.inr (Or.inr ⟨reached, rfl⟩)
                · rw [if_neg reached]
                  exact Or.inr (Or.inl rfl)
            | ok =>
                exact absurd ⟨rfl, rfl, rfl⟩ complete

/-- A text field is set. -/
theorem saveAndFree_quiet
    (flash : Flash) (answers : SetAnswers) (conf : DeviceConfig)
    {loaded : List ConfigAction}
    (quiet : drivesNothing loaded = true) :
    drivesNothing (saveAndFree flash answers loaded conf).trace = true ∧
      (saveAndFree flash answers loaded conf).flash =
        (saveConfig flash answers.save conf).flash := by
  have saves := drivesNothing_saveConfig flash answers.save conf
  simp only [saveAndFree]
  split
  · exact ⟨by simp [quiet, saves], rfl⟩
  · exact ⟨by simp [quiet, saves], rfl⟩

/-- What `DeviceConfig_set_type` can do, whatever the flash holds. -/
inductive Retyped (flash : Flash) (answers : SetAnswers) (type : DeviceType) :
    ConfigCall → Prop where
  | kept {trace : List ConfigAction} {success : Bool}
      (quiet : drivesNothing trace = true) :
      Retyped flash answers type { flash, trace, success }
  | torn {conf : DeviceConfig} {trace : List ConfigAction} {success : Bool}
      (typed : conf.type = type.code)
      (incomplete : ¬ answers.save.Complete)
      (quiet : drivesNothing trace = true) :
      Retyped flash answers type
        { flash := (saveConfig flash answers.save conf).flash
          trace
          success }
  | changed {conf : DeviceConfig} {front : List ConfigAction}
      {success : Bool}
      (typed : conf.type = type.code)
      (bare : type ≠ .camera → conf.dataLen = 0 ∧ conf.data = none)
      (complete : answers.save.Complete)
      (quiet : drivesNothing front = true) :
      Retyped flash answers type
        { flash := (saveConfig flash answers.save conf).flash
          trace :=
            front ++
              (deviceInit (saveConfig flash answers.save conf).flash
                answers.init).trace
          success }

theorem retyped_setType
    (flash : Flash) (answers : SetAnswers) (type : DeviceType) :
    Retyped flash answers type (setType flash answers type) := by
  have loaded := drivesNothing_of_heap (loadConfig_heap flash answers.load)
  simp only [setType]
  split
  · exact .kept loaded
  · have defaults :=
      drivesNothing_defaults
        { (loadConfig flash answers.load).result with
          data := none, dataLen := 0 }
        type answers.defaults
    split
    · exact .kept (by simp [loaded, defaults])
    · next config filled =>
        have bare :
            type ≠ .camera → config.dataLen = 0 ∧ config.data = none := by
          intro other
          cases type with
          | camera =>
              exact absurd rfl other
          | none | temperature | heater | lighting =>
              cases filled
              exact ⟨rfl, rfl⟩
        have saves :=
          drivesNothing_saveConfig flash answers.save
            { config with type := type.code }
        have success :=
          success_saveConfig flash answers.save
            { config with type := type.code }
        by_cases complete : answers.save.Complete
        · rw [decide_eq_true complete] at success
          rw [if_pos success]
          exact
            .changed rfl bare complete
              (by simp [loaded, defaults, saves])
        · rw [decide_eq_false complete] at success
          rw [if_neg (by simp [success])]
          exact .torn rfl complete (by simp [loaded, defaults, saves])

/-- After a complete save of a configuration without data, no data is read. -/
theorem storedLen_of_bare
    {answers : SaveAnswers} {conf : DeviceConfig}
    (flash : Flash)
    (complete : answers.Complete)
    (bare : conf.dataLen = 0 ∧ conf.data = none) :
    storedLen (saveConfig flash answers conf).flash = 0 := by
  have sound : conf.Sound := by
    refine ⟨?_, ?_⟩
    · rw [bare.1]
      decide
    · rw [bare.2]
      simp
  have fits : conf.contents.Fits := by
    change 76 + (flashAlignLen conf.dataLen).toNat ≤ sectorSize
    rw [bare.1]
    decide
  rw [sound.storedLen_saveConfig fits complete, bare.1]

end DeviceConfig

/-! ## The heater -/

namespace Drivers

/-- The heater is on only if it was last turned on. -/
def Commanded (drivers : Drivers) : Prop :=
  drivers.heater = .heaterOn →
    drivers.lastHeaterOperation = some .heaterTurnOn

/-- The heater is powered exactly while it is held to be on. -/
def PinFollows (drivers : Drivers) : Prop :=
  drivers.gpio2 = false ↔ drivers.heater = .heaterOn

instance (drivers : Drivers) : Decidable drivers.PinFollows :=
  inferInstanceAs (Decidable (_ ↔ _))

/-- The PWM unit is stopped, and the pin follows the heater. -/
structure Steered (drivers : Drivers) : Prop where
  stopped : drivers.pwmStarted = false
  pin : drivers.PinFollows

theorem commanded_heaterInit (drivers : Drivers) :
    drivers.heaterInit.Commanded := by
  intro on
  cases on

theorem pinFollows_heaterInit (drivers : Drivers) :
    drivers.heaterInit.PinFollows := by
  simp [PinFollows, heaterInit]

theorem Commanded.initialised
    {drivers : Drivers}
    (commanded : drivers.Commanded) (type : Option DeviceType) :
    (drivers.initialised type).Commanded := by
  cases type with
  | none =>
      exact commanded
  | some type =>
      cases type with
      | heater =>
          exact drivers.commanded_heaterInit
      | none | temperature | lighting | camera =>
          exact commanded

/-- A command for the stored device keeps what is known of the heater. -/
theorem Commanded.deviceEffects
    {drivers : Drivers}
    (commanded : drivers.Commanded) (type : Option DeviceType)
    (cmd params : List UInt8) :
    (drivers.performAll (deviceEffects type cmd params)).Commanded := by
  cases type with
  | none =>
      exact commanded
  | some type =>
      cases type with
      | none | camera =>
          exact commanded
      | temperature | lighting =>
          simp only [EspFirmware.deviceEffects]
          repeat' split
          all_goals exact commanded
      | heater =>
          simp only [EspFirmware.deviceEffects]
          split
          · intro on
            cases on
          · split
            · simp only [performAll_cons, performAll_nil, perform,
                heaterTurnOn]
              split
              · intro on
                rfl
              · intro on
                rfl
            · exact commanded

theorem Steered.deviceEffects
    {drivers : Drivers}
    (steered : drivers.Steered) (cmd params : List UInt8) :
    (drivers.performAll
      (deviceEffects (some .heater) cmd params)).Steered := by
  rcases steered with ⟨stopped, pin⟩
  simp only [EspFirmware.deviceEffects]
  split
  · exact ⟨stopped, by simp [perform, PinFollows, heaterTurnOff]⟩
  · split
    · simp only [performAll_cons, performAll_nil, perform, heaterTurnOn]
      split
      · exact ⟨stopped, pin⟩
      · exact ⟨stopped, by simp [PinFollows]⟩
    · exact ⟨stopped, pin⟩

end Drivers

/-- What is kept true of the heater. -/
structure HeaterInvariant (flash : Flash) (drivers : Drivers) : Prop where
  commanded : drivers.Commanded
  steered : storedType flash = some .heater → drivers.Steered

namespace HeaterInvariant

variable {flash after : Flash} {drivers : Drivers}

/-- A flash which says no more about the device changes nothing. -/
theorem weaken
    (invariant : HeaterInvariant flash drivers)
    (stored :
      storedType after = some .heater → storedType flash = some .heater) :
    HeaterInvariant after drivers :=
  ⟨invariant.commanded, fun heater => invariant.steered (stored heater)⟩

/-- `DeviceInit` keeps it. -/
theorem deviceInit
    (invariant : HeaterInvariant flash drivers)
    (answers : InitAnswers) :
    HeaterInvariant flash
      (drivers.performAll
        (configEffects (deviceInit flash answers).trace)) := by
  rw [drivers.performAll_deviceInit]
  split
  · refine ⟨invariant.commanded.initialised _, ?_⟩
    intro heater
    rw [heater]
    exact
      ⟨(invariant.steered heater).stopped,
        drivers.pinFollows_heaterInit⟩
  · exact invariant

/-- A text field is set. -/
theorem setText
    (invariant : HeaterInvariant flash drivers)
    (answers : SetAnswers) (conf : DeviceConfig) (reply : CommandEffect)
    (typed : conf.type = (loadConfig flash answers.load).result.type)
    (silent : ∀ drivers : Drivers, drivers.perform reply = drivers) :
    HeaterInvariant
      (saveAndFree flash answers (loadConfig flash answers.load).trace
        conf).flash
      (drivers.performAll
        (configEffects
            (saveAndFree flash answers (loadConfig flash answers.load).trace
              conf).trace ++
          [reply])) := by
  have loaded := drivesNothing_of_heap (loadConfig_heap flash answers.load)
  rcases saveAndFree_quiet flash answers conf loaded with ⟨quiet, saved⟩
  rw [Drivers.performAll_append, drivers.performAll_drivesNothing quiet,
    Drivers.performAll_cons, Drivers.performAll_nil, silent, saved]
  apply invariant.weaken
  intro heater
  rcases storedType_saveConfig flash answers.save conf with
    same | missing | ⟨-, typedAfter⟩
  · rw [← same]
    exact heater
  · rw [missing] at heater
    cases heater
  · rw [typedAfter, typed] at heater
    rcases ofCode_type_loadConfig flash answers.load with none | stored
    · rw [none] at heater
      cases heater
    · rw [← stored]
      exact heater

end HeaterInvariant

/-! ## Changes of the type -/

/--
A change of the type to a heater finds the PWM unit stopped.  `Heater_init`
runs, or the pin is as the heater is held to be.
-/
def HeaterReady (drivers : Drivers) (answers : SetAnswers) : Prop :=
  drivers.pwmStarted = false ∧
    (answers.save.Complete ∧ answers.init.load.Succeed 0 ∨
      drivers.PinFollows)

instance (drivers : Drivers) (answers : SetAnswers) :
    Decidable (HeaterReady drivers answers) :=
  inferInstanceAs (Decidable (_ ∧ (_ ∧ _ ∨ _)))

/-- `DeviceConfig_set_type` keeps the invariant, if a new heater is ready. -/
theorem HeaterInvariant.setType
    {flash : Flash} {drivers : Drivers}
    (invariant : HeaterInvariant flash drivers)
    (answers : SetAnswers) (type : DeviceType)
    (ready :
      type = .heater → storedType flash ≠ some .heater →
        answers.save.ReachesType → HeaterReady drivers answers) :
    HeaterInvariant (setType flash answers type).flash
      (drivers.performAll
        (configEffects (setType flash answers type).trace)) := by
  have step := retyped_setType flash answers type
  generalize DeviceConfig.setType flash answers type = call at step
  cases step with
  | kept quiet =>
      rw [drivers.performAll_drivesNothing quiet]
      exact invariant
  | @torn conf trace success typed incomplete quiet =>
      rw [drivers.performAll_drivesNothing quiet]
      refine ⟨invariant.commanded, ?_⟩
      intro heater
      by_cases before : storedType flash = some .heater
      · exact invariant.steered before
      · rcases storedType_saveConfig flash answers.save conf with
          same | missing | ⟨reached, typedAfter⟩
        · rw [same] at heater
          exact absurd heater before
        · rw [missing] at heater
          cases heater
        · rw [typedAfter, typed, DeviceType.ofCode_code] at heater
          cases heater
          rcases ready rfl before reached with ⟨stopped, init | pin⟩
          · exact absurd init.1 incomplete
          · exact ⟨stopped, pin⟩
  | @changed conf front success typed bare complete quiet =>
      have after := storedType_of_complete flash conf complete
      rw [typed, DeviceType.ofCode_code] at after
      rw [Drivers.performAll_configEffects_append,
        drivers.performAll_drivesNothing quiet,
        drivers.performAll_deviceInit, after]
      refine ⟨?_, ?_⟩
      · split
        · exact invariant.commanded.initialised _
        · exact invariant.commanded
      · intro heater
        rw [after] at heater
        cases heater
        have empty := storedLen_of_bare flash complete (bare (by decide))
        rw [empty]
        have stopped : drivers.pwmStarted = false := by
          by_cases before : storedType flash = some .heater
          · exact (invariant.steered before).stopped
          · exact (ready rfl before complete.reachesType).1
        split
        · exact ⟨stopped, drivers.pinFollows_heaterInit⟩
        · next failed =>
            refine ⟨stopped, ?_⟩
            by_cases before : storedType flash = some .heater
            · exact (invariant.steered before).pin
            · rcases ready rfl before complete.reachesType with
                ⟨-, init | pin⟩
              · exact absurd init.2 failed
              · exact pin

/-! ## Commands -/

namespace Drivers

theorem performAll_network (drivers : Drivers) (actions : List WifiAction) :
    drivers.performAll (actions.map .network) = drivers := by
  induction actions with
  | nil =>
      rfl
  | cons action rest induction =>
      exact induction

theorem performAll_reply (drivers : Drivers) (reply : Option (List UInt8)) :
    drivers.performAll (reply.toList.map .sendReply) = drivers := by
  cases reply <;> rfl

theorem performAll_power (drivers : Drivers) (high low : List UInt8) :
    drivers.performAll (powerEffects high low) = drivers := by
  unfold powerEffects
  split
  · split <;> rfl
  · rfl

end Drivers

/-- What the command `Type` must meet, when it asks for a heater. -/
def SetsHeaterReady
    (flash : Flash) (drivers : Drivers) (command : TcpCommand)
    (answers : SetAnswers) : Prop :=
  command = .setType (ascii "Heater") →
    storedType flash ≠ some .heater →
      answers.save.ReachesType → HeaterReady drivers answers

instance
    (flash : Flash) (drivers : Drivers) (command : TcpCommand)
    (answers : SetAnswers) :
    Decidable (SetsHeaterReady flash drivers command answers) :=
  inferInstanceAs (Decidable (_ → _ → _ → _))

theorem typeOfName_eq_heater
    {params : List UInt8}
    (heater : typeOfName params = some .heater) :
    params = ascii "Heater" := by
  simp only [typeOfName] at heater
  split at heater
  · cases heater
  · split at heater
    · assumption
    · split at heater
      · cases heater
      · split at heater <;> cases heater

namespace HeaterInvariant

variable {flash : Flash} {drivers : Drivers}

theorem runDevice
    {camera : Camera} {conn : Conn} {cmd params : List UInt8}
    {input : CommandInput} {run : CommandRun}
    (invariant : HeaterInvariant flash drivers)
    (ran : runDevice flash camera conn cmd params input = some run) :
    HeaterInvariant run.flash (drivers.performAll run.effects) := by
  have reads :=
    drivers.performAll_drivesNothing
      (drivesNothing_of_heap (readConfig_heap flash input.load.read))
  have frees (drivers : Drivers) (data : Option Buffer) :=
    drivers.performAll_drivesNothing (drivesNothing_osFree data)
  cases deviceRan_of_run ran with
  | absent missing =>
      exact invariant
  | unread failed =>
      rw [reads]
      exact invariant
  | camera type loaded returned =>
      rw [Drivers.performAll_append, Drivers.performAll_append, reads,
        Drivers.performAll_reply, frees]
      exact invariant
  | driver other loaded =>
      rw [Drivers.performAll_append, Drivers.performAll_append, reads, frees]
      refine
        ⟨invariant.commanded.deviceEffects (storedType flash) cmd params, ?_⟩
      intro heater
      rw [heater]
      exact (invariant.steered heater).deviceEffects cmd params

/-- Every command keeps the invariant, if a new heater is ready. -/
theorem runCommand
    {camera : Camera} {conn : Conn} {command : TcpCommand}
    {input : CommandInput} {run : CommandRun}
    (invariant : HeaterInvariant flash drivers)
    (ready : SetsHeaterReady flash drivers command input.set)
    (ran : runCommand flash camera conn command input = some run) :
    HeaterInvariant run.flash (drivers.performAll run.effects) := by
  cases command with
  | connectToNetwork ssid password =>
      cases ran
      rw [Drivers.performAll_network]
      exact invariant
  | goBackToAp =>
      simp only [EspFirmware.runCommand, runGoBackToAp] at ran
      split at ran
      · rcases Option.map_eq_some_iff.mp ran with ⟨after, -, rfl⟩
        rw [Drivers.performAll_append, Drivers.performAll_append,
          Drivers.performAll_network]
        exact invariant.deviceInit input.init
      · cases ran
        rw [Drivers.performAll_network]
        exact invariant
  | setName name =>
      cases ran
      exact invariant.setText input.set _ _ rfl fun _ => rfl
  | setRoom room =>
      cases ran
      exact invariant.setText input.set _ _ rfl fun _ => rfl
  | setType params =>
      simp only [EspFirmware.runCommand, runSetType] at ran
      split at ran
      · cases ran
        exact invariant
      · next type named =>
          rcases Option.map_eq_some_iff.mp ran with ⟨after, -, rfl⟩
          rw [Drivers.performAll_append]
          apply invariant.setType input.set type
          rintro rfl
          exact ready (congrArg _ (typeOfName_eq_heater named))
  | macGet =>
      cases ran
      exact invariant
  | power high low =>
      cases ran
      rw [Drivers.performAll_power]
      exact invariant
  | device cmd params =>
      exact invariant.runDevice ran

end HeaterInvariant

/-! ## Runs of the device -/

/-- The heater is powered exactly while it is on, and on only if it was last turned on. -/
def HeaterObeys (device : Device) : Prop :=
  storedType device.flash = some .heater →
    device.drivers.PinFollows ∧ device.drivers.Commanded

/-- A command which makes the device a heater finds it ready. -/
def FindsHeaterReady (device : Device) : DeviceStep → Prop
  | .rx answers =>
      ∀ received ∈ device.received,
        SetsHeaterReady device.flash device.drivers received.command
          answers.input.set
  | _ => True

instance (device : Device) (step : DeviceStep) :
    Decidable (FindsHeaterReady device step) := by
  unfold FindsHeaterReady
  split <;> infer_instance

theorem heaterInvariant_next
    {device after : Device} {step : DeviceStep}
    (invariant : HeaterInvariant device.flash device.drivers)
    (ready : FindsHeaterReady device step)
    (taken : device.next step = some after) :
    HeaterInvariant after.flash after.drivers := by
  cases Device.taken_of_next taken with
  | rxRun dequeued task parsed ran served =>
      have received := Device.received_of_unshift dequeued parsed
      rw [served.after_eq]
      exact invariant.runCommand (ready _ received) ran
  | initDone reset inits served =>
      rw [served.after_eq]
      exact invariant.deviceInit _
  | unlockTimer armed =>
      exact invariant
  | pwm started =>
      refine ⟨invariant.commanded, ?_⟩
      intro heater
      rw [(invariant.steered heater).stopped] at started
      cases started
  | recvCb _ served | sentCb served | rxEmpty served
  | rxIgnored _ served _ | tx served | txDone served | spurious served
  | disconnectCb served | serverClose served | serverInit served
  | byte served =>
      rw [served.after_eq]
      exact invariant

/--
Along every run, from any flash, in which a command that makes the device a
heater finds the PWM unit stopped, and `Heater_init` runs then or the pin is
as the heater is held to be, the heater does only what it was last told.
-/
theorem heater_obeys_if_ready
    (flash : Flash) (steps : List DeviceStep)
    (ready : (deviceSystem flash).Each FindsHeaterReady (.boot flash) steps) :
    (deviceSystem flash).Always HeaterObeys (.boot flash) steps := by
  have start :
      HeaterInvariant (Device.boot flash).flash
        (Device.boot flash).drivers := by
    refine ⟨?_, fun _ => ⟨rfl, ?_⟩⟩
    · intro on
      cases on
    · simp [Drivers.PinFollows, Device.boot, Drivers.boot]
  have implied (device : Device)
      (invariant : HeaterInvariant device.flash device.drivers) :
      HeaterObeys device :=
    fun heater => ⟨(invariant.steered heater).pin, invariant.commanded⟩
  apply ready.always implied _ start
  intro device step after invariant met taken
  exact heaterInvariant_next invariant met taken

/-! ### A lamp which becomes a heater -/

/-- A chip whose sectors are erased. -/
def erasedFlash : Flash :=
  fun _ => 0xFF

/-- A command arrives, and it is carried out. -/
def commandArrives (conn : Conn) (pdata : Segment) : List DeviceStep :=
  [.recvCb conn pdata (some 1) true true, .rx .served]

theorem heater_obeys_if_ready_switchedOn :
    (deviceSystem erasedFlash).Always HeaterObeys (.boot erasedFlash)
      (commandArrives 1 (.ofText "Type:Heater" (by decide)) ++
        commandArrives 1 (.ofText "Heater On" (by decide))) :=
  heater_obeys_if_ready erasedFlash _ (by decide +kernel)

/-- The PWM unit goes on when a dimmed lamp has become a heater. -/
theorem heater_follows_pwm :
    ¬∀ flash steps,
      (deviceSystem flash).Always HeaterObeys (.boot flash) steps := by
  intro always
  have ran :
      ((deviceSystem erasedFlash).run (.boot erasedFlash)
          (commandArrives 1 (.ofText "Type:Lighting" (by decide)) ++
            commandArrives 1 (.ofText "Lighting Set:50" (by decide)) ++
              commandArrives 1 (.ofText "Type:Heater" (by decide)) ++
                [.pwm false])).map
          (fun device =>
            (storedType device.flash, device.drivers.gpio2,
              device.drivers.heater)) =
        some (some .heater, false, .heaterOff) := by
    decide +kernel
  rcases (always erasedFlash _).last_of_map ran with
    ⟨device, observed, obeys⟩
  rw [Prod.mk.injEq, Prod.mk.injEq] at observed
  have follows := (obeys observed.1).1
  rw [Drivers.PinFollows, observed.2.1, observed.2.2] at follows
  cases follows.mp rfl

end EspFirmware
