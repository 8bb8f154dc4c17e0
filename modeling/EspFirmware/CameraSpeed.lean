import EspFirmware.ConfigStore
import EspFirmware.FailedChange
import EspFirmware.Library.Transition
import EspFirmware.SampleTiming

/-!
# The speed of the camera

`Camera_set_baud_rate` sends the new speed to the camera and follows it at
once, before the camera has answered, and goes back to the old one in no
case.  Only when the camera has answered is the speed saved, so that
`DeviceInit` goes back to the last speed which was.
-/

namespace EspFirmware

open Library DeviceConfig

/-! ## The driver -/

/--
What a change of the speed reads and writes: the flash, the static variables
of `software_uart.c`, and those of `camera.c` which say how the camera is
connected.
-/
structure CameraLine where
  flash : Flash
  uart : Uart
  timing : UartTiming
  gpioRxPin : UInt8
  gpioTxPin : UInt8
  baudRate : UInt32
  gpioCameraRx : UInt8
  gpioCameraTx : UInt8

/-- A `struct camera_data` as it lies in memory. -/
def cameraDataOf (baud : UInt32) (rx tx : UInt8) : List UInt8 :=
  wordBytes baud ++ [rx, tx, 0, 0]

theorem length_cameraDataOf (baud : UInt32) (rx tx : UInt8) :
    (cameraDataOf baud rx tx).length = 8 := by
  rw [cameraDataOf, List.length_append, length_wordBytes]
  rfl

/-- The numbers which `Camera_set_baud_rate` sends for a speed. -/
def baudDivisor (baud : UInt32) : Option (UInt8 × UInt8) :=
  if baud = 9600 then some (0xae, 0xc8)
  else if baud = 19200 then some (0x56, 0xe4)
  else if baud = 38400 then some (0x2a, 0xf2)
  else if baud = 57600 then some (0x1c, 0x4c)
  else if baud = 115200 then some (0x0d, 0xa6)
  else none

/-- The exchange of `Camera_set_baud_rate`. -/
def setBaudRateExchange (divisor : UInt8 × UInt8) : Exchange where
  command := [0x56, 0x00, 0x24, 0x03, 0x01, divisor.1, divisor.2]
  success := [0x76, 0x00, 0x24, 0x00, 0x00]
  responseSize := 5

/--
The outcomes of the calls of `Camera_set_baud_rate`, and the place of `data`
in the frame of `camera_save_config`.
-/
structure BaudRateInput where
  exchange : ExchangeInput
  data : Nat
  set : SetAnswers
deriving DecidableEq

/-- The line after a call, and its result; a `return` without a value leaves it open. -/
structure BaudRateCall where
  line : CameraLine
  result : Option Int

/-- The line after `DeviceInit`, whether `Camera_init` returned 0, and whether `DeviceInit` did. -/
structure LineInit where
  line : CameraLine
  initialised : Bool
  success : Bool

namespace CameraLine

/-- `software_uart_config`. -/
def softwareUartConfig (line : CameraLine) (baud : UInt32) (rxPin txPin : UInt8) :
    CameraLine :=
  if baud = 0 then line
  else
    { line with
      timing := line.timing.softwareUartConfig baud
      gpioRxPin := rxPin
      gpioTxPin := txPin }

/-- `camera_save_config`: the chip afterwards, and whether it returned 0. -/
def cameraSaveConfig (line : CameraLine) (input : BaudRateInput) : ConfigCall :=
  setData line.flash input.set
    (some
      { address := input.data
        bytes :=
          cameraDataOf line.baudRate line.gpioCameraRx line.gpioCameraTx })
    cameraDataSize

/-- The end of `Camera_set_baud_rate`: a speed which the camera has accepted is saved. -/
def concludeBaudRate
    (line : CameraLine) (input : BaudRateInput) (outcome : ExchangeOutcome) :
    BaudRateCall :=
  let line := { line with uart := outcome.uart }
  if outcome.result ≠ 0 then
    { line, result := some outcome.result }
  else
    let save := line.cameraSaveConfig input
    { line := { line with flash := save.flash }
      result := some (if save.success then 0 else 1) }

/-- `Camera_set_baud_rate`, which has no outcome while it waits. -/
def cameraSetBaudRate
    (line : CameraLine) (baud : UInt32) (input : BaudRateInput) :
    Option BaudRateCall :=
  match baudDivisor baud with
  | none => some { line, result := none }
  | some divisor =>
      let exchange := setBaudRateExchange divisor
      match
        line.uart.createRxBuffer input.exchange.create exchange.responseSize
          .null with
      | (uart, none) => some { line := { line with uart }, result := some (-1) }
      | (uart, some index) =>
          let sent := requested uart index exchange input.exchange
          let line := { line with uart := sent, baudRate := baud }
          let line :=
            line.softwareUartConfig line.baudRate line.gpioCameraRx
              line.gpioCameraTx
          (waitResponse input.exchange.clock line.uart
            input.exchange.polls).map fun waited =>
              line.concludeBaudRate input
                (concludeExchange exchange index input.exchange.late waited)

/--
`Camera_init`, and whether it returned 0.  The pins are looked at when they
are assigned already.
-/
def cameraInit (line : CameraLine) (conf : DeviceConfig) : CameraLine × Bool :=
  if conf.dataLen ≠ cameraDataSize then
    (line, false)
  else
    let dat := (conf.data.getD .null).bytes
    let line :=
      { line with
        baudRate := UInt32.ofNat (ofLittleEndian (dat.take 4))
        gpioCameraRx := dat.getD 4 0
        gpioCameraTx := dat.getD 5 0 }
    if line.gpioCameraRx ≠ 5 ∨ line.gpioCameraTx ≠ 4 then
      (line, false)
    else
      (line.softwareUartConfig line.baudRate line.gpioCameraRx
        line.gpioCameraTx, true)

/-- `DeviceInit`, as far as it concerns the camera. -/
def deviceInit (line : CameraLine) (answers : LoadAnswers) (input : ExchangeInput) :
    Option LineInit :=
  if alreadyExists line.flash answers.guard then
    match (readConfig line.flash answers.read).result with
    | none => some { line, initialised := false, success := false }
    | some conf =>
        match DeviceType.ofCode conf.type with
        | some .camera =>
            let init := line.cameraInit conf
            if init.2 then
              (cameraReset init.1.uart input).map fun (outcome : ExchangeOutcome) =>
                { line := { init.1 with uart := outcome.uart }
                  initialised := true
                  success := decide (outcome.result = 0) }
            else
              some { line := init.1, initialised := false, success := false }
        | some .temperature | some .heater | some .lighting | some .none
        | none =>
            some { line, initialised := false, success := true }
  else
    some { line, initialised := false, success := false }

end CameraLine

/-! ## Runs -/

/-- `Camera_set_baud_rate` is called, or `DeviceInit` runs. -/
inductive LineStep where
  | setBaudRate (baud : UInt32) (input : BaudRateInput)
  | deviceInit (answers : LoadAnswers) (input : ExchangeInput)

/-- What a step is known by: its argument and its result. -/
inductive LineEntry where
  | setBaudRate (baud : UInt32) (result : Option Int)
  | deviceInit (initialised : Bool)
deriving DecidableEq

/-- The line, and what was done to it. -/
structure LineWorld where
  line : CameraLine
  log : List LineEntry

/-- The step function of the line; a call which still waits is not a step. -/
def LineWorld.next (world : LineWorld) : LineStep → Option LineWorld
  | .setBaudRate baud input =>
      (world.line.cameraSetBaudRate baud input).map fun call =>
        { line := call.line
          log := world.log ++ [.setBaudRate baud call.result] }
  | .deviceInit answers input =>
      (world.line.deviceInit answers input).map fun init =>
        { line := init.line
          log := world.log ++ [.deviceInit init.initialised] }

/-- A line as a transition system. -/
def lineSystem (line : CameraLine) : System LineWorld LineStep where
  start := { line, log := [] }
  next := LineWorld.next

/-! ## Two speeds -/

/-- The speed of the driver, and the speed which the flash holds. -/
structure CameraSpeeds where
  running : UInt32
  stored : UInt32
deriving DecidableEq

namespace CameraSpeeds

/--
A speed which is saved counts for both, and one which is not for the driver
alone.  `DeviceInit` goes back to the stored speed.
-/
def after (speeds : CameraSpeeds) : LineEntry → CameraSpeeds
  | .setBaudRate baud result =>
      if result = some 0 then { running := baud, stored := baud }
      else if result = some 1 then { speeds with running := baud }
      else speeds
  | .deviceInit initialised =>
      if initialised then { speeds with running := speeds.stored } else speeds

/-- The speeds after all that was done. -/
def afterAll (speeds : CameraSpeeds) (log : List LineEntry) : CameraSpeeds :=
  log.foldl after speeds

theorem afterAll_concat
    (speeds : CameraSpeeds) (log : List LineEntry) (entry : LineEntry) :
    speeds.afterAll (log ++ [entry]) = (speeds.afterAll log).after entry := by
  rw [afterAll, afterAll, List.foldl_append]
  rfl

end CameraSpeeds

/-- The speed which a call has saved. -/
def LineEntry.saved : LineEntry → Option UInt32
  | .setBaudRate baud result => if result = some 0 then some baud else none
  | .deviceInit _ => none

/-- The stored speed is the last one which was saved. -/
theorem CameraSpeeds.stored_afterAll
    (speeds : CameraSpeeds) (log : List LineEntry) :
    (speeds.afterAll log).stored =
      (log.filterMap LineEntry.saved).getLast?.getD speeds.stored := by
  induction log using List.reverseRecOn with
  | nil =>
      rfl
  | append_singleton log entry induction =>
      rw [afterAll_concat, List.filterMap_append, List.getLast?_append]
      cases entry with
      | setBaudRate baud result =>
          by_cases saved : result = some 0
          · simp [after, LineEntry.saved, saved]
          · by_cases failed : result = some 1
            · simp [after, LineEntry.saved, failed, induction]
            · simp [after, LineEntry.saved, saved, failed, induction]
      | deviceInit initialised =>
          cases initialised <;> simp [after, LineEntry.saved, induction]

/-- The record of a camera at a speed. -/
def cameraRecord (name room : Chars 32) (baud : UInt32) : Record where
  name := name
  room := room
  type := .camera
  data := cameraDataOf baud 5 4
  addressable := by
    rw [length_cameraDataOf]
    decide

/-- The driver runs at one speed, and the flash holds the record of a camera at the other. -/
structure CameraLine.HasSpeeds
    (line : CameraLine) (name room : Chars 32) (speeds : CameraSpeeds) :
    Prop where
  baudRate : line.baudRate = speeds.running
  timing :
    line.timing =
      { baudRate := speeds.running, bitDelay := 1000000 / speeds.running }
  rxPin : line.gpioRxPin = 5
  txPin : line.gpioTxPin = 4
  cameraRx : line.gpioCameraRx = 5
  cameraTx : line.gpioCameraTx = 4
  stored : Holds line.flash (some (cameraRecord name room speeds.stored))
  valid : speeds.stored ≠ 0

/-- The reads succeed, and a save which fails does so before the sector is erased. -/
def LineStep.Served : LineStep → Prop
  | .setBaudRate _ input =>
      input.set.load.Succeed cameraDataSize ∧
        (input.set.save.stage = .succeeds ∨
          input.set.save.stage = .beforeErase)
  | .deviceInit _ _ => True

/-! ### The stored speed -/

section

variable
    {line : CameraLine} {name room : Chars 32}
    {baud : UInt32} {speeds : CameraSpeeds}

theorem dataLen_cameraRecord (name room : Chars 32) (baud : UInt32) :
    (cameraRecord name room baud).contents.dataLen = cameraDataSize := by
  change UInt32.ofNat (cameraDataOf baud 5 4).length = _
  rw [length_cameraDataOf]
  rfl

theorem fits_cameraRecord (name room : Chars 32) (baud : UInt32) :
    (cameraRecord name room baud).Fits := by
  change 76 + (flashAlignLen (cameraRecord name room baud).contents.dataLen).toNat ≤
    sectorSize
  rw [dataLen_cameraRecord]
  decide

/-- What `camera_save_config` passes to `DeviceConfig_set_data`. -/
def CameraLine.dataArgument (line : CameraLine) (input : BaudRateInput) :
    DataArgument where
  data :=
    some
      { address := input.data
        bytes :=
          cameraDataOf line.baudRate line.gpioCameraRx line.gpioCameraTx }
  len := cameraDataSize
  inside := by
    intro buffer present
    cases present
    rw [length_cameraDataOf]
    exact Nat.le_refl 8
  addressable := by decide

theorem CameraLine.update_dataArgument
    {input : BaudRateInput}
    (rx : line.gpioCameraRx = 5) (tx : line.gpioCameraTx = 4) :
    (Command.setData (line.dataArgument input)).update
        (cameraRecord name room baud) =
      cameraRecord name room line.baudRate := by
  have bytes :
      (line.dataArgument input).bytes = cameraDataOf line.baudRate 5 4 := by
    change (cameraDataOf line.baudRate line.gpioCameraRx
      line.gpioCameraTx).take 8 = _
    rw [rx, tx]
    exact List.take_of_length_le (Nat.le_of_eq (length_cameraDataOf _ _ _))
  simp only [Command.update, cameraRecord, bytes]

/-- The driver's speed is what is saved, and all else of the record stays. -/
theorem CameraLine.cameraSaveConfig_stores
    {input : BaudRateInput}
    (holds : Holds line.flash (some (cameraRecord name room baud)))
    (rx : line.gpioCameraRx = 5) (tx : line.gpioCameraTx = 4)
    (read : input.set.load.Succeed cameraDataSize)
    (complete : input.set.save.stage = .succeeds) :
    (line.cameraSaveConfig input).success = true ∧
      Holds (line.cameraSaveConfig input).flash
        (some (cameraRecord name room line.baudRate)) := by
  have describes :=
    stage_describes holds (.setData (line.dataArgument input)) input.set
  have stage :
      Command.stage (.setData (line.dataArgument input))
          (some (cameraRecord name room baud)) input.set =
        .succeeds :=
    complete
  rw [stage] at describes
  refine ⟨describes, ?_⟩
  have start := represents_loadConfig holds input.set.load
  have kept :
      loaded (some (cameraRecord name room baud)) input.set.load =
        cameraRecord name room baud := by
    rw [loaded, dataLen_cameraRecord, if_pos read]
  rw [kept] at start
  have calls := performed (.setData (line.dataArgument input)) start
  change Holds
    ((Command.setData (line.dataArgument input)).perform line.flash
      input.set).flash _
  have success :
      ((Command.setData (line.dataArgument input)).perform line.flash
        input.set).success = true :=
    describes
  generalize
    (Command.setData (line.dataArgument input)).perform line.flash
      input.set = call at calls success ⊢
  cases calls with
  | stored conf represents complete text wrote =>
      rw [update_dataArgument rx tx] at represents
      exact
        holds_of_represents represents (fits_cameraRecord _ _ _) complete
  | unchanged type already same heap =>
      cases already
  | withoutDefaults camera new full quiet =>
      cases camera
  | refused conf represents new ready incomplete quiet =>
      cases success
  | initialised conf type represents retyped new ready complete wrote =>
      cases retyped

/-- A save which fails before the sector is erased changes nothing. -/
theorem CameraLine.cameraSaveConfig_refused
    {input : BaudRateInput}
    (holds : Holds line.flash (some (cameraRecord name room baud)))
    (refused : input.set.save.stage = .beforeErase) :
    (line.cameraSaveConfig input).success = false ∧
      (line.cameraSaveConfig input).flash = line.flash := by
  have describes :=
    stage_describes holds (.setData (line.dataArgument input)) input.set
  have stage :
      Command.stage (.setData (line.dataArgument input))
          (some (cameraRecord name room baud)) input.set =
        .beforeErase :=
    refused
  rw [stage] at describes
  exact describes

/-! ### Back to the stored speed -/

/-- The configuration which `DeviceInit` reads of a camera. -/
theorem stored_cameraRecord
    {flash : Flash}
    (stores : Stores flash (cameraRecord name room baud).contents)
    (address : Nat) :
    (stored flash address).dataLen = cameraDataSize ∧
      DeviceType.ofCode (stored flash address).type = some .camera ∧
        (stored flash address).data =
          some { address, bytes := cameraDataOf baud 5 4 } := by
  rcases (stores_iff flash _).mp stores with ⟨_, equal, _⟩
  have len : storedLen flash = cameraDataSize :=
    (congrArg Contents.dataLen equal).trans (dataLen_cameraRecord _ _ _)
  have type : (stored flash address).type = DeviceType.camera.code :=
    congrArg Contents.type equal
  have whole :
      (storedContents flash).data =
        readRange flash deviceConfigDataAddr 8 := by
    simp only [storedContents, len]
    exact List.take_of_length_le (Nat.le_of_eq (length_readRange _ _ _))
  have bytes :
      readRange flash deviceConfigDataAddr 8 = cameraDataOf baud 5 4 :=
    whole.symm.trans (congrArg Contents.data equal)
  refine ⟨len, ?_, ?_⟩
  · rw [type, DeviceType.ofCode_code]
  · simp only [stored, len]
    rw [← bytes]
    rfl

/-- The line when `Camera_init` has read this speed. -/
def CameraLine.connected (line : CameraLine) (baud : UInt32) : CameraLine :=
  { line with
    timing := { baudRate := baud, bitDelay := 1000000 / baud }
    gpioRxPin := 5
    gpioTxPin := 4
    baudRate := baud
    gpioCameraRx := 5
    gpioCameraTx := 4 }

/-- `Camera_init` reads the speed back from its bytes. -/
theorem CameraLine.cameraInit_eq
    {conf : DeviceConfig} {address : Nat}
    (len : conf.dataLen = cameraDataSize)
    (data : conf.data = some { address, bytes := cameraDataOf baud 5 4 })
    (valid : baud ≠ 0) :
    line.cameraInit conf = (line.connected baud, true) := by
  have fits : baud.toNat < 256 ^ 4 := baud.toNat_lt
  have speed :
      UInt32.ofNat (ofLittleEndian ((cameraDataOf baud 5 4).take 4)) =
        baud := by
    have front : (cameraDataOf baud 5 4).take 4 = wordBytes baud :=
      List.take_left' (length_wordBytes baud)
    rw [front, wordBytes, ofLittleEndian_toLittleEndian fits,
      UInt32.ofNat_toNat]
  have rx : (cameraDataOf baud 5 4).getD 4 0 = 5 := rfl
  have tx : (cameraDataOf baud 5 4).getD 5 0 = 4 := rfl
  rw [cameraInit, if_neg (not_not_intro len)]
  simp only [data, Option.getD_some, speed, rx, tx]
  simp [softwareUartConfig, UartTiming.softwareUartConfig, connected, valid]

/-- `DeviceInit` brings the stored speed back, unless it cannot read it. -/
theorem CameraLine.deviceInit_cases
    {answers : LoadAnswers} {input : ExchangeInput} {init : LineInit}
    (holds : Holds line.flash (some (cameraRecord name room baud)))
    (valid : baud ≠ 0)
    (returned : line.deviceInit answers input = some init) :
    init.initialised = false ∧ init.line = line ∨
      init.initialised = true ∧
        ∃ uart, init.line = { line.connected baud with uart } := by
  rw [deviceInit] at returned
  by_cases found : alreadyExists line.flash answers.guard = true
  · rw [if_pos found, result_readConfig] at returned
    by_cases succeed : answers.read.Succeed (storedLen line.flash)
    · rcases stored_cameraRecord holds (answers.read.block.getD 0) with
        ⟨len, type, data⟩
      simp only [if_pos succeed, type, cameraInit_eq len data valid, if_true,
        Option.map_eq_some_iff] at returned
      rcases returned with ⟨outcome, _, rfl⟩
      exact Or.inr ⟨rfl, outcome.uart, rfl⟩
    · simp only [if_neg succeed, Option.some.injEq] at returned
      subst returned
      exact Or.inl ⟨rfl, rfl⟩
  · rw [if_neg found, Option.some.injEq] at returned
    subst returned
    exact Or.inl ⟨rfl, rfl⟩

theorem CameraLine.cameraInit_result (line : CameraLine) (conf : DeviceConfig) :
    (line.cameraInit conf).2 = (DeviceConfig.cameraInit conf).result := by
  rw [cameraInit, DeviceConfig.cameraInit]
  split
  · rfl
  · dsimp only
    split <;> rfl

/-- The driver's side of `DeviceInit` is that of the configuration. -/
theorem CameraLine.deviceInit_agrees
    {answers : LoadAnswers} {input : ExchangeInput} {init : LineInit}
    (returned : line.deviceInit answers input = some init) :
    ∃ reset,
      (DeviceConfig.deviceInit line.flash { load := answers, reset }).result =
          init.success ∧
        (.driverInit .camera true ∈
            (DeviceConfig.deviceInit line.flash
              { load := answers, reset }).trace ↔
          init.initialised = true) := by
  have heap := readConfig_heap line.flash answers.read
  have unread :
      .driverInit .camera true ∉ (readConfig line.flash answers.read).trace := by
    intro member
    cases List.all_eq_true.mp heap _ member
  have uninitialised (conf : DeviceConfig) :
      .driverInit .camera true ∉ (DeviceConfig.cameraInit conf).trace := by
    rw [DeviceConfig.cameraInit]
    split
    · exact List.not_mem_nil
    · dsimp only
      split <;> simp
  simp only [deviceInit] at returned
  simp only [DeviceConfig.deviceInit]
  by_cases found : alreadyExists line.flash answers.guard = true
  · rw [if_pos found] at returned
    simp only [if_pos found]
    cases read : (readConfig line.flash answers.read).result with
    | none =>
        simp only [read, Option.some.injEq] at returned
        subst returned
        exact ⟨false, rfl, by simp [unread]⟩
    | some conf =>
        simp only [read] at returned
        simp only [initDriver]
        cases code : DeviceType.ofCode conf.type with
        | none =>
            simp only [code, Option.some.injEq] at returned
            subst returned
            exact ⟨false, rfl, by simp [unread]⟩
        | some type =>
            cases type with
            | camera =>
                simp only [code] at returned
                by_cases initialised : (line.cameraInit conf).2 = true
                · rw [if_pos initialised, Option.map_eq_some_iff] at returned
                  rcases returned with ⟨outcome, _, rfl⟩
                  refine ⟨decide (outcome.result = 0), ?_⟩
                  simp [← cameraInit_result line conf, initialised]
                · rw [if_neg initialised, Option.some.injEq] at returned
                  subst returned
                  refine ⟨false, ?_⟩
                  simp [← cameraInit_result line conf, initialised, unread,
                    uninitialised conf]
            | none | temperature | heater | lighting =>
                simp only [code, Option.some.injEq] at returned
                subst returned
                exact ⟨false, rfl, by simp [unread]⟩
  · rw [if_neg found, Option.some.injEq] at returned
    subst returned
    simp [if_neg found]

/-! ### A change of the speed -/

theorem baudDivisor_ne_zero
    {divisor : UInt8 × UInt8}
    (known : baudDivisor baud = some divisor) :
    baud ≠ 0 := by
  rintro rfl
  cases known

theorem result_concludeExchange
    (exchange : Exchange) (index : Nat) (late : List UInt8) (waited : Waited) :
    (concludeExchange exchange index late waited).result = 0 ∨
      (concludeExchange exchange index late waited).result = 1 := by
  rw [concludeExchange]
  cases waited.full with
  | true =>
      rw [if_pos rfl]
      exact ite_eq_or_eq _ _ _
  | false =>
      exact Or.inr rfl

namespace CameraLine.HasSpeeds

/-- The driver follows a speed before the camera has answered. -/
theorem follow
    (has : line.HasSpeeds name room speeds)
    (uart : Uart) (valid : baud ≠ 0) :
    ({ line with uart, baudRate := baud }.softwareUartConfig baud
        line.gpioCameraRx line.gpioCameraTx).HasSpeeds name room
      { speeds with running := baud } := by
  rw [softwareUartConfig, if_neg valid, UartTiming.softwareUartConfig,
    if_neg valid]
  exact
    { baudRate := rfl
      timing := rfl
      rxPin := has.cameraRx
      txPin := has.cameraTx
      cameraRx := has.cameraRx
      cameraTx := has.cameraTx
      stored := has.stored
      valid := has.valid }

theorem withUart
    (has : line.HasSpeeds name room speeds) (uart : Uart) :
    { line with uart }.HasSpeeds name room speeds :=
  { has with }

/-- The speed which the driver follows counts as stored when it was saved. -/
theorem save
    {input : BaudRateInput}
    (has : line.HasSpeeds name room { speeds with running := baud })
    (valid : baud ≠ 0)
    (served : (LineStep.setBaudRate baud input).Served) :
    { line with flash := (line.cameraSaveConfig input).flash }.HasSpeeds name
      room
      (speeds.after
        (.setBaudRate baud
          (some
            (if (line.cameraSaveConfig input).success then 0 else 1)))) := by
  rcases served.2 with complete | refused
  · have saved :=
      cameraSaveConfig_stores has.stored has.cameraRx has.cameraTx served.1
        complete
    rw [saved.1]
    exact { has with stored := has.baudRate ▸ saved.2, valid := valid }
  · have kept := cameraSaveConfig_refused has.stored refused
    rw [kept.1]
    exact { has with stored := kept.2.symm ▸ has.stored }

/-- It is saved when the camera has accepted it. -/
theorem conclude
    {input : BaudRateInput} {outcome : ExchangeOutcome}
    (has : line.HasSpeeds name room { speeds with running := baud })
    (valid : baud ≠ 0)
    (served : (LineStep.setBaudRate baud input).Served)
    (results : outcome.result = 0 ∨ outcome.result = 1) :
    (line.concludeBaudRate input outcome).line.HasSpeeds name room
      (speeds.after
        (.setBaudRate baud (line.concludeBaudRate input outcome).result)) := by
  have ended := has.withUart outcome.uart
  rw [concludeBaudRate]
  rcases results with answered | failed
  · rw [if_neg (not_not_intro answered)]
    exact ended.save valid served
  · have nonzero : outcome.result ≠ 0 := by
      rw [failed]
      exact Int.one_ne_zero
    rw [if_pos nonzero, failed]
    exact ended

/-- A call of `Camera_set_baud_rate` does to the speeds what its result says. -/
theorem setBaudRate
    {input : BaudRateInput} {call : BaudRateCall}
    (has : line.HasSpeeds name room speeds)
    (served : (LineStep.setBaudRate baud input).Served)
    (returned : line.cameraSetBaudRate baud input = some call) :
    call.line.HasSpeeds name room
      (speeds.after (.setBaudRate baud call.result)) := by
  rw [cameraSetBaudRate] at returned
  cases known : baudDivisor baud with
  | none =>
      simp only [known, Option.some.injEq] at returned
      subst returned
      exact has
  | some divisor =>
      simp only [known, Uart.createRxBuffer_eq] at returned
      by_cases granted :
          input.exchange.create.grants (setBaudRateExchange divisor).responseSize =
            true
      · simp only [if_pos granted, Option.map_eq_some_iff] at returned
        rcases returned with ⟨waited, _, rfl⟩
        have valid := baudDivisor_ne_zero known
        exact
          (has.follow _ valid).conclude valid served
            (result_concludeExchange _ _ _ waited)
      · simp only [if_neg granted, Option.some.injEq] at returned
        subst returned
        exact has.withUart _

/-- `DeviceInit` does to the speeds what it says. -/
theorem deviceInit
    {answers : LoadAnswers} {input : ExchangeInput} {init : LineInit}
    (has : line.HasSpeeds name room speeds)
    (returned : line.deviceInit answers input = some init) :
    init.line.HasSpeeds name room
      (speeds.after (.deviceInit init.initialised)) := by
  rcases deviceInit_cases has.stored has.valid returned with
    ⟨initialised, same⟩ | ⟨initialised, uart, connected⟩
  · rw [initialised, same]
    exact has
  · rw [initialised, connected]
    exact
      { baudRate := rfl
        timing := rfl
        rxPin := rfl
        txPin := rfl
        cameraRx := rfl
        cameraTx := rfl
        stored := has.stored
        valid := has.valid }

end CameraLine.HasSpeeds

/-- One step does to the speeds what its entry says. -/
theorem hasSpeeds_next
    {world next : LineWorld} {step : LineStep}
    (has : world.line.HasSpeeds name room (speeds.afterAll world.log))
    (served : step.Served)
    (taken : world.next step = some next) :
    next.line.HasSpeeds name room (speeds.afterAll next.log) := by
  cases step with
  | setBaudRate baud input =>
      rw [LineWorld.next, Option.map_eq_some_iff] at taken
      rcases taken with ⟨call, returned, rfl⟩
      rw [CameraSpeeds.afterAll_concat]
      exact has.setBaudRate served returned
  | deviceInit answers input =>
      rw [LineWorld.next, Option.map_eq_some_iff] at taken
      rcases taken with ⟨init, returned, rfl⟩
      rw [CameraSpeeds.afterAll_concat]
      exact has.deviceInit returned

theorem hasSpeeds_run
    {world last : LineWorld} {steps : List LineStep}
    (has : world.line.HasSpeeds name room (speeds.afterAll world.log))
    (served : ∀ step ∈ steps, step.Served)
    (ran : (lineSystem line).run world steps = some last) :
    last.line.HasSpeeds name room (speeds.afterAll last.log) := by
  induction steps generalizing world with
  | nil =>
      cases ran
      exact has
  | cons step rest induction =>
      rw [System.run, Option.bind_eq_some_iff] at ran
      rcases ran with ⟨next, taken, ranRest⟩
      exact
        induction (hasSpeeds_next has (served step List.mem_cons_self) taken)
          (fun step member => served step (List.mem_cons_of_mem _ member))
          ranRest

/--
Whatever the camera answers, and when: the driver and the flash keep to the
two speeds which the results of the calls stand for, and the stored one is
that of the last call which returned 0.
-/
theorem camera_speeds_kept
    {world : LineWorld} {steps : List LineStep}
    (has : line.HasSpeeds name room speeds)
    (served : ∀ step ∈ steps, step.Served)
    (ran :
      (lineSystem line).run (lineSystem line).start steps = some world) :
    world.line.HasSpeeds name room (speeds.afterAll world.log) ∧
      (speeds.afterAll world.log).stored =
        (world.log.filterMap LineEntry.saved).getLast?.getD speeds.stored :=
  ⟨hasSpeeds_run has served ran, speeds.stored_afterAll world.log⟩

end

/-! ### A camera which stops answering -/

/-- The configuration of a camera without a name. -/
def namelessCamera : DeviceConfig where
  name := .zeros 32
  room := .zeros 32
  type := 4
  dataLen := 8
  data := some { address := 1, bytes := cameraDataOf 38400 5 4 }

/-- Its driver when `Camera_init` has returned. -/
def startedLine : CameraLine where
  flash := (saveConfig (fun _ => 0xFF) silentCamera.save namelessCamera).flash
  uart := .boot
  timing := .boot
  gpioRxPin := 5
  gpioTxPin := 4
  baudRate := 38400
  gpioCameraRx := 5
  gpioCameraTx := 4

theorem startedLine_hasSpeeds :
    startedLine.HasSpeeds (.zeros 32) (.zeros 32)
      { running := 38400, stored := 38400 } where
  baudRate := rfl
  timing := rfl
  rxPin := rfl
  txPin := rfl
  cameraRx := rfl
  cameraTx := rfl
  stored := by
    have represents :
        namelessCamera.Represents
          (cameraRecord (.zeros 32) (.zeros 32) 38400) := by
      refine ⟨⟨by decide, ?_⟩, rfl⟩
      intro data present
      cases present
      exact Nat.le_refl 8
    exact
      holds_of_represents represents (fits_cameraRecord _ _ _)
        silentCamera_served.save
  valid := by decide

/-- An exchange in which these bytes arrive before the first test, which comes after so many ticks. -/
def firstPoll (bytes : List UInt8) (ticks : UInt32) : BaudRateInput where
  exchange :=
    { create := { heapSize := 1000, buffer := true, bufferStruct := true }
      installed := []
      early := []
      clock := 0
      polls := [{ bytes, ticks }]
      late := [] }
  data := 7
  set := silentCamera

theorem served_firstPoll (baud : UInt32) (bytes : List UInt8) (ticks : UInt32) :
    (LineStep.setBaudRate baud (firstPoll bytes ticks)).Served := by
  refine ⟨?_, Or.inl rfl⟩
  exact silentCamera_served.load.succeed _

/-- The first change is accepted, and nothing answers the second one. -/
def speedChanges : List LineStep :=
  [.setBaudRate 9600 (firstPoll [0x76, 0x00, 0x24, 0x00, 0x00] 1),
    .setBaudRate 19200 (firstPoll [] 4000)]

theorem camera_speeds_kept_changes :
    ∃ world,
      (lineSystem startedLine).run (lineSystem startedLine).start
          speedChanges = some world ∧
        world.line.HasSpeeds (.zeros 32) (.zeros 32)
          { running := 19200, stored := 9600 } := by
  have served : ∀ step ∈ speedChanges, step.Served := by
    intro step member
    simp only [speedChanges, List.mem_cons, List.not_mem_nil, or_false]
      at member
    rcases member with rfl | rfl <;> exact served_firstPoll _ _ _
  refine ⟨_, rfl, ?_⟩
  exact (camera_speeds_kept startedLine_hasSpeeds served rfl).1

end EspFirmware
