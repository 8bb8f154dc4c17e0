import EspFirmware.Flash

/-!
# The device configuration of `device_config.c`

Every function takes the flash chip and the outcomes of the calls it makes
that may fail: the reads, the erase and the write of the flash, the answers of
`os_zalloc`, and the response of the camera to a reset.  It answers with the
chip, the trace of its allocations, writes and driver calls, and its result.
Console output and the pin registers of the drivers are left out.
-/

namespace EspFirmware

open Library

/-! ## Data -/

/-- `enum DeviceType_t`. -/
inductive DeviceType where
  | none
  | temperature
  | heater
  | lighting
  | camera
deriving DecidableEq

namespace DeviceType

/-- The value of an enumerator. -/
def code : DeviceType → UInt32
  | none => 0
  | temperature => 1
  | heater => 2
  | lighting => 3
  | camera => 4

/-- The case a `switch` over a device type takes; without one it takes `default`. -/
def ofCode (code : UInt32) : Option DeviceType :=
  if code = 0 then some none
  else if code = 1 then some temperature
  else if code = 2 then some heater
  else if code = 3 then some lighting
  else if code = 4 then some camera
  else Option.none

@[simp]
theorem ofCode_code (type : DeviceType) :
    ofCode type.code = some type := by
  cases type <;> rfl

@[simp]
theorem code_inj {left right : DeviceType} :
    left.code = right.code ↔ left = right := by
  constructor
  · intro equal
    have cases := congrArg ofCode equal
    simpa using cases
  · exact congrArg code

end DeviceType

/-- `struct DeviceConfig`; `data` is the block which the data pointer points to. -/
structure DeviceConfig where
  name : Chars 32
  room : Chars 32
  type : UInt32
  dataLen : UInt32
  data : Option Buffer
deriving DecidableEq

/-- A call to the allocator, the flash or a driver. -/
inductive ConfigAction where
  | osZalloc (size : UInt32) (block : Option Nat)
  | osFree (address : Nat)
  | writeToFlash (addr : Nat) (size : UInt32) (success : Bool)
  | softwareUartConfig (baud : UInt32) (rx tx : UInt8)
  | driverInit (type : DeviceType) (success : Bool)
  | cameraReset (success : Bool)
deriving DecidableEq

/-- A result, and what was done on the way to it. -/
structure Traced (α : Type) where
  trace : List ConfigAction
  result : α

/-- The chip after a call, what the call did, and whether it returned 0. -/
structure ConfigCall where
  flash : Flash
  trace : List ConfigAction
  success : Bool

/-- `os_free` of a pointer that may be null. -/
def osFree (data : Option Buffer) : List ConfigAction :=
  match data with
  | some buffer => [.osFree buffer.address]
  | none => []

/-! ## Layout -/

/-- `DEVICE_CONFIG_NAME_OFFSET`. -/
def deviceConfigNameOffset : Nat := 0

/-- `DEVICE_CONFIG_ROOM_OFFSET`. -/
def deviceConfigRoomOffset : Nat := 32

/-- `DEVICE_CONFIG_TYPE_OFFSET`. -/
def deviceConfigTypeOffset : Nat := 64

/-- `DEVICE_CONFIG_LEN_OFFSET`. -/
def deviceConfigLenOffset : Nat := 68

/-- `DEVICE_CONFIG_DATA_OFFSET`. -/
def deviceConfigDataOffset : Nat := 72

/-- `DEVICE_CONFIG_GUARD_ADDR`. -/
def deviceConfigGuardAddr : Nat := 0x3C000

/-- `DEVICE_CONFIG_GUARD_VALUE`. -/
def deviceConfigGuardValue : UInt32 := 0xDEADBEEF

/-- `DEVICE_CONFIG_BASE_ADDR`. -/
def deviceConfigBaseAddr : Nat := 0x3C004

/-- `DEVICE_CONFIG_NAME_ADDR`. -/
def deviceConfigNameAddr : Nat :=
  deviceConfigBaseAddr + deviceConfigNameOffset

/-- `DEVICE_CONFIG_ROOM_ADDR`. -/
def deviceConfigRoomAddr : Nat :=
  deviceConfigBaseAddr + deviceConfigRoomOffset

/-- `DEVICE_CONFIG_TYPE_ADDR`. -/
def deviceConfigTypeAddr : Nat :=
  deviceConfigBaseAddr + deviceConfigTypeOffset

/-- `DEVICE_CONFIG_LEN_ADDR`. -/
def deviceConfigLenAddr : Nat :=
  deviceConfigBaseAddr + deviceConfigLenOffset

/-- `DEVICE_CONFIG_DATA_ADDR`. -/
def deviceConfigDataAddr : Nat :=
  deviceConfigBaseAddr + deviceConfigDataOffset

/-- `DEVICE_CONFIG_FIXED_LEN`. -/
def deviceConfigFixedLen : UInt32 := 72

/-- `sizeof guard`. -/
def guardSize : Nat := 4

namespace DeviceConfig

/-- A configuration after `os_memset(conf, 0, sizeof *conf)`. -/
def zeroed : DeviceConfig where
  name := .zeros 32
  room := .zeros 32
  type := 0
  dataLen := 0
  data := none

/-! ## Saving and reading -/

/-- `DeviceConfig_already_exists`, with the outcome of its read. -/
def alreadyExists (flash : Flash) (guardRead : Bool) : Bool :=
  match readFromFlash flash guardRead deviceConfigGuardAddr 4 with
  | none => false
  | some guard => guard.word = deviceConfigGuardValue

/-- The size which `DeviceConfig_save_config` allocates and writes. -/
def savedSize (conf : DeviceConfig) : UInt32 :=
  UInt32.ofNat guardSize + deviceConfigFixedLen + flashAlignLen conf.dataLen

/-- The buffer which `DeviceConfig_save_config` fills. -/
def savedBuffer (conf : DeviceConfig) : List UInt8 :=
  let buf := List.replicate conf.savedSize.toNat 0
  let buf := osMemcpy buf 0 (wordBytes deviceConfigGuardValue)
  let buf := osMemcpy buf (guardSize + deviceConfigNameOffset) conf.name.bytes
  let buf := osMemcpy buf (guardSize + deviceConfigRoomOffset) conf.room.bytes
  let buf :=
    osMemcpy buf (guardSize + deviceConfigTypeOffset) (wordBytes conf.type)
  let buf :=
    osMemcpy buf (guardSize + deviceConfigLenOffset) (wordBytes conf.dataLen)
  match conf.data with
  | none => buf
  | some data =>
      if conf.dataLen = 0 then
        buf
      else
        osMemcpy buf (guardSize + deviceConfigDataOffset)
          (data.bytes.take conf.dataLen.toNat)

/-- The outcomes of the calls made by `DeviceConfig_save_config`. -/
structure SaveAnswers where
  buf : Option Nat
  erase : EraseAnswer
  write : WriteAnswer
deriving DecidableEq

/-- `DeviceConfig_save_config`. -/
def saveConfig (flash : Flash) (answers : SaveAnswers) (conf : DeviceConfig) :
    ConfigCall :=
  match answers.buf with
  | none =>
      { flash := flash
        trace := [.osZalloc conf.savedSize none]
        success := false }
  | some buf =>
      let written :=
        writeToFlash flash answers.erase answers.write deviceConfigGuardAddr
          conf.savedBuffer
      { flash := written.1
        trace :=
          [.osZalloc conf.savedSize (some buf),
            .writeToFlash deviceConfigGuardAddr conf.savedSize written.2,
            .osFree buf]
        success := written.2 }

/-- The outcomes of the calls made by `DeviceConfig_read_config`. -/
structure ReadAnswers where
  name : Bool
  room : Bool
  type : Bool
  len : Bool
  block : Option Nat
  data : Bool
deriving DecidableEq

/-- The data block as `DeviceConfig_read_config` reads it, when the length is not zero. -/
def readData (flash : Flash) (answers : ReadAnswers) (dataLen : UInt32) :
    Traced (Option Buffer) :=
  let size := flashAlignLen dataLen
  match answers.block with
  | none =>
      { trace := [.osZalloc size none]
        result := none }
  | some address =>
      match
        readFromFlash flash answers.data deviceConfigDataAddr size.toNat with
      | none =>
          { trace := [.osZalloc size (some address), .osFree address]
            result := none }
      | some data =>
          { trace := [.osZalloc size (some address)]
            result := some { address := address, bytes := data.bytes } }

/-- `DeviceConfig_read_config`; without a result it returned -1 and zeroed the configuration. -/
def readConfig (flash : Flash) (answers : ReadAnswers) :
    Traced (Option DeviceConfig) :=
  match readFromFlash flash answers.name deviceConfigNameAddr 32 with
  | none => { trace := [], result := none }
  | some name =>
      match readFromFlash flash answers.room deviceConfigRoomAddr 32 with
      | none => { trace := [], result := none }
      | some room =>
          match readFromFlash flash answers.type deviceConfigTypeAddr 4 with
          | none => { trace := [], result := none }
          | some type =>
              match readFromFlash flash answers.len deviceConfigLenAddr 4 with
              | none => { trace := [], result := none }
              | some len =>
                  if len.word = 0 then
                    { trace := []
                      result :=
                        some
                          { name := name
                            room := room
                            type := type.word
                            dataLen := len.word
                            data := none } }
                  else
                    let data := readData flash answers len.word
                    { trace := data.trace
                      result :=
                        data.result.map fun block =>
                          { name := name
                            room := room
                            type := type.word
                            dataLen := len.word
                            data := some block } }

/-! ## Drivers -/

/-- `sizeof (struct camera_data)`. -/
def cameraDataSize : UInt32 := 8

/-- `DEFAULT_CAMERA_DATA` as it lies in memory: baud rate, two pins and padding. -/
def defaultCameraData : List UInt8 :=
  wordBytes 38400 ++ [5, 4, 0, 0]

/-- `device_set_default_data`, with the answer to the allocation of `Camera_set_default_data`. -/
def deviceSetDefaultData
    (config : DeviceConfig) (type : DeviceType) (block : Option Nat) :
    Traced (Option DeviceConfig) :=
  match type with
  | .camera =>
      match block with
      | none =>
          { trace := [.osZalloc cameraDataSize none], result := none }
      | some address =>
          { trace := [.osZalloc cameraDataSize (some address)]
            result :=
              some
                { config with
                  data := some { address := address, bytes := defaultCameraData }
                  dataLen := cameraDataSize } }
  | .temperature | .heater | .lighting | .none =>
      { trace := [], result := some config }

/-- `Camera_init`: whether it returned 0, and the configuration of the UART. -/
def cameraInit (conf : DeviceConfig) : Traced Bool :=
  if conf.dataLen ≠ cameraDataSize then
    { trace := [], result := false }
  else
    let dat := (conf.data.getD .null).bytes
    let baud := UInt32.ofNat (ofLittleEndian (dat.take 4))
    let rx := dat.getD 4 0
    let tx := dat.getD 5 0
    if rx ≠ 5 ∨ tx ≠ 4 then
      { trace := [], result := false }
    else
      { trace := [.softwareUartConfig baud rx tx], result := true }

/-- The outcomes of `DeviceConfig_already_exists` and `DeviceConfig_read_config`. -/
structure LoadAnswers where
  guard : Bool
  read : ReadAnswers
deriving DecidableEq

/-- The outcomes of the calls made by `DeviceInit`. -/
structure InitAnswers where
  load : LoadAnswers
  reset : Bool
deriving DecidableEq

/-- The `switch` of `DeviceInit`. -/
def initDriver (conf : DeviceConfig) (reset : Bool) : Traced Bool :=
  match DeviceType.ofCode conf.type with
  | some .temperature =>
      { trace := [.driverInit .temperature true], result := true }
  | some .heater =>
      { trace := [.driverInit .heater true], result := true }
  | some .lighting =>
      { trace := [.driverInit .lighting true], result := true }
  | some .camera =>
      let init := cameraInit conf
      if init.result then
        { trace :=
            init.trace ++ [.driverInit .camera true, .cameraReset reset]
          result := reset }
      else
        { trace := init.trace ++ [.driverInit .camera false]
          result := false }
  | some .none | none =>
      { trace := [], result := true }

/-- `DeviceInit`. -/
def deviceInit (flash : Flash) (answers : InitAnswers) : Traced Bool :=
  if alreadyExists flash answers.load.guard then
    let read := readConfig flash answers.load.read
    match read.result with
    | none =>
        { trace := read.trace, result := false }
    | some conf =>
        let init := initDriver conf answers.reset
        { trace := read.trace ++ init.trace, result := init.result }
  else
    { trace := [], result := false }

/-! ## Setters -/

/-- The outcomes of all the calls a setter may make. -/
structure SetAnswers where
  load : LoadAnswers
  defaults : Option Nat
  save : SaveAnswers
  init : InitAnswers
deriving DecidableEq

/-- The beginning which the setters share: the stored configuration, or a zeroed one. -/
def loadConfig (flash : Flash) (answers : LoadAnswers) : Traced DeviceConfig :=
  if alreadyExists flash answers.guard then
    let read := readConfig flash answers.read
    { trace := read.trace, result := read.result.getD zeroed }
  else
    { trace := [], result := zeroed }

/-- The `min_len` bytes which `DeviceConfig_set_name` copies, leaving space for a terminator. -/
def minLen (text : CString) : Nat :=
  if text.strlen < 32 - 1 then text.strlen else 32 - 1

theorem minLen_le (text : CString) :
    minLen text ≤ 31 := by
  rw [minLen]
  split <;> omega

/-- A zeroed field into which `min_len` bytes of a string are copied. -/
def textField (text : CString) : Chars 32 where
  bytes :=
    osMemcpy (Chars.zeros 32).bytes 0 (text.bytes.take (minLen text))
  length_bytes := by
    have short := minLen_le text
    rw [length_osMemcpy, Chars.length_bytes]
    rw [List.length_take, Chars.length_bytes]
    omega

/-- The end which `DeviceConfig_set_name` and `DeviceConfig_set_room` share. -/
def saveAndFree
    (flash : Flash) (answers : SetAnswers)
    (loaded : List ConfigAction) (conf : DeviceConfig) :
    ConfigCall :=
  let save := saveConfig flash answers.save conf
  if save.success then
    { flash := save.flash
      trace := loaded ++ save.trace ++ osFree conf.data
      success := true }
  else
    { flash := save.flash
      trace := loaded ++ save.trace
      success := false }

/-- `DeviceConfig_set_name`. -/
def setName (flash : Flash) (answers : SetAnswers) (name : CString) :
    ConfigCall :=
  let load := loadConfig flash answers.load
  saveAndFree flash answers load.trace
    { load.result with name := textField name }

/-- `DeviceConfig_set_room`. -/
def setRoom (flash : Flash) (answers : SetAnswers) (room : CString) :
    ConfigCall :=
  let load := loadConfig flash answers.load
  saveAndFree flash answers load.trace
    { load.result with room := textField room }

/-- `DeviceConfig_set_type`. -/
def setType (flash : Flash) (answers : SetAnswers) (type : DeviceType) :
    ConfigCall :=
  let load := loadConfig flash answers.load
  if type.code = load.result.type then
    { flash := flash, trace := load.trace, success := true }
  else
    let trace := load.trace ++ osFree load.result.data
    let cleared := { load.result with data := none, dataLen := 0 }
    let defaults := deviceSetDefaultData cleared type answers.defaults
    match defaults.result with
    | none =>
        { flash := flash, trace := trace ++ defaults.trace, success := false }
    | some config =>
        let conf := { config with type := type.code }
        let save := saveConfig flash answers.save conf
        let trace := trace ++ defaults.trace ++ save.trace
        if save.success then
          let init := deviceInit save.flash answers.init
          { flash := save.flash
            trace := trace ++ osFree conf.data ++ init.trace
            success := init.result }
        else
          { flash := save.flash, trace := trace, success := false }

/-- `DeviceConfig_set_data`. -/
def setData
    (flash : Flash) (answers : SetAnswers)
    (data : Option Buffer) (len : UInt32) :
    ConfigCall :=
  let load := loadConfig flash answers.load
  let conf := { load.result with data := data, dataLen := len }
  let save := saveConfig flash answers.save conf
  { flash := save.flash
    trace := load.trace ++ save.trace
    success := save.success }

end DeviceConfig

end EspFirmware
