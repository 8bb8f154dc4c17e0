import EspFirmware.Camera
import EspFirmware.DeviceInfo
import EspFirmware.Parser
import EspFirmware.Wifi

/-!
# What `tcpparser_process_data` does

A command changes the flash and the camera driver, and it calls the other
drivers, the network functions and `send_reply`.  These calls are returned as
effects, in program order; what they bring about is not decided here.  The
outcomes of all the calls made on the way are inputs.  A command whose camera
does not answer while the code waits for it has no result.
-/

namespace EspFirmware

open Library

/-! ## Numbers -/

/-- `isspace`. -/
def isspace (byte : UInt8) : Bool :=
  byte = 32 || (9 ≤ byte && byte ≤ 13)

/-- The value of the digits at the beginning of a text, behind a number read so far. -/
def digitsValue (value : Int) : List UInt8 → Int
  | [] => value
  | byte :: rest =>
      if 48 ≤ byte && byte ≤ 57 then
        digitsValue (value * 10 + (byte.toNat - 48)) rest
      else
        value

/-- `atoi`. -/
def atoi (text : List UInt8) : Int :=
  match text.dropWhile isspace with
  | [] => 0
  | byte :: rest =>
      if byte = 45 then -digitsValue 0 rest
      else if byte = 43 then digitsValue 0 rest
      else digitsValue 0 (byte :: rest)

/-- A number which is passed as a `uint8`. -/
def atoiByte (text : List UInt8) : UInt8 :=
  UInt8.ofInt (atoi text)

/-! ## Effects -/

/-- A call of `tcpparser_process_data` which works outside of the flash and the camera. -/
inductive CommandEffect where
  | network (action : WifiAction)
  | config (action : ConfigAction)
  | apServerInit
  | locatorSetHighPower (val : UInt8)
  | locatorSetLowPower (val : UInt8)
  | temperatureGetTemperature
  | heaterTurnOff
  | heaterTurnOn
  | lightingGetLight
  | lightingDim (intensity : UInt8)
  | sendReply (text : List UInt8)
deriving DecidableEq

/-- The flash and the camera driver after a command, and its effects. -/
structure CommandRun where
  flash : Flash
  camera : Camera
  effects : List CommandEffect

/-- The outcomes of the calls made by one command, as far as they decide what it does. -/
structure CommandInput where
  set : DeviceConfig.SetAnswers
  load : DeviceConfig.LoadAnswers
  init : DeviceConfig.InitAnswers
  station : StationAnswers
  opmode : Opmode
  ap : ApAnswers
  mac : Option (Chars 6)
  reset : ExchangeInput
  camera : Camera.RequestInput
deriving DecidableEq

/-- The effects of a trace of `device_config.c`. -/
def configEffects (trace : List ConfigAction) : List CommandEffect :=
  trace.map .config

/-! ## Devices -/

/-- The commands for a camera. -/
def cameraRequest (cmd params : List UInt8) : Camera.Request :=
  if cmd = ascii "Camera Take Picture" then .takePicture
  else if cmd = ascii "Camera Get Size" then .getSize
  else if cmd = ascii "Camera Get Picture" then .getPicture
  else if cmd = ascii "Camera Stop Picture" then .stopPicture
  else if cmd = ascii "Camera Compression Ratio" then
    .compressionRatio (atoiByte params)
  else if cmd = ascii "Camera Image Size Set" then
    .imageSizeSet (atoiByte params)
  else .other

/-- The cases of the `switch` over the type of the device, but for the camera. -/
def deviceEffects (type : Option DeviceType) (cmd params : List UInt8) :
    List CommandEffect :=
  match type with
  | some .temperature =>
      if cmd = ascii "Temperature Get" then [.temperatureGetTemperature]
      else []
  | some .heater =>
      if cmd = ascii "Heater Off" then [.heaterTurnOff]
      else if cmd = ascii "Heater On" then [.heaterTurnOn]
      else []
  | some .lighting =>
      if cmd = ascii "Lighting Get" then [.lightingGetLight]
      else if cmd = ascii "Lighting Set" then [.lightingDim (atoiByte params)]
      else []
  | some .camera | some .none | none => []

namespace Camera

/--
The camera after a trace of `DeviceInit`.  Where the trace resets the camera,
its answer must be that of the exchange.
-/
def resetIn
    (camera : Camera) (trace : List ConfigAction) (input : ExchangeInput) :
    Option Camera :=
  if .driverInit .camera true ∈ trace then
    (camera.reinit true input).bind fun returned =>
      if .cameraReset returned.2 ∈ trace then some returned.1 else none
  else
    some camera

end Camera

/-! ## Commands -/

/-- The types which the command `Type` knows. -/
def typeOfName (params : List UInt8) : Option DeviceType :=
  if params = ascii "Temperature" then some .temperature
  else if params = ascii "Heater" then some .heater
  else if params = ascii "Lighting" then some .lighting
  else if params = ascii "Camera" then some .camera
  else none

/-- A parameter, which ends at its terminator. -/
def CString.ofToken (token : List UInt8) : CString where
  bytes := before 0 token
  nonzero := not_mem_before 0 token

/-- One of the two replies to a change of the configuration. -/
def setReply (success : Bool) (text : String) : CommandEffect :=
  .sendReply (ascii (if success then text else "Failed"))

/-- The command `Type`. -/
def runSetType
    (flash : Flash) (camera : Camera) (params : List UInt8)
    (input : CommandInput) :
    Option CommandRun :=
  match typeOfName params with
  | none =>
      some { flash, camera, effects := [setReply false "Type Set"] }
  | some type =>
      let call := DeviceConfig.setType flash input.set type
      (camera.resetIn call.trace input.reset).map fun camera =>
        { flash := call.flash
          camera
          effects :=
            configEffects call.trace ++ [setReply call.success "Type Set"] }

/--
The command `Run AP`.  Where `go_back_to_ap` calls `init_done`, the device is
an access point.
-/
def runGoBackToAp (flash : Flash) (camera : Camera) (input : CommandInput) :
    Option CommandRun :=
  let actions := goBackToAp input.opmode input.ap
  if .initDone ∈ actions then
    let init := DeviceConfig.deviceInit flash input.init
    (camera.resetIn init.trace input.reset).map fun camera =>
      { flash
        camera
        effects :=
          actions.map .network ++ configEffects init.trace ++
            [.apServerInit] }
  else
    some { flash, camera, effects := actions.map .network }

/-- The command `Power`. -/
def powerEffects (high low : List UInt8) : List CommandEffect :=
  match high, low with
  | first :: _, second :: _ =>
      if first < 48 || 57 < first || (second < 48 || 57 < second) then
        [.sendReply (ascii "Power Set Fail")]
      else
        [.locatorSetHighPower (atoiByte high),
          .locatorSetLowPower (atoiByte low), .sendReply (ascii "Power Set")]
  | _, _ => [.sendReply (ascii "Power Set Fail")]

/-- The commands for the device that is stored. -/
def runDevice
    (flash : Flash) (camera : Camera) (conn : Conn) (cmd params : List UInt8)
    (input : CommandInput) :
    Option CommandRun :=
  if DeviceConfig.alreadyExists flash input.load.guard then
    let read := DeviceConfig.readConfig flash input.load.read
    match read.result with
    | none => some { flash, camera, effects := configEffects read.trace }
    | some config =>
        let closing := configEffects (osFree config.data)
        let type := DeviceType.ofCode config.type
        if type = some .camera then
          (camera.request (cameraRequest cmd params) conn input.camera).map
            fun returned =>
              { flash
                camera := returned.1
                effects :=
                  configEffects read.trace ++
                    returned.2.toList.map .sendReply ++ closing }
        else
          some
            { flash
              camera
              effects :=
                configEffects read.trace ++ deviceEffects type cmd params ++
                  closing }
  else
    some { flash, camera, effects := [] }

/-- What `tcpparser_process_data` does with a command which came over a connection. -/
def runCommand
    (flash : Flash) (camera : Camera) (conn : Conn) (command : TcpCommand)
    (input : CommandInput) :
    Option CommandRun :=
  match command with
  | .connectToNetwork _ _ =>
      some
        { flash
          camera
          effects := (connectToNetworkTrace input.station).map .network }
  | .goBackToAp => runGoBackToAp flash camera input
  | .setName name =>
      let call := DeviceConfig.setName flash input.set (.ofToken name)
      some
        { flash := call.flash
          camera
          effects :=
            configEffects call.trace ++ [setReply call.success "Name Set"] }
  | .setRoom room =>
      let call := DeviceConfig.setRoom flash input.set (.ofToken room)
      some
        { flash := call.flash
          camera
          effects :=
            configEffects call.trace ++ [setReply call.success "Room Set"] }
  | .setType params => runSetType flash camera params input
  | .macGet =>
      some
        { flash
          camera
          effects :=
            [.sendReply
              (match input.mac with
              | none => ascii "Failed"
              | some mac => strMac mac)] }
  | .power high low =>
      some { flash, camera, effects := powerEffects high low }
  | .device cmd params => runDevice flash camera conn cmd params input

/-! ## Replies -/

/-- The text of a call of `send_reply`. -/
def CommandEffect.replyText : CommandEffect → Option (List UInt8)
  | .sendReply text => some text
  | _ => none

/-- The texts which a command passes to `send_reply`. -/
def repliesOf (effects : List CommandEffect) : List (List UInt8) :=
  effects.filterMap CommandEffect.replyText

@[simp]
theorem repliesOf_nil :
    repliesOf [] = [] := by
  rfl

@[simp]
theorem repliesOf_append (left right : List CommandEffect) :
    repliesOf (left ++ right) = repliesOf left ++ repliesOf right :=
  List.filterMap_append

@[simp]
theorem repliesOf_configEffects (trace : List ConfigAction) :
    repliesOf (configEffects trace) = [] := by
  rw [repliesOf, configEffects, List.filterMap_map]
  exact List.filterMap_eq_nil_iff.mpr fun _ _ => rfl

@[simp]
theorem repliesOf_network (actions : List WifiAction) :
    repliesOf (actions.map .network) = [] := by
  rw [repliesOf, List.filterMap_map]
  exact List.filterMap_eq_nil_iff.mpr fun _ _ => rfl

@[simp]
theorem repliesOf_apServerInit :
    repliesOf [.apServerInit] = [] := by
  rfl

@[simp]
theorem length_repliesOf_setReply (success : Bool) (text : String) :
    (repliesOf [setReply success text]).length = 1 := by
  rfl

@[simp]
theorem repliesOf_deviceEffects
    (type : Option DeviceType) (cmd params : List UInt8) :
    repliesOf (deviceEffects type cmd params) = [] := by
  simp only [deviceEffects]
  repeat' split
  all_goals rfl

theorem length_repliesOf_sendReply (reply : Option (List UInt8)) :
    (repliesOf (reply.toList.map .sendReply)).length ≤ 1 := by
  cases reply with
  | none =>
      exact Nat.zero_le 1
  | some text =>
      exact Nat.le_refl 1

theorem length_repliesOf_power (high low : List UInt8) :
    (repliesOf (powerEffects high low)).length ≤ 1 := by
  cases high with
  | nil =>
      exact Nat.le_refl 1
  | cons first high =>
      cases low with
      | nil =>
          exact Nat.le_refl 1
      | cons second low =>
          simp only [powerEffects]
          split
          · exact Nat.le_refl 1
          · exact Nat.le_refl 1

/-- No command replies twice. -/
theorem length_repliesOf_runCommand
    {flash : Flash} {camera : Camera} {conn : Conn} {command : TcpCommand}
    {input : CommandInput} {run : CommandRun}
    (ran : runCommand flash camera conn command input = some run) :
    (repliesOf run.effects).length ≤ 1 := by
  cases command with
  | connectToNetwork ssid password =>
      cases ran
      simp
  | goBackToAp =>
      simp only [runCommand, runGoBackToAp] at ran
      split at ran
      · rcases Option.map_eq_some_iff.mp ran with ⟨after, -, rfl⟩
        simp
      · cases ran
        simp
  | setName name | setRoom name =>
      cases ran
      simp
  | setType params =>
      simp only [runCommand, runSetType] at ran
      split at ran
      · cases ran
        simp
      · rcases Option.map_eq_some_iff.mp ran with ⟨after, -, rfl⟩
        simp
  | macGet =>
      cases ran
      exact Nat.le_refl 1
  | power high low =>
      cases ran
      exact length_repliesOf_power high low
  | device cmd params =>
      simp only [runCommand, runDevice] at ran
      split at ran
      · split at ran
        · cases ran
          simp
        · split at ran
          · rcases Option.map_eq_some_iff.mp ran with ⟨returned, -, rfl⟩
            have single := length_repliesOf_sendReply returned.2
            simpa using single
          · cases ran
            simp
      · cases ran
        simp

end EspFirmware
