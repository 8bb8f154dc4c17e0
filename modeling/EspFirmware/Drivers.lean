import EspFirmware.Commands

/-!
# The drivers which share GPIO2

`heater.c`, `lighting.c` and `temperature.c` drive the same pin, each with its
own idea of it.  The heater is active low.  Once `pwm_start` was called the PWM
unit drives the pin as well, and no driver stops it.  The duty cycle, the sensor
and the console output are left out.

The last heater operation is not part of the device.
-/

namespace EspFirmware

/-- `enum HeaterState`. -/
inductive HeaterState where
  | heaterOff
  | heaterOn
deriving DecidableEq

/-- The operations of `heater.c`. -/
inductive HeaterOperation where
  | heaterInit
  | heaterTurnOn
  | heaterTurnOff
deriving DecidableEq

/-- The static variables of `heater.c` and `lighting.c`, with the pin and the PWM unit. -/
structure Drivers where
  /-- The level of GPIO2. -/
  gpio2 : Bool
  /-- `pwm_start` was called. -/
  pwmStarted : Bool
  heater : HeaterState
  intensityC : UInt8
  lastHeaterOperation : Option HeaterOperation
deriving DecidableEq

namespace Drivers

/-- The statically initialised drivers.  The pin is pulled up. -/
def boot : Drivers where
  gpio2 := true
  pwmStarted := false
  heater := .heaterOff
  intensityC := 0
  lastHeaterOperation := none

/-! ## `heater.c` -/

/-- `Heater_init`. -/
def heaterInit (drivers : Drivers) : Drivers :=
  { drivers with
    gpio2 := true
    heater := .heaterOff
    lastHeaterOperation := some .heaterInit }

/-- `Heater_turn_on`, which trusts its own state. -/
def heaterTurnOn (drivers : Drivers) : Drivers :=
  if drivers.heater = .heaterOn then
    { drivers with lastHeaterOperation := some .heaterTurnOn }
  else
    { drivers with
      gpio2 := false
      heater := .heaterOn
      lastHeaterOperation := some .heaterTurnOn }

/-- `Heater_turn_off`. -/
def heaterTurnOff (drivers : Drivers) : Drivers :=
  { drivers with
    gpio2 := true
    heater := .heaterOff
    lastHeaterOperation := some .heaterTurnOff }

/-! ## `lighting.c` and `temperature.c` -/

/-- `Lighting_init`. -/
def lightingInit (drivers : Drivers) : Drivers :=
  { drivers with gpio2 := false }

/-- `Lighting_dim`, which clamps the intensity to 100. -/
def lightingDim (drivers : Drivers) (intensity : UInt8) : Drivers :=
  { drivers with
    pwmStarted := true
    intensityC := if 100 < intensity then 100 else intensity }

/-- `Temperature_get_temperature`.  The pin is released in the end, and pulled up. -/
def temperatureGetTemperature (drivers : Drivers) : Drivers :=
  { drivers with gpio2 := true }

/-! ## Effects of commands -/

/-- What a command does to the drivers. -/
def perform (drivers : Drivers) : CommandEffect → Drivers
  | .config (.driverInit .heater true) => drivers.heaterInit
  | .config (.driverInit .lighting true) => drivers.lightingInit
  | .temperatureGetTemperature => drivers.temperatureGetTemperature
  | .heaterTurnOff => drivers.heaterTurnOff
  | .heaterTurnOn => drivers.heaterTurnOn
  | .lightingDim intensity => drivers.lightingDim intensity
  | _ => drivers

/-- What the effects of a command do to the drivers, in order. -/
def performAll (drivers : Drivers) (effects : List CommandEffect) : Drivers :=
  effects.foldl perform drivers

@[simp]
theorem performAll_nil (drivers : Drivers) :
    drivers.performAll [] = drivers := by
  rfl

@[simp]
theorem performAll_cons
    (drivers : Drivers) (effect : CommandEffect)
    (effects : List CommandEffect) :
    drivers.performAll (effect :: effects) =
      (drivers.perform effect).performAll effects := by
  rfl

@[simp]
theorem performAll_append
    (drivers : Drivers) (front back : List CommandEffect) :
    drivers.performAll (front ++ back) =
      (drivers.performAll front).performAll back :=
  List.foldl_append

end Drivers

end EspFirmware
