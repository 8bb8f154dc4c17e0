import EspFirmware.Commands
import EspFirmware.Datagrams

/-!
# Locator mode

In locator mode the device sends with little power, so that only near clients
see it.  A datagram turns the mode on, and another one or a timer turns it
off.  The functions of `wifi.c` answer with the trace of their calls and
writes.  The SDK calls back when the time of a timer is over, and not later.

The history is not part of the device: it records the values which were given
to the radio, how the mode was entered and left last, and whether the timer
was ever armed while it was running.
-/

namespace EspFirmware

open Library

/-! ## State -/

/-- `LOCATOR_TIMEOUT`, in milliseconds. -/
def locatorTimeout : Nat := 10000

/-- The functions which `locator_timer` calls. -/
inductive LocatorCallback where
  | stopLocatorMode
deriving DecidableEq

/-- An `ETSTimer`: what it calls, and when, if it is armed. -/
structure LocatorTimer where
  callback : Option LocatorCallback
  due : Option Nat
deriving DecidableEq

/-- The timer is armed and calls `stop_locator_mode`. -/
def LocatorTimer.Armed (timer : LocatorTimer) : Prop :=
  timer.callback = some .stopLocatorMode ∧ timer.due.isSome = true

/-- The static variables of the locator mode. -/
structure Locator where
  inLocatorMode : Bool
  lowPowerValue : UInt8
  highPowerValue : UInt8
  timer : LocatorTimer
deriving DecidableEq

/-- The statically initialised variables. -/
def Locator.boot : Locator where
  inLocatorMode := false
  lowPowerValue := 50
  highPowerValue := 80
  timer := { callback := none, due := none }

/-- A write to a variable of the locator mode, or a call of the SDK. -/
inductive LocatorAction where
  | setInLocatorMode (value : Bool)
  | setLowPowerValue (value : UInt8)
  | setHighPowerValue (value : UInt8)
  | systemPhySetMaxTpw (value : UInt8)
  | osTimerDisarm
  | osTimerSetfn (callback : LocatorCallback)
  | osTimerArm (milliseconds : Nat)
deriving DecidableEq

/-! ## The functions of `wifi.c` -/

namespace Locator

/-- What an action changes, at some time. -/
def perform (now : Nat) (locator : Locator) : LocatorAction → Locator
  | .setInLocatorMode value => { locator with inLocatorMode := value }
  | .setLowPowerValue value => { locator with lowPowerValue := value }
  | .setHighPowerValue value => { locator with highPowerValue := value }
  | .systemPhySetMaxTpw _ => locator
  | .osTimerDisarm =>
      { locator with timer := { locator.timer with due := none } }
  | .osTimerSetfn callback =>
      { locator with timer := { locator.timer with callback := some callback } }
  | .osTimerArm milliseconds =>
      { locator with
        timer := { locator.timer with due := some (now + milliseconds) } }

/-- What a trace changes. -/
def performAll (now : Nat) (locator : Locator)
    (actions : List LocatorAction) : Locator :=
  actions.foldl (perform now) locator

/-- `stop_locator_mode`. -/
def stopLocatorMode (locator : Locator) : List LocatorAction :=
  [.osTimerDisarm, .systemPhySetMaxTpw locator.highPowerValue,
    .setInLocatorMode false]

/-- `start_locator_mode`. -/
def startLocatorMode (locator : Locator) : List LocatorAction :=
  [.setInLocatorMode true, .systemPhySetMaxTpw locator.lowPowerValue,
    .osTimerDisarm, .osTimerSetfn .stopLocatorMode,
    .osTimerArm locatorTimeout]

/-- The clamp of both power values. -/
def clampPower (val : UInt8) : UInt8 :=
  if 82 ≤ val then 82 else val

/-- `locator_set_low_power`. -/
def locatorSetLowPower (val : UInt8) : List LocatorAction :=
  [.setLowPowerValue (clampPower val)]

/-- `locator_set_high_power`. -/
def locatorSetHighPower (val : UInt8) : List LocatorAction :=
  [.setHighPowerValue (clampPower val)]

end Locator

/-! ## Datagrams and commands -/

/-- What `udpparser_process_data` does with a command, but for its answer. -/
def Locator.udpActions (locator : Locator) : UdpCommand → List LocatorAction
  | .helloEspDevices =>
      if locator.inLocatorMode then locator.stopLocatorMode else []
  | .devicesLowPower =>
      if locator.inLocatorMode then [] else locator.startLocatorMode
  | .unknown => []

/-- What an effect of a command means for the locator mode. -/
def CommandEffect.locatorActions : CommandEffect → List LocatorAction
  | .locatorSetHighPower val => Locator.locatorSetHighPower val
  | .locatorSetLowPower val => Locator.locatorSetLowPower val
  | _ => []

/-- What `tcpparser_process_data` does with the locator mode; only `Power` does anything. -/
def locatorActions (data : List UInt8) : List LocatorAction :=
  match (tcpparserProcessData data).2 with
  | some (.power high low) =>
      (powerEffects high low).flatMap CommandEffect.locatorActions
  | _ => []

/-! ## Runs -/

/-- How the mode was entered: the low power value at that time, and the time. -/
structure LocatorEntry where
  low : UInt8
  time : Nat
deriving DecidableEq

/-- What has happened since the boot. -/
structure LocatorHistory where
  /-- The values which were passed to `system_phy_set_max_tpw`. -/
  applied : List UInt8
  entered : Option LocatorEntry
  /-- The high power value when the mode was left last. -/
  left : Option UInt8
  /-- The timer was armed while it was running. -/
  rearmed : Bool
deriving DecidableEq

/-- The locator mode, the time in milliseconds, and the history. -/
structure LocatorWorld where
  locator : Locator
  now : Nat
  history : LocatorHistory
deriving DecidableEq

/-- What happens to the locator mode. -/
inductive LocatorStep where
  /-- `udpserver_recv_cb` is given a datagram, with the memory behind it. -/
  | datagram (memory : List UInt8)
  /-- `tcpparser_process_data` is given a command. -/
  | command (data : List UInt8)
  /-- The timer fires. -/
  | timer
  /-- Some time passes. -/
  | elapse (milliseconds : Nat)
deriving DecidableEq

/-- The value which an action passes to the radio. -/
def LocatorAction.applied : LocatorAction → Option UInt8
  | .systemPhySetMaxTpw value => some value
  | _ => none

/-- The action arms the timer. -/
def LocatorAction.arms : LocatorAction → Bool
  | .osTimerArm _ => true
  | _ => false

namespace LocatorHistory

/-- The history at boot. -/
def empty : LocatorHistory where
  applied := []
  entered := none
  left := none
  rearmed := false

/-- Record a trace which has turned one locator into another. -/
def record
    (history : LocatorHistory) (now : Nat) (before after : Locator)
    (actions : List LocatorAction) :
    LocatorHistory where
  applied := history.applied ++ actions.filterMap LocatorAction.applied
  entered :=
    if !before.inLocatorMode && after.inLocatorMode then
      some { low := before.lowPowerValue, time := now }
    else
      history.entered
  left :=
    if before.inLocatorMode && !after.inLocatorMode then
      some before.highPowerValue
    else
      history.left
  rearmed :=
    history.rearmed ||
      (before.timer.due.isSome && actions.any LocatorAction.arms)

end LocatorHistory

namespace LocatorWorld

/-- Carry out a trace, and record it. -/
def carryOut (world : LocatorWorld) (actions : List LocatorAction) :
    LocatorWorld :=
  let after := world.locator.performAll world.now actions
  { world with
    locator := after
    history := world.history.record world.now world.locator after actions }

/-- The timer is not armed any more when its callback is called. -/
def expire (world : LocatorWorld) : LocatorWorld :=
  { world with
    locator :=
      { world.locator with
        timer := { world.locator.timer with due := none } } }

/-- The step function. -/
def next (world : LocatorWorld) : LocatorStep → Option LocatorWorld
  | .datagram memory =>
      (udpparserProcessData memory).result.map fun command =>
        world.carryOut (world.locator.udpActions command)
  | .command data => some (world.carryOut (locatorActions data))
  | .timer =>
      match world.locator.timer.due with
      | none => none
      | some due =>
          if due ≤ world.now then
            match world.locator.timer.callback with
            | none => none
            | some .stopLocatorMode =>
                some (world.expire.carryOut world.locator.stopLocatorMode)
          else
            none
  | .elapse milliseconds =>
      if ∀ due ∈ world.locator.timer.due, world.now + milliseconds ≤ due then
        some { world with now := world.now + milliseconds }
      else
        none

end LocatorWorld

/-- The locator mode as a transition system. -/
def locatorSystem : System LocatorWorld LocatorStep where
  start := { locator := .boot, now := 0, history := .empty }
  next := LocatorWorld.next

end EspFirmware
