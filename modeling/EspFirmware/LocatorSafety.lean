import EspFirmware.Locator

/-!
# Locator mode is never left on

The flag, the timer and the power which was applied last change together, so
that one invariant ties them to the way in which the mode was entered and left
last.
-/

namespace EspFirmware

open Library

/-! ## The locator in every state -/

/-- What holds of the locator mode in every state of every run. -/
structure LocatorSound (world : LocatorWorld) : Prop where
  armed :
    world.locator.inLocatorMode = true ↔ world.locator.timer.Armed
  /-- In the mode, the low power of its beginning is applied, and it is not old. -/
  low :
    world.locator.inLocatorMode = true →
      ∃ entry, world.history.entered = some entry ∧
        world.history.applied.getLast? = some entry.low ∧
          world.now ≤ entry.time + locatorTimeout
  /-- Behind the mode, the high power of its end is applied. -/
  high :
    world.locator.inLocatorMode = false →
      world.history.entered.isSome = true →
        ∃ high, world.history.left = some high ∧
          world.history.applied.getLast? = some high
  once : world.history.rearmed = false
  bounded : ∀ value ∈ world.history.applied, value ≤ 82

/-! ## The invariant -/

/-- The power values can be applied, and the timer runs while the mode is on. -/
structure LocatorInvariant (world : LocatorWorld) : Prop where
  lowBounded : world.locator.lowPowerValue ≤ 82
  highBounded : world.locator.highPowerValue ≤ 82
  applied : ∀ value ∈ world.history.applied, value ≤ 82
  once : world.history.rearmed = false
  mode :
    match world.locator.inLocatorMode with
    | true =>
        ∃ entry, world.history.entered = some entry ∧
          world.history.applied.getLast? = some entry.low ∧
            world.locator.timer =
                { callback := some .stopLocatorMode
                  due := some (entry.time + locatorTimeout) } ∧
              world.now ≤ entry.time + locatorTimeout
    | false =>
        world.locator.timer.due = none ∧
          (world.history.entered.isSome = true →
            ∃ high, world.history.left = some high ∧
              world.history.applied.getLast? = some high)

theorem LocatorInvariant.sound
    {world : LocatorWorld}
    (invariant : LocatorInvariant world) :
    LocatorSound world := by
  have mode := invariant.mode
  cases on : world.locator.inLocatorMode with
  | true =>
      rw [on] at mode
      rcases mode with ⟨entry, entered, applied, timer, recent⟩
      refine ⟨?_, ?_, ?_, invariant.once, invariant.applied⟩
      · rw [on, timer]
        exact iff_of_true rfl ⟨rfl, rfl⟩
      · intro _
        exact ⟨entry, entered, applied, recent⟩
      · rw [on]
        intro off
        cases off
  | false =>
      rw [on] at mode
      refine ⟨?_, ?_, ?_, invariant.once, invariant.applied⟩
      · rw [on]
        apply iff_of_false Bool.false_ne_true
        rintro ⟨-, running⟩
        rw [mode.1] at running
        cases running
      · rw [on]
        intro on
        cases on
      · intro _
        exact mode.2

theorem Locator.clampPower_le (val : UInt8) :
    clampPower val ≤ 82 := by
  rw [clampPower]
  split
  · exact UInt8.le_refl 82
  · rename_i below
    exact UInt8.le_of_lt (UInt8.not_le.mp below)

/-! ## Steps -/

/-- The mode is entered. -/
theorem LocatorInvariant.start
    {world : LocatorWorld}
    (invariant : LocatorInvariant world)
    (off : world.locator.inLocatorMode = false) :
    LocatorInvariant
      (world.carryOut world.locator.startLocatorMode) := by
  have mode := invariant.mode
  rw [off] at mode
  refine ⟨invariant.lowBounded, invariant.highBounded, ?_, ?_, ?_⟩
  · intro value member
    rcases List.mem_append.mp member with before | now
    · exact invariant.applied value before
    · rw [List.mem_singleton.mp now]
      exact invariant.lowBounded
  · simp [LocatorWorld.carryOut, LocatorHistory.record, invariant.once,
      mode.1]
  · refine ⟨⟨world.locator.lowPowerValue, world.now⟩, ?_, ?_, rfl,
      Nat.le_add_right _ _⟩
    · simp [LocatorWorld.carryOut, LocatorHistory.record, off,
        Locator.startLocatorMode, Locator.performAll, Locator.perform]
    · exact List.getLast?_concat

/-- The mode is left, by a datagram or by the timer. -/
theorem LocatorInvariant.stop
    {world : LocatorWorld}
    (invariant : LocatorInvariant world)
    (on : world.locator.inLocatorMode = true)
    {timer : LocatorTimer} :
    LocatorInvariant
      ({ world with
          locator := { world.locator with timer } }.carryOut
        world.locator.stopLocatorMode) := by
  refine ⟨invariant.lowBounded, invariant.highBounded, ?_, ?_, rfl, ?_⟩
  · intro value member
    rcases List.mem_append.mp member with before | now
    · exact invariant.applied value before
    · rw [List.mem_singleton.mp now]
      exact invariant.highBounded
  · simp [LocatorWorld.carryOut, LocatorHistory.record, invariant.once,
      Locator.stopLocatorMode, LocatorAction.arms]
  · intro _
    refine ⟨world.locator.highPowerValue, ?_, ?_⟩
    · simp [LocatorWorld.carryOut, LocatorHistory.record, on,
        Locator.stopLocatorMode, Locator.performAll, Locator.perform]
    · exact List.getLast?_concat

/-- An action which writes one of the power values, clamped. -/
def LocatorAction.SetsPower (action : LocatorAction) : Prop :=
  ∃ val,
    action = .setLowPowerValue (Locator.clampPower val) ∨
      action = .setHighPowerValue (Locator.clampPower val)

/-- `Power` sets the power values and does nothing else. -/
theorem setsPower_locatorActions
    (data : List UInt8) {action : LocatorAction}
    (member : action ∈ locatorActions data) :
    action.SetsPower := by
  have both (high low : List UInt8)
      (among :
        action ∈
          (powerEffects high low).flatMap CommandEffect.locatorActions) :
      action.SetsPower := by
    rcases List.mem_flatMap.mp among with ⟨effect, effects, acts⟩
    cases effect with
    | locatorSetHighPower val =>
        exact ⟨val, Or.inr (List.mem_singleton.mp acts)⟩
    | locatorSetLowPower val =>
        exact ⟨val, Or.inl (List.mem_singleton.mp acts)⟩
    | _ =>
        cases acts
  rw [locatorActions] at member
  split at member
  · exact both _ _ member
  · cases member

/-- Actions which set power values change nothing else, and keep the bound. -/
theorem Locator.performAll_setsPower
    {locator : Locator} {actions : List LocatorAction}
    (low : locator.lowPowerValue ≤ 82)
    (high : locator.highPowerValue ≤ 82)
    (sets : ∀ action ∈ actions, action.SetsPower) (now : Nat) :
    ∃ low high : UInt8, low ≤ 82 ∧ high ≤ 82 ∧
      locator.performAll now actions =
        { locator with
          lowPowerValue := low
          highPowerValue := high } := by
  induction actions generalizing locator with
  | nil =>
      exact ⟨_, _, low, high, rfl⟩
  | cons action rest induction =>
      have setsRest : ∀ action ∈ rest, action.SetsPower :=
        fun other member => sets other (.tail _ member)
      rcases sets action List.mem_cons_self with ⟨val, rfl | rfl⟩
      · exact
          @induction { locator with lowPowerValue := clampPower val }
            (clampPower_le val) high setsRest
      · exact
          @induction { locator with highPowerValue := clampPower val }
            low (clampPower_le val) setsRest

/-- Power values can be set at any time. -/
theorem LocatorInvariant.setPowers
    {world : LocatorWorld} {actions : List LocatorAction}
    (invariant : LocatorInvariant world)
    (sets : ∀ action ∈ actions, action.SetsPower) :
    LocatorInvariant (world.carryOut actions) := by
  have silent : actions.filterMap LocatorAction.applied = [] := by
    apply List.filterMap_eq_nil_iff.mpr
    intro action member
    rcases sets action member with ⟨val, rfl | rfl⟩ <;> rfl
  have unarmed : actions.any LocatorAction.arms = false := by
    rw [List.any_eq_false]
    intro action member
    rcases sets action member with ⟨val, rfl | rfl⟩ <;>
      exact Bool.false_ne_true
  rcases
    Locator.performAll_setsPower invariant.lowBounded invariant.highBounded
      sets world.now with
    ⟨low, high, lowBounded, highBounded, changed⟩
  have carried :
      world.carryOut actions =
        { world with
          locator :=
            { world.locator with
              lowPowerValue := low
              highPowerValue := high } } := by
    simp [LocatorWorld.carryOut, LocatorHistory.record, changed, silent,
      unarmed]
  rw [carried]
  exact
    ⟨lowBounded, highBounded, invariant.applied, invariant.once,
      invariant.mode⟩

/-- A command of a datagram only enters the mode, or only leaves it. -/
theorem LocatorInvariant.udpActions
    {world : LocatorWorld}
    (invariant : LocatorInvariant world) (command : UdpCommand) :
    LocatorInvariant (world.carryOut (world.locator.udpActions command)) := by
  have nothing : LocatorInvariant (world.carryOut []) :=
    invariant.setPowers fun _ member => by cases member
  cases mode : world.locator.inLocatorMode with
  | true =>
      cases command with
      | helloEspDevices =>
          rw [Locator.udpActions, if_pos mode]
          exact invariant.stop mode
      | devicesLowPower =>
          rw [Locator.udpActions, if_pos mode]
          exact nothing
      | unknown =>
          exact nothing
  | false =>
      have off : ¬world.locator.inLocatorMode = true := by
        rw [mode]
        exact Bool.false_ne_true
      cases command with
      | helloEspDevices =>
          rw [Locator.udpActions, if_neg off]
          exact nothing
      | devicesLowPower =>
          rw [Locator.udpActions, if_neg off]
          exact invariant.start mode
      | unknown =>
          exact nothing

/-- The timer runs only in locator mode, which it ends. -/
theorem LocatorInvariant.timer
    {world : LocatorWorld} {due : Nat}
    (invariant : LocatorInvariant world)
    (running : world.locator.timer.due = some due) :
    LocatorInvariant
      (world.expire.carryOut world.locator.stopLocatorMode) := by
  have mode := invariant.mode
  cases on : world.locator.inLocatorMode with
  | true =>
      exact invariant.stop on
  | false =>
      rw [on] at mode
      rw [mode.1] at running
      cases running

/-- No time passes beyond the moment at which the timer is due. -/
theorem LocatorInvariant.elapse
    {world : LocatorWorld} {milliseconds : Nat}
    (invariant : LocatorInvariant world)
    (early :
      ∀ due ∈ world.locator.timer.due, world.now + milliseconds ≤ due) :
    LocatorInvariant { world with now := world.now + milliseconds } := by
  have mode := invariant.mode
  refine
    ⟨invariant.lowBounded, invariant.highBounded, invariant.applied,
      invariant.once, ?_⟩
  cases on : world.locator.inLocatorMode with
  | true =>
      rw [on] at mode
      rcases mode with ⟨entry, entered, applied, timer, -⟩
      refine ⟨entry, entered, applied, timer, ?_⟩
      exact early _ (by rw [timer]; rfl)
  | false =>
      rw [on] at mode
      exact mode

theorem LocatorInvariant.next
    {world after : LocatorWorld} {step : LocatorStep}
    (invariant : LocatorInvariant world)
    (taken : world.next step = some after) :
    LocatorInvariant after := by
  cases step with
  | datagram memory =>
      rcases Option.map_eq_some_iff.mp taken with ⟨command, -, rfl⟩
      exact invariant.udpActions command
  | command data =>
      cases taken
      exact invariant.setPowers fun _ => setsPower_locatorActions data
  | timer =>
      simp only [LocatorWorld.next] at taken
      split at taken
      · cases taken
      · next due running =>
          split at taken
          · split at taken
            · cases taken
            · cases taken
              exact invariant.timer running
          · cases taken
  | elapse milliseconds =>
      simp only [LocatorWorld.next] at taken
      split at taken
      · next early =>
          cases taken
          exact invariant.elapse early
      · cases taken

theorem locatorInvariant_of_reachable
    {world : LocatorWorld}
    (reached : locatorSystem.Reachable world) :
    LocatorInvariant world := by
  apply reached.invariant
  · refine ⟨by decide, by decide, ?_, rfl, rfl, ?_⟩
    · intro value member
      cases member
    · intro entered
      cases entered
  · intro state step after invariant taken
    exact invariant.next taken

/--
Whatever datagrams and commands come and whenever the timer fires: the mode is
on exactly while the timer is armed with `stop_locator_mode`, which it is once
and for one timeout; in the mode the low power of its beginning is applied,
behind it the high power of its end, and no power is above 82.
-/
theorem locator_never_left_on
    (world : LocatorWorld)
    (reached : locatorSystem.Reachable world) :
    LocatorSound world :=
  (locatorInvariant_of_reachable reached).sound

/-- A client asks for the mode twice, with a command between, and the timer ends it. -/
def locatorSession : List LocatorStep :=
  [.datagram (ascii "Devices Low Power" ++ [0]),
    .elapse 4000,
    .command (ascii "Power:75;30" ++ [0]),
    .datagram (ascii "Devices Low Power" ++ [0]),
    .elapse 6000,
    .timer]

theorem locator_never_left_on_session :
    LocatorSound
      { locator :=
          { inLocatorMode := false
            lowPowerValue := 30
            highPowerValue := 75
            timer := { callback := some .stopLocatorMode, due := none } }
        now := 10000
        history :=
          { applied := [50, 75]
            entered := some { low := 50, time := 0 }
            left := some 75
            rearmed := false } } := by
  apply locator_never_left_on
  apply System.Reachable.start.run
  change locatorSystem.run locatorSystem.start locatorSession = some _
  decide

end EspFirmware
