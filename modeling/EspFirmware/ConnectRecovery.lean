import EspFirmware.Server
import EspFirmware.WifiSession

/-!
# A `Connect` command that cannot be carried out

`connect_to_network` clears the queues and sets its flag before it calls
`start_station`, which changes the mode before the calls which can still fail,
and it ignores what `start_station` returns.  Nothing of this is undone, and
the timer which goes back to the access point is only armed at boot.
-/

namespace EspFirmware

open Library

/-! ## What a command changes -/

/-- The part of the device which `connect_to_network` changes. -/
structure Serving where
  wifi : Wifi
  server : Server
deriving DecidableEq

namespace Serving

/-- What an action changes. -/
def perform (device : Serving) (action : WifiAction) : Serving where
  wifi := device.wifi.perform action
  server :=
    match action with
    | .staServerClose => (staServerClose device.server).server
    | .apServerClose => (apServerClose device.server).server
    | _ => device.server

/-- The device after `connect_to_network`. -/
def connectToNetwork (device : Serving) (answers : StationAnswers) :
    Serving :=
  (connectToNetworkTrace answers).foldl perform device

/-- The mode, the flag and the queued commands are as they were. -/
structure Restored (before after : Serving) : Prop where
  opmode : after.wifi.opmode = before.wifi.opmode
  flag :
    after.wifi.hasReceivedConnectInstruction =
      before.wifi.hasReceivedConnectInstruction
  commands :
    after.server.recvq.messages = before.server.recvq.messages

/-- A connection attempt is under way, or another `Connect` finds what this one found. -/
def StaysReachable (device : Serving) (answers : StationAnswers) : Prop :=
  .wifiStationConnect true ∈ connectToNetworkTrace answers ∨
    Restored device (device.connectToNetwork answers)

end Serving

/-- No call of `start_station` fails. -/
def StationAnswers.Succeed (answers : StationAnswers) : Prop :=
  answers.opmode = true ∧ answers.setConfig = true ∧ answers.connect = true

namespace Serving

/-- An attempt is under way exactly if every call succeeded. -/
theorem attempts_iff (answers : StationAnswers) :
    .wifiStationConnect true ∈ connectToNetworkTrace answers ↔
      answers.Succeed := by
  rcases answers with ⟨opmode, setConfig, connect⟩
  cases opmode with
  | false =>
      simp [connectToNetworkTrace, startStationTrace, StationAnswers.Succeed]
  | true =>
      cases setConfig with
      | false =>
          simp [connectToNetworkTrace, startStationTrace,
            StationAnswers.Succeed]
      | true =>
          simp [connectToNetworkTrace, startStationTrace,
            StationAnswers.Succeed, eq_comm]

/-- Whatever fails, the queues are empty, the flag is set, and only a failing change keeps the mode. -/
theorem connectToNetwork_eq (device : Serving) (answers : StationAnswers) :
    device.connectToNetwork answers =
      { wifi :=
          { device.wifi with
            hasReceivedConnectInstruction := true
            opmode :=
              if answers.opmode then .stationapMode
              else device.wifi.opmode }
        server := (apServerClose device.server).server } := by
  rcases answers with ⟨opmode, setConfig, connect⟩
  cases opmode with
  | false =>
      rfl
  | true =>
      cases setConfig with
      | false =>
          rfl
      | true =>
          rfl

/-- Of an access point everything is restored exactly if nothing was there to be lost. -/
theorem restored_connectToNetwork_iff
    {device : Serving}
    (serving : device.wifi.opmode = .softapMode)
    (answers : StationAnswers) :
    Restored device (device.connectToNetwork answers) ↔
      answers.opmode = false ∧
        device.wifi.hasReceivedConnectInstruction = true ∧
          device.server.recvq.messages = [] := by
  rw [connectToNetwork_eq]
  constructor
  · rintro ⟨opmode, flag, commands⟩
    refine ⟨?_, flag.symm, commands.symm⟩
    cases changed : answers.opmode with
    | false =>
        rfl
    | true =>
        rw [changed, if_pos rfl, serving] at opmode
        cases opmode
  · rintro ⟨failed, flag, commands⟩
    refine ⟨?_, flag.symm, commands.symm⟩
    rw [failed]
    rfl

/--
After a `Connect` command, an access point is trying to connect or is as it was
exactly when no call fails, or the change of the mode fails and there was
nothing to be lost: the flag was set before, and no command was queued.
-/
theorem connect_stays_reachable_iff
    (device : Serving) (answers : StationAnswers)
    (serving : device.wifi.opmode = .softapMode) :
    device.StaysReachable answers ↔
      answers.Succeed ∨
        answers.opmode = false ∧
          device.wifi.hasReceivedConnectInstruction = true ∧
            device.server.recvq.messages = [] := by
  rw [StaysReachable, attempts_iff, restored_connectToNetwork_iff serving]

/-- An access point on which nothing has happened. -/
def idle : Serving where
  wifi := .boot .softapMode
  server := .boot

theorem connect_stays_reachable_iff_idle :
    idle.StaysReachable
      { opmode := true, setConfig := true, connect := true } :=
  (connect_stays_reachable_iff idle _ rfl).mpr (Or.inl ⟨rfl, rfl, rfl⟩)

/-- `wifi_station_connect` fails, and the access point is stranded. -/
theorem connect_strands :
    ¬∀ (device : Serving) (answers : StationAnswers),
      device.wifi.opmode = .softapMode → device.StaysReachable answers := by
  intro reachable
  rcases reachable idle { opmode := true, setConfig := true, connect := false }
      rfl with attempt | restored
  · rw [attempts_iff] at attempt
    cases attempt.2.2
  · cases restored.opmode

end Serving

/-! ## No way back -/

theorem Wifi.connectTimer_performAll
    {actions : List WifiAction}
    (wifi : Wifi)
    (quiet : .armWifiConnectTimer ∉ actions) :
    (wifi.performAll actions).connectTimer = wifi.connectTimer := by
  induction actions generalizing wifi with
  | nil =>
      rfl
  | cons action rest induction =>
      rw [List.mem_cons, not_or] at quiet
      have same : (wifi.perform action).connectTimer = wifi.connectTimer := by
        cases action with
        | armWifiConnectTimer =>
            exact absurd rfl quiet.1
        | wifiSetOpmode mode success =>
            cases success with
            | false =>
                rfl
            | true =>
                rfl
        | _ =>
            rfl
      rw [← same]
      exact induction (wifi.perform action) quiet.2

theorem armWifiConnectTimer_not_mem_connect (answers : StationAnswers) :
    .armWifiConnectTimer ∉ connectToNetworkTrace answers := by
  simp only [connectToNetworkTrace, startStationTrace]
  split
  · split
    · simp
    · simp
  · simp

theorem armWifiConnectTimer_not_mem_goBackToAp
    (mode : Opmode) (answers : ApAnswers) :
    .armWifiConnectTimer ∉ goBackToAp mode answers := by
  rcases answers with ⟨disconnect, opmode, startOpmode, softapConfig⟩
  cases mode with
  | softapMode =>
      simp [goBackToAp]
  | nullMode | stationMode | stationapMode =>
      cases startOpmode <;> cases softapConfig <;>
        simp [goBackToAp, startAccessPoint]

theorem armWifiConnectTimer_not_mem_staWifiHandler
    (wifi : Wifi) (event : WifiEvent) (disconnect : Bool) :
    .armWifiConnectTimer ∉ staWifiHandler wifi event disconnect := by
  cases event with
  | stamodeDisconnected =>
      simp only [staWifiHandler]
      split
      · simp
      · simp
  | _ =>
      simp [staWifiHandler]

namespace SessionWorld

/-- The device does not boot. -/
def StaysUp (_ : SessionWorld) : SessionStep → Prop
  | .reboot _ => False
  | _ => True

/-- Only a boot arms the timer. -/
theorem connectTimer_next
    {world after : SessionWorld} {step : SessionStep}
    (fired : world.wifi.connectTimer = false)
    (up : world.StaysUp step)
    (taken : world.next step = some after) :
    after.wifi.connectTimer = false := by
  cases step with
  | post event failedAutoConnect =>
      cases taken
      exact fired
  | deliver posted disconnect raised =>
      simp only [next] at taken
      split at taken
      · cases registered : world.wifi.handler with
        | staWifiHandler =>
            rw [registered] at taken
            cases taken
            rw [← fired]
            exact
              Wifi.connectTimer_performAll _
                (armWifiConnectTimer_not_mem_staWifiHandler _ _ _)
        | emptyWifiHandler =>
            rw [registered] at taken
            cases taken
            exact fired
      · cases taken
  | connectTimer answers raised =>
      simp only [next, fired] at taken
      cases taken
  | connect answers =>
      cases taken
      rw [← fired]
      exact
        Wifi.connectTimer_performAll _
          (armWifiConnectTimer_not_mem_connect answers)
  | runAp answers raised =>
      cases taken
      rw [← fired]
      exact
        Wifi.connectTimer_performAll _
          (armWifiConnectTimer_not_mem_goBackToAp _ answers)
  | reboot answers =>
      exact up.elim

/-- Once the timer has fired, it does not fire again before the next boot. -/
theorem connectTimer_always
    {answers : BootAnswers} {world : SessionWorld}
    {steps : List SessionStep}
    (fired : world.wifi.connectTimer = false)
    (up : (sessionSystem answers).Each StaysUp world steps) :
    (sessionSystem answers).Always
      (fun later => later.wifi.connectTimer = false) world steps := by
  apply up.always (fun _ => id) _ fired
  intro state step after still met taken
  exact connectTimer_next still met taken

end SessionWorld

end EspFirmware
