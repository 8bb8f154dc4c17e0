import EspFirmware.WifiSession

/-!
# The end of a station session

`GOT_IP` opens the station server and starts the MQTT client.  `go_back_to_ap`
and the `DISCONNECTED` event both end the session, each with its own list of
what to undo.  The calls and writes since the boot are recorded, so that it can
be said what is still running.
-/

namespace EspFirmware

open Library

/-! ## Sessions with their calls -/

/-- A session, with the calls and the writes to the flags since the boot. -/
structure TeardownWorld where
  session : SessionWorld
  trace : List WifiAction
deriving DecidableEq

/-- What a step calls and writes. -/
def SessionWorld.actions (world : SessionWorld) :
    SessionStep → List WifiAction
  | .post _ _ => []
  | .deliver posted disconnect _ =>
      match world.wifi.handler with
      | .staWifiHandler => staWifiHandler world.wifi posted.event disconnect
      | .emptyWifiHandler => []
  | .connectTimer answers _ => wifiTimerCb world.wifi answers
  | .connect answers => connectToNetworkTrace answers
  | .runAp answers _ => goBackToAp world.wifi.opmode answers
  | .reboot answers => wifiInit answers.opmode answers.autoConnect

namespace TeardownWorld

/-- The calls which are recorded when a step has been taken. -/
def traceAfter (world : TeardownWorld) : SessionStep → List WifiAction
  | .reboot answers => wifiInit answers.opmode answers.autoConnect
  | step => world.trace ++ world.session.actions step

/-- The step function. -/
def next (world : TeardownWorld) (step : SessionStep) :
    Option TeardownWorld :=
  (world.session.next step).map fun session =>
    { session, trace := world.traceAfter step }

end TeardownWorld

/-- The device from its first boot on, with its calls. -/
def teardownSystem (answers : BootAnswers) :
    System TeardownWorld SessionStep where
  start :=
    { session := .booted answers []
      trace := wifiInit answers.opmode answers.autoConnect }
  next := TeardownWorld.next

/-! ## What is still running -/

/-- `mqtt_start` was called, and `mqtt_stop` was not called since. -/
def MqttRunning (trace : List WifiAction) : Prop :=
  Open (· = .mqttStart) (· = .mqttStop) trace

/-- `sta_server_init` was called, and `sta_server_close` was not called since. -/
def StationServerOpen (trace : List WifiAction) : Prop :=
  Open (· = .staServerInit) (· = .staServerClose) trace

/-- A successful change of the operating mode. -/
def WifiAction.entersMode : WifiAction → Option Opmode
  | .wifiSetOpmode mode true => some mode
  | _ => none

/-- The mode was set to that of an access point, which only `go_back_to_ap` does. -/
def BackInAp (trace : List WifiAction) : Prop :=
  Open (fun action => action.entersMode = some .softapMode)
    (fun action => action.entersMode.isSome = true) trace

/-- The device has been told to restart. -/
def Restarted (trace : List WifiAction) : Prop :=
  .systemRestart ∈ trace

/-- A session which was left is closed. -/
structure TornDown (world : TeardownWorld) : Prop where
  mqtt :
    BackInAp world.trace ∨ Restarted world.trace →
      ¬MqttRunning world.trace
  server :
    BackInAp world.trace ∨ Restarted world.trace →
      ¬StationServerOpen world.trace
  flags :
    BackInAp world.trace →
      world.session.wifi.hasBeenConnectedAsStation = false ∧
        world.session.wifi.hasReceivedConnectInstruction = false

/-! ## Steps which leave nothing open -/

/-- `go_back_to_ap` becomes an access point, and finds nothing running that it does not stop. -/
def GoesBackCleanly (world : TeardownWorld) (answers : ApAnswers) : Prop :=
  answers.opmode = true ∨ answers.startOpmode = true →
    match world.session.wifi.opmode with
    | .softapMode => True
    | .nullMode =>
        ¬MqttRunning world.trace ∧ ¬StationServerOpen world.trace
    | .stationMode | .stationapMode => ¬MqttRunning world.trace

/--
`GOT_IP` is not handled any more by an access point, whose mode a `Connect`
command does change, and `go_back_to_ap` finds the MQTT client stopped.
-/
def LeavesCleanly (world : TeardownWorld) : SessionStep → Prop
  | .post _ _ | .reboot _ => True
  | .deliver posted _ _ =>
      posted.event = .stamodeGotIp →
        world.session.wifi.handler = .staWifiHandler →
          ¬BackInAp world.trace
  | .connectTimer answers _ =>
      world.session.wifi.hasBeenConnectedAsStation = false →
        GoesBackCleanly world answers
  | .connect answers => BackInAp world.trace → answers.opmode = true
  | .runAp answers _ => GoesBackCleanly world answers

/-! ## What the functions call -/

/-- What a trace means. -/
structure TraceMeans
    (trace : List WifiAction) (mqtt server back restarted : Prop) : Prop where
  mqtt : MqttRunning trace ↔ mqtt
  server : StationServerOpen trace ↔ server
  back : BackInAp trace ↔ back
  restarted : Restarted trace ↔ restarted

theorem traceMeans_goBackToAp
    (log : List WifiAction) (mode : Opmode) (answers : ApAnswers) :
    TraceMeans (log ++ goBackToAp mode answers)
      (MqttRunning log)
      (StationServerOpen log ∧ (mode = .softapMode ∨ mode = .nullMode))
      (BackInAp log ∨
        mode ≠ .softapMode ∧
          (answers.opmode = true ∨ answers.startOpmode = true))
      (Restarted log) := by
  rcases answers with ⟨disconnect, opmode, startOpmode, softapConfig⟩
  constructor
  · rw [MqttRunning, open_append]
    cases mode <;> cases startOpmode <;> cases softapConfig <;>
      simp [goBackToAp, startAccessPoint, MqttRunning]
  · rw [StationServerOpen, open_append]
    cases mode <;> cases startOpmode <;> cases softapConfig <;>
      simp [goBackToAp, startAccessPoint, StationServerOpen]
  · rw [BackInAp, open_append]
    cases mode <;> cases opmode <;> cases startOpmode <;>
      cases softapConfig <;>
      simp [goBackToAp, startAccessPoint, BackInAp, WifiAction.entersMode]
  · cases mode <;> cases startOpmode <;> cases softapConfig <;>
      simp [goBackToAp, startAccessPoint, Restarted]

theorem traceMeans_gotIp
    (log : List WifiAction) (wifi : Wifi) (disconnect : Bool) :
    TraceMeans (log ++ staWifiHandler wifi .stamodeGotIp disconnect)
      True True (BackInAp log) (Restarted log) := by
  constructor
  · rw [MqttRunning, open_append]
    simp [staWifiHandler]
  · rw [StationServerOpen, open_append]
    simp [staWifiHandler]
  · rw [BackInAp, open_append]
    simp [staWifiHandler, BackInAp, WifiAction.entersMode]
  · simp [staWifiHandler, Restarted]

theorem traceMeans_disconnected
    (log : List WifiAction) {wifi : Wifi}
    (armed : wifi.armed = true)
    (disconnect : Bool) :
    TraceMeans (log ++ staWifiHandler wifi .stamodeDisconnected disconnect)
      False False (BackInAp log) True := by
  rw [Wifi.armed] at armed
  constructor
  · rw [MqttRunning, open_append]
    simp [staWifiHandler, armed]
  · rw [StationServerOpen, open_append]
    simp [staWifiHandler, armed]
  · rw [BackInAp, open_append]
    simp [staWifiHandler, armed, BackInAp, WifiAction.entersMode]
  · simp [staWifiHandler, armed, Restarted]

theorem traceMeans_connectToNetwork
    (log : List WifiAction) (answers : StationAnswers) :
    TraceMeans (log ++ connectToNetworkTrace answers)
      (MqttRunning log) (StationServerOpen log)
      (BackInAp log ∧ answers.opmode = false) (Restarted log) := by
  rcases answers with ⟨opmode, setConfig, connect⟩
  constructor
  · rw [MqttRunning, open_append]
    cases opmode <;> cases setConfig <;>
      simp [connectToNetworkTrace, startStationTrace, MqttRunning]
  · rw [StationServerOpen, open_append]
    cases opmode <;> cases setConfig <;>
      simp [connectToNetworkTrace, startStationTrace, StationServerOpen]
  · rw [BackInAp, open_append]
    cases opmode <;> cases setConfig <;>
      simp [connectToNetworkTrace, startStationTrace, BackInAp,
        WifiAction.entersMode]
  · cases opmode <;> cases setConfig <;>
      simp [connectToNetworkTrace, startStationTrace, Restarted]

theorem traceMeans_wifiInit (opmode autoConnect : Bool) :
    TraceMeans (wifiInit opmode autoConnect) False False False False := by
  rw [← List.nil_append (wifiInit opmode autoConnect)]
  constructor
  · rw [MqttRunning, open_append]
    simp [wifiInit, Open]
  · rw [StationServerOpen, open_append]
    simp [wifiInit, Open]
  · rw [BackInAp, open_append]
    cases opmode <;> simp [wifiInit, Open, WifiAction.entersMode]
  · simp [wifiInit, Restarted]

/-! ## What a step does -/

/-- Two states of `wifi.c` agree, but for the timer. -/
structure Wifi.Agrees (left right : Wifi) : Prop where
  connected :
    left.hasBeenConnectedAsStation = right.hasBeenConnectedAsStation
  received :
    left.hasReceivedConnectInstruction = right.hasReceivedConnectInstruction
  handler : left.handler = right.handler
  opmode : left.opmode = right.opmode

theorem Wifi.Agrees.perform
    {left right : Wifi}
    (agrees : left.Agrees right) (action : WifiAction) :
    (left.perform action).Agrees (right.perform action) := by
  cases action with
  | setConnectedAsStation value =>
      exact { agrees with connected := rfl }
  | setReceivedConnectInstruction value =>
      exact { agrees with received := rfl }
  | wifiSetOpmode mode success =>
      cases success with
      | false =>
          exact agrees
      | true =>
          exact { agrees with opmode := rfl }
  | wifiSetEventHandlerCb handler =>
      exact { agrees with handler := rfl }
  | armWifiConnectTimer =>
      exact { agrees with }
  | _ =>
      exact agrees

theorem Wifi.Agrees.performAll
    {left right : Wifi}
    (agrees : left.Agrees right) (actions : List WifiAction) :
    (left.performAll actions).Agrees (right.performAll actions) := by
  induction actions generalizing left right with
  | nil =>
      exact agrees
  | cons action rest induction =>
      exact induction (agrees.perform action)

/-- A step that is no boot is what its calls do. -/
theorem TeardownWorld.stepped
    {world after : TeardownWorld} {step : SessionStep}
    (taken : world.next step = some after)
    (running : ∀ answers, step ≠ .reboot answers) :
    after.trace = world.trace ++ world.session.actions step ∧
      after.session.wifi.Agrees
        (world.session.wifi.performAll (world.session.actions step)) := by
  rcases Option.map_eq_some_iff.mp taken with ⟨session, moved, rfl⟩
  cases step with
  | reboot answers =>
      exact absurd rfl (running answers)
  | post event failedAutoConnect =>
      cases moved
      exact ⟨rfl, rfl, rfl, rfl, rfl⟩
  | connect answers =>
      cases moved
      exact ⟨rfl, rfl, rfl, rfl, rfl⟩
  | runAp answers raised =>
      cases moved
      exact ⟨rfl, rfl, rfl, rfl, rfl⟩
  | deliver posted disconnect raised =>
      simp only [SessionWorld.next] at moved
      split at moved
      · cases registered : world.session.wifi.handler with
        | staWifiHandler =>
            rw [registered, Option.some.injEq] at moved
            subst moved
            refine ⟨rfl, ?_⟩
            simp only [SessionWorld.actions, registered]
            exact ⟨rfl, rfl, rfl, rfl⟩
        | emptyWifiHandler =>
            rw [registered, Option.some.injEq] at moved
            subst moved
            refine ⟨rfl, ?_⟩
            simp only [SessionWorld.actions, registered]
            exact ⟨rfl, rfl, rfl, rfl⟩
      · cases moved
  | connectTimer answers raised =>
      have fired :
          Wifi.Agrees { world.session.wifi with connectTimer := false }
            world.session.wifi :=
        ⟨rfl, rfl, rfl, rfl⟩
      simp only [SessionWorld.next] at moved
      split at moved
      · split at moved
        · rename_i connected
          cases moved
          refine ⟨rfl, ?_⟩
          rw [SessionWorld.actions, wifiTimerCb, if_pos connected]
          exact fired
        · cases moved
          exact ⟨rfl, fired.performAll _⟩
      · cases moved

/-! ## The invariant -/

/-- The calls since the boot say what the mode and the handler are. -/
structure TeardownInvariant (world : TeardownWorld) : Prop where
  mode : BackInAp world.trace → world.session.wifi.opmode = .softapMode
  silent :
    Restarted world.trace → world.session.wifi.handler = .emptyWifiHandler

/-- What `go_back_to_ap` leaves, when it finds another mode. -/
theorem Wifi.performAll_goBackToAp_left
    (wifi : Wifi) {mode : Opmode}
    (other : mode ≠ .softapMode) (answers : ApAnswers) :
    (wifi.performAll (goBackToAp mode answers)).hasBeenConnectedAsStation =
        false ∧
      (wifi.performAll
          (goBackToAp mode answers)).hasReceivedConnectInstruction =
          false ∧
        (wifi.performAll (goBackToAp mode answers)).opmode =
          if answers.opmode = true ∨ answers.startOpmode = true then
            .softapMode
          else
            wifi.opmode := by
  rcases answers with ⟨disconnect, opmode, startOpmode, softapConfig⟩
  cases mode with
  | softapMode =>
      exact absurd rfl other
  | nullMode | stationMode | stationapMode =>
      cases opmode <;> cases startOpmode <;> cases softapConfig <;>
        exact ⟨rfl, rfl, rfl⟩

/-- The handler leaves the flags and the mode alone when the network is lost. -/
theorem Wifi.performAll_disconnected_kept
    (wifi : Wifi) (disconnect : Bool) :
    let after :=
      wifi.performAll (staWifiHandler wifi .stamodeDisconnected disconnect)
    after.hasBeenConnectedAsStation = wifi.hasBeenConnectedAsStation ∧
      after.hasReceivedConnectInstruction =
          wifi.hasReceivedConnectInstruction ∧
        after.opmode = wifi.opmode := by
  simp only [staWifiHandler]
  split <;> exact ⟨rfl, rfl, rfl⟩

/-- A `Connect` command leaves the mode alone when it fails to change it. -/
theorem Wifi.performAll_connectToNetwork_left
    (wifi : Wifi) (answers : StationAnswers) :
    let after := wifi.performAll (connectToNetworkTrace answers)
    after.hasReceivedConnectInstruction = true ∧
      (answers.opmode = false → after.opmode = wifi.opmode) := by
  rcases answers with ⟨opmode, setConfig, connect⟩
  cases opmode with
  | false =>
      exact ⟨rfl, fun _ => rfl⟩
  | true =>
      cases setConfig <;> exact ⟨rfl, fun failed => by cases failed⟩

/-- Whether a session is torn down depends on what its trace means and on the flags. -/
theorem TraceMeans.tornDown_iff
    {world : TeardownWorld} {mqtt server back restarted : Prop}
    (means : TraceMeans world.trace mqtt server back restarted) :
    TornDown world ↔
      (back ∨ restarted → ¬mqtt ∧ ¬server) ∧
        (back →
          world.session.wifi.hasBeenConnectedAsStation = false ∧
            world.session.wifi.hasReceivedConnectInstruction = false) := by
  rw [← means.mqtt, ← means.server, ← means.back, ← means.restarted]
  constructor
  · rintro ⟨mqtt, server, flags⟩
    exact ⟨fun left => ⟨mqtt left, server left⟩, flags⟩
  · rintro ⟨closed, flags⟩
    exact ⟨fun left => (closed left).1, fun left => (closed left).2, flags⟩

section

variable {world after : TeardownWorld}

/-- A step without calls keeps everything. -/
theorem stepped_quiet
    (invariant : TeardownInvariant world)
    (torn : TornDown world)
    (trace : after.trace = world.trace ++ [])
    (agrees :
      after.session.wifi.Agrees (world.session.wifi.performAll [])) :
    TeardownInvariant after ∧ TornDown after := by
  rw [List.append_nil] at trace
  refine ⟨⟨?_, ?_⟩, ?_, ?_, ?_⟩
  · rw [trace, agrees.opmode]
    exact invariant.mode
  · rw [trace, agrees.handler]
    exact invariant.silent
  · rw [trace]
    exact torn.mqtt
  · rw [trace]
    exact torn.server
  · rw [trace, agrees.connected, agrees.received]
    exact torn.flags

/-- What is kept when `go_back_to_ap` has been called, and when it has left nothing open. -/
theorem stepped_goBack
    {answers : ApAnswers}
    (invariant : TeardownInvariant world)
    (torn : TornDown world)
    (trace :
      after.trace =
        world.trace ++ goBackToAp world.session.wifi.opmode answers)
    (agrees :
      after.session.wifi.Agrees
        (world.session.wifi.performAll
          (goBackToAp world.session.wifi.opmode answers))) :
    TeardownInvariant after ∧
      (TornDown after ↔ GoesBackCleanly world answers) := by
  have means :=
    traceMeans_goBackToAp world.trace world.session.wifi.opmode answers
  rw [← trace] at means
  have handler :
      after.session.wifi.handler = world.session.wifi.handler :=
    agrees.handler.trans
      (Wifi.performAll_goBackToAp world.session.wifi
        world.session.wifi.opmode answers).1
  by_cases access : world.session.wifi.opmode = .softapMode
  · rw [access] at trace agrees
    have quiet := stepped_quiet invariant torn trace agrees
    rw [GoesBackCleanly, access]
    exact ⟨quiet.1, iff_of_true quiet.2 fun _ => trivial⟩
  · have left :=
      world.session.wifi.performAll_goBackToAp_left access answers
    have stayed : ¬BackInAp world.trace := fun back =>
      access (invariant.mode back)
    refine ⟨⟨?_, ?_⟩, ?_⟩
    · rw [means.back, agrees.opmode, left.2.2]
      rintro (back | ⟨-, enters⟩)
      · exact absurd back stayed
      · rw [if_pos enters]
    · rw [means.restarted, handler]
      exact invariant.silent
    · have earlier : Restarted world.trace →
          ¬MqttRunning world.trace ∧ ¬StationServerOpen world.trace :=
        fun told => ⟨torn.mqtt (Or.inr told), torn.server (Or.inr told)⟩
      rw [means.tornDown_iff, agrees.connected, agrees.received, left.1,
        left.2.1, GoesBackCleanly]
      cases mode : world.session.wifi.opmode with
      | softapMode =>
          exact absurd mode access
      | nullMode | stationMode | stationapMode =>
          simp only [stayed, false_or, ne_eq, reduceCtorEq,
            not_false_eq_true, true_and, or_true, or_false, and_true,
            and_self, implies_true, and_false]
          tauto

/-- While a handler is registered, the device was not told to restart. -/
theorem TeardownInvariant.running
    (invariant : TeardownInvariant world)
    (registered : world.session.wifi.handler = .staWifiHandler) :
    ¬Restarted world.trace := by
  intro told
  have empty := invariant.silent told
  rw [registered] at empty
  cases empty

/-- `GOT_IP` opens everything, which an access point must not. -/
theorem stepped_gotIp
    {disconnect : Bool}
    (invariant : TeardownInvariant world)
    (registered : world.session.wifi.handler = .staWifiHandler)
    (trace :
      after.trace =
        world.trace ++
          staWifiHandler world.session.wifi .stamodeGotIp disconnect)
    (agrees :
      after.session.wifi.Agrees
        (world.session.wifi.performAll
          (staWifiHandler world.session.wifi .stamodeGotIp disconnect))) :
    TeardownInvariant after ∧ (TornDown after ↔ ¬BackInAp world.trace) := by
  have running := invariant.running registered
  have means := traceMeans_gotIp world.trace world.session.wifi disconnect
  rw [← trace] at means
  refine ⟨⟨?_, ?_⟩, ?_⟩
  · rw [means.back, agrees.opmode]
    exact invariant.mode
  · rw [means.restarted]
    exact fun told => absurd told running
  · rw [means.tornDown_iff]
    simp only [running, or_false, not_true_eq_false, and_self, imp_false,
      and_iff_left_iff_imp]
    exact fun away back => absurd back away

/-- A lost network closes everything, or is ignored. -/
theorem stepped_disconnected
    {disconnect : Bool}
    (invariant : TeardownInvariant world)
    (torn : TornDown world)
    (trace :
      after.trace =
        world.trace ++
          staWifiHandler world.session.wifi .stamodeDisconnected disconnect)
    (agrees :
      after.session.wifi.Agrees
        (world.session.wifi.performAll
          (staWifiHandler world.session.wifi .stamodeDisconnected
            disconnect))) :
    TeardownInvariant after ∧ TornDown after := by
  cases armed : world.session.wifi.armed with
  | true =>
      have means := traceMeans_disconnected world.trace armed disconnect
      rw [← trace] at means
      have handled :=
        Wifi.performAll_staWifiHandler world.session.wifi
          .stamodeDisconnected disconnect
      have kept :=
        world.session.wifi.performAll_disconnected_kept disconnect
      refine ⟨⟨?_, ?_⟩, ?_⟩
      · rw [means.back, agrees.opmode, kept.2.2]
        exact invariant.mode
      · intro _
        rw [agrees.handler, handled.1, if_pos ⟨rfl, armed⟩]
      · rw [means.tornDown_iff, agrees.connected, agrees.received, kept.1,
          kept.2.1]
        exact ⟨fun _ => ⟨not_false, not_false⟩, torn.flags⟩
  | false =>
      rw [staWifiHandler, ← Wifi.armed, armed] at trace agrees
      exact stepped_quiet invariant torn trace agrees

/-- What is kept by an event, and when it has left nothing open. -/
theorem stepped_deliver
    {posted : PostedEvent} {disconnect : Bool}
    (invariant : TeardownInvariant world)
    (torn : TornDown world)
    (registered : world.session.wifi.handler = .staWifiHandler)
    (trace :
      after.trace =
        world.trace ++
          staWifiHandler world.session.wifi posted.event disconnect)
    (agrees :
      after.session.wifi.Agrees
        (world.session.wifi.performAll
          (staWifiHandler world.session.wifi posted.event disconnect))) :
    TeardownInvariant after ∧
      (TornDown after ↔
        (posted.event = .stamodeGotIp → ¬BackInAp world.trace)) := by
  cases event : posted.event with
  | stamodeGotIp =>
      rw [event] at trace agrees
      simpa only [true_implies] using
        stepped_gotIp invariant registered trace agrees
  | stamodeDisconnected =>
      rw [event] at trace agrees
      have closed := stepped_disconnected invariant torn trace agrees
      exact ⟨closed.1, iff_of_true closed.2 (by simp)⟩
  | _ =>
      rw [event] at trace agrees
      have quiet := stepped_quiet invariant torn trace agrees
      exact ⟨quiet.1, iff_of_true quiet.2 (by simp)⟩

/-- What is kept by a `Connect` command, and when it has left the access point. -/
theorem stepped_connect
    {answers : StationAnswers}
    (invariant : TeardownInvariant world)
    (torn : TornDown world)
    (trace : after.trace = world.trace ++ connectToNetworkTrace answers)
    (agrees :
      after.session.wifi.Agrees
        (world.session.wifi.performAll (connectToNetworkTrace answers))) :
    TeardownInvariant after ∧
      (TornDown after ↔
        (BackInAp world.trace → answers.opmode = true)) := by
  have means := traceMeans_connectToNetwork world.trace answers
  rw [← trace] at means
  have left := world.session.wifi.performAll_connectToNetwork_left answers
  refine ⟨⟨?_, ?_⟩, ?_⟩
  · rw [means.back, agrees.opmode]
    rintro ⟨back, failed⟩
    rw [left.2 failed]
    exact invariant.mode back
  · rw [means.restarted, agrees.handler,
      (Wifi.performAll_connectToNetwork world.session.wifi answers).1]
    exact invariant.silent
  · rw [means.tornDown_iff, agrees.received, left.1]
    constructor
    · rintro ⟨-, flags⟩ back
      rw [← Bool.not_eq_false]
      intro failed
      cases (flags ⟨back, failed⟩).2
    · intro changes
      constructor
      · rintro (⟨back, -⟩ | told)
        · exact ⟨torn.mqtt (Or.inl back), torn.server (Or.inl back)⟩
        · exact ⟨torn.mqtt (Or.inr told), torn.server (Or.inr told)⟩
      · rintro ⟨back, failed⟩
        rw [changes back] at failed
        cases failed

end

/-- The device has booted. -/
theorem booted_teardown
    (world : TeardownWorld) {opmode autoConnect : Bool}
    (trace : world.trace = wifiInit opmode autoConnect) :
    TeardownInvariant world ∧ TornDown world := by
  have means := traceMeans_wifiInit opmode autoConnect
  rw [← trace] at means
  refine ⟨⟨?_, ?_⟩, ?_⟩
  · rw [means.back]
    exact False.elim
  · rw [means.restarted]
    exact False.elim
  · rw [means.tornDown_iff]
    exact ⟨fun _ => ⟨not_false, not_false⟩, False.elim⟩

/-- A step leaves nothing open exactly when it meets its condition. -/
theorem tornDown_step
    {world after : TeardownWorld} {step : SessionStep}
    (invariant : TeardownInvariant world)
    (torn : TornDown world)
    (taken : world.next step = some after) :
    TeardownInvariant after ∧
      (TornDown after ↔ LeavesCleanly world step) := by
  cases step with
  | reboot answers =>
      rcases Option.map_eq_some_iff.mp taken with ⟨session, -, rfl⟩
      have booted :=
        booted_teardown
          ⟨session, wifiInit answers.opmode answers.autoConnect⟩ rfl
      exact ⟨booted.1, iff_of_true booted.2 trivial⟩
  | post event failedAutoConnect =>
      have stepped := TeardownWorld.stepped taken (by simp)
      have quiet := stepped_quiet invariant torn stepped.1 stepped.2
      exact ⟨quiet.1, iff_of_true quiet.2 trivial⟩
  | connect answers =>
      have stepped := TeardownWorld.stepped taken (by simp)
      exact stepped_connect invariant torn stepped.1 stepped.2
  | runAp answers raised =>
      have stepped := TeardownWorld.stepped taken (by simp)
      exact stepped_goBack invariant torn stepped.1 stepped.2
  | connectTimer answers raised =>
      have stepped := TeardownWorld.stepped taken (by simp)
      rw [SessionWorld.actions, wifiTimerCb] at stepped
      rw [LeavesCleanly]
      cases connected : world.session.wifi.hasBeenConnectedAsStation with
      | true =>
          rw [connected] at stepped
          have quiet := stepped_quiet invariant torn stepped.1 stepped.2
          exact ⟨quiet.1, iff_of_true quiet.2 (by simp)⟩
      | false =>
          rw [connected] at stepped
          simpa only [true_implies] using
            stepped_goBack invariant torn stepped.1 stepped.2
  | deliver posted disconnect raised =>
      have stepped := TeardownWorld.stepped taken (by simp)
      rw [SessionWorld.actions] at stepped
      rw [LeavesCleanly]
      cases registered : world.session.wifi.handler with
      | staWifiHandler =>
          rw [registered] at stepped
          simpa only [true_implies] using
            stepped_deliver invariant torn registered stepped.1 stepped.2
      | emptyWifiHandler =>
          rw [registered] at stepped
          have quiet := stepped_quiet invariant torn stepped.1 stepped.2
          exact ⟨quiet.1, iff_of_true quiet.2 (by simp)⟩

/-! ## Runs -/

/--
Along a run every session which is left is closed, exactly when `go_back_to_ap`
always finds the MQTT client stopped, and the access point neither handles
`GOT_IP` nor fails to change its mode for a `Connect` command.
-/
theorem sessions_torn_down_iff
    (answers : BootAnswers) (steps : List SessionStep) :
    (teardownSystem answers).Always TornDown
        (teardownSystem answers).start steps ↔
      (teardownSystem answers).Each LeavesCleanly
        (teardownSystem answers).start steps := by
  have booted := booted_teardown (teardownSystem answers).start rfl
  apply System.always_iff_each _ steps booted.1 booted.2
  intro world step after invariant torn taken
  have stepped := tornDown_step invariant torn taken
  exact ⟨stepped.2, fun _ => stepped.1⟩

/-- The device connects to its network, and is told to be an access point. -/
def connectedThenRunAp : List SessionStep :=
  [.post .stamodeGotIp false,
    .deliver ⟨.stamodeGotIp, .network⟩ true true,
    .runAp willingAp true]

/-- `go_back_to_ap` leaves the MQTT client running. -/
theorem runAp_leaves_mqtt_running :
    ¬(teardownSystem willingBoot).Always TornDown
        (teardownSystem willingBoot).start connectedThenRunAp := by
  intro always
  let connected :=
    wifiInit true true ++
      staWifiHandler (.boot .softapMode) .stamodeGotIp true
  have ran :
      ((teardownSystem willingBoot).run (teardownSystem willingBoot).start
          connectedThenRunAp).map TeardownWorld.trace =
        some (connected ++ goBackToAp .stationapMode willingAp) := by
    decide
  rcases always.last_of_map ran with ⟨world, trace, torn⟩
  have means := traceMeans_goBackToAp connected .stationapMode willingAp
  rw [← trace] at means
  have back : BackInAp world.trace := means.back.mpr (Or.inr (by decide))
  have running : MqttRunning world.trace :=
    means.mqtt.mpr
      ((traceMeans_gotIp (wifiInit true true) (.boot .softapMode) true).mqtt.mpr
        trivial)
  exact torn.mqtt (Or.inl back) running

end EspFirmware
