import EspFirmware.Station

/-!
# The Wi-Fi functions of `wifi.c` and `network_cmds.c`

Every function takes what it reads of the static variables and of the SDK, and
the outcomes of the SDK calls it makes that may fail.  It answers with the
trace of its calls and of its writes to the two flags, in program order.
`Wifi.perform` says what an action changes.  Console output is left out, and so
are the names and the addresses which the functions only print.
-/

namespace EspFirmware

/-! ## Data -/

/-- The operating modes of the SDK. -/
inductive Opmode where
  | nullMode
  | stationMode
  | softapMode
  | stationapMode
deriving DecidableEq

/-- What `wifi_set_event_handler_cb` registers. -/
inductive WifiHandler where
  | emptyWifiHandler
  | staWifiHandler
deriving DecidableEq

/-- `event` of a `System_Event_t`. -/
inductive WifiEvent where
  | stamodeConnected
  | stamodeDisconnected
  | stamodeAuthmodeChange
  | stamodeGotIp
  | softapmodeStaconnected
  | softapmodeStadisconnected
  | other
deriving DecidableEq

/-- A write to a flag, or a call of the functions in `wifi.c` and `network_cmds.c`. -/
inductive WifiAction where
  | setConnectedAsStation (value : Bool)
  | setReceivedConnectInstruction (value : Bool)
  | wifiSetOpmode (mode : Opmode) (success : Bool)
  | wifiSetEventHandlerCb (handler : WifiHandler)
  | wifiStationSetAutoConnect (success : Bool)
  | wifiStationSetConfig (success : Bool)
  | wifiStationConnect (success : Bool)
  | wifiStationDisconnect (success : Bool)
  | wifiSoftapSetConfig (success : Bool)
  | armWifiConnectTimer
  | armInitDoneTimer
  | initDone
  | staServerInit
  | staServerClose
  | apServerClose
  | mqttStart
  | mqttStop
  | systemRestart
deriving DecidableEq

/-- The static variables of `wifi.c`, and what it has set in the SDK. -/
structure Wifi where
  hasBeenConnectedAsStation : Bool
  hasReceivedConnectInstruction : Bool
  handler : WifiHandler
  opmode : Opmode
  connectTimer : Bool
deriving DecidableEq

namespace Wifi

/-- The statically initialised flags, before `wifi_init`, with the mode the SDK has stored. -/
def boot (opmode : Opmode) : Wifi where
  hasBeenConnectedAsStation := false
  hasReceivedConnectInstruction := false
  handler := .emptyWifiHandler
  opmode := opmode
  connectTimer := false

/-- What an action changes. -/
def perform (wifi : Wifi) : WifiAction → Wifi
  | .setConnectedAsStation value =>
      { wifi with hasBeenConnectedAsStation := value }
  | .setReceivedConnectInstruction value =>
      { wifi with hasReceivedConnectInstruction := value }
  | .wifiSetOpmode mode true => { wifi with opmode := mode }
  | .wifiSetEventHandlerCb handler => { wifi with handler := handler }
  | .armWifiConnectTimer => { wifi with connectTimer := true }
  | _ => wifi

/-- What a trace changes. -/
def performAll (wifi : Wifi) (actions : List WifiAction) : Wifi :=
  actions.foldl perform wifi

end Wifi

/-! ## Network commands -/

/-- The calls of `start_station`. -/
def startStationTrace (answers : StationAnswers) : List WifiAction :=
  if answers.opmode then
    if answers.setConfig then
      [.wifiSetOpmode .stationapMode true, .wifiStationSetConfig true,
        .wifiStationConnect answers.connect]
    else
      [.wifiSetOpmode .stationapMode true, .wifiStationSetConfig false]
  else
    [.wifiSetOpmode .stationapMode false]

/-- `connect_to_network`; the credentials decide none of its calls. -/
def connectToNetworkTrace (answers : StationAnswers) : List WifiAction :=
  [.apServerClose, .setReceivedConnectInstruction true] ++
    startStationTrace answers

/-- The outcomes of the SDK calls made by `go_back_to_ap`. -/
structure ApAnswers where
  disconnect : Bool
  opmode : Bool
  startOpmode : Bool
  softapConfig : Bool
deriving DecidableEq

/-- `start_access_point`: its calls, and whether it returned 0. -/
def startAccessPoint (answers : ApAnswers) : List WifiAction × Bool :=
  if answers.startOpmode then
    ([.wifiSetOpmode .softapMode true,
        .wifiSoftapSetConfig answers.softapConfig],
      answers.softapConfig)
  else
    ([.wifiSetOpmode .softapMode false], false)

/-- `go_back_to_ap`, with the mode it finds. -/
def goBackToAp (mode : Opmode) (answers : ApAnswers) : List WifiAction :=
  let start := startAccessPoint answers
  match mode with
  | .softapMode => []
  | .nullMode =>
      [.wifiSetOpmode .softapMode answers.opmode,
        .setConnectedAsStation false, .setReceivedConnectInstruction false] ++
        start.1 ++ if start.2 then [.initDone] else []
  | .stationMode | .stationapMode =>
      [.staServerClose, .setConnectedAsStation false,
        .setReceivedConnectInstruction false,
        .wifiStationDisconnect answers.disconnect,
        .wifiSetOpmode .softapMode answers.opmode] ++
        start.1 ++ if start.2 then [.armInitDoneTimer] else []

/-! ## Events and the timer -/

/-- `sta_wifi_handler`, with the outcome of `wifi_station_disconnect`. -/
def staWifiHandler (wifi : Wifi) (event : WifiEvent) (disconnect : Bool) :
    List WifiAction :=
  match event with
  | .stamodeDisconnected =>
      if wifi.hasBeenConnectedAsStation || wifi.hasReceivedConnectInstruction
      then
        [.mqttStop, .staServerClose, .wifiStationDisconnect disconnect,
          .wifiSetEventHandlerCb .emptyWifiHandler, .systemRestart]
      else
        []
  | .stamodeGotIp =>
      [.setConnectedAsStation true, .staServerInit, .mqttStart]
  | .stamodeConnected | .stamodeAuthmodeChange | .softapmodeStaconnected
  | .softapmodeStadisconnected | .other => []

/-- `wifi_timer_cb`. -/
def wifiTimerCb (wifi : Wifi) (answers : ApAnswers) : List WifiAction :=
  if wifi.hasBeenConnectedAsStation then
    []
  else
    goBackToAp wifi.opmode answers

/-- `wifi_init`. -/
def wifiInit (opmode autoConnect : Bool) : List WifiAction :=
  [.wifiSetOpmode .stationapMode opmode,
    .wifiSetEventHandlerCb .staWifiHandler,
    .wifiStationSetAutoConnect autoConnect, .armWifiConnectTimer]

/-! ## What the functions change -/

namespace Wifi

/-- The flags are what decides a restart. -/
def armed (wifi : Wifi) : Bool :=
  wifi.hasBeenConnectedAsStation || wifi.hasReceivedConnectInstruction

theorem handler_startStationTrace (wifi : Wifi) (answers : StationAnswers) :
    (wifi.performAll (startStationTrace answers)).handler = wifi.handler ∧
      (wifi.performAll (startStationTrace answers)).armed = wifi.armed := by
  simp only [startStationTrace]
  split
  · split <;> exact ⟨rfl, rfl⟩
  · exact ⟨rfl, rfl⟩

/-- A `Connect` command sets the flag and keeps the handler. -/
theorem performAll_connectToNetwork (wifi : Wifi) (answers : StationAnswers) :
    (wifi.performAll (connectToNetworkTrace answers)).handler = wifi.handler ∧
      (wifi.performAll (connectToNetworkTrace answers)).armed = true := by
  have started :=
    handler_startStationTrace
      { wifi with hasReceivedConnectInstruction := true } answers
  have flagged :
      armed { wifi with hasReceivedConnectInstruction := true } = true := by
    simp [armed]
  exact ⟨started.1, started.2.trans flagged⟩

/-- `go_back_to_ap` keeps the handler, and clears both flags unless it finds an access point. -/
theorem performAll_goBackToAp
    (wifi : Wifi) (mode : Opmode) (answers : ApAnswers) :
    (wifi.performAll (goBackToAp mode answers)).handler = wifi.handler ∧
      (wifi.performAll (goBackToAp mode answers)).armed =
        (decide (mode = .softapMode) && wifi.armed) := by
  rcases answers with ⟨disconnect, opmode, startOpmode, softapConfig⟩
  cases mode with
  | softapMode =>
      exact ⟨rfl, by simp [goBackToAp, performAll]⟩
  | nullMode =>
      cases opmode <;> cases startOpmode <;> cases softapConfig <;>
        exact ⟨rfl, rfl⟩
  | stationMode =>
      cases opmode <;> cases startOpmode <;> cases softapConfig <;>
        exact ⟨rfl, rfl⟩
  | stationapMode =>
      cases opmode <;> cases startOpmode <;> cases softapConfig <;>
        exact ⟨rfl, rfl⟩

/-- The handler takes itself off when it restarts the device, and `GOT_IP` sets its flag. -/
theorem performAll_staWifiHandler
    (wifi : Wifi) (event : WifiEvent) (disconnect : Bool) :
    (wifi.performAll (staWifiHandler wifi event disconnect)).handler =
        (if event = .stamodeDisconnected ∧ wifi.armed = true then
          .emptyWifiHandler
        else
          wifi.handler) ∧
      (wifi.performAll (staWifiHandler wifi event disconnect)).armed =
        (decide (event = .stamodeGotIp) || wifi.armed) := by
  cases event with
  | stamodeDisconnected =>
      cases armed : wifi.armed with
      | false =>
          rw [Wifi.armed] at armed
          simp [staWifiHandler, performAll, armed, Wifi.armed]
      | true =>
          rw [Wifi.armed] at armed
          simp [staWifiHandler, performAll, perform, armed, Wifi.armed]
  | stamodeGotIp =>
      simp [staWifiHandler, performAll, perform, armed]
  | _ =>
      simp [staWifiHandler, performAll]

/-- The handler restarts the device on a `DISCONNECTED` event under a flag. -/
theorem systemRestart_mem_staWifiHandler
    (wifi : Wifi) (event : WifiEvent) (disconnect : Bool) :
    .systemRestart ∈ staWifiHandler wifi event disconnect ↔
      event = .stamodeDisconnected ∧ wifi.armed = true := by
  cases event with
  | stamodeDisconnected =>
      cases armed : wifi.armed with
      | false =>
          rw [Wifi.armed] at armed
          simp [staWifiHandler, armed]
      | true =>
          rw [Wifi.armed] at armed
          simp [staWifiHandler, armed]
  | _ =>
      simp [staWifiHandler]

/-- After `wifi_init` the handler is on and no flag is set. -/
theorem performAll_wifiInit (found : Opmode) (opmode autoConnect : Bool) :
    ((boot found).performAll (wifiInit opmode autoConnect)).handler =
        .staWifiHandler ∧
      ((boot found).performAll (wifiInit opmode autoConnect)).armed =
        false := by
  cases opmode <;> exact ⟨rfl, rfl⟩

end Wifi

/-- `start_station` returns 0 exactly if its trace ends in a connection attempt. -/
theorem success_startStation
    (layout : StationLayout) (stack : Nat → UInt8)
    (answers : StationAnswers) (ssid password : List UInt8) :
    (startStation layout stack answers ssid password).success = true ↔
      .wifiStationConnect true ∈ startStationTrace answers := by
  rcases answers with ⟨opmode, setConfig, connect⟩
  cases opmode <;> cases setConfig <;>
    simp [startStation, startStationTrace, eq_comm]

end EspFirmware
