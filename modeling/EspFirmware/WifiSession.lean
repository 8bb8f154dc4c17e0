import EspFirmware.Library.EventLog
import EspFirmware.Library.Transition
import EspFirmware.Wifi

/-!
# Boot sessions and restarts

The SDK posts events and delivers them later, in any order.  The timer and the
two network commands come between any two of them, and the device may reboot at
any time.

The log is not part of the device: it records what reached `sta_wifi_handler`,
which of it restarted the device, and the commands.  Every posted event carries
its cause, which the handler cannot see.
-/

namespace EspFirmware

open Library

/-! ## The world -/

/-- Why an event was posted; a call of `go_back_to_ap` is named by its place in the log. -/
inductive EventCause where
  | network
  | failedAutoConnect
  | goBackToAp (call : Nat)
  | restart
deriving DecidableEq

/-- An event on its way to the handler. -/
structure PostedEvent where
  event : WifiEvent
  cause : EventCause
deriving DecidableEq

/-- What the log records. -/
inductive SessionEntry where
  /-- The device boots, and `wifi_init` runs. -/
  | boot
  /-- A `Connect` command is carried out. -/
  | connect
  /-- `go_back_to_ap` is called, in some mode. -/
  | goBackToAp (mode : Opmode)
  /-- An event reaches `sta_wifi_handler`, which may call `system_restart`. -/
  | handled (posted : PostedEvent) (restarted : Bool)
deriving DecidableEq

/-- The device with the events on their way. -/
structure SessionWorld where
  wifi : Wifi
  pending : List PostedEvent
  log : List SessionEntry
deriving DecidableEq

/-- The mode which a boot finds, and the outcomes of the calls made by `wifi_init`. -/
structure BootAnswers where
  found : Opmode
  opmode : Bool
  autoConnect : Bool
deriving DecidableEq

/--
One step.  Where a trace makes the SDK leave its network, `raised` says whether
it posts an event for this.
-/
inductive SessionStep where
  /-- The SDK posts an event for something that happened on the network. -/
  | post (event : WifiEvent) (failedAutoConnect : Bool)
  /-- The SDK calls the registered handler. -/
  | deliver (posted : PostedEvent) (disconnect raised : Bool)
  /-- The auto-connect timer fires. -/
  | connectTimer (answers : ApAnswers) (raised : Bool)
  /-- A `Connect` command is processed. -/
  | connect (answers : StationAnswers)
  /-- A `Run AP` command is processed. -/
  | runAp (answers : ApAnswers) (raised : Bool)
  /-- The device boots again, after a restart or without one. -/
  | reboot (answers : BootAnswers)
deriving DecidableEq

namespace SessionWorld

/-- Carry out a trace, and record an entry. -/
def carryOut
    (world : SessionWorld) (actions : List WifiAction)
    (cause : EventCause) (raised : Bool) (entry : SessionEntry) :
    SessionWorld where
  wifi := world.wifi.performAll actions
  pending :=
    world.pending ++
      if raised && decide (.wifiStationDisconnect true ∈ actions) then
        [{ event := .stamodeDisconnected, cause := cause }]
      else
        []
  log := world.log ++ [entry]

/-- A call of `go_back_to_ap` that makes the given calls. -/
def goBack
    (world : SessionWorld) (actions : List WifiAction) (raised : Bool) :
    SessionWorld :=
  world.carryOut actions (.goBackToAp world.log.length) raised
    (.goBackToAp world.wifi.opmode)

/-- A call of `sta_wifi_handler`. -/
def handle
    (world : SessionWorld) (posted : PostedEvent) (disconnect raised : Bool) :
    SessionWorld :=
  let actions := staWifiHandler world.wifi posted.event disconnect
  world.carryOut actions .restart raised
    (.handled posted (decide (.systemRestart ∈ actions)))

/-- A device that has just booted. -/
def booted (answers : BootAnswers) (log : List SessionEntry) :
    SessionWorld where
  wifi :=
    (Wifi.boot answers.found).performAll
      (wifiInit answers.opmode answers.autoConnect)
  pending := []
  log := log ++ [.boot]

/-- The step function. -/
def next (world : SessionWorld) : SessionStep → Option SessionWorld
  | .post event failedAutoConnect =>
      some
        { world with
          pending :=
            world.pending ++
              [{ event := event
                 cause :=
                  if failedAutoConnect then .failedAutoConnect
                  else .network }] }
  | .deliver posted disconnect raised =>
      if posted ∈ world.pending then
        let taken := { world with pending := world.pending.erase posted }
        match world.wifi.handler with
        | .staWifiHandler =>
            some (taken.handle posted disconnect raised)
        | .emptyWifiHandler => some taken
      else
        none
  | .connectTimer answers raised =>
      if world.wifi.connectTimer then
        let fired :=
          { world with wifi := { world.wifi with connectTimer := false } }
        if world.wifi.hasBeenConnectedAsStation then
          some fired
        else
          some (fired.goBack (wifiTimerCb world.wifi answers) raised)
      else
        none
  | .connect answers =>
      some
        (world.carryOut (connectToNetworkTrace answers) .network false
          .connect)
  | .runAp answers raised =>
      some (world.goBack (goBackToAp world.wifi.opmode answers) raised)
  | .reboot answers => some (booted answers world.log)

end SessionWorld

/-- The device from its first boot on. -/
def sessionSystem (answers : BootAnswers) :
    System SessionWorld SessionStep where
  start := .booted answers []
  next := SessionWorld.next

/-! ## What the log says -/

namespace SessionEntry

/-- A `GOT_IP` event has reached the handler, or a `Connect` command was carried out. -/
def Arms : SessionEntry → Prop
  | .connect => True
  | .handled posted _ => posted.event = .stamodeGotIp
  | .boot | .goBackToAp _ => False

/-- The device boots. -/
def Boots (entry : SessionEntry) : Prop :=
  entry = .boot

/-- `go_back_to_ap` leaves a station mode. -/
def LeavesStation : SessionEntry → Prop
  | .goBackToAp mode => mode = .stationMode ∨ mode = .stationapMode
  | .boot | .connect | .handled _ _ => False

/-- `go_back_to_ap` finds another mode than that of an access point. -/
def GoesBack : SessionEntry → Prop
  | .goBackToAp mode => mode ≠ .softapMode
  | .boot | .connect | .handled _ _ => False

/-- The handler restarts the device. -/
def Restarts : SessionEntry → Prop
  | .handled _ restarted => restarted = true
  | .boot | .connect | .goBackToAp _ => False

/-- A boot or a return to the access point ends what armed the handler. -/
def Disarms (entry : SessionEntry) : Prop :=
  entry.Boots ∨ entry.GoesBack

end SessionEntry

open SessionEntry

/-- Since the last boot or return to the access point, something has armed the handler. -/
abbrev Armed (log : List SessionEntry) : Prop :=
  Open Arms Disarms log

/-- The handler has restarted the device, and the device has not booted since. -/
abbrev Restarting (log : List SessionEntry) : Prop :=
  Open Restarts Boots log

/-- What an entry says about the log in front of it. -/
def FitsSession (front : List SessionEntry) : SessionEntry → Prop
  | .handled posted restarted =>
      ¬ Restarting front ∧
        (restarted = true ↔
          posted.event = .stamodeDisconnected ∧ Armed front) ∧
        ∀ call, posted.cause = .goBackToAp call →
          ∃ entry, front[call]? = some entry ∧ entry.GoesBack
  | .boot | .connect | .goBackToAp _ => True

/-- A log without a restart loop. -/
structure NoRestartLoop (log : List SessionEntry) : Prop where
  /-- The handler restarts the device exactly on a `DISCONNECTED` event when it is armed. -/
  restart_iff :
    ∀ front posted restarted back,
      log = front ++ .handled posted restarted :: back →
        (restarted = true ↔
          posted.event = .stamodeDisconnected ∧ Armed front)
  /-- Nothing reaches the handler between a restart and the next boot. -/
  silent :
    ∀ front posted middle next restarted back,
      log =
          front ++ .handled posted true ::
            (middle ++ .handled next restarted :: back) →
        .boot ∈ middle
  /-- Two restarts have an arming entry between them. -/
  separated :
    ∀ front posted middle next back,
      log =
          front ++ .handled posted true ::
            (middle ++ .handled next true :: back) →
        ∃ entry ∈ middle, entry.Arms
  /-- A failed auto-connect restarts the device only if this boot session is armed. -/
  failedAutoConnect :
    ∀ front event back,
      log =
          front ++ .handled ⟨event, .failedAutoConnect⟩ true :: back →
        Open Arms Boots front
  /--
  The disconnect issued by `go_back_to_ap` restarts the device only if something
  armed the handler between that call and the delivery.
  -/
  deliberate :
    ∀ front event call back,
      log =
          front ++ .handled ⟨event, .goBackToAp call⟩ true :: back →
        ∃ entry ∈ front.drop (call + 1), entry.Arms

/-! ## The invariant -/

/-- The flags and the handler say what the log says. -/
structure SessionInvariant (world : SessionWorld) : Prop where
  armed : world.wifi.armed = true ↔ Armed world.log
  handler :
    world.wifi.handler = .emptyWifiHandler ↔ Restarting world.log
  causes :
    ∀ posted ∈ world.pending, ∀ call, posted.cause = .goBackToAp call →
      ∃ entry, world.log[call]? = some entry ∧ entry.GoesBack
  justified : Justified FitsSession world.log

/-- An entry is recorded together with what it does to the flags and the handler. -/
theorem SessionInvariant.concat
    {world after : SessionWorld} {entry : SessionEntry}
    (invariant : SessionInvariant world)
    (log : after.log = world.log ++ [entry])
    (armed :
      after.wifi.armed = true ↔
        entry.Arms ∨ world.wifi.armed = true ∧ ¬ entry.Disarms)
    (handler :
      after.wifi.handler = .emptyWifiHandler ↔
        entry.Restarts ∨
          world.wifi.handler = .emptyWifiHandler ∧ ¬ entry.Boots)
    (pending :
      ∀ posted ∈ after.pending, posted ∈ world.pending ∨
        ∀ call, posted.cause = .goBackToAp call →
          ∃ entry, after.log[call]? = some entry ∧ entry.GoesBack)
    (fits : FitsSession world.log entry) :
    SessionInvariant after where
  armed := by
    rw [log, Armed, open_concat, armed, invariant.armed]
  handler := by
    rw [log, Restarting, open_concat, handler, invariant.handler]
  causes := by
    intro posted member call cause
    rcases pending posted member with old | new
    · rcases invariant.causes posted old call cause with
        ⟨before, place, back⟩
      rcases List.getElem?_eq_some_iff.mp place with ⟨within, -⟩
      refine ⟨before, ?_, back⟩
      rw [log, List.getElem?_append_left within, place]
    · exact new call cause
  justified := by
    rw [log, justified_concat]
    exact ⟨invariant.justified, fits⟩

/-- A boot clears the flags and registers the handler. -/
theorem SessionInvariant.booted
    {log : List SessionEntry}
    (justified : Justified FitsSession log)
    (answers : BootAnswers) :
    SessionInvariant (.booted answers log) := by
  have init :=
    Wifi.performAll_wifiInit answers.found answers.opmode answers.autoConnect
  refine ⟨?_, ?_, ?_, ?_⟩
  · simp [SessionWorld.booted, init.2, Armed, open_concat, Arms, Disarms,
      Boots]
  · simp [SessionWorld.booted, init.1, Restarting, open_concat, Restarts,
      Boots]
  · intro posted member
    cases member
  · exact justified_concat.mpr ⟨justified, trivial⟩

/-- `go_back_to_ap` is recorded with the mode it finds. -/
theorem SessionInvariant.goBack
    {world : SessionWorld}
    (invariant : SessionInvariant world)
    {actions : List WifiAction} {raised : Bool}
    (handler :
      (world.wifi.performAll actions).handler = world.wifi.handler)
    (armed :
      (world.wifi.performAll actions).armed =
        (decide (world.wifi.opmode = .softapMode) && world.wifi.armed))
    (quiet :
      world.wifi.opmode = .softapMode →
        .wifiStationDisconnect true ∉ actions) :
    SessionInvariant (world.goBack actions raised) := by
  refine invariant.concat rfl ?_ ?_ ?_ trivial
  · simp only [SessionWorld.goBack, SessionWorld.carryOut, armed, Arms,
      Disarms, Boots, GoesBack]
    simp [and_comm]
  · simp [SessionWorld.goBack, SessionWorld.carryOut, handler, Restarts,
      Boots]
  · intro posted member
    rcases List.mem_append.mp member with old | new
    · exact Or.inl old
    · right
      intro call cause
      split at new
      · next issued =>
          rw [List.mem_singleton] at new
          subst new
          cases cause
          refine ⟨.goBackToAp world.wifi.opmode, ?_, ?_⟩
          · simp [SessionWorld.goBack, SessionWorld.carryOut]
          · intro access
            exact quiet access (by simpa using (Bool.and_eq_true _ _).mp issued |>.2)
      · cases new

/-- An event reaches `sta_wifi_handler`. -/
theorem SessionInvariant.handled
    {world : SessionWorld} {posted : PostedEvent}
    (invariant : SessionInvariant world)
    (waiting : posted ∈ world.pending)
    (registered : world.wifi.handler = .staWifiHandler)
    (disconnect raised : Bool) :
    SessionInvariant
      ({ world with pending := world.pending.erase posted }.handle posted
        disconnect raised) := by
  have changes :=
    Wifi.performAll_staWifiHandler world.wifi posted.event disconnect
  have restarts :=
    Wifi.systemRestart_mem_staWifiHandler world.wifi posted.event disconnect
  have running : ¬ Restarting world.log := by
    rw [← invariant.handler, registered]
    exact nofun
  refine invariant.concat rfl ?_ ?_ ?_ ?_
  · simp only [SessionWorld.handle, SessionWorld.carryOut, changes.2, Arms,
      Disarms, Boots, GoesBack]
    simp
  · simp only [SessionWorld.handle, SessionWorld.carryOut, changes.1,
      Restarts, decide_eq_true_eq, restarts, registered]
    simp
  · intro other member
    rcases List.mem_append.mp member with old | new
    · exact Or.inl (List.mem_of_mem_erase old)
    · right
      intro call cause
      split at new
      · rw [List.mem_singleton] at new
        subst new
        cases cause
      · cases new
  · refine ⟨running, ?_, invariant.causes posted waiting⟩
    rw [decide_eq_true_eq, restarts, invariant.armed]

/-- The auto-connect timer has fired. -/
theorem SessionInvariant.fired
    {world : SessionWorld}
    (invariant : SessionInvariant world) :
    SessionInvariant
      { world with wifi := { world.wifi with connectTimer := false } } :=
  ⟨invariant.armed, invariant.handler, invariant.causes, invariant.justified⟩

theorem SessionInvariant.next
    {world after : SessionWorld} {step : SessionStep}
    (invariant : SessionInvariant world)
    (taken : world.next step = some after) :
    SessionInvariant after := by
  cases step with
  | post event failedAutoConnect =>
      cases taken
      refine ⟨invariant.armed, invariant.handler, ?_, invariant.justified⟩
      intro posted member call cause
      rcases List.mem_append.mp member with old | new
      · exact invariant.causes posted old call cause
      · rw [List.mem_singleton] at new
        subst new
        cases failedAutoConnect <;> cases cause
  | deliver posted disconnect raised =>
      simp only [SessionWorld.next] at taken
      split at taken
      · next waiting =>
          cases registered : world.wifi.handler with
          | emptyWifiHandler =>
              rw [registered] at taken
              cases taken
              exact
                ⟨invariant.armed, invariant.handler,
                  fun other member =>
                    invariant.causes other (List.mem_of_mem_erase member),
                  invariant.justified⟩
          | staWifiHandler =>
              rw [registered] at taken
              cases taken
              exact invariant.handled waiting registered disconnect raised
      · cases taken
  | connectTimer answers raised =>
      simp only [SessionWorld.next] at taken
      split at taken
      · by_cases been : world.wifi.hasBeenConnectedAsStation = true
        · rw [if_pos been] at taken
          cases taken
          exact invariant.fired
        · rw [if_neg been, wifiTimerCb, if_neg been] at taken
          cases taken
          have back :=
            Wifi.performAll_goBackToAp
              { world.wifi with connectTimer := false } world.wifi.opmode
              answers
          refine invariant.fired.goBack back.1 back.2 ?_
          intro access
          have access : world.wifi.opmode = .softapMode := access
          simp [access, goBackToAp]
      · cases taken
  | connect answers =>
      cases taken
      have changes := Wifi.performAll_connectToNetwork world.wifi answers
      refine invariant.concat rfl ?_ ?_ ?_ trivial
      · simp [SessionWorld.carryOut, changes.2, Arms]
      · simp [SessionWorld.carryOut, changes.1, Restarts, Boots]
      · intro posted member
        exact Or.inl (by simpa [SessionWorld.carryOut] using member)
  | runAp answers raised =>
      cases taken
      have back :=
        Wifi.performAll_goBackToAp world.wifi world.wifi.opmode answers
      refine invariant.goBack back.1 back.2 ?_
      intro access
      simp [access, goBackToAp]
  | reboot answers =>
      cases taken
      exact .booted invariant.justified answers

theorem sessionInvariant_of_reachable
    {answers : BootAnswers} {world : SessionWorld}
    (reached : (sessionSystem answers).Reachable world) :
    SessionInvariant world := by
  apply reached.invariant
  · exact .booted justified_nil answers
  · intro state step after invariant taken
    exact invariant.next taken

/-! ## No restart loop -/

theorem noRestartLoop_of_justified
    {log : List SessionEntry}
    (justified : Justified FitsSession log) :
    NoRestartLoop log := by
  have restart_iff :
      ∀ front posted restarted back,
        log = front ++ .handled posted restarted :: back →
          (restarted = true ↔
            posted.event = .stamodeDisconnected ∧ Armed front) := by
    intro front posted restarted back layout
    exact (justified _ _ _ layout).2.1
  have silent :
      ∀ front posted middle next restarted back,
        log =
            front ++ .handled posted true ::
              (middle ++ .handled next restarted :: back) →
          .boot ∈ middle := by
    intro front posted middle next restarted back layout
    rw [← List.cons_append, ← List.append_assoc] at layout
    have running := (justified _ _ _ layout).1
    by_contra unbooted
    apply running
    refine ⟨front, .handled posted true, middle, rfl, rfl, ?_⟩
    rintro later member rfl
    exact unbooted member
  refine ⟨restart_iff, silent, ?_, ?_, ?_⟩
  · intro front posted middle next back layout
    rcases List.append_of_mem (silent _ _ _ _ _ _ layout) with
      ⟨before, behind, rfl⟩
    rw [← List.cons_append, ← List.append_assoc] at layout
    have armed := ((restart_iff _ _ _ _ layout).mp rfl).2
    rw [← List.cons_append, ← List.append_assoc] at armed
    rcases armed.opened_behind (Or.inl rfl) (fun arms => arms) with
      ⟨entry, member, arms⟩
    exact ⟨entry, by simp [member], arms⟩
  · intro front event back layout
    have armed := ((restart_iff _ _ _ _ layout).mp rfl).2
    exact armed.of_closes fun entry boots => Or.inl boots
  · intro front event call back layout
    have armed := ((restart_iff _ _ _ _ layout).mp rfl).2
    rcases (justified _ _ _ layout).2.2 call rfl with ⟨entry, place, goesBack⟩
    rcases List.getElem?_eq_some_iff.mp place with ⟨within, rfl⟩
    have layout := List.take_append_drop call front
    rw [List.drop_eq_getElem_cons within] at layout
    rw [← layout] at armed
    apply armed.opened_behind (Or.inr goesBack)
    intro arms
    cases shape : front[call] with
    | goBackToAp mode => rw [shape] at arms; exact arms
    | boot | connect | handled => rw [shape] at goesBack; exact goesBack

/--
There is no restart loop.  The handler restarts the device exactly on a
`DISCONNECTED` event after a `GOT_IP` event or a `Connect` command of the same
boot session which no return to the access point has followed; nothing reaches
it between a restart and the next boot, and two restarts have a `GOT_IP` event
or a `Connect` command between them.
-/
theorem no_restart_loop
    (answers : BootAnswers) (world : SessionWorld)
    (reached : (sessionSystem answers).Reachable world) :
    NoRestartLoop world.log :=
  noRestartLoop_of_justified (sessionInvariant_of_reachable reached).justified

/-- A device whose SDK carries out everything, and which boots as an access point. -/
def willingBoot : BootAnswers where
  found := .softapMode
  opmode := true
  autoConnect := true

/-- All calls of `go_back_to_ap` succeed. -/
def willingAp : ApAnswers where
  disconnect := true
  opmode := true
  startOpmode := true
  softapConfig := true

/--
A connection attempt on command fails, the device restarts, and the failed
auto-connects of the next session are ignored.
-/
def failedConnect : List SessionStep :=
  [.connect { opmode := true, setConfig := true, connect := true },
    .post .stamodeDisconnected false,
    .deliver ⟨.stamodeDisconnected, .network⟩ true true,
    .deliver ⟨.stamodeDisconnected, .restart⟩ true true,
    .reboot willingBoot,
    .post .stamodeDisconnected true,
    .deliver ⟨.stamodeDisconnected, .failedAutoConnect⟩ true true,
    .connectTimer willingAp true,
    .deliver ⟨.stamodeDisconnected, .goBackToAp 5⟩ true true]

theorem no_restart_loop_failedConnect :
    NoRestartLoop
      [.boot, .connect, .handled ⟨.stamodeDisconnected, .network⟩ true, .boot,
        .handled ⟨.stamodeDisconnected, .failedAutoConnect⟩ false,
        .goBackToAp .stationapMode,
        .handled ⟨.stamodeDisconnected, .goBackToAp 5⟩ false] := by
  have ran :
      ((sessionSystem willingBoot).run (sessionSystem willingBoot).start
          failedConnect).map SessionWorld.log =
        some
          [.boot, .connect, .handled ⟨.stamodeDisconnected, .network⟩ true,
            .boot, .handled ⟨.stamodeDisconnected, .failedAutoConnect⟩ false,
            .goBackToAp .stationapMode,
            .handled ⟨.stamodeDisconnected, .goBackToAp 5⟩ false] := by
    decide
  rcases Option.map_eq_some_iff.mp ran with ⟨after, ranTo, log⟩
  rw [← log]
  exact no_restart_loop willingBoot after (System.Reachable.start.run ranTo)

/-! ## Disconnects of the device itself -/

/--
A `GOT_IP` event is on its way when the timer fires.  It overtakes the
disconnect which `go_back_to_ap` issues.
-/
def lateAddress : List SessionStep :=
  [.post .stamodeGotIp false,
    .connectTimer willingAp true,
    .deliver ⟨.stamodeGotIp, .network⟩ true true,
    .deliver ⟨.stamodeDisconnected, .goBackToAp 1⟩ true true]

/-- The SDK keeps a device in an invalid mode, in which `Run AP` follows a `Connect`. -/
def invalidMode : List SessionStep :=
  [.connect { opmode := false, setConfig := true, connect := true },
    .runAp willingAp true,
    .post .stamodeDisconnected false,
    .deliver ⟨.stamodeDisconnected, .network⟩ true true]

/--
The disconnect issued by `go_back_to_ap` can restart the device, and a
`go_back_to_ap` which leaves no station mode can disarm the handler.
-/
theorem own_disconnect_restarts :
    (∃ answers world front event call back,
      (sessionSystem answers).Reachable world ∧
        world.log =
          front ++ .handled ⟨event, .goBackToAp call⟩ true :: back) ∧
      ∃ answers world front back,
        (sessionSystem answers).Reachable world ∧
          world.log =
              front ++
                .handled ⟨.stamodeDisconnected, .network⟩ false :: back ∧
            Open Arms (fun entry => entry.Boots ∨ entry.LeavesStation)
              front := by
  constructor
  · have ran :
        ((sessionSystem willingBoot).run (sessionSystem willingBoot).start
            lateAddress).map SessionWorld.log =
          some
            [.boot, .goBackToAp .stationapMode,
              .handled ⟨.stamodeGotIp, .network⟩ false,
              .handled ⟨.stamodeDisconnected, .goBackToAp 1⟩ true] := by
      decide
    rcases Option.map_eq_some_iff.mp ran with ⟨after, ranTo, log⟩
    exact
      ⟨willingBoot, after,
        [.boot, .goBackToAp .stationapMode,
          .handled ⟨.stamodeGotIp, .network⟩ false],
        .stamodeDisconnected, 1, [], System.Reachable.start.run ranTo, log⟩
  · have ran :
        ((sessionSystem ⟨.nullMode, false, true⟩).run
            (sessionSystem ⟨.nullMode, false, true⟩).start
            invalidMode).map SessionWorld.log =
          some
            [.boot, .connect, .goBackToAp .nullMode,
              .handled ⟨.stamodeDisconnected, .network⟩ false] := by
      decide
    rcases Option.map_eq_some_iff.mp ran with ⟨after, ranTo, log⟩
    refine
      ⟨⟨.nullMode, false, true⟩, after,
        [.boot, .connect, .goBackToAp .nullMode], [],
        System.Reachable.start.run ranTo, log, ?_⟩
    refine ⟨[.boot], .connect, [.goBackToAp .nullMode], rfl, trivial, ?_⟩
    simp [Boots, LeavesStation]

end EspFirmware
