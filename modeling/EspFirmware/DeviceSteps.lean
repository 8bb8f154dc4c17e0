import EspFirmware.CameraLock
import EspFirmware.CommandSteps
import EspFirmware.Device
import EspFirmware.ServerSteps

/-!
# What one step of the device can do

`DeviceTaken device step after` lists every way a step can be taken.  The
server part is left as a run of the server world, and the camera part and the
command as the functions which model them; both have inversion lemmas of their
own.
-/

namespace EspFirmware

open Library

/-! ## The server part -/

/-- The step does not make `server_task` send. -/
def Step.Silent : Step → Prop
  | .task .tx _ _ | .task .txDone _ _ => False
  | .task .rx _ _ | .send _ _ _ | .recvCb _ _ _ _ _ | .sentCb _ _
  | .spurious _ | .driverSent _ | .clear _ | .disconnectCb _
  | .init _ _ _ _ => True

theorem Step.Silent.calls
    {step : Step} {world after : World}
    (silent : step.Silent)
    (taken : world.next step = some after) :
    after.history.calls = world.history.calls := by
  cases World.taken_of_next taken with
  | txBusy | txEmpty | txShort | txLong | doneLast | doneMiddle | doneIdle =>
      exact absurd silent id
  | _ =>
      rfl

theorem calls_of_silent
    {steps : List Step} {world after : World}
    (silent : ∀ step ∈ steps, step.Silent)
    (ran : serverSystem.run world steps = some after) :
    after.history.calls = world.history.calls := by
  induction steps generalizing world with
  | nil =>
      cases ran
      rfl
  | cons step rest induction =>
      simp only [System.run, Option.bind_eq_some_iff] at ran
      rcases ran with ⟨middle, taken, ranRest⟩
      have here := (silent step List.mem_cons_self).calls taken
      have later :=
        induction (fun step member => silent step (.tail _ member)) ranRest
      exact later.trans here

@[simp]
theorem DeviceLog.call_nil (log : DeviceLog) :
    log.call [] = log := by
  simp [call]

namespace Device

/-- The server world has taken some steps. -/
structure Served (base : Device) (steps : List Step) (after : Device) : Prop where
  ran : serverSystem.run base.world steps = some after.world
  after_eq :
    after =
      { base with
        world := after.world
        log :=
          base.log.call
            ((after.world.history.calls.drop
              base.world.history.calls.length).map Fragment.conn) }

theorem serve_eq_some
    {base after : Device} {steps : List Step}
    (taken : base.serve steps = some after) :
    Served base steps after := by
  rcases Option.map_eq_some_iff.mp taken with ⟨world, ran, rfl⟩
  exact ⟨ran, rfl⟩

/-- Without a call of `espconn_sent` only the server world changes. -/
theorem Served.silent
    {base after : Device} {steps : List Step}
    (served : Served base steps after)
    (silent : ∀ step ∈ steps, step.Silent) :
    after = { base with world := after.world } := by
  have calls := calls_of_silent silent served.ran
  rw [served.after_eq, calls, List.drop_length, List.map_nil,
    DeviceLog.call_nil]

/-! ## The step -/

/-- What a command means for the server. -/
def commandSteps
    (device : Device) (conn : Conn) (answers : RxAnswers) (run : CommandRun) :
    List Step :=
  pictureSteps (completedPictures device.camera run.camera)
      answers.pictures ++
    run.effects.flatMap (CommandEffect.serverSteps conn answers)

/-- The ways to take a step. -/
inductive DeviceTaken (device : Device) : DeviceStep → Device → Prop where
  | recvCb {after : Device} {conn : Conn} {pdata : Segment}
      {data : Option Nat} {allocated posted : Bool}
      (opened : conn ∉ device.log.closed)
      (served :
        Served device [.recvCb conn pdata data allocated posted] after) :
      DeviceTaken device (.recvCb conn pdata data allocated posted) after
  | sentCb {after : Device} {conn : Conn} {posted : Bool}
      (served : Served device [.sentCb conn posted] after) :
      DeviceTaken device (.sentCb conn posted) after
  | rxEmpty {after : Device} {answers : RxAnswers}
      (served : Served device [.task .rx true true] after) :
      DeviceTaken device (.rx answers) after
  | rxIgnored {after : Device} {answers : RxAnswers} {message : Message}
      {recvq : MessageQueue}
      (dequeued :
        device.world.server.recvq.unshift = some (message, recvq))
      (served : Served device [.task .rx true true] after)
      (ignored : (tcpparserProcessData message.data.bytes).2 = none) :
      DeviceTaken device (.rx answers) after
  | rxRun {after : Device} {answers : RxAnswers} {message : Message}
      {recvq : MessageQueue} {world : World} {command : TcpCommand}
      {run : CommandRun}
      (dequeued :
        device.world.server.recvq.unshift = some (message, recvq))
      (task :
        serverSystem.run device.world [.task .rx true true] = some world)
      (parsed : (tcpparserProcessData message.data.bytes).2 = some command)
      (ran :
        runCommand device.flash device.camera message.conn command
          answers.input = some run)
      (served :
        Served
          ({ device with world }.execute { conn := message.conn, command }
            answers run)
          (device.commandSteps message.conn answers run) after) :
      DeviceTaken device (.rx answers) after
  | tx {after : Device} {accepted posted : Bool}
      (served : Served device [.task .tx accepted posted] after) :
      DeviceTaken device (.tx accepted posted) after
  | txDone {after : Device} {accepted posted : Bool}
      (served : Served device [.task .txDone accepted posted] after) :
      DeviceTaken device (.txDone accepted posted) after
  | spurious {after : Device} {sig : Signal}
      (served : Served device [.spurious sig] after) :
      DeviceTaken device (.spurious sig) after
  | disconnectCb {after : Device} {conn : Conn}
      (served :
        Served
          { device with
            log :=
              { device.log with closed := device.log.closed ++ [conn] } }
          [.disconnectCb conn] after) :
      DeviceTaken device (.disconnectCb conn) after
  | serverClose {after : Device}
      (served : Served device [.clear .sendq, .clear .recvq] after) :
      DeviceTaken device .serverClose after
  | serverInit {after : Device}
      {ipInfo listening keepsEvents keepsCallbacks : Bool}
      (served :
        Served device [.init ipInfo listening keepsEvents keepsCallbacks]
          after) :
      DeviceTaken device
        (.serverInit ipInfo listening keepsEvents keepsCallbacks) after
  | initDone {after : Device} {answers : InitDoneAnswers} {camera : Camera}
      {steps : List Step}
      (reset :
        device.camera.resetIn
            (DeviceConfig.deviceInit device.flash answers.init).trace
            answers.reset =
          some camera)
      (inits :
        ∀ step ∈ steps,
          ∃ ipInfo listening keepsEvents keepsCallbacks,
            step = .init ipInfo listening keepsEvents keepsCallbacks)
      (served :
        Served
          { device.shoot camera with
            drivers :=
              device.drivers.performAll
                (configEffects
                  (DeviceConfig.deviceInit device.flash
                    answers.init).trace) }
          steps after) :
      DeviceTaken device (.initDone answers) after
  | byte {after : Device} {arrival : Arrival} {posted : Bool}
      (served :
        Served (device.shoot (device.camera.receive arrival))
          (pictureSteps
            (completedPictures device.camera
              (device.camera.receive arrival))
            [posted])
          after) :
      DeviceTaken device (.byte arrival posted) after
  | unlockTimer
      (armed : device.camera.unlockTimer = true) :
      DeviceTaken device .unlockTimer
        { device with
          camera :=
            { device.camera with unlockTimer := false }.cancelReadPicture }
  | pwm {high : Bool}
      (started : device.drivers.pwmStarted = true) :
      DeviceTaken device (.pwm high)
        { device with drivers := { device.drivers with gpio2 := high } }

theorem taken_of_rx
    {device after : Device} {answers : RxAnswers}
    (taken : device.next (.rx answers) = some after) :
    DeviceTaken device (.rx answers) after := by
  simp only [next, Option.bind_eq_some_iff] at taken
  rcases taken with ⟨middle, served, processed⟩
  have served := serve_eq_some served
  cases dequeued : device.world.server.recvq.unshift with
  | none =>
      rw [dequeued] at processed
      cases processed
      exact .rxEmpty served
  | some pair =>
      rcases pair with ⟨message, recvq⟩
      rw [dequeued] at processed
      simp only [process] at processed
      split at processed
      · next ignored =>
          cases processed
          exact .rxIgnored dequeued served ignored
      · next command parsed =>
          have same := served.silent (by simp [Step.Silent])
          rw [same] at processed
          rcases Option.bind_eq_some_iff.mp processed with
            ⟨run, ran, finished⟩
          exact .rxRun dequeued served.ran parsed ran (serve_eq_some finished)

theorem taken_of_next
    {device after : Device} {step : DeviceStep}
    (taken : device.next step = some after) :
    DeviceTaken device step after := by
  cases step with
  | recvCb conn pdata data allocated posted =>
      simp only [next] at taken
      split at taken
      · cases taken
      · next opened =>
          exact .recvCb opened (serve_eq_some taken)
  | sentCb conn posted =>
      exact .sentCb (serve_eq_some taken)
  | rx answers =>
      exact taken_of_rx taken
  | tx accepted posted =>
      exact .tx (serve_eq_some taken)
  | txDone accepted posted =>
      exact .txDone (serve_eq_some taken)
  | spurious sig =>
      exact .spurious (serve_eq_some taken)
  | disconnectCb conn =>
      exact .disconnectCb (serve_eq_some taken)
  | serverClose =>
      exact .serverClose (serve_eq_some taken)
  | serverInit ipInfo listening keepsEvents keepsCallbacks =>
      exact .serverInit (serve_eq_some taken)
  | initDone answers =>
      simp only [next, initDone, Option.bind_eq_some_iff] at taken
      rcases taken with ⟨camera, reset, served⟩
      refine .initDone reset ?_ (serve_eq_some served)
      intro step member
      split at member
      · rw [List.mem_singleton] at member
        exact ⟨_, _, _, _, member⟩
      · cases member
  | byte arrival posted =>
      exact .byte (serve_eq_some taken)
  | unlockTimer =>
      simp only [next] at taken
      split at taken
      · next armed =>
          cases taken
          exact .unlockTimer armed
      · cases taken
  | pwm high =>
      simp only [next] at taken
      split at taken
      · next started =>
          cases taken
          exact .pwm started
      · cases taken

/-! ## The server by itself -/

theorem worldReached_next
    {device after : Device} {step : DeviceStep}
    (reached : serverSystem.Reachable device.world)
    (taken : device.next step = some after) :
    serverSystem.Reachable after.world := by
  cases taken_of_next taken with
  | rxRun dequeued task parsed ran served =>
      exact (reached.run task).run served.ran
  | unlockTimer armed =>
      exact reached
  | pwm started =>
      exact reached
  | recvCb _ served | sentCb served | rxEmpty served | rxIgnored _ served _
  | tx served | txDone served | spurious served | disconnectCb served
  | serverClose served | serverInit served | initDone _ _ served
  | byte served =>
      exact reached.run served.ran

/--
Whatever happens to the device, its server is in a state which the server
world can reach by itself.
-/
theorem world_reached
    {flash : Flash} {device : Device}
    (reached : (deviceSystem flash).Reachable device) :
    serverSystem.Reachable device.world := by
  refine
    @System.Reachable.invariant _ _ (deviceSystem flash)
      (fun device => serverSystem.Reachable device.world)
      .start ?_ device reached
  intro device step after here taken
  exact worldReached_next here taken

/-! ## The next command -/

/-- The command which the next received message holds. -/
def received (device : Device) : Option ReceivedCommand :=
  device.world.server.recvq.unshift.bind fun taken =>
    (tcpparserProcessData taken.1.data.bytes).2.map fun command =>
      { conn := taken.1.conn, command }

theorem received_of_unshift
    {device : Device} {message : Message} {recvq : MessageQueue}
    {command : TcpCommand}
    (dequeued :
      device.world.server.recvq.unshift = some (message, recvq))
    (parsed : (tcpparserProcessData message.data.bytes).2 = some command) :
    device.received = some { conn := message.conn, command } := by
  rw [received, dequeued, Option.bind_some, parsed]
  rfl

end Device

/-! ## Calls that do not fail -/

/-- Nothing fails while a command is processed, and the camera answers. -/
def RxAnswers.served : RxAnswers where
  input :=
    { set :=
        { silentCamera with init := { silentCamera.init with reset := true } }
      load := silentCamera.load
      init := { silentCamera.init with reset := true }
      station := { opmode := true, setConfig := true, connect := true }
      opmode := .softapMode
      ap :=
        { disconnect := true
          opmode := true
          startOpmode := true
          softapConfig := true }
      mac := none
      reset := answered [0x76, 0x00, 0x26, 0x00]
      camera := pictureInput 20 [] [] }
  reply := some 1
  pushed := true
  posted := true
  pictures := []
  sensed := true
  accepted := true
  ipInfo := true
  listening := true
  keepsEvents := true
  keepsCallbacks := true

/-- A segment which holds a text. -/
def Segment.ofText
    (text : String) (bounded : (ascii text).length < 65536) : Segment where
  bytes := ascii text
  bounded := bounded

end EspFirmware
