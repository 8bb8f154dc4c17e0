import EspFirmware.Drivers
import EspFirmware.ServerWorld

/-!
# The device

The server, the stored configuration, the camera and the other drivers, with
everything that is under way around them.  A step is one callback, one event
of the server task, one byte for the camera, or one timer.  Processing a
command is part of the step in which the server task takes it.  What a step
means for the server is a list of steps of the server world.

A connection is one connection: after its disconnect or reconnect callback the
SDK calls nothing for it.  The log is not part of the device.  It records the
commands, which of them created which buffer for a picture, the messages which
were put into `sendq`, and what was sent over closed connections.
-/

namespace EspFirmware

open Library

/-! ## The log -/

/-- A command which `tcpparser_process_data` was given. -/
structure ReceivedCommand where
  conn : Conn
  command : TcpCommand
deriving DecidableEq

/--
A message which was put into `sendq`: the command which caused it, and the
buffer, if it is a picture.
-/
structure Enqueued where
  cause : Option Nat
  picture : Option Nat
  message : Message
deriving DecidableEq

/-- What has happened since the boot. -/
structure DeviceLog where
  commands : List ReceivedCommand
  /-- The command whose `Camera_read_content` created a buffer for a picture. -/
  creator : Nat → Option Nat
  enqueued : List Enqueued
  /-- The connections whose disconnect or reconnect callback has run. -/
  closed : List Conn
  /-- The closed connections which were passed to `espconn_sent`. -/
  lateCalls : List Conn

namespace DeviceLog

/-- The log at boot. -/
def empty : DeviceLog where
  commands := []
  creator := fun _ => none
  enqueued := []
  closed := []
  lateCalls := []

/-- A command has turned the camera from one state to another. -/
def receive
    (log : DeviceLog) (received : ReceivedCommand) (before after : Camera) :
    DeviceLog :=
  { log with
    commands := log.commands ++ [received]
    creator := fun index =>
      if before.uart.created ≤ index ∧ index < after.uart.created ∧
          (after.uart.cells index).recvCb = .cameraPictureRecvDone then
        some log.commands.length
      else
        log.creator index }

/-- Messages are put into `sendq`. -/
def enqueue (log : DeviceLog) (enqueued : List Enqueued) : DeviceLog :=
  { log with enqueued := log.enqueued ++ enqueued }

/-- Connections are passed to `espconn_sent`. -/
def call (log : DeviceLog) (conns : List Conn) : DeviceLog :=
  { log with
    lateCalls := log.lateCalls ++ conns.filter (· ∈ log.closed) }

end DeviceLog

/-! ## State -/

/-- The device. -/
structure Device where
  world : World
  flash : Flash
  camera : Camera
  drivers : Drivers
  log : DeviceLog

/-- The device at boot, with what its flash holds. -/
def Device.boot (flash : Flash) : Device where
  world := .boot
  flash := flash
  camera := .boot
  drivers := .boot
  log := .empty

/-! ## Messages -/

/-- The outcomes of all the calls made while a received command is processed. -/
structure RxAnswers where
  input : CommandInput
  /-- The block of `send_reply`. -/
  reply : Option Nat
  /-- `MessageQueue_push` and `system_os_post` of the reply. -/
  pushed : Bool
  posted : Bool
  /-- `system_os_post` for each picture which is completed meanwhile. -/
  pictures : List Bool
  /-- `read` of the temperature, and `espconn_sent` of a driver. -/
  sensed : Bool
  accepted : Bool
  /-- `ap_server_init`. -/
  ipInfo : Bool
  listening : Bool
  keepsEvents : Bool
  keepsCallbacks : Bool
deriving DecidableEq

/-- The message of `send_reply`. -/
def replyMessage (conn : Conn) (address : Nat) (text : List UInt8) :
    Message where
  conn := conn
  data := { address := address, bytes := text ++ [0] }
  len := UInt16.ofNat text.length
  mem := .heapMem
  fits := by
    have bounded := Nat.mod_le text.length (2 ^ 16)
    simp
    omega

namespace CommandEffect

/-- What a call means for the server. -/
def serverSteps (conn : Conn) (answers : RxAnswers) :
    CommandEffect → List Step
  | .sendReply text =>
      match answers.reply with
      | none => []
      | some address =>
          [.send (replyMessage conn address text) answers.pushed
            answers.posted]
  | .network .staServerClose => [.clear .sendq, .clear .recvq]
  | .network .apServerClose => [.clear .sendq, .clear .recvq]
  | .apServerInit =>
      [.init answers.ipInfo answers.listening answers.keepsEvents
        answers.keepsCallbacks]
  | .temperatureGetTemperature =>
      if answers.sensed && answers.accepted then [.driverSent conn] else []
  | .lightingGetLight =>
      if answers.accepted then [.driverSent conn] else []
  | _ => []

/-- A driver passes the connection to `espconn_sent`. -/
def sends (answers : RxAnswers) : CommandEffect → Bool
  | .temperatureGetTemperature => answers.sensed
  | .lightingGetLight => true
  | _ => false

/-- The message which a call puts into `sendq`. -/
def enqueued (cause : Nat) (conn : Conn) (answers : RxAnswers) :
    CommandEffect → Option Enqueued
  | .sendReply text =>
      if answers.pushed then
        answers.reply.map fun address =>
          { cause := some cause
            picture := none
            message := replyMessage conn address text }
      else
        none
  | _ => none

end CommandEffect

/-- The pictures which were completed between two states of the camera. -/
def completedPictures (before after : Camera) : List Delivery :=
  after.deliveries.drop before.deliveries.length

/-- What the completed pictures mean for the server. -/
def pictureSteps : List Delivery → List Bool → List Step
  | [], _ => []
  | picture :: rest, posted =>
      .send picture.message picture.queued (posted.headD true) ::
        pictureSteps rest posted.tail

/-- The messages which the completed pictures put into `sendq`. -/
def DeviceLog.pictures (log : DeviceLog) (completed : List Delivery) :
    List Enqueued :=
  (completed.filter Delivery.queued).map fun picture =>
    { cause := log.creator picture.buffer
      picture := some picture.buffer
      message := picture.message }

/-! ## Steps -/

/-- The outcomes of the calls made by `init_done`. -/
structure InitDoneAnswers where
  init : DeviceConfig.InitAnswers
  reset : ExchangeInput
  opmode : Opmode
  ipInfo : Bool
  listening : Bool
  keepsEvents : Bool
  keepsCallbacks : Bool
deriving DecidableEq

/-- What happens to the device. -/
inductive DeviceStep where
  /-- `tcpserver_recv_cb`. -/
  | recvCb (conn : Conn) (pdata : Segment) (data : Option Nat)
      (allocated posted : Bool)
  /-- `tcpserver_sent_cb`. -/
  | sentCb (conn : Conn) (posted : Bool)
  /-- `server_task` handles `SERVER_SIG_RX`, and the command it takes. -/
  | rx (answers : RxAnswers)
  /-- `server_task` handles `SERVER_SIG_TX`. -/
  | tx (accepted posted : Bool)
  /-- `server_task` handles `SERVER_SIG_TX_DONE`. -/
  | txDone (accepted posted : Bool)
  /-- An event is posted which none of these steps accounts for. -/
  | spurious (sig : Signal)
  /-- `tcpserver_disconnect_cb` or `tcpserver_reconnect_cb`. -/
  | disconnectCb (conn : Conn)
  /-- The Wi-Fi functions call `sta_server_close` or `ap_server_close`. -/
  | serverClose
  /-- They call `sta_server_init`. -/
  | serverInit (ipInfo listening keepsEvents keepsCallbacks : Bool)
  /-- `init_done`. -/
  | initDone (answers : InitDoneAnswers)
  /-- A byte arrives from the camera. -/
  | byte (arrival : Arrival) (posted : Bool)
  /-- The unlock timer of the camera fires. -/
  | unlockTimer
  /-- The PWM unit drives GPIO2. -/
  | pwm (high : Bool)
deriving DecidableEq

namespace Device

/-- Take steps of the server world, and note what they send over closed connections. -/
def serve (device : Device) (steps : List Step) : Option Device :=
  (serverSystem.run device.world steps).map fun world =>
    { device with
      world
      log :=
        device.log.call
          ((world.history.calls.drop device.world.history.calls.length).map
            Fragment.conn) }

/-- The camera goes on, and pictures which it completes are sent. -/
def shoot (device : Device) (camera : Camera) : Device :=
  { device with
    camera
    log :=
      device.log.enqueue
        (device.log.pictures (completedPictures device.camera camera)) }

/-- A command is carried out. -/
def execute
    (device : Device) (received : ReceivedCommand) (answers : RxAnswers)
    (run : CommandRun) :
    Device :=
  let cause := device.log.commands.length
  let shot :=
    { device with
      log := device.log.receive received device.camera run.camera }.shoot
      run.camera
  { shot with
    flash := run.flash
    drivers := device.drivers.performAll run.effects
    log :=
      (shot.log.enqueue
        (run.effects.filterMap
          (CommandEffect.enqueued cause received.conn answers))).call
        (if run.effects.any (CommandEffect.sends answers) then
          [received.conn]
        else
          []) }

/-- `tcpparser_process_data` is given a message which the server task has taken. -/
def process (device : Device) (message : Message) (answers : RxAnswers) :
    Option Device :=
  match (tcpparserProcessData message.data.bytes).2 with
  | none => some device
  | some command =>
      (runCommand device.flash device.camera message.conn command
          answers.input).bind fun run =>
        (device.execute { conn := message.conn, command } answers run).serve
          (pictureSteps (completedPictures device.camera run.camera)
              answers.pictures ++
            run.effects.flatMap
              (CommandEffect.serverSteps message.conn answers))

/-- `init_done`. -/
def initDone (device : Device) (answers : InitDoneAnswers) : Option Device :=
  let init := DeviceConfig.deviceInit device.flash answers.init
  (device.camera.resetIn init.trace answers.reset).bind fun camera =>
    { device.shoot camera with
      drivers := device.drivers.performAll (configEffects init.trace) }.serve
      (if answers.opmode = Opmode.softapMode then
        [.init answers.ipInfo answers.listening answers.keepsEvents
          answers.keepsCallbacks]
      else
        [])

/-- The step function. -/
def next (device : Device) : DeviceStep → Option Device
  | .recvCb conn pdata data allocated posted =>
      if conn ∈ device.log.closed then none
      else device.serve [.recvCb conn pdata data allocated posted]
  | .sentCb conn posted => device.serve [.sentCb conn posted]
  | .rx answers =>
      (device.serve [.task .rx true true]).bind fun taken =>
        match device.world.server.recvq.unshift with
        | none => some taken
        | some (message, _) => taken.process message answers
  | .tx accepted posted => device.serve [.task .tx accepted posted]
  | .txDone accepted posted => device.serve [.task .txDone accepted posted]
  | .spurious sig => device.serve [.spurious sig]
  | .disconnectCb conn =>
      { device with
        log :=
          { device.log with closed := device.log.closed ++ [conn] } }.serve
        [.disconnectCb conn]
  | .serverClose => device.serve [.clear .sendq, .clear .recvq]
  | .serverInit ipInfo listening keepsEvents keepsCallbacks =>
      device.serve [.init ipInfo listening keepsEvents keepsCallbacks]
  | .initDone answers => device.initDone answers
  | .byte arrival posted =>
      let camera := device.camera.receive arrival
      (device.shoot camera).serve
        (pictureSteps (completedPictures device.camera camera) [posted])
  | .unlockTimer =>
      if device.camera.unlockTimer then
        some
          { device with
            camera :=
              { device.camera with unlockTimer := false }.cancelReadPicture }
      else
        none
  | .pwm high =>
      if device.drivers.pwmStarted then
        some { device with drivers := { device.drivers with gpio2 := high } }
      else
        none

end Device

/-- The device as a transition system, with what its flash holds at boot. -/
def deviceSystem (flash : Flash) : System Device DeviceStep where
  start := .boot flash
  next := Device.next

end EspFirmware
