import EspFirmware.CameraExchange
import EspFirmware.Library.Transition
import EspFirmware.MessageQueue

/-!
# The camera driver of `camera.c` and the camera commands of `parser.c`

A picture is received while other code runs.  The completion callback and the
unlock timer end the transfer.  Bytes may arrive in every stretch of a command
in which the receive interrupt can be on.  Each byte comes with the answer to
the push of the message, in case it completes a picture.

The deliveries and the collisions are not part of the driver: they record the
calls of `tcpserver_send`, and whether a receive buffer was ever installed
while a picture transfer was in flight.
-/

namespace EspFirmware

open Library

/-! ## State -/

/--
A call of `tcpserver_send` by `camera_picture_recv_done`, with the place of the
buffer and the answer to the push.
-/
structure Delivery where
  buffer : Nat
  conn : Conn
  data : List UInt8
  len : UInt16
  fits : len.toNat ≤ data.length
  queued : Bool
deriving DecidableEq

/-- The message of a picture; the data block keeps its place. -/
def Delivery.message (delivery : Delivery) : Message where
  conn := delivery.conn
  data := { address := delivery.buffer, bytes := delivery.data }
  len := delivery.len
  mem := .heapMem
  fits := delivery.fits

/-- The static variables of `camera.c`, with the UART. -/
structure Camera where
  uart : Uart
  previousRxbuffer : Option Nat
  replyConn : Conn
  busy : Bool
  unlockTimer : Bool
  deliveries : List Delivery
  collided : Bool

/-- A byte on the line, and the answer to the push of a picture which it completes. -/
structure Arrival where
  byte : UInt8
  queued : Bool
deriving DecidableEq

namespace Camera

/-- The statically initialised driver. -/
def boot : Camera where
  uart := .boot
  previousRxbuffer := none
  replyConn := 0
  busy := true
  unlockTimer := false
  deliveries := []
  collided := false

/--
A picture transfer is in flight: its buffer is remembered, or the unlock timer
is armed, or the UART receives into a buffer with a completion callback.
-/
def inFlight (camera : Camera) : Bool :=
  camera.previousRxbuffer.isSome || camera.unlockTimer ||
    camera.uart.listening &&
      decide (camera.uart.current.recvCb = .cameraPictureRecvDone)

/-! ## The end of a transfer -/

/-- `camera_picture_recv_done`; the data block goes to the queue or is freed. -/
def pictureRecvDone (camera : Camera) (index : Nat) (queued : Bool) :
    Camera :=
  let buffer := camera.uart.cells index
  { camera with
    unlockTimer := false
    deliveries :=
      camera.deliveries ++
        [{ buffer := index
           conn := camera.replyConn
           data := buffer.buf.bytes
           len := buffer.size
           fits := buffer.buf.length_bytes.ge
           queued }]
    uart :=
      camera.uart.updateCell index fun buffer =>
        buffer.releaseBuf.releaseStruct
    previousRxbuffer := none
    busy := false }

/-- `cancel_read_picture`, called by the unlock timer. -/
def cancelReadPicture (camera : Camera) : Camera :=
  { camera with
    uart :=
      camera.uart.disableInterrupts.destroyRxBuffer camera.previousRxbuffer
    previousRxbuffer := none
    busy := false }

/-- A byte arrives on the line. -/
def receive (camera : Camera) (arrival : Arrival) : Camera :=
  let read := camera.uart.receive arrival.byte
  let camera := { camera with uart := read.1 }
  match read.2 with
  | none => camera
  | some index => camera.pictureRecvDone index arrival.queued

/-- Bytes arrive on the line. -/
def receiveAll (camera : Camera) (arrivals : List Arrival) : Camera :=
  arrivals.foldl receive camera

/-! ## Functions -/

/-- Record the installation of a receive buffer. -/
def install (camera : Camera) : Camera :=
  { camera with collided := camera.collided || camera.inFlight }

/-- The answers to the calls of `Camera_read_content`, and the bytes between its calls. -/
structure ContentInput where
  create : Uart.CreateAnswers
  installed : List Arrival
  early : List Arrival
  sent : List Arrival
  assigned : List Arrival
  disarmed : List Arrival
deriving DecidableEq

/-- The command of `Camera_read_content`. -/
def readContentCommand (initAddr dataLen spacingInt : UInt16) : List UInt8 :=
  [0x56, 0x00, 0x32, 0x0c, 0x00, 0x0a, 0x00, 0x00,
    (initAddr >>> 8).toUInt8, initAddr.toUInt8, 0x00, 0x00,
    (dataLen >>> 8).toUInt8, dataLen.toUInt8,
    (spacingInt >>> 8).toUInt8, spacingInt.toUInt8]

/-- `Camera_read_content` from `set_rx_buffer` until `previous_rxbuffer` is assigned. -/
def requestContent
    (camera : Camera) (index : Nat) (command : List UInt8)
    (input : ContentInput) :
    Camera :=
  let camera := camera.install
  let camera :=
    { camera with uart := camera.uart.setRxBuffer index }.receiveAll
      input.installed
  let camera :=
    { camera with uart := camera.uart.enableInterrupts }.receiveAll input.early
  { camera with uart := (camera.uart.bitBangSend command).1 }.receiveAll
    input.sent

/-- `Camera_read_content` from the assignment of `previous_rxbuffer` on. -/
def awaitContent (camera : Camera) (index : Nat) (input : ContentInput) :
    Camera :=
  let camera :=
    { camera with previousRxbuffer := some index }.receiveAll input.assigned
  let camera := { camera with unlockTimer := false }.receiveAll input.disarmed
  { camera with unlockTimer := true }

/-- `Camera_read_content`, and its result. -/
def readContent
    (camera : Camera) (initAddr dataLen spacingInt : UInt16) (repConn : Conn)
    (input : ContentInput) :
    Camera × Int :=
  let freed :=
    match camera.previousRxbuffer with
    | none => camera
    | some index =>
        { camera with uart := camera.uart.destroyRxBuffer (some index) }
  let camera := { freed with replyConn := repConn }
  match
    camera.uart.createRxBuffer input.create (2 * 5 + dataLen)
      .cameraPictureRecvDone with
  | (uart, none) => ({ camera with uart }, -1)
  | (uart, some index) =>
      let command := readContentCommand initAddr dataLen spacingInt
      let requested := { camera with uart }.requestContent index command input
      (requested.awaitContent index input, 0)

/-- A synchronous function is called; `granted` says whether it gets its buffer. -/
def exchangeWith
    (camera : Camera) (command : SyncCommand) (input : ExchangeInput) :
    Option (Camera × ExchangeOutcome) :=
  (command.call camera.uart input).map fun outcome =>
    ({ camera with
        uart := outcome.uart
        collided :=
          camera.collided || command.granted input && camera.inFlight },
      outcome)

/-! ## Commands -/

/-- The commands which `tcpparser_process_data` has for a camera. -/
inductive Request where
  | takePicture
  | getSize
  | getPicture
  | stopPicture
  | compressionRatio (ratio : UInt8)
  | imageSizeSet (size : UInt8)
  | other
deriving DecidableEq

/--
The outcomes of the calls of one command.  Bytes arrive between
`Camera_set_busy` and the first `set_rx_buffer`, and between the two
functions which Get Picture calls.
-/
structure RequestInput where
  entered : List Arrival
  exchange : ExchangeInput
  between : List Arrival
  content : ContentInput
deriving DecidableEq

/-- A number as `%hu` prints it. -/
def printed (number : UInt16) : List UInt8 :=
  (Nat.toDigits 10 number.toNat).map fun digit => UInt8.ofNat digit.toNat

/-- A command that is one synchronous call and one reply. -/
def simpleRequest
    (camera : Camera) (command : SyncCommand) (input : RequestInput)
    (reply : ExchangeOutcome → Option (List UInt8)) :
    Option (Camera × Option (List UInt8)) :=
  let entered := { camera with busy := true }.receiveAll input.entered
  (entered.exchangeWith command input.exchange).map fun returned =>
    ({ returned.1 with busy := false }, reply returned.2)

/-- Camera Get Picture, for a camera that is not busy. -/
def getPicture
    (camera : Camera) (conn : Conn) (input : RequestInput) :
    Option (Camera × Option (List UInt8)) :=
  let entered := { camera with busy := true }.receiveAll input.entered
  (entered.exchangeWith .readSize input.exchange).map fun returned =>
    if returned.2.result = 0 then
      let read :=
        (returned.1.receiveAll input.between).readContent 0x0000
          returned.2.pictureSize 0x000a conn input.content
      if read.2 = 0 then
        (read.1, none)
      else
        ({ read.1 with busy := false }, some (ascii "Picture Got Fail"))
    else
      ({ returned.1 with busy := false }, some (ascii "Picture Got Fail"))

/-- The text for a success and the one for a failure. -/
def replyText (success failure : String) (outcome : ExchangeOutcome) :
    Option (List UInt8) :=
  some (ascii (if outcome.result = 0 then success else failure))

/--
The case `CAMERA` of `tcpparser_process_data`, with the text given to
`send_reply`.
-/
def request
    (camera : Camera) (request : Request) (conn : Conn) (input : RequestInput) :
    Option (Camera × Option (List UInt8)) :=
  if camera.busy then
    some (camera, none)
  else
    match request with
    | .takePicture =>
        camera.simpleRequest .takePicture input
          (replyText "Picture Taken" "Picture Take Fail")
    | .getSize =>
        camera.simpleRequest .readSize input fun outcome =>
          if outcome.result = 0 then
            some (printed (outcome.pictureSize + 10))
          else
            some (ascii "Get Size Fail")
    | .getPicture => camera.getPicture conn input
    | .stopPicture =>
        camera.simpleRequest .stopPictures input fun _ => none
    | .compressionRatio ratio =>
        camera.simpleRequest (.compressionRatio ratio) input
          (replyText "Camera Compression Ratio Set"
            "Camera Compression Ratio Fail")
    | .imageSizeSet size =>
        camera.simpleRequest (.setImageSize size) input
          (replyText "Camera Image Size Set" "Camera Image Size Set Fail")
    | .other => some (camera, none)

/--
The case `CAMERA` of `DeviceInit`, for both results of `Camera_init`.  A byte
that arrives in between might as well arrive before: the completion callback
does not read what `Camera_init` writes.
-/
def reinit (camera : Camera) (initialised : Bool) (input : ExchangeInput) :
    Option (Camera × Bool) :=
  if initialised then
    let cleared := { camera with busy := false }
    (cleared.exchangeWith .reset input).map fun returned =>
      (returned.1, decide (returned.2.result = 0))
  else
    some (camera, false)

end Camera

/-! ## Runs -/

/-- What happens to the camera driver between two steps of the server task. -/
inductive CameraStep where
  /-- A camera command is processed. -/
  | request (request : Camera.Request) (conn : Conn)
      (input : Camera.RequestInput)
  /-- `DeviceInit` runs for a stored camera. -/
  | reinit (initialised : Bool) (input : ExchangeInput)
  /-- A byte arrives. -/
  | byte (arrival : Arrival)
  /-- The unlock timer fires. -/
  | unlockTimer
deriving DecidableEq

/-- The driver, and whether `Camera_init` has succeeded before. -/
structure CameraWorld where
  camera : Camera
  initialised : Bool

/-- The step function of the driver; a call which still waits is not a step. -/
def CameraWorld.next (world : CameraWorld) : CameraStep → Option CameraWorld
  | .request request conn input =>
      (world.camera.request request conn input).map fun returned =>
        { world with camera := returned.1 }
  | .reinit initialised input =>
      (world.camera.reinit initialised input).map fun returned =>
        { camera := returned.1
          initialised := world.initialised || initialised }
  | .byte arrival =>
      some { world with camera := world.camera.receive arrival }
  | .unlockTimer =>
      if world.camera.unlockTimer then
        some
          { world with
            camera :=
              { world.camera with unlockTimer := false }.cancelReadPicture }
      else
        none

/-- The camera driver as a transition system. -/
def cameraSystem : System CameraWorld CameraStep where
  start := { camera := .boot, initialised := false }
  next := CameraWorld.next

end EspFirmware
