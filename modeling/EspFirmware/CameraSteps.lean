import EspFirmware.Camera
import EspFirmware.ExchangeCleanup

/-!
# What the camera driver can do

One inversion lemma for each piece of the driver: a byte, a stretch of bytes,
a synchronous call, a request for a picture, and a command.  The invariants of
the driver are proved from these, without the definitions.
-/

namespace EspFirmware

namespace Camera

/-! ## Bytes -/

theorem receiveAll_append
    (camera : Camera) (front back : List Arrival) :
    camera.receiveAll (front ++ back) =
      (camera.receiveAll front).receiveAll back := by
  rw [receiveAll, List.foldl_append]
  rfl

theorem receive_of_not_listening
    {camera : Camera}
    (deaf : camera.uart.listening = false) (arrival : Arrival) :
    camera.receive arrival = camera := by
  rw [receive, Uart.receive_of_not_listening deaf]

theorem receiveAll_of_not_listening
    {camera : Camera}
    (deaf : camera.uart.listening = false) (arrivals : List Arrival) :
    camera.receiveAll arrivals = camera := by
  induction arrivals with
  | nil =>
      rfl
  | cons arrival rest induction =>
      rw [receiveAll, List.foldl_cons, receive_of_not_listening deaf]
      exact induction

/-- A byte that completes nothing. -/
theorem receive_silent
    {camera : Camera} {arrival : Arrival}
    (silent : (camera.uart.receive arrival.byte).2 = none) :
    camera.receive arrival =
      { camera with uart := (camera.uart.receive arrival.byte).1 } := by
  rw [receive]
  simp only [silent]

/-- A byte that completes a picture. -/
theorem receive_called
    {camera : Camera} {arrival : Arrival} {index : Nat}
    (called : (camera.uart.receive arrival.byte).2 = some index) :
    camera.receive arrival =
      { camera with
        uart := (camera.uart.receive arrival.byte).1 }.pictureRecvDone
        index arrival.queued := by
  rw [receive]
  simp only [called]

/-- A buffer without a callback completes no picture. -/
theorem receiveAll_null
    {camera : Camera}
    (null : camera.uart.current.recvCb = .null) (arrivals : List Arrival) :
    camera.receiveAll arrivals =
      { camera with
        uart := camera.uart.receiveAll (arrivals.map Arrival.byte) } := by
  induction arrivals generalizing camera with
  | nil =>
      rfl
  | cons arrival rest induction =>
      have silent : (camera.uart.receive arrival.byte).2 = none := by
        cases listens : camera.uart.listening with
        | false =>
            rw [Uart.receive_of_not_listening listens]
        | true =>
            by_cases last : camera.uart.remaining = 1
            · rw [(Uart.receive_remaining listens last _).2.2, if_pos null]
            · exact (Uart.receive_more listens last _).2.2.2
      have kept :=
        (Uart.received_receive camera.uart arrival.byte).current_recvCb
      rw [receiveAll, List.foldl_cons, receive_silent silent]
      exact induction (kept.trans null)

/-- Bytes which leave some missing. -/
theorem receiveAll_below
    {camera : Camera}
    (listens : camera.uart.listening = true)
    {arrivals : List Arrival}
    (below : arrivals.length < camera.uart.remaining) :
    camera.receiveAll arrivals =
        { camera with
          uart := camera.uart.receiveAll (arrivals.map Arrival.byte) } ∧
      (camera.receiveAll arrivals).uart.remaining + arrivals.length =
          camera.uart.remaining ∧
        (camera.receiveAll arrivals).uart.etsIntr = camera.uart.etsIntr ∧
          (camera.receiveAll arrivals).uart.pinIntr =
            camera.uart.pinIntr := by
  induction arrivals generalizing camera with
  | nil =>
      exact ⟨rfl, rfl, rfl, rfl⟩
  | cons arrival rest induction =>
      rw [List.length_cons] at below
      have more : camera.uart.remaining ≠ 1 := by
        omega
      rcases Uart.receive_more listens more arrival.byte with
        ⟨missing, ets, pin, silent⟩
      have stillListens :
          (camera.uart.receive arrival.byte).1.listening = true := by
        rw [Uart.listening, ets, pin]
        exact listens
      have step :=
        @induction
          { camera with uart := (camera.uart.receive arrival.byte).1 }
          stillListens
          (by
            show rest.length < (camera.uart.receive arrival.byte).1.remaining
            omega)
      rw [receiveAll, List.foldl_cons, receive_silent silent]
      refine ⟨step.1, ?_, step.2.2.1.trans ets, step.2.2.2.trans pin⟩
      have counted := step.2.1
      rw [receiveAll] at counted
      rw [List.length_cons]
      have here :
          ({ camera with
              uart := (camera.uart.receive arrival.byte).1 } : Camera).uart =
            (camera.uart.receive arrival.byte).1 := rfl
      rw [here] at counted
      omega

/--
A stretch of bytes completes a picture.  The bytes which were still missing
are received, and those behind them are not.
-/
structure Completes
    (camera : Camera) (index : Nat) (arrivals : List Arrival)
    (after : Camera) : Prop where
  completed :
    ∃ last : Arrival,
      arrivals[camera.uart.remaining - 1]? = some last ∧
        after =
          { camera with
            uart :=
              camera.uart.receiveAll
                ((arrivals.take camera.uart.remaining).map
                  Arrival.byte) }.pictureRecvDone index last.queued
  etsIntr : after.uart.etsIntr = false
  pinIntr : after.uart.pinIntr = false

/-- Enough bytes complete a picture. -/
theorem receiveAll_completes
    {camera : Camera} {index : Nat}
    (listens : camera.uart.listening = true)
    (picture : camera.uart.current.recvCb = .cameraPictureRecvDone)
    (buffer : camera.uart.buffer = some index)
    {arrivals : List Arrival}
    (enough : camera.uart.remaining ≤ arrivals.length) :
    Completes camera index arrivals (camera.receiveAll arrivals) := by
  induction arrivals generalizing camera with
  | nil =>
      have room := camera.uart.remaining_pos
      rw [List.length_nil] at enough
      omega
  | cons arrival rest induction =>
      rw [List.length_cons] at enough
      by_cases last : camera.uart.remaining = 1
      · rcases Uart.receive_remaining listens last arrival.byte with
          ⟨ets, pin, called⟩
        rw [picture, if_neg (by decide), buffer] at called
        have completed := receive_called called
        have deaf : (camera.receive arrival).uart.listening = false := by
          rw [completed, Uart.listening, Bool.and_eq_false_iff]
          exact Or.inl ets
        have stays :
            camera.receiveAll (arrival :: rest) = camera.receive arrival :=
          receiveAll_of_not_listening deaf rest
        rw [stays, completed]
        refine ⟨⟨arrival, ?_, ?_⟩, ets, pin⟩
        · rw [last]
          rfl
        · rw [last]
          rfl
      · rcases Uart.receive_more listens last arrival.byte with
          ⟨missing, ets, pin, silent⟩
        have stillListens :
            (camera.uart.receive arrival.byte).1.listening = true := by
          rw [Uart.listening, ets, pin]
          exact listens
        have received := Uart.received_receive camera.uart arrival.byte
        have step :=
          @induction
            { camera with uart := (camera.uart.receive arrival.byte).1 }
            stillListens
            (received.current_recvCb.trans picture)
            (received.buffer.trans buffer)
            (by
              show (camera.uart.receive arrival.byte).1.remaining ≤ rest.length
              omega)
        have again :
            camera.receiveAll (arrival :: rest) =
              ({ camera with
                uart := (camera.uart.receive arrival.byte).1 } :
                Camera).receiveAll rest := by
          rw [receiveAll, List.foldl_cons, receive_silent silent]
          rfl
        rcases step.completed with ⟨completing, place, after⟩
        have later := (camera.uart.receive arrival.byte).1.remaining_pos
        rw [again]
        refine ⟨⟨completing, ?_, ?_⟩, step.etsIntr, step.pinIntr⟩
        · rw [← missing, Nat.add_sub_cancel]
          rw [List.getElem?_cons, if_neg (by omega)]
          exact place
        · rw [after, ← missing, List.take_succ_cons, List.map_cons]
          rfl

/-- What one byte does: it may complete the picture which is received. -/
inductive ReceiveCase (camera : Camera) (arrival : Arrival) : Camera → Prop where
  | silent :
      ReceiveCase camera arrival
        { camera with uart := (camera.uart.receive arrival.byte).1 }
  | completed {index : Nat}
      (listens : camera.uart.listening = true)
      (picture : camera.uart.current.recvCb = .cameraPictureRecvDone)
      (buffer : camera.uart.buffer = some index)
      (quiet : (camera.uart.receive arrival.byte).1.Quiet) :
      ReceiveCase camera arrival
        ({ camera with
          uart := (camera.uart.receive arrival.byte).1 }.pictureRecvDone
          index arrival.queued)

theorem receive_cases (camera : Camera) (arrival : Arrival) :
    ReceiveCase camera arrival (camera.receive arrival) := by
  cases called : (camera.uart.receive arrival.byte).2 with
  | none =>
      rw [receive_silent called]
      exact .silent
  | some index =>
      rw [receive_called called]
      cases listens : camera.uart.listening with
      | false =>
          rw [Uart.receive_of_not_listening listens] at called
          cases called
      | true =>
          by_cases last : camera.uart.remaining = 1
          · rcases Uart.receive_remaining listens last arrival.byte with
              ⟨ets, pin, callback⟩
            rw [called] at callback
            by_cases null : camera.uart.current.recvCb = .null
            · rw [if_pos null] at callback
              cases callback
            · rw [if_neg null] at callback
              have picture :
                  camera.uart.current.recvCb = .cameraPictureRecvDone := by
                cases shape : camera.uart.current.recvCb with
                | null =>
                    exact absurd shape null
                | cameraPictureRecvDone =>
                    rfl
              exact .completed listens picture callback.symm ⟨ets, pin⟩
          · rw [(Uart.receive_more listens last arrival.byte).2.2.2] at called
            cases called

/-- What every byte keeps, a stretch of bytes keeps. -/
theorem receiveAll_keeps
    {property : Camera → Prop}
    (kept :
      ∀ camera arrival, property camera → property (camera.receive arrival))
    {camera : Camera}
    (here : property camera) (arrivals : List Arrival) :
    property (camera.receiveAll arrivals) := by
  induction arrivals generalizing camera with
  | nil =>
      exact here
  | cons arrival rest induction =>
      exact induction (kept camera arrival here)

/-! ## Commands -/

/-- The driver after `Camera_set_busy`, when the first function installs its buffer. -/
def entered (camera : Camera) (input : RequestInput) : Camera :=
  { camera with busy := true }.receiveAll input.entered

/-- The driver after a synchronous call. -/
def exchanged
    (camera : Camera) (command : SyncCommand) (input : ExchangeInput)
    (outcome : ExchangeOutcome) :
    Camera :=
  { camera with
    uart := outcome.uart
    collided :=
      camera.collided || command.granted input && camera.inFlight }

theorem exchangeWith_eq_some
    {camera after : Camera} {command : SyncCommand}
    {input : ExchangeInput} {outcome : ExchangeOutcome}
    (returned :
      camera.exchangeWith command input = some (after, outcome)) :
    command.call camera.uart input = some outcome ∧
      after = camera.exchanged command input outcome := by
  rw [exchangeWith, Option.map_eq_some_iff] at returned
  rcases returned with ⟨same, call, pair⟩
  rw [Prod.mk.injEq] at pair
  rcases pair with ⟨rfl, rfl⟩
  exact ⟨call, rfl⟩

/-- The driver when Get Picture calls `Camera_read_content`. -/
def sizeRead
    (camera : Camera) (input : RequestInput) (outcome : ExchangeOutcome) :
    Camera :=
  ((camera.entered input).exchanged .readSize input.exchange
    outcome).receiveAll input.between

/-- The call of `Camera_read_content` by Get Picture. -/
def contentRead
    (camera : Camera) (conn : Conn) (input : RequestInput)
    (outcome : ExchangeOutcome) :
    Camera × Int :=
  (camera.sizeRead input outcome).readContent 0x0000 outcome.pictureSize 0x000a
    conn input.content

/-- How a camera command ends. -/
inductive Requested (camera : Camera) (conn : Conn) (input : RequestInput) :
    Request → Camera → Option (List UInt8) → Prop where
  | busy {request : Request}
      (locked : camera.busy = true) :
      Requested camera conn input request camera none
  | other
      (free : camera.busy = false) :
      Requested camera conn input .other camera none
  | simple {request : Request} {command : SyncCommand}
      {outcome : ExchangeOutcome} {reply : Option (List UInt8)}
      (free : camera.busy = false)
      (returned :
        command.call (camera.entered input).uart input.exchange =
          some outcome)
      (noPicture : request ≠ .getPicture) :
      Requested camera conn input request
        { (camera.entered input).exchanged command input.exchange outcome with
          busy := false }
        reply
  | sizeFailed {outcome : ExchangeOutcome}
      (free : camera.busy = false)
      (returned :
        SyncCommand.readSize.call (camera.entered input).uart input.exchange =
          some outcome)
      (failed : outcome.result ≠ 0) :
      Requested camera conn input .getPicture
        { (camera.entered input).exchanged .readSize input.exchange outcome with
          busy := false }
        (some (ascii "Picture Got Fail"))
  | contentFailed {outcome : ExchangeOutcome}
      (free : camera.busy = false)
      (returned :
        SyncCommand.readSize.call (camera.entered input).uart input.exchange =
          some outcome)
      (success : outcome.result = 0)
      (failed : (camera.contentRead conn input outcome).2 ≠ 0) :
      Requested camera conn input .getPicture
        { (camera.contentRead conn input outcome).1 with busy := false }
        (some (ascii "Picture Got Fail"))
  | started {outcome : ExchangeOutcome}
      (free : camera.busy = false)
      (returned :
        SyncCommand.readSize.call (camera.entered input).uart input.exchange =
          some outcome)
      (success : outcome.result = 0)
      (accepted : (camera.contentRead conn input outcome).2 = 0) :
      Requested camera conn input .getPicture
        (camera.contentRead conn input outcome).1 none

theorem requested_simple
    {camera after : Camera} {conn : Conn} {input : RequestInput}
    {request : Request} {command : SyncCommand}
    {text : ExchangeOutcome → Option (List UInt8)}
    {reply : Option (List UInt8)}
    (free : camera.busy = false)
    (noPicture : request ≠ .getPicture)
    (returned :
      camera.simpleRequest command input text = some (after, reply)) :
    Requested camera conn input request after reply := by
  rw [simpleRequest, Option.map_eq_some_iff] at returned
  rcases returned with ⟨⟨exchangedTo, outcome⟩, call, pair⟩
  rw [Prod.mk.injEq] at pair
  rcases pair with ⟨rfl, rfl⟩
  rcases exchangeWith_eq_some call with ⟨called, rfl⟩
  exact .simple free called noPicture

theorem requested_of_request
    {camera after : Camera} {conn : Conn} {input : RequestInput}
    {request : Request} {reply : Option (List UInt8)}
    (returned : camera.request request conn input = some (after, reply)) :
    Requested camera conn input request after reply := by
  unfold Camera.request at returned
  cases locked : camera.busy with
  | true =>
      rw [if_pos locked, Option.some.injEq, Prod.mk.injEq] at returned
      rcases returned with ⟨rfl, rfl⟩
      exact .busy locked
  | false =>
      rw [locked, if_neg Bool.false_ne_true] at returned
      cases request with
      | getPicture =>
          simp only [getPicture] at returned
          rw [Option.map_eq_some_iff] at returned
          rcases returned with ⟨⟨exchangedTo, outcome⟩, call, pair⟩
          rcases exchangeWith_eq_some call with ⟨called, rfl⟩
          by_cases success : outcome.result = 0
          · simp only [if_pos success] at pair
            change
              (if (camera.contentRead conn input outcome).2 = 0 then
                ((camera.contentRead conn input outcome).1, none)
              else
                ({ (camera.contentRead conn input outcome).1 with
                    busy := false },
                  some (ascii "Picture Got Fail"))) = (after, reply) at pair
            by_cases accepted :
                (camera.contentRead conn input outcome).2 = 0
            · rw [if_pos accepted, Prod.mk.injEq] at pair
              rcases pair with ⟨rfl, rfl⟩
              exact .started locked called success accepted
            · rw [if_neg accepted, Prod.mk.injEq] at pair
              rcases pair with ⟨rfl, rfl⟩
              exact .contentFailed locked called success accepted
          · simp only [if_neg success] at pair
            rw [Prod.mk.injEq] at pair
            rcases pair with ⟨rfl, rfl⟩
            exact .sizeFailed locked called success
      | other =>
          rw [Option.some.injEq, Prod.mk.injEq] at returned
          rcases returned with ⟨rfl, rfl⟩
          exact .other locked
      | takePicture | getSize | stopPicture | compressionRatio | imageSizeSet =>
          exact requested_simple locked nofun returned

/-- What a step of the driver does. -/
inductive Stepped (world : CameraWorld) : CameraStep → CameraWorld → Prop where
  | request {request : Request} {conn : Conn} {input : RequestInput}
      {after : Camera} {reply : Option (List UInt8)}
      (requested : Requested world.camera conn input request after reply) :
      Stepped world (.request request conn input)
        { world with camera := after }
  | reinitialised {input : ExchangeInput} {outcome : ExchangeOutcome}
      (returned : SyncCommand.reset.call world.camera.uart input = some outcome) :
      Stepped world (.reinit true input)
        { camera :=
            { world.camera with busy := false }.exchanged .reset input outcome
          initialised := true }
  | notInitialised {input : ExchangeInput} :
      Stepped world (.reinit false input) world
  | byte {arrival : Arrival} :
      Stepped world (.byte arrival)
        { world with camera := world.camera.receive arrival }
  | unlockTimer
      (armed : world.camera.unlockTimer = true) :
      Stepped world .unlockTimer
        { world with
          camera :=
            { world.camera with unlockTimer := false }.cancelReadPicture }

theorem stepped_of_next
    {world after : CameraWorld} {step : CameraStep}
    (taken : cameraSystem.next world step = some after) :
    Stepped world step after := by
  have taken : world.next step = some after := taken
  cases step with
  | request request conn input =>
      rw [CameraWorld.next, Option.map_eq_some_iff] at taken
      rcases taken with ⟨⟨camera, reply⟩, returned, rfl⟩
      exact .request (requested_of_request returned)
  | reinit initialised input =>
      rw [CameraWorld.next, Option.map_eq_some_iff] at taken
      rcases taken with ⟨returned, call, rfl⟩
      cases initialised with
      | false =>
          rw [reinit, if_neg Bool.false_ne_true, Option.some.injEq] at call
          subst call
          rw [Bool.or_false]
          exact .notInitialised
      | true =>
          rw [reinit, if_pos rfl, Option.map_eq_some_iff] at call
          rcases call with ⟨⟨exchangedTo, outcome⟩, exchange, rfl⟩
          rcases exchangeWith_eq_some exchange with ⟨called, rfl⟩
          rw [Bool.or_true]
          exact .reinitialised called
  | byte arrival =>
      rw [CameraWorld.next, Option.some.injEq] at taken
      subst taken
      exact .byte
  | unlockTimer =>
      rw [CameraWorld.next] at taken
      by_cases armed : world.camera.unlockTimer = true
      · rw [if_pos armed, Option.some.injEq] at taken
        subst taken
        exact .unlockTimer armed
      · rw [if_neg armed] at taken
        cases taken

end Camera

end EspFirmware
