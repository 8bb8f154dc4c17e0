import EspFirmware.ContentRequest

/-!
# The lock of the camera

`IS_CAMERA_BUSY` is held by a command, or by a transfer that is in flight.
As long as no re-initialisation finds a transfer in flight, and no picture is
complete before `Camera_read_content` returns, the driver is always at rest
or in one transfer, and it is locked in the transfer.
-/

namespace EspFirmware

open Library

namespace Camera

/-! ## At rest and in a transfer -/

/-- No buffer is remembered, no timer is armed, and nothing is received. -/
structure Rest (camera : Camera) : Prop where
  previousRxbuffer : camera.previousRxbuffer = none
  unlockTimer : camera.unlockTimer = false
  quiet : camera.uart.Quiet

/-- A picture is received into the buffer which is remembered. -/
structure Transfer (camera : Camera) : Prop where
  busy : camera.busy = true
  unlockTimer : camera.unlockTimer = true
  remembered : camera.previousRxbuffer.isSome = true
  buffer : camera.uart.buffer = camera.previousRxbuffer
  picture : camera.uart.current.recvCb = .cameraPictureRecvDone
  listens : camera.uart.listening = true

theorem Rest.boot :
    Camera.boot.Rest where
  previousRxbuffer := rfl
  unlockTimer := rfl
  quiet := ⟨rfl, rfl⟩

theorem Rest.not_inFlight
    {camera : Camera}
    (rest : camera.Rest) :
    camera.inFlight = false := by
  rw [inFlight, rest.previousRxbuffer, rest.unlockTimer, rest.quiet.deaf]
  rfl

theorem Transfer.inFlight
    {camera : Camera}
    (transfer : camera.Transfer) :
    camera.inFlight = true := by
  rw [Camera.inFlight, transfer.remembered]
  rfl

theorem inFlight_of_unlockTimer
    {camera : Camera}
    (armed : camera.unlockTimer = true) :
    camera.inFlight = true := by
  rw [inFlight, armed, Bool.or_true]
  rfl

/-- The lock does not matter for what is received. -/
theorem Rest.withBusy
    {camera : Camera}
    (rest : camera.Rest) (busy : Bool) :
    { camera with busy }.Rest where
  previousRxbuffer := rest.previousRxbuffer
  unlockTimer := rest.unlockTimer
  quiet := rest.quiet

theorem Rest.entered
    {camera : Camera}
    (rest : camera.Rest) (input : RequestInput) :
    camera.entered input = { camera with busy := true } :=
  receiveAll_of_not_listening (rest.withBusy true).quiet.deaf input.entered

/-- A synchronous call leaves a driver at rest. -/
theorem Rest.exchanged
    {camera : Camera} {command : SyncCommand}
    {input : ExchangeInput} {outcome : ExchangeOutcome}
    (rest : camera.Rest)
    (returned : command.call camera.uart input = some outcome) :
    (camera.exchanged command input outcome).Rest ∧
      (camera.exchanged command input outcome).collided =
        camera.collided := by
  refine
    ⟨⟨rest.previousRxbuffer, rest.unlockTimer,
      SyncCommand.quiet returned rest.quiet⟩, ?_⟩
  rw [Camera.exchanged, rest.not_inFlight]
  simp only [Bool.and_false, Bool.or_false]

/-! ## Bytes and the timer -/

/-- A byte of the picture: it is the last one, or the transfer goes on. -/
theorem Transfer.receive
    {camera : Camera}
    (transfer : camera.Transfer) (arrival : Arrival) :
    ((camera.receive arrival).Rest ∧
        (camera.receive arrival).busy = false ∨
      (camera.receive arrival).Transfer) ∧
      (camera.receive arrival).collided = camera.collided := by
  have received := Uart.received_receive camera.uart arrival.byte
  by_cases last : camera.uart.remaining = 1
  · rcases Uart.receive_remaining transfer.listens last arrival.byte with
      ⟨ets, pin, called⟩
    rw [transfer.picture, if_neg nofun, transfer.buffer] at called
    rcases Option.isSome_iff_exists.mp transfer.remembered with
      ⟨index, remembered⟩
    rw [receive_called (called.trans remembered)]
    exact ⟨Or.inl ⟨⟨rfl, rfl, ⟨ets, pin⟩⟩, rfl⟩, rfl⟩
  · rcases Uart.receive_more transfer.listens last arrival.byte with
      ⟨_, ets, pin, silent⟩
    rw [receive_silent silent]
    refine ⟨Or.inr ?_, rfl⟩
    exact
      { busy := transfer.busy
        unlockTimer := transfer.unlockTimer
        remembered := transfer.remembered
        buffer := received.buffer.trans transfer.buffer
        picture := received.current_recvCb.trans transfer.picture
        listens := by
          rw [Uart.listening, ets, pin]
          exact transfer.listens }

/-- The unlock timer ends a transfer, and leaves the driver at rest. -/
theorem cancelReadPicture_rest (camera : Camera) :
    { camera with unlockTimer := false }.cancelReadPicture.Rest := by
  have enables :=
    destroyRxBuffer_enables camera.uart.disableInterrupts
      camera.previousRxbuffer
  exact ⟨rfl, rfl, ⟨enables.1, enables.2⟩⟩

/-! ## A request for a picture -/

section

variable
    {camera : Camera} {conn : Conn} {input : RequestInput}
    {outcome : ExchangeOutcome}

/-- At rest, the size of a picture is read without a collision. -/
theorem Rest.sized
    (rest : camera.Rest)
    (returned :
      SyncCommand.readSize.call (camera.entered input).uart input.exchange =
        some outcome) :
    (camera.sized input outcome).Rest ∧
      (camera.sized input outcome).collided = camera.collided := by
  rw [Camera.sized, rest.entered]
  rw [rest.entered] at returned
  exact (rest.withBusy true).exchanged returned

/-- At rest, the content of a picture is requested as `contentCase` says. -/
theorem Rest.contentCase
    (rest : camera.Rest)
    (returned :
      SyncCommand.readSize.call (camera.entered input).uart input.exchange =
        some outcome)
    (conn : Conn) :
    ContentCase camera conn input outcome
      (camera.contentRead conn input outcome) := by
  apply Camera.contentCase returned
  · rw [rest.entered]
    exact rest.quiet
  · rw [rest.entered]
    exact rest.previousRxbuffer

/--
A request which got its buffer at rest starts a transfer, if the picture is not
complete before the timer is armed; otherwise the lock is free at the end,
although the timer is armed.
-/
theorem Rest.requesting
    {after : Camera}
    (rest : camera.Rest)
    (returned :
      SyncCommand.readSize.call (camera.entered input).uart input.exchange =
        some outcome)
    (ends :
      ContentEnd (camera.requesting conn input outcome) outcome.uart.created
        input.content after) :
    if input.content.afterSend.length <
        capacity (contentSize outcome.pictureSize) then
      after.Transfer ∧ after.collided = camera.collided
    else
      after.busy = false ∧ after.unlockTimer = true := by
  rcases rest.sized returned with ⟨restSized, collided⟩
  have quiet : (camera.requesting conn input outcome).uart.Quiet :=
    ⟨restSized.quiet.etsIntr, restSized.quiet.pinIntr⟩
  have size :
      ((camera.requesting conn input outcome).uart.cells
        outcome.uart.created).size = contentSize outcome.pictureSize := by
    rw [requesting_cell]
    rfl
  have until_ := arrivalsUntilArmed_of_quiet quiet input.content
  cases ends with
  | tooSoon enough =>
      rw [size, arrivalsBefore_of_quiet quiet] at enough
      have notBelow :
          ¬input.content.afterSend.length <
            capacity (contentSize outcome.pictureSize) := by
        rw [ContentInput.afterSend, List.length_append]
        omega
      rw [if_neg notBelow]
      exact ⟨rfl, rfl⟩
  | beforeTimer missing enough =>
      rw [size, until_] at enough
      rw [if_neg (Nat.not_lt.mpr enough)]
      exact ⟨rfl, rfl⟩
  | waiting missing listens =>
      rw [size, until_] at missing
      have received :=
        Uart.received_receiveAll
          ((camera.requesting conn input outcome).receiving
            outcome.uart.created).uart
          (((camera.requesting conn input outcome).arrivalsUntilArmed
            input.content).map Arrival.byte)
      have notInFlight :
          (camera.requesting conn input outcome).inFlight = false := by
        apply Rest.not_inFlight
        exact
          { previousRxbuffer := restSized.previousRxbuffer
            unlockTimer := restSized.unlockTimer
            quiet := quiet }
      have picture :
          ((camera.requesting conn input outcome).receiving
            outcome.uart.created).uart.current.recvCb =
              .cameraPictureRecvDone := by
        show ((camera.requesting conn input outcome).uart.cells
          outcome.uart.created).recvCb = .cameraPictureRecvDone
        rw [requesting_cell]
        rfl
      rw [if_pos missing]
      constructor
      · exact
          { busy := by
              show (camera.entered input).busy = true
              rw [rest.entered]
            unlockTimer := rfl
            remembered := rfl
            buffer := received.buffer
            picture := received.current_recvCb.trans picture
            listens := listens }
      · show ((camera.sized input outcome).collided ||
          (camera.requesting conn input outcome).inFlight) = camera.collided
        rw [notInFlight, Bool.or_false, collided]

end

end Camera

/-! ## Mutual exclusion -/

/--
If `IS_CAMERA_BUSY` is false then no transfer is in flight, and no receive
buffer was ever installed while one was.
-/
structure Exclusive (world : CameraWorld) : Prop where
  idle : world.camera.busy = false → world.camera.inFlight = false
  apart : world.camera.collided = false

/--
`DeviceInit` runs for a camera only while no transfer is in flight, and fewer
bytes than the picture needs arrive before Get Picture has armed its timer.
-/
def Undisturbed (world : CameraWorld) : CameraStep → Prop
  | .request .getPicture _ input =>
      world.camera.busy = false →
        ∀ size, world.camera.askedSize input = some size →
          input.content.afterSend.length <
            Camera.capacity (Camera.contentSize size)
  | .reinit initialised _ =>
      initialised = true → world.camera.inFlight = false
  | _ => True

/-- The driver is at rest or in a transfer. -/
def Settled (world : CameraWorld) : Prop :=
  world.camera.Rest ∨ world.camera.Transfer

theorem Settled.rest
    {world : CameraWorld}
    (settled : Settled world)
    (idle : world.camera.inFlight = false) :
    world.camera.Rest := by
  rcases settled with rest | transfer
  · exact rest
  · rw [transfer.inFlight] at idle
    cases idle

section

variable {world : CameraWorld} {conn : Conn} {input : Camera.RequestInput}

/-- A driver at rest is exclusive, if there was no collision. -/
theorem Camera.Rest.exclusive
    {camera : Camera} {initialised : Bool}
    (rest : camera.Rest) (apart : camera.collided = false) :
    Exclusive { camera, initialised } where
  idle := fun _ => rest.not_inFlight
  apart := apart

theorem Camera.Transfer.exclusive
    {camera : Camera} {initialised : Bool}
    (transfer : camera.Transfer) (apart : camera.collided = false) :
    Exclusive { camera, initialised } where
  idle := by
    intro free
    have busy : camera.busy = true := transfer.busy
    rw [show camera.busy = false from free] at busy
    cases busy
  apart := apart

/-- Where the condition holds, and the driver is settled and exclusive afterwards. -/
theorem exclusive_of_settled
    {after : CameraWorld} {condition : Prop}
    (met : condition) (exclusive : Exclusive after)
    (settled : Settled after) :
    (Exclusive after ↔ condition) ∧ (Exclusive after → Settled after) :=
  ⟨⟨fun _ => met, fun _ => exclusive⟩, fun _ => settled⟩

/-- Where the condition fails, and the lock is free with a transfer in flight. -/
theorem not_exclusive_of_armed
    {after : CameraWorld} {condition : Prop}
    (broken : ¬condition) (free : after.camera.busy = false)
    (inFlight : after.camera.inFlight = true) :
    (Exclusive after ↔ condition) ∧ (Exclusive after → Settled after) := by
  have overlap : ¬Exclusive after := by
    intro exclusive
    have idle := exclusive.idle free
    rw [inFlight] at idle
    cases idle
  exact
    ⟨⟨fun exclusive => absurd exclusive overlap, fun met => absurd met broken⟩,
      fun exclusive => absurd exclusive overlap⟩

/-- A Get Picture which asks for nothing disturbs nothing. -/
theorem undisturbed_of_unasked
    (unasked : world.camera.askedSize input = none) :
    Undisturbed world (.request .getPicture conn input) := by
  intro _ size asked
  rw [unasked] at asked
  cases asked

/-- A Get Picture whose content could not be requested. -/
theorem exclusive_contentFailed
    {outcome : ExchangeOutcome}
    (rest : world.camera.Rest) (exclusive : Exclusive world)
    (returned :
      SyncCommand.readSize.call (world.camera.entered input).uart
          input.exchange =
        some outcome)
    (failed : (world.camera.contentRead conn input outcome).2 ≠ 0) :
    let after : CameraWorld :=
      { world with
        camera :=
          { (world.camera.contentRead conn input outcome).1 with
            busy := false } }
    (Exclusive after ↔ Undisturbed world (.request .getPicture conn input)) ∧
      (Exclusive after → Settled after) := by
  have content := rest.contentCase returned conn
  generalize world.camera.contentRead conn input outcome = read
    at content failed ⊢
  cases content with
  | ended =>
      exact absurd rfl failed
  | refused refused =>
      have unasked : world.camera.askedSize input = none :=
        Camera.askedSize_of_failed returned fun _ => refused
      have sized := rest.sized returned
      have restAfter :
          ({ world.camera.sized input outcome with
              replyConn := conn
              busy := false } : Camera).Rest :=
        ⟨sized.1.previousRxbuffer, sized.1.unlockTimer, sized.1.quiet⟩
      exact
        exclusive_of_settled (undisturbed_of_unasked unasked)
          (restAfter.exclusive (sized.2.trans exclusive.apart))
          (Or.inl restAfter)

/-- A Get Picture whose content was requested. -/
theorem exclusive_started
    {outcome : ExchangeOutcome}
    (rest : world.camera.Rest) (exclusive : Exclusive world)
    (free : world.camera.busy = false)
    (returned :
      SyncCommand.readSize.call (world.camera.entered input).uart
          input.exchange =
        some outcome)
    (success : outcome.result = 0)
    (accepted : (world.camera.contentRead conn input outcome).2 = 0) :
    let after : CameraWorld :=
      { world with
        camera := (world.camera.contentRead conn input outcome).1 }
    (Exclusive after ↔ Undisturbed world (.request .getPicture conn input)) ∧
      (Exclusive after → Settled after) := by
  have content := rest.contentCase returned conn
  generalize world.camera.contentRead conn input outcome = read
    at content accepted ⊢
  cases content with
  | refused =>
      exact absurd accepted (Int.neg_ne_zero.mpr Int.one_ne_zero)
  | ended granted ends =>
      have asked : world.camera.askedSize input =
          some outcome.pictureSize :=
        Camera.askedSize_of_granted returned success granted
      have ending := rest.requesting returned ends
      by_cases below :
          input.content.afterSend.length <
            Camera.capacity (Camera.contentSize outcome.pictureSize)
      · rw [if_pos below] at ending
        refine
          exclusive_of_settled ?_
            (ending.1.exclusive (ending.2.trans exclusive.apart))
            (Or.inr ending.1)
        intro _ size askedToo
        rw [asked, Option.some.injEq] at askedToo
        rw [← askedToo]
        exact below
      · rw [if_neg below] at ending
        exact
          not_exclusive_of_armed
            (fun met => below (met free outcome.pictureSize asked))
            ending.1 (Camera.inFlight_of_unlockTimer ending.2)

/-- A camera command keeps the lock exclusive exactly when its picture is not too early. -/
theorem exclusive_request
    {request : Camera.Request} {after : Camera} {reply : Option (List UInt8)}
    (settled : Settled world) (exclusive : Exclusive world)
    (requested : Camera.Requested world.camera conn input request after reply) :
    (Exclusive { world with camera := after } ↔
        Undisturbed world (.request request conn input)) ∧
      (Exclusive { world with camera := after } →
        Settled { world with camera := after }) := by
  have rest (free : world.camera.busy = false) : world.camera.Rest :=
    settled.rest (exclusive.idle free)
  cases requested with
  | busy locked =>
      refine exclusive_of_settled ?_ exclusive settled
      cases request with
      | getPicture =>
          intro free
          rw [locked] at free
          cases free
      | _ =>
          exact True.intro
  | other free =>
      exact exclusive_of_settled True.intro exclusive settled
  | simple free returned noPicture =>
      rw [(rest free).entered] at returned ⊢
      rcases ((rest free).withBusy true).exchanged returned with
        ⟨restAfter, collided⟩
      refine
        exclusive_of_settled ?_
          ((restAfter.withBusy false).exclusive
            (collided.trans exclusive.apart))
          (Or.inl (restAfter.withBusy false))
      cases request with
      | getPicture =>
          exact absurd rfl noPicture
      | _ =>
          exact True.intro
  | sizeFailed free returned failed =>
      have unasked : world.camera.askedSize input = none :=
        Camera.askedSize_of_failed returned fun success =>
          absurd success failed
      have sized := (rest free).sized returned
      exact
        exclusive_of_settled (undisturbed_of_unasked unasked)
          ((sized.1.withBusy false).exclusive
            (sized.2.trans exclusive.apart))
          (Or.inl (sized.1.withBusy false))
  | contentFailed free returned _ failed =>
      exact exclusive_contentFailed (rest free) exclusive returned failed
  | started free returned success accepted =>
      exact
        exclusive_started (rest free) exclusive free returned success accepted

/-- One step of a settled driver keeps the lock exclusive exactly when it is undisturbed. -/
theorem exclusive_step
    (world : CameraWorld) (step : CameraStep) (after : CameraWorld)
    (settled : Settled world) (exclusive : Exclusive world)
    (taken : cameraSystem.next world step = some after) :
    (Exclusive after ↔ Undisturbed world step) ∧
      (Exclusive after → Settled after) := by
  cases Camera.stepped_of_next taken with
  | request requested =>
      exact exclusive_request settled exclusive requested
  | @reinitialised input outcome returned =>
      rcases settled with rest | transfer
      · have exchanged := (rest.withBusy false).exchanged returned
        exact
          exclusive_of_settled (fun _ => rest.not_inFlight)
            (exchanged.1.exclusive (exchanged.2.trans exclusive.apart))
            (Or.inl exchanged.1)
      · refine not_exclusive_of_armed ?_ rfl ?_
        · intro undisturbed
          have idle := undisturbed rfl
          rw [transfer.inFlight] at idle
          cases idle
        · exact Camera.inFlight_of_unlockTimer transfer.unlockTimer
  | notInitialised =>
      exact exclusive_of_settled nofun exclusive settled
  | @byte arrival =>
      rcases settled with rest | transfer
      · rw [Camera.receive_of_not_listening rest.quiet.deaf]
        exact exclusive_of_settled True.intro exclusive (Or.inl rest)
      · rcases transfer.receive arrival with ⟨ended, collided⟩
        have apart := collided.trans exclusive.apart
        rcases ended with ⟨rest, _⟩ | goesOn
        · exact
            exclusive_of_settled True.intro (rest.exclusive apart)
              (Or.inl rest)
        · exact
            exclusive_of_settled True.intro (goesOn.exclusive apart)
              (Or.inr goesOn)
  | unlockTimer =>
      have rest := Camera.cancelReadPicture_rest world.camera
      exact
        exclusive_of_settled True.intro (rest.exclusive exclusive.apart)
          (Or.inl rest)

end

/--
The lock of the camera gives mutual exclusion in every state of a run exactly
when no step of the run disturbs a transfer.
-/
theorem camera_lock_exclusive_iff (steps : List CameraStep) :
    cameraSystem.Always Exclusive cameraSystem.start steps ↔
      cameraSystem.Each Undisturbed cameraSystem.start steps := by
  have settled : Settled cameraSystem.start := Or.inl Camera.Rest.boot
  have exclusive : Exclusive cameraSystem.start :=
    { idle := nofun
      apart := rfl }
  exact System.always_iff_each exclusive_step steps settled exclusive

/-! ### A re-initialisation during a transfer -/

/-- All allocations succeed. -/
def plentiful : Uart.CreateAnswers where
  heapSize := 40000
  buffer := true
  bufferStruct := true

/-- An exchange in which the camera answers at once. -/
def answered (response : List UInt8) : ExchangeInput where
  create := plentiful
  installed := []
  early := []
  clock := 0
  polls := [{ bytes := response, ticks := 0 }]
  late := []

/-- Get Picture for a picture of `size` bytes, and what arrives after its command is sent. -/
def pictureInput (size : UInt8) (sent assigned : List Arrival) :
    Camera.RequestInput where
  entered := []
  exchange :=
    answered [0x76, 0x00, 0x34, 0x00, 0x04, 0x00, 0x00, 0x00, size]
  between := []
  content :=
    { create := plentiful
      installed := []
      early := []
      sent
      assigned
      disarmed := [] }

/--
While a picture is received, the type is set to another one, which leaves the
camera alone, and then back to Camera.
-/
def interruptedSteps : List CameraStep :=
  [.reinit true (answered [0x76, 0x00, 0x26, 0x00]),
    .request .getPicture 1 (pictureInput 20 [] []),
    .reinit true (answered [0x76, 0x00, 0x26, 0x00])]

/-- The lock is free although the transfer is in flight. -/
theorem camera_lock_not_exclusive :
    ¬∀ steps, cameraSystem.Always Exclusive cameraSystem.start steps := by
  intro always
  have ran :
      (cameraSystem.run cameraSystem.start interruptedSteps).map
          (fun world => (world.camera.busy, world.camera.inFlight)) =
        some (false, true) := by
    decide
  rcases (always interruptedSteps).last_of_map ran with
    ⟨world, observed, exclusive⟩
  rw [Prod.mk.injEq] at observed
  have idle := exclusive.idle observed.1
  rw [observed.2] at idle
  cases idle

end EspFirmware
