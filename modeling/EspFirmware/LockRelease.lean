import EspFirmware.CameraLock

/-!
# The lock of the camera is released

Whatever the camera, the allocator and the clients do: a command which takes
`IS_CAMERA_BUSY` either clears it or leaves it to a transfer, whose end clears
it.  A transfer ends with its last byte, or with the unlock timer, which is
armed before the command that starts the transfer returns.
-/

namespace EspFirmware

open Library

/-! ## What is promised -/

/-- The request is Get Picture, and `Camera_read_content` has returned 0. -/
def Camera.Started
    (camera : Camera) (conn : Conn) (input : Camera.RequestInput)
    (request : Camera.Request) (after : Camera) : Prop :=
  request = .getPicture ∧
    ∃ outcome,
      SyncCommand.readSize.call (camera.entered input).uart input.exchange =
          some outcome ∧
        outcome.result = 0 ∧
          camera.contentRead conn input outcome = (after, 0)

/--
The lock is never left for good.  Once the camera was initialised, it is held
only with the unlock timer armed; the timer and the completion of a picture
release it; a command which found it free returns, at the latest when the
clock passes the timeout, and has released it again unless it has started a
transfer; and a command which found it held does nothing.
-/
structure LockReleased (world : CameraWorld) : Prop where
  armed :
    world.initialised = true →
      world.camera.busy = true → world.camera.unlockTimer = true
  fires :
    world.camera.unlockTimer = true →
      ∃ after, cameraSystem.next world .unlockTimer = some after ∧
        after.camera.busy = false
  completes :
    ∀ arrival index,
      (world.camera.uart.receive arrival.byte).2 = some index →
        (world.camera.receive arrival).busy = false
  returns :
    ∀ request conn input test,
      LateAt input.exchange.polls test →
        ∃ after reply,
          world.camera.request request conn input = some (after, reply)
  clears :
    ∀ request conn input after reply,
      world.camera.busy = false →
        world.camera.request request conn input = some (after, reply) →
          after.busy = false ∨
            world.camera.Started conn input request after
  keeps :
    ∀ request conn input,
      world.camera.busy = true →
        world.camera.request request conn input = some (world.camera, none)

/-! ## Commands, bytes and the timer -/

namespace Camera

/-- An unlock timer is armed at the end of every transfer that was started. -/
theorem contentRead_armed
    {camera : Camera} {conn : Conn} {input : RequestInput}
    {outcome : ExchangeOutcome}
    (accepted : (camera.contentRead conn input outcome).2 = 0) :
    (camera.contentRead conn input outcome).1.unlockTimer = true := by
  rw [contentRead, readContent_eq] at accepted ⊢
  by_cases granted :
      input.content.create.grants (contentSize outcome.pictureSize) = true
  · rw [if_pos granted]
    rfl
  · rw [if_neg granted] at accepted
    exact absurd accepted (Int.neg_ne_zero.mpr Int.one_ne_zero)

/-- A command which found the lock free has released it, or started a transfer. -/
theorem Requested.clears
    {camera after : Camera} {conn : Conn} {input : RequestInput}
    {request : Request} {reply : Option (List UInt8)}
    (free : camera.busy = false)
    (requested : Requested camera conn input request after reply) :
    after.busy = false ∨ camera.Started conn input request after := by
  cases requested with
  | busy locked =>
      exact Or.inl free
  | other =>
      exact Or.inl free
  | simple | sizeFailed | contentFailed =>
      exact Or.inl rfl
  | @started outcome _ returned success accepted =>
      exact
        Or.inr
          ⟨rfl, outcome, returned, success, Prod.ext rfl accepted⟩

/-- A command arms the timer if it does not release the lock. -/
theorem Requested.armed
    {camera after : Camera} {conn : Conn} {input : RequestInput}
    {request : Request} {reply : Option (List UInt8)}
    (requested : Requested camera conn input request after reply)
    (armed : camera.busy = true → camera.unlockTimer = true)
    (locked : after.busy = true) :
    after.unlockTimer = true := by
  cases requested with
  | busy =>
      exact armed locked
  | other =>
      exact armed locked
  | simple | sizeFailed | contentFailed =>
      cases locked
  | started _ _ _ accepted =>
      exact contentRead_armed accepted

/-- A byte arms no timer, but it disarms it only when it releases the lock. -/
theorem receive_armed
    {camera : Camera}
    (armed : camera.busy = true → camera.unlockTimer = true)
    (arrival : Arrival)
    (locked : (camera.receive arrival).busy = true) :
    (camera.receive arrival).unlockTimer = true := by
  have step := receive_cases camera arrival
  generalize camera.receive arrival = after at step locked ⊢
  cases step with
  | silent =>
      exact armed locked
  | completed =>
      cases locked

/-- A command returns when the clock passes the timeout. -/
theorem request_returns
    (camera : Camera) (request : Request) (conn : Conn)
    {input : RequestInput} {test : Nat}
    (late : LateAt input.exchange.polls test) :
    ∃ after reply, camera.request request conn input = some (after, reply) := by
  have exchanges (entered : Camera) (command : SyncCommand) :
      (entered.exchangeWith command input.exchange).isSome = true := by
    rcases command.call_returns entered.uart late with ⟨outcome, called⟩
    rw [exchangeWith, called]
    rfl
  have simple (command : SyncCommand)
      (text : ExchangeOutcome → Option (List UInt8)) :
      (camera.simpleRequest command input text).isSome = true := by
    rw [simpleRequest, Option.isSome_map]
    exact exchanges _ command
  have returns : (camera.request request conn input).isSome = true := by
    unfold Camera.request
    split
    · rfl
    · cases request with
      | getPicture =>
          simp only
          rw [getPicture, Option.isSome_map]
          exact exchanges _ .readSize
      | other =>
          rfl
      | takePicture | getSize | stopPicture | compressionRatio
      | imageSizeSet =>
          exact simple _ _
  rcases Option.isSome_iff_exists.mp returns with ⟨⟨after, reply⟩, returned⟩
  exact ⟨after, reply, returned⟩

end Camera

/-! ## Every run -/

/-- In every reachable state the lock is held only with the timer armed. -/
theorem armed_of_reachable
    {world : CameraWorld}
    (reached : cameraSystem.Reachable world) :
    world.initialised = true →
      world.camera.busy = true → world.camera.unlockTimer = true := by
  refine
    @System.Reachable.invariant _ _ cameraSystem
      (fun world =>
        world.initialised = true →
          world.camera.busy = true → world.camera.unlockTimer = true)
      nofun ?_ world reached
  intro world step after armed taken initialised locked
  cases Camera.stepped_of_next taken with
  | request requested =>
      exact requested.armed (armed initialised) locked
  | reinitialised =>
      cases locked
  | notInitialised =>
      exact armed initialised locked
  | byte =>
      exact Camera.receive_armed (armed initialised) _ locked
  | unlockTimer =>
      cases locked

/--
In every reachable state, over any run of commands, re-initialisations,
received bytes and timer firings, the lock is never left for good.
-/
theorem camera_lock_released
    {world : CameraWorld}
    (reached : cameraSystem.Reachable world) :
    LockReleased world where
  armed := armed_of_reachable reached
  fires := by
    intro armed
    refine ⟨_, if_pos armed, rfl⟩
  completes := by
    intro arrival index called
    rw [Camera.receive_called called]
    rfl
  returns := by
    intro request conn input test late
    exact world.camera.request_returns request conn late
  clears := by
    intro request conn input after reply free returned
    exact (Camera.requested_of_request returned).clears free
  keeps := by
    intro request conn input locked
    exact if_pos locked

/-- A transfer has started, and the lock is held with the timer armed. -/
theorem camera_lock_released_transfer :
    ∃ world,
      cameraSystem.run cameraSystem.start
          [.reinit true (answered [0x76, 0x00, 0x26, 0x00]),
            .request .getPicture 1 (pictureInput 20 [] [])] =
          some world ∧
        world.initialised = true ∧
          world.camera.busy = true ∧ LockReleased world := by
  have ran :
      (cameraSystem.run cameraSystem.start
          [.reinit true (answered [0x76, 0x00, 0x26, 0x00]),
            .request .getPicture 1 (pictureInput 20 [] [])]).map
          (fun world => (world.initialised, world.camera.busy)) =
        some (true, true) := by
    decide
  rcases Option.map_eq_some_iff.mp ran with ⟨world, ranTo, observed⟩
  rw [Prod.mk.injEq] at observed
  have reached : cameraSystem.Reachable world :=
    System.Reachable.run .start ranTo
  exact
    ⟨world, ranTo, observed.1, observed.2, camera_lock_released reached⟩

end EspFirmware
