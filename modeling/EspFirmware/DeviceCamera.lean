import EspFirmware.DeviceSteps
import EspFirmware.PictureRequester

/-!
# The camera of the device

What commands and re-initialisations do to the camera, in terms of its
buffers: which ones they create, whom their pictures are sent to, and how
often.
-/

namespace EspFirmware

open Camera DeviceConfig Library

section

variable
    {right : Nat → Conn → Prop} {base : List Delivery}
    {camera after : Camera}

/-! ## Resets -/

namespace ResetIn

variable {input : ExchangeInput}

theorem samePictures
    (reset : ResetIn camera input after) :
    Uart.SamePictures camera.uart after.uart := by
  cases reset with
  | kept =>
      exact .refl camera.uart
  | reset returned =>
      exact
        @samePictures_exchanged { camera with busy := false } .reset _ _
          returned

theorem aimed
    (reset : ResetIn camera input after)
    (aimed : camera.Aimed right base) :
    after.Aimed right base := by
  cases reset with
  | kept =>
      exact aimed
  | reset returned =>
      exact (aimed.withFields _ false _ _).exchanged returned

theorem once
    (reset : ResetIn camera input after)
    (once : camera.Once) :
    after.Once := by
  cases reset with
  | kept =>
      exact once
  | reset returned =>
      exact (once.withFields _ false _ _).exchanged returned

end ResetIn

/-! ## Commands -/

/-- A Get Picture which reaches `Camera_read_content` does so in time. -/
def GetsInTime
    (flash : Flash) (camera : Camera) (input : CommandInput)
    (received : ReceivedCommand) : Prop :=
  match received.command with
  | .device cmd params =>
      cameraRequest cmd params = .getPicture →
        storedType flash = some .camera →
          input.load.Succeed (storedLen flash) →
            camera.busy = false →
              camera.InTime received.conn input.camera
  | _ => True

instance
    (flash : Flash) (camera : Camera) (input : CommandInput)
    (received : ReceivedCommand) :
    Decidable (GetsInTime flash camera input received) := by
  unfold GetsInTime
  split <;> infer_instance

namespace CommandCamera

variable
    {flash : Flash} {conn : Conn} {input : CommandInput}
    {command : TcpCommand} {replies : List (List UInt8)}

/-- Only Get Picture creates a buffer for a picture, one, and then it does not reply. -/
theorem pictures
    (ran : CommandCamera flash camera conn input command after replies) :
    Uart.SamePictures camera.uart after.uart ∨
      replies = [] ∧
        ∃ params index,
          command = .device (ascii "Camera Get Picture") params ∧
            camera.uart.created ≤ index ∧
              ∀ other,
                after.uart.ForPicture other ↔
                  camera.uart.ForPicture other ∨ other = index := by
  cases ran with
  | reset reset =>
      exact Or.inl reset.samePictures
  | @request cmd params after reply type loaded returned =>
      have created := (requested_of_request returned).pictures
      generalize asked : cameraRequest cmd params = request at created
      cases created with
      | same same =>
          exact Or.inl same
      | created free new created =>
          rw [cameraRequest_eq_getPicture asked]
          exact Or.inr ⟨rfl, params, _, rfl, new, created⟩

theorem aimed
    (ran : CommandCamera flash camera conn input command after replies)
    (aimed : camera.Aimed right base)
    (requester :
      ∀ index,
        ¬camera.uart.ForPicture index → after.uart.ForPicture index →
          right index conn) :
    after.Aimed right base := by
  cases ran with
  | reset reset =>
      exact reset.aimed aimed
  | request type loaded returned =>
      exact (requested_of_request returned).aimed aimed requester

theorem once
    (ran : CommandCamera flash camera conn input command after replies)
    (once : camera.Once)
    (inTime : GetsInTime flash camera input { conn, command }) :
    after.Once := by
  cases ran with
  | reset reset =>
      exact reset.once once
  | request type loaded returned =>
      exact
        (requested_of_request returned).once once fun free picture =>
          inTime picture type loaded free

end CommandCamera

/-! ## Pictures -/

/-- The pictures completed since some state are those delivered since then. -/
theorem completedPictures_eq
    (delivers : after.Delivers right camera.deliveries) :
    after.deliveries =
        camera.deliveries ++ completedPictures camera after ∧
      ∀ picture ∈ completedPictures camera after,
        right picture.buffer picture.conn := by
  rcases delivers with ⟨added, equal, here⟩
  have completed : completedPictures camera after = added := by
    rw [completedPictures, equal, List.drop_left]
  rw [completed]
  exact ⟨equal, here⟩

end

/-! ## The camera driver by itself -/

/-- The camera driver can reach the state by itself. -/
def Camera.Reached (camera : Camera) : Prop :=
  ∃ initialised, cameraSystem.Reachable { camera, initialised }

namespace Camera.Reached

variable {camera after : Camera}

theorem next
    (step : CameraStep)
    (reached : camera.Reached)
    (taken :
      ∀ initialised,
        ∃ later,
          CameraWorld.next { camera, initialised } step =
            some { camera := after, initialised := later }) :
    after.Reached := by
  rcases reached with ⟨initialised, reached⟩
  rcases taken initialised with ⟨later, taken⟩
  exact ⟨later, @System.Reachable.next _ _ cameraSystem _ _ step reached taken⟩

theorem resetIn
    {input : ExchangeInput}
    (reached : camera.Reached)
    (reset : ResetIn camera input after) :
    after.Reached := by
  cases reset with
  | kept =>
      exact reached
  | reset returned =>
      apply reached.next (.reinit true input)
      intro initialised
      refine ⟨initialised || true, ?_⟩
      simp only [CameraWorld.next, Camera.reinit, exchangeWith, if_true,
        returned, Option.map_some]
      rfl

theorem command
    {flash : Flash} {conn : Conn} {input : CommandInput}
    {command : TcpCommand} {replies : List (List UInt8)}
    (reached : camera.Reached)
    (ran : CommandCamera flash camera conn input command after replies) :
    after.Reached := by
  cases ran with
  | reset reset =>
      exact reached.resetIn reset
  | @request cmd params _ reply type loaded returned =>
      apply reached.next (.request (cameraRequest cmd params) conn input.camera)
      intro initialised
      refine ⟨initialised, ?_⟩
      simp only [CameraWorld.next, returned, Option.map_some]

end Camera.Reached

theorem Device.reached_next
    {device after : Device} {step : DeviceStep}
    (reached : device.camera.Reached)
    (taken : device.next step = some after) :
    after.camera.Reached := by
  cases taken_of_next taken with
  | rxRun dequeued task parsed ran served =>
      rw [served.after_eq]
      exact reached.command (commandCamera_of_run ran)
  | initDone reset inits served =>
      rw [served.after_eq]
      exact reached.resetIn (resetIn_cases reset)
  | @byte _ arrival posted served =>
      rw [served.after_eq]
      exact reached.next (.byte arrival) fun initialised => ⟨initialised, rfl⟩
  | unlockTimer armed =>
      exact
        reached.next .unlockTimer fun initialised =>
          ⟨initialised, if_pos armed⟩
  | pwm started =>
      exact reached
  | recvCb _ served | sentCb served | rxEmpty served | rxIgnored _ served _
  | tx served | txDone served | spurious served | disconnectCb served
  | serverClose served | serverInit served =>
      rw [served.after_eq]
      exact reached

/--
Whatever happens to the device, its camera is in a state which the camera
driver can reach by itself.
-/
theorem Device.camera_reached
    {flash : Flash} {device : Device}
    (reached : (deviceSystem flash).Reachable device) :
    device.camera.Reached := by
  refine
    @System.Reachable.invariant _ _ (deviceSystem flash)
      (fun device => device.camera.Reached)
      ⟨false, .start⟩ ?_ device reached
  intro device step after here taken
  exact reached_next here taken

end EspFirmware
