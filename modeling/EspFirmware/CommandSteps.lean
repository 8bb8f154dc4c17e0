import EspFirmware.CameraSteps
import EspFirmware.Commands
import EspFirmware.ConfigRecord

/-!
# What one command can do

Inversion lemmas for `tcpparser_process_data`: the commands for the device
that is stored, and what any command does to the camera driver and replies.
-/

namespace EspFirmware

open DeviceConfig

/-! ## The device that is stored -/

/-- The ways in which a command for the stored device ends. -/
inductive DeviceRan
    (flash : Flash) (camera : Camera) (conn : Conn) (cmd params : List UInt8)
    (input : CommandInput) : CommandRun → Prop where
  | absent
      (missing : alreadyExists flash input.load.guard = false) :
      DeviceRan flash camera conn cmd params input
        { flash, camera, effects := [] }
  | unread
      (failed : ¬input.load.Succeed (storedLen flash)) :
      DeviceRan flash camera conn cmd params input
        { flash
          camera
          effects := configEffects (readConfig flash input.load.read).trace }
  | camera {after : Camera} {reply : Option (List UInt8)}
      (type : storedType flash = some .camera)
      (loaded : input.load.Succeed (storedLen flash))
      (returned :
        camera.request (cameraRequest cmd params) conn input.camera =
          some (after, reply)) :
      DeviceRan flash camera conn cmd params input
        { flash
          camera := after
          effects :=
            configEffects (readConfig flash input.load.read).trace ++
                reply.toList.map .sendReply ++
              configEffects
                (osFree
                  (stored flash (input.load.read.block.getD 0)).data) }
  | driver
      (other : storedType flash ≠ some .camera)
      (loaded : input.load.Succeed (storedLen flash)) :
      DeviceRan flash camera conn cmd params input
        { flash
          camera
          effects :=
            configEffects (readConfig flash input.load.read).trace ++
                deviceEffects (storedType flash) cmd params ++
              configEffects
                (osFree
                  (stored flash (input.load.read.block.getD 0)).data) }

/-- A configuration is found only when the guard is read. -/
theorem guard_of_alreadyExists
    {flash : Flash} {guardRead : Bool}
    (found : alreadyExists flash guardRead = true) :
    guardRead = true ∧ alreadyExists flash true = true := by
  cases guardRead with
  | false =>
      cases found
  | true =>
      exact ⟨rfl, found⟩

theorem ofCode_stored
    {flash : Flash}
    (found : alreadyExists flash true = true) (address : Nat) :
    DeviceType.ofCode (stored flash address).type = storedType flash := by
  rw [storedType, if_pos found]
  rfl

theorem deviceRan_of_run
    {flash : Flash} {camera : Camera} {conn : Conn}
    {cmd params : List UInt8} {input : CommandInput} {run : CommandRun}
    (ran : runDevice flash camera conn cmd params input = some run) :
    DeviceRan flash camera conn cmd params input run := by
  have result := result_readConfig flash input.load.read
  simp only [runDevice] at ran
  split at ran
  · next found =>
      rcases guard_of_alreadyExists found with ⟨guard, configured⟩
      by_cases succeed : input.load.read.Succeed (storedLen flash)
      · rw [if_pos succeed] at result
        rw [result] at ran
        simp only [ofCode_stored configured] at ran
        split at ran
        · next type =>
            rcases Option.map_eq_some_iff.mp ran with
              ⟨⟨after, reply⟩, returned, rfl⟩
            exact .camera type ⟨guard, succeed⟩ returned
        · next other =>
            cases ran
            exact .driver other ⟨guard, succeed⟩
      · rw [if_neg succeed] at result
        rw [result] at ran
        cases ran
        exact .unread fun both => succeed both.2
  · next missing =>
      cases ran
      exact .absent (Bool.eq_false_iff.mpr missing)

/-! ## The camera -/

/-- `DeviceInit` resets the camera, or leaves it alone. -/
inductive ResetIn (camera : Camera) (input : ExchangeInput) :
    Camera → Prop where
  | kept :
      ResetIn camera input camera
  | reset {outcome : ExchangeOutcome}
      (returned : SyncCommand.reset.call camera.uart input = some outcome) :
      ResetIn camera input
        ({ camera with busy := false }.exchanged .reset input outcome)

theorem Camera.resetIn_cases
    {camera after : Camera} {trace : List ConfigAction}
    {input : ExchangeInput}
    (returned : camera.resetIn trace input = some after) :
    ResetIn camera input after := by
  rw [resetIn] at returned
  split at returned
  · rcases Option.bind_eq_some_iff.mp returned with ⟨pair, reinit, kept⟩
    rw [Camera.reinit, if_pos rfl, Option.map_eq_some_iff] at reinit
    rcases reinit with ⟨⟨exchangedTo, outcome⟩, exchange, rfl⟩
    rcases exchangeWith_eq_some exchange with ⟨called, rfl⟩
    split at kept
    · cases kept
      exact .reset called
    · cases kept
  · cases returned
    exact .kept

/-- What a command does to the camera, and its replies. -/
inductive CommandCamera
    (flash : Flash) (camera : Camera) (conn : Conn) (input : CommandInput) :
    TcpCommand → Camera → List (List UInt8) → Prop where
  | reset {command : TcpCommand} {after : Camera}
      {replies : List (List UInt8)}
      (reset : ResetIn camera input.reset after) :
      CommandCamera flash camera conn input command after replies
  | request {cmd params : List UInt8} {after : Camera}
      {reply : Option (List UInt8)}
      (type : storedType flash = some .camera)
      (loaded : input.load.Succeed (storedLen flash))
      (returned :
        camera.request (cameraRequest cmd params) conn input.camera =
          some (after, reply)) :
      CommandCamera flash camera conn input (.device cmd params) after
        reply.toList

theorem repliesOf_sendReply (texts : List (List UInt8)) :
    repliesOf (texts.map .sendReply) = texts := by
  induction texts with
  | nil =>
      rfl
  | cons text rest induction =>
      exact congrArg (text :: ·) induction

theorem commandCamera_of_run
    {flash : Flash} {camera : Camera} {conn : Conn} {command : TcpCommand}
    {input : CommandInput} {run : CommandRun}
    (ran : runCommand flash camera conn command input = some run) :
    CommandCamera flash camera conn input command run.camera
      (repliesOf run.effects) := by
  cases command with
  | connectToNetwork | setName | setRoom | macGet | power =>
      cases ran
      exact .reset .kept
  | goBackToAp =>
      simp only [runCommand, runGoBackToAp] at ran
      split at ran
      · rcases Option.map_eq_some_iff.mp ran with ⟨after, returned, rfl⟩
        exact .reset (Camera.resetIn_cases returned)
      · cases ran
        exact .reset .kept
  | setType params =>
      simp only [runCommand, runSetType] at ran
      split at ran
      · cases ran
        exact .reset .kept
      · rcases Option.map_eq_some_iff.mp ran with ⟨after, returned, rfl⟩
        exact .reset (Camera.resetIn_cases returned)
  | device cmd params =>
      cases deviceRan_of_run ran with
      | absent | unread | driver =>
          exact .reset .kept
      | camera type loaded returned =>
          rw [repliesOf_append, repliesOf_append, repliesOf_configEffects,
            repliesOf_configEffects, repliesOf_sendReply, List.nil_append,
            List.append_nil]
          exact .request type loaded returned

/-- Only one command is a request for a picture. -/
theorem cameraRequest_eq_getPicture
    {cmd params : List UInt8}
    (picture : cameraRequest cmd params = .getPicture) :
    cmd = ascii "Camera Get Picture" := by
  simp only [cameraRequest] at picture
  split at picture
  · cases picture
  · split at picture
    · cases picture
    · split at picture
      · assumption
      · split at picture
        · cases picture
        · split at picture
          · cases picture
          · split at picture <;> cases picture

end EspFirmware
