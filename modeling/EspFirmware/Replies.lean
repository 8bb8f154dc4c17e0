import EspFirmware.DeviceCamera
import EspFirmware.Library.Answers

/-!
# Replies go to the client that asked, and once

Every message in `sendq` was caused by one command.  A reply is enqueued while
its command is carried out.  A picture is enqueued by an interrupt long after
its command, so what is kept until then is which command created its buffer,
and over which connection it came.
-/

namespace EspFirmware

open Library DeviceConfig

namespace DeviceLog

/-! ## What is promised -/

/-- The buffer was created by a Get Picture command which came over the connection. -/
def AskedBy (log : DeviceLog) (index : Nat) (conn : Conn) : Prop :=
  ∃ number params,
    log.creator index = some number ∧
      log.commands[number]? =
        some
          { conn
            command := .device (ascii "Camera Get Picture") params }

/--
Every enqueued message carries the connection of the one command which caused
it, no command has caused two, and a picture was caused by the command which
created its buffer.
-/
structure RepliesRight (log : DeviceLog) : Prop where
  answered :
    Answered (fun received entry => entry.message.conn = received.conn)
      Enqueued.cause log.commands log.enqueued
  asked :
    ∀ entry ∈ log.enqueued, ∀ index, entry.picture = some index →
      entry.cause = log.creator index ∧
        log.AskedBy index entry.message.conn

/-! ## What is kept -/

/-- The commands which have created buffers, and those which have caused messages. -/
structure Sound (log : DeviceLog) (delivered : List Nat) : Prop where
  right : log.RepliesRight
  numbered :
    ∀ index number, log.creator index = some number →
      number < log.commands.length
  apart :
    ∀ left right number, log.creator left = some number →
      log.creator right = some number → left = right
  delivered :
    ∀ entry ∈ log.enqueued, ∀ index, entry.picture = some index →
      index ∈ delivered
  plain :
    ∀ entry ∈ log.enqueued, entry.picture = none →
      ∀ index, log.creator index ≠ entry.cause

namespace Sound

variable {log : DeviceLog} {delivered : List Nat}

theorem empty :
    DeviceLog.empty.Sound [] where
  right := ⟨.start, nofun⟩
  numbered := nofun
  apart := nofun
  delivered := nofun
  plain := nofun

/-- Closed connections and calls are kept apart. -/
theorem withCalls
    (sound : log.Sound delivered) (closed lateCalls : List Conn) :
    { log with closed, lateCalls }.Sound delivered where
  right := ⟨sound.right.answered, sound.right.asked⟩
  numbered := sound.numbered
  apart := sound.apart
  delivered := sound.delivered
  plain := sound.plain

/-- What has caused no message so far. -/
theorem creator_new
    (sound : log.Sound delivered)
    {index number : Nat} {entry : Enqueued}
    (created : log.creator index = some number)
    (new : index ∉ delivered)
    (member : entry ∈ log.enqueued) :
    entry.cause ≠ some number := by
  intro same
  cases picture : entry.picture with
  | none =>
      exact
        sound.plain entry member picture index (created.trans same.symm)
  | some other =>
      have causedBy := (sound.right.asked entry member other picture).1
      have equal :=
        sound.apart other index number (causedBy.symm.trans same) created
      rw [← equal] at new
      exact new (sound.delivered entry member other picture)

/-- Pictures are completed, none of them for the second time. -/
theorem pictures
    (sound : log.Sound delivered)
    {completed : List Delivery}
    (asked :
      ∀ picture ∈ completed, log.AskedBy picture.buffer picture.conn)
    (once : (delivered ++ completed.map Delivery.buffer).Nodup) :
    (log.enqueue (log.pictures completed)).Sound
      (delivered ++ completed.map Delivery.buffer) := by
  rw [List.nodup_append] at once
  rcases once with ⟨-, different, new⟩
  have entry_eq {entry : Enqueued}
      (member : entry ∈ log.pictures completed) :
      ∃ picture ∈ completed,
        entry =
          { cause := log.creator picture.buffer
            picture := some picture.buffer
            message := picture.message } := by
    rcases List.mem_map.mp member with ⟨picture, kept, rfl⟩
    exact ⟨picture, (List.mem_filter.mp kept).1, rfl⟩
  have answers :
      Answered (fun received entry => entry.message.conn = received.conn)
        Enqueued.cause log.commands (log.pictures completed) := by
    refine ⟨?_, ?_⟩
    · intro entry member
      rcases entry_eq member with ⟨picture, here, rfl⟩
      rcases asked picture here with ⟨number, params, created, command⟩
      exact ⟨number, _, created, command, rfl⟩
    · have queued :
          ((completed.filter Delivery.queued).map Delivery.buffer).Nodup :=
        different.sublist (List.filter_sublist.map _)
      rw [List.Nodup, List.pairwise_map] at queued
      rw [DeviceLog.pictures, List.map_map, List.Nodup, List.pairwise_map]
      apply queued.imp_of_mem
      intro left right leftMember rightMember differ same
      rcases asked left (List.mem_filter.mp leftMember).1 with
        ⟨number, params, created, -⟩
      exact
        differ
          (sound.apart left.buffer right.buffer number created
            (Eq.trans (Eq.symm same) created))
  have added {entry : Enqueued}
      (member : entry ∈ (log.enqueue (log.pictures completed)).enqueued) :
      entry ∈ log.enqueued ∨ entry ∈ log.pictures completed :=
    List.mem_append.mp member
  refine ⟨⟨?_, ?_⟩, sound.numbered, sound.apart, ?_, ?_⟩
  · apply sound.right.answered.answer answers
    intro old oldMember entry member same
    rcases entry_eq member with ⟨picture, here, rfl⟩
    rcases asked picture here with ⟨number, params, created, -⟩
    refine sound.creator_new created ?_ oldMember (same.trans created)
    intro again
    exact new _ again _ (List.mem_map_of_mem here) rfl
  · intro entry member index picture
    rcases added member with old | here
    · exact sound.right.asked entry old index picture
    · rcases entry_eq here with ⟨shot, completedHere, rfl⟩
      cases picture
      exact ⟨rfl, asked shot completedHere⟩
  · intro entry member index picture
    rcases added member with old | here
    · exact List.mem_append_left _ (sound.delivered entry old index picture)
    · rcases entry_eq here with ⟨shot, completedHere, rfl⟩
      cases picture
      exact List.mem_append_right _ (List.mem_map_of_mem completedHere)
  · intro entry member picture
    rcases added member with old | here
    · exact sound.plain entry old picture
    · rcases entry_eq here with ⟨shot, completedHere, rfl⟩
      cases picture

/-- A command replies, and it has caused no message before. -/
theorem reply
    (sound : log.Sound delivered)
    {number : Nat} {received : ReceivedCommand} {entries : List Enqueued}
    (command : log.commands[number]? = some received)
    (single : entries.length ≤ 1)
    (plain :
      ∀ entry ∈ entries,
        entry.cause = some number ∧ entry.picture = none ∧
          entry.message.conn = received.conn)
    (unanswered :
      entries ≠ [] → ∀ entry ∈ log.enqueued, entry.cause ≠ some number)
    (creates : entries ≠ [] → ∀ index, log.creator index ≠ some number) :
    (log.enqueue entries).Sound delivered := by
  have answers :
      Answered (fun received entry => entry.message.conn = received.conn)
        Enqueued.cause log.commands entries := by
    refine ⟨?_, ?_⟩
    · intro entry member
      rcases plain entry member with ⟨causedBy, -, conn⟩
      exact ⟨number, received, causedBy, command, conn⟩
    · match entries, single with
      | [], _ => exact List.nodup_nil
      | [entry], _ => simp
  have added {entry : Enqueued}
      (member : entry ∈ (log.enqueue entries).enqueued) :
      entry ∈ log.enqueued ∨ entry ∈ entries :=
    List.mem_append.mp member
  refine ⟨⟨?_, ?_⟩, sound.numbered, sound.apart, ?_, ?_⟩
  · apply sound.right.answered.answer answers
    intro old oldMember entry member same
    exact
      unanswered (List.ne_nil_of_mem member) old oldMember
        (same.trans (plain entry member).1)
  · intro entry member index picture
    rcases added member with old | here
    · exact sound.right.asked entry old index picture
    · rw [(plain entry here).2.1] at picture
      cases picture
  · intro entry member index picture
    rcases added member with old | here
    · exact sound.delivered entry old index picture
    · rw [(plain entry here).2.1] at picture
      cases picture
  · intro entry member picture index
    rcases added member with old | here
    · exact sound.plain entry old picture index
    · rw [(plain entry here).1]
      exact creates (List.ne_nil_of_mem here) index

end Sound

/-! ### A command is received -/

section

variable
    {log : DeviceLog} {received : ReceivedCommand} {before after : Camera}
    {index number : Nat}

theorem creator_receive_old
    (old : index < before.uart.created) :
    (log.receive received before after).creator index =
      log.creator index :=
  if_neg fun new => Nat.not_le.mpr old new.1

theorem creator_receive_new
    (new : before.uart.created ≤ index)
    (picture : after.uart.ForPicture index) :
    (log.receive received before after).creator index =
      some log.commands.length :=
  if_pos ⟨new, picture⟩

theorem creator_receive_cases
    (created :
      (log.receive received before after).creator index = some number) :
    before.uart.created ≤ index ∧ after.uart.ForPicture index ∧
        number = log.commands.length ∨
      log.creator index = some number := by
  by_cases new :
      before.uart.created ≤ index ∧ after.uart.ForPicture index
  · rw [creator_receive_new new.1 new.2, Option.some.injEq] at created
    exact Or.inl ⟨new.1, new.2, created.symm⟩
  · rw [show (log.receive received before after).creator index = _ from
      if_neg new] at created
    exact Or.inr created

/-- Nothing is known of a buffer which was not created. -/
theorem AskedBy.receive
    {conn : Conn}
    (asked : log.AskedBy index conn)
    (old : index < before.uart.created) :
    (log.receive received before after).AskedBy index conn := by
  rcases asked with ⟨number, params, created, command⟩
  have within := (List.getElem?_eq_some_iff.mp command).1
  exact
    ⟨number, params, (creator_receive_old old).trans created,
      (List.getElem?_append_left within).trans command⟩

theorem Sound.receive
    {delivered : List Nat}
    (sound : log.Sound delivered)
    (created :
      ∀ index number, log.creator index = some number →
        before.uart.ForPicture index)
    (single :
      ∀ left right,
        before.uart.created ≤ left → after.uart.ForPicture left →
          before.uart.created ≤ right → after.uart.ForPicture right →
            left = right) :
    (log.receive received before after).Sound delivered := by
  refine ⟨⟨sound.right.answered.request [received], ?_⟩, ?_, ?_, ?_, ?_⟩
  · intro entry member index picture
    rcases sound.right.asked entry member index picture with
      ⟨causedBy, asked⟩
    rcases asked with ⟨number, params, createdBy, command⟩
    have old := (created index number createdBy).1
    exact
      ⟨causedBy.trans (creator_receive_old old).symm,
        AskedBy.receive ⟨number, params, createdBy, command⟩ old⟩
  · intro index number createdBy
    have grown :
        (log.receive received before after).commands.length =
          log.commands.length + 1 :=
      List.length_append
    rcases creator_receive_cases createdBy with ⟨-, -, same⟩ | old
    · omega
    · have below := sound.numbered index number old
      omega
  · intro left right number leftBy rightBy
    rcases creator_receive_cases leftBy with ⟨new, picture, last⟩ | leftOld
    · rcases creator_receive_cases rightBy with
        ⟨newRight, pictureRight, -⟩ | rightOld
      · exact single left right new picture newRight pictureRight
      · have below := sound.numbered right number rightOld
        omega
    · rcases creator_receive_cases rightBy with ⟨-, -, last⟩ | rightOld
      · have below := sound.numbered left number leftOld
        omega
      · exact sound.apart left right number leftOld rightOld
  · exact sound.delivered
  · intro entry member picture index same
    rcases sound.right.answered.caused entry member with
      ⟨number, request, causedBy, -⟩
    have below := sound.right.answered.cause_lt member causedBy
    rw [causedBy] at same
    rcases creator_receive_cases same with ⟨-, -, last⟩ | old
    · omega
    · exact
        sound.plain entry member picture index (old.trans causedBy.symm)

end

end DeviceLog

/-! ## Replies of commands -/

namespace CommandEffect

theorem enqueued_eq_some
    {cause : Nat} {conn : Conn} {answers : RxAnswers}
    {effect : CommandEffect} {entry : Enqueued}
    (enqueues : effect.enqueued cause conn answers = some entry) :
    entry.cause = some cause ∧ entry.picture = none ∧
      entry.message.conn = conn := by
  cases effect with
  | sendReply text =>
      simp only [enqueued] at enqueues
      split at enqueues
      · rcases Option.map_eq_some_iff.mp enqueues with ⟨address, -, rfl⟩
        exact ⟨rfl, rfl, rfl⟩
      · cases enqueues
  | _ =>
      cases enqueues

/-- A command enqueues at most what it replies. -/
theorem length_enqueued_le
    (cause : Nat) (conn : Conn) (answers : RxAnswers)
    (effects : List CommandEffect) :
    (effects.filterMap (enqueued cause conn answers)).length ≤
      (repliesOf effects).length := by
  induction effects with
  | nil =>
      exact Nat.le_refl 0
  | cons effect rest induction =>
      cases effect with
      | sendReply text =>
          have one :
              (repliesOf (.sendReply text :: rest)).length =
                (repliesOf rest).length + 1 := rfl
          rw [one]
          cases enqueues :
              (CommandEffect.sendReply text).enqueued cause conn answers with
          | none =>
              rw [List.filterMap_cons_none enqueues]
              omega
          | some entry =>
              rw [List.filterMap_cons_some enqueues, List.length_cons]
              omega
      | _ =>
          exact induction

end CommandEffect

/-! ## The device -/

/-- What is kept true of the camera and the log. -/
structure RepliesKept (camera : Camera) (log : DeviceLog) : Prop where
  sound : log.Sound (camera.deliveries.map Delivery.buffer)
  once : camera.Once
  aims : camera.uart.etsIntr = true → camera.Aims log.AskedBy
  created :
    ∀ index number, log.creator index = some number →
      camera.uart.ForPicture index

/-- The camera goes on, and its completed pictures are enqueued. -/
theorem RepliesKept.of_pictures
    {before after : Camera} {log : DeviceLog}
    (sound : log.Sound (before.deliveries.map Delivery.buffer))
    (aimed : after.Aimed log.AskedBy before.deliveries)
    (once : after.Once)
    (created :
      ∀ index number, log.creator index = some number →
        after.uart.ForPicture index) :
    RepliesKept after
      (log.enqueue (log.pictures (completedPictures before after))) := by
  rcases completedPictures_eq aimed.delivers with ⟨deliveries, asked⟩
  have nodup := once.nodup
  rw [deliveries, List.map_append] at nodup
  refine ⟨?_, once, aimed.aims, created⟩
  rw [deliveries, List.map_append]
  exact sound.pictures asked nodup

/-- Closed connections and calls are kept apart. -/
theorem RepliesKept.withCalls
    {camera : Camera} {log : DeviceLog}
    (kept : RepliesKept camera log) (closed lateCalls : List Conn) :
    RepliesKept camera { log with closed, lateCalls } where
  sound := kept.sound.withCalls closed lateCalls
  once := kept.once
  aims := kept.aims
  created := kept.created

/-- The camera goes on without a command. -/
theorem RepliesKept.shoot
    {device : Device} {after : Camera}
    (kept : RepliesKept device.camera device.log)
    (aimed :
      device.camera.Aimed device.log.AskedBy device.camera.deliveries →
        after.Aimed device.log.AskedBy device.camera.deliveries)
    (once : device.camera.Once → after.Once)
    (same : Uart.SamePictures device.camera.uart after.uart) :
    RepliesKept after (device.shoot after).log :=
  .of_pictures kept.sound
    (aimed ⟨kept.aims, .start device.log.AskedBy device.camera⟩)
    (once kept.once)
    fun index number created =>
      (same.pictures index).mpr (kept.created index number created)

/-! ### A command is carried out -/

section

variable
    {camera after : Camera} {log : DeviceLog} {received : ReceivedCommand}
    {flash : Flash} {input : CommandInput} {replies : List (List UInt8)}
    (kept : RepliesKept camera log)
    (ran :
      CommandCamera flash camera received.conn input received.command after
        replies)

include kept ran

/-- A buffer is new exactly when this command has created it. -/
theorem RepliesKept.created_command
    {index number : Nat}
    (created :
      (log.receive received camera after).creator index = some number) :
    after.uart.ForPicture index := by
  rcases DeviceLog.creator_receive_cases created with
    ⟨-, picture, -⟩ | old
  · exact picture
  · have before := kept.created index number old
    rcases ran.pictures with same | ⟨-, params, other, -, -, both⟩
    · exact (same.pictures index).mpr before
    · exact (both index).mpr (Or.inl before)

/-- A command which replies has created no buffer. -/
theorem RepliesKept.not_created
    (replied : replies ≠ []) (index : Nat) :
    (log.receive received camera after).creator index ≠
      some log.commands.length := by
  rcases ran.pictures with same | ⟨silent, -⟩
  · intro created
    rcases DeviceLog.creator_receive_cases created with
      ⟨new, picture, -⟩ | old
    · have before := (same.pictures index).mp picture
      exact Nat.not_le.mpr before.1 new
    · exact Nat.lt_irrefl _ (kept.sound.numbered index _ old)
  · exact absurd silent replied

theorem RepliesKept.sound_command :
    (log.receive received camera after).Sound
      (camera.deliveries.map Delivery.buffer) := by
  refine kept.sound.receive kept.created ?_
  intro left other newLeft pictureLeft newOther pictureOther
  rcases ran.pictures with same | ⟨-, params, index, -, -, both⟩
  · have before := (same.pictures left).mp pictureLeft
    exact absurd newLeft (Nat.not_le.mpr before.1)
  · have only {place : Nat}
        (new : camera.uart.created ≤ place)
        (picture : after.uart.ForPicture place) :
        place = index := by
      rcases (both place).mp picture with before | same
      · exact absurd new (Nat.not_le.mpr before.1)
      · exact same
    exact (only newLeft pictureLeft).trans (only newOther pictureOther).symm

/-- The pictures of the command, and of those before it, still go to who asked. -/
theorem RepliesKept.aimed_command :
    after.Aimed (log.receive received camera after).AskedBy
      camera.deliveries := by
  have start :
      camera.Aimed (log.receive received camera after).AskedBy
        camera.deliveries := by
    refine ⟨?_, .start _ camera⟩
    intro on index installed picture
    exact
      (kept.aims on index installed picture).receive
        (kept.once.installed index installed)
  apply ran.aimed start
  intro index before picture
  rcases ran.pictures with same | ⟨-, params, other, command, new, both⟩
  · exact absurd ((same.pictures index).mp picture) before
  · rcases (both index).mp picture with old | rfl
    · exact absurd old before
    · have last :
          (log.receive received camera after).commands[
            log.commands.length]? = some received :=
        List.getElem?_concat_length
      have named :
          received =
            { conn := received.conn
              command := .device (ascii "Camera Get Picture") params } := by
        rw [← command]
      exact
        ⟨log.commands.length, params,
          DeviceLog.creator_receive_new new picture,
          last.trans (congrArg some named)⟩

/-- The command and its pictures are noted. -/
theorem RepliesKept.command
    (inTime : GetsInTime flash camera input received) :
    RepliesKept after
      ((log.receive received camera after).enqueue
        ((log.receive received camera after).pictures
          (completedPictures camera after))) :=
  .of_pictures (kept.sound_command ran) (kept.aimed_command ran)
    (ran.once kept.once inTime)
    fun _ _ created => kept.created_command ran created

/-- No message so far was caused by a command which replies. -/
theorem RepliesKept.unanswered
    (replied : replies ≠ [])
    {entry : Enqueued}
    (member :
      entry ∈
        ((log.receive received camera after).enqueue
          ((log.receive received camera after).pictures
            (completedPictures camera after))).enqueued) :
    entry.cause ≠ some log.commands.length := by
  rcases List.mem_append.mp member with old | picture
  · intro causedBy
    exact
      Nat.lt_irrefl _
        (kept.sound.right.answered.cause_lt old causedBy)
  · rcases List.mem_map.mp picture with ⟨shot, -, rfl⟩
    exact kept.not_created ran replied shot.buffer

end

/-- A command is carried out, with its pictures and its reply. -/
theorem RepliesKept.execute
    {device : Device} {received : ReceivedCommand} {answers : RxAnswers}
    {run : CommandRun}
    (kept : RepliesKept device.camera device.log)
    (inTime :
      GetsInTime device.flash device.camera answers.input received)
    (ran :
      runCommand device.flash device.camera received.conn received.command
        answers.input = some run) :
    RepliesKept run.camera (device.execute received answers run).log := by
  have camera := commandCamera_of_run ran
  have noted := kept.command camera inTime
  have short :=
    CommandEffect.length_enqueued_le device.log.commands.length received.conn
      answers run.effects
  have replied
      (enqueues :
        run.effects.filterMap
            (CommandEffect.enqueued device.log.commands.length received.conn
              answers) ≠ []) :
      repliesOf run.effects ≠ [] := by
    intro silent
    rw [silent, List.length_nil, Nat.le_zero, List.length_eq_zero_iff]
      at short
    exact enqueues short
  have replies :=
    noted.sound.reply
      (show
        (device.log.receive received device.camera
          run.camera).commands[device.log.commands.length]? = some received
        from List.getElem?_concat_length)
      (short.trans (length_repliesOf_runCommand ran))
      (fun entry member => by
        rcases List.mem_filterMap.mp member with ⟨effect, -, enqueues⟩
        exact CommandEffect.enqueued_eq_some enqueues)
      (fun enqueues _ member =>
        kept.unanswered camera (replied enqueues) member)
      (fun enqueues index =>
        kept.not_created camera (replied enqueues) index)
  exact
    RepliesKept.withCalls
      ⟨replies, noted.once, noted.aims, noted.created⟩ _ _

/-! ### Runs -/

/-- Each Get Picture of the step requests its content in time. -/
def RequestsInTime (device : Device) : DeviceStep → Prop
  | .rx answers =>
      ∀ received ∈ device.received,
        GetsInTime device.flash device.camera answers.input received
  | _ => True

instance (device : Device) (step : DeviceStep) :
    Decidable (RequestsInTime device step) :=
  match step with
  | .rx answers =>
      inferInstanceAs
        (Decidable
          (∀ received ∈ device.received,
            GetsInTime device.flash device.camera answers.input received))
  | .recvCb .. | .sentCb .. | .tx .. | .txDone .. | .spurious ..
  | .disconnectCb .. | .serverClose | .serverInit .. | .initDone ..
  | .byte .. | .unlockTimer | .pwm .. =>
      inferInstanceAs (Decidable True)

theorem repliesKept_next
    {device after : Device} {step : DeviceStep}
    (kept : RepliesKept device.camera device.log)
    (inTime : RequestsInTime device step)
    (taken : device.next step = some after) :
    RepliesKept after.camera after.log := by
  cases Device.taken_of_next taken with
  | @rxRun _ answers _ _ _ _ _ dequeued task parsed ran served =>
      have received := Device.received_of_unshift dequeued parsed
      rw [served.after_eq]
      have executed :=
        @RepliesKept.execute { device with world := _ } _ answers _ kept
          (inTime _ received) ran
      exact executed.withCalls _ _
  | initDone reset inits served =>
      have reset := Camera.resetIn_cases reset
      rw [served.after_eq]
      exact
        (kept.shoot reset.aimed reset.once
          reset.samePictures).withCalls _ _
  | byte served =>
      rw [served.after_eq]
      exact
        (kept.shoot (fun aimed => aimed.receive _)
          (fun once => once.receive _)
          (device.camera.samePictures_receive _)).withCalls _ _
  | unlockTimer armed =>
      have aimed :=
        (Camera.Aimed.mk kept.aims
          (.start device.log.AskedBy device.camera)).withFields
            device.camera.previousRxbuffer device.camera.busy false
            device.camera.collided
      have once :=
        kept.once.withFields device.camera.previousRxbuffer
          device.camera.busy false device.camera.collided
      refine ⟨kept.sound, once.cancelled, aimed.cancelled.aims, ?_⟩
      intro index number created
      exact
        ((Uart.samePictures_destroyRxBuffer
          device.camera.uart.disableInterrupts _).pictures index).mpr
            (kept.created index number created)
  | pwm started =>
      exact kept
  | recvCb _ served | sentCb served | rxEmpty served
  | rxIgnored _ served _ | tx served | txDone served | spurious served
  | disconnectCb served | serverClose served | serverInit served =>
      rw [served.after_eq]
      exact kept.withCalls _ _

/--
Along every run in which no Get Picture finds its picture complete before it
has turned the interrupt on for it, replies and pictures go to the clients
that asked, at most once.
-/
theorem replies_right_if_inTime
    (flash : Flash) (steps : List DeviceStep)
    (inTime : (deviceSystem flash).Each RequestsInTime (.boot flash) steps) :
    (deviceSystem flash).Always (fun device => device.log.RepliesRight)
      (.boot flash) steps := by
  have start :
      RepliesKept (Device.boot flash).camera (Device.boot flash).log :=
    ⟨.empty, .boot, nofun, nofun⟩
  have implied (device : Device)
      (kept : RepliesKept device.camera device.log) :
      device.log.RepliesRight :=
    kept.sound.right
  apply inTime.always implied _ start
  intro device step after kept met taken
  exact repliesKept_next kept met taken

/-! ## A buffer which is delivered again -/

/-- No picture is enqueued twice. -/
theorem DeviceLog.RepliesRight.nodup_pictures
    {log : DeviceLog}
    (right : log.RepliesRight) :
    (log.enqueued.filterMap Enqueued.picture).Nodup := by
  have once := right.answered.once
  rw [List.Nodup, List.pairwise_map] at once
  rw [List.Nodup, List.pairwise_filterMap]
  apply once.imp_of_mem
  intro left right' leftMember rightMember differ index leftPicture
    other rightPicture same
  have leftCause := (right.asked left leftMember index leftPicture).1
  have rightCause := (right.asked right' rightMember other rightPicture).1
  rw [same] at leftCause
  exact differ (leftCause.trans rightCause.symm)

/-- The pictures in the log are those which the camera has delivered and the queue has taken. -/
def Noted (device : Device) : Prop :=
  device.log.enqueued.filterMap Enqueued.picture =
    (device.camera.deliveries.filter Delivery.queued).map Delivery.buffer

theorem filterMap_pictures (log : DeviceLog) (completed : List Delivery) :
    (log.pictures completed).filterMap Enqueued.picture =
      (completed.filter Delivery.queued).map Delivery.buffer := by
  rw [DeviceLog.pictures, List.filterMap_map]
  exact congrFun List.filterMap_eq_map _

/-- Sends are always enabled. -/
theorem run_pictureSteps
    (world : World) (completed : List Delivery) (posted : List Bool) :
    ∃ after,
      serverSystem.run world (pictureSteps completed posted) = some after := by
  induction completed generalizing world posted with
  | nil =>
      exact ⟨world, rfl⟩
  | cons picture rest induction =>
      exact induction _ posted.tail

/-- Every byte can arrive, and the pictures remain noted. -/
theorem run_bytes
    (flash : Flash) (device : Device) (arrivals : List Arrival) :
    ∃ after,
      (deviceSystem flash).run device
          (arrivals.map fun arrival => .byte arrival true) = some after ∧
        after.camera = device.camera.receiveAll arrivals ∧
          (Noted device → Noted after) := by
  induction arrivals generalizing device with
  | nil =>
      exact ⟨device, rfl, rfl, id⟩
  | cons arrival rest induction =>
      have delivers :=
        (Camera.Delivers.start (fun _ _ => True) device.camera).receive
          (fun _ _ _ _ => trivial) arrival
      rcases run_pictureSteps device.world
          (completedPictures device.camera (device.camera.receive arrival))
          [true] with
        ⟨world, ran⟩
      have served :
          ∃ middle,
            device.next (.byte arrival true) = some middle ∧
              middle.camera = device.camera.receive arrival ∧
                middle.log.enqueued =
                  device.log.enqueued ++
                    device.log.pictures
                      (completedPictures device.camera
                        (device.camera.receive arrival)) :=
        ⟨_, Option.map_eq_some_iff.mpr ⟨world, ran, rfl⟩, rfl, rfl⟩
      rcases served with ⟨middle, taken, camera, enqueued⟩
      rcases induction middle with ⟨after, ranRest, cameraAfter, noted⟩
      refine ⟨after, ?_, ?_, ?_⟩
      · rw [List.map_cons, System.run]
        exact Option.bind_eq_some_iff.mpr ⟨middle, taken, ranRest⟩
      · rw [cameraAfter, camera]
        rfl
      · intro here
        apply noted
        have equal := (completedPictures_eq delivers).1
        rw [Noted, enqueued, camera, equal, List.filterMap_append,
          List.filter_append, List.map_append, filterMap_pictures, here]

/-- The UART receives into a buffer for a picture which was delivered before. -/
structure ReceivesAgain (device : Device) (index : Nat) : Prop where
  listens : device.camera.uart.listening = true
  picture : device.camera.uart.current.recvCb = .cameraPictureRecvDone
  installed : device.camera.uart.buffer = some index
  noted : Noted device
  delivered : index ∈ device.log.enqueued.filterMap Enqueued.picture

instance (device : Device) (index : Nat) :
    Decidable (ReceivesAgain device index) := by
  apply
    decidable_of_iff
      (device.camera.uart.listening = true ∧
        device.camera.uart.current.recvCb = .cameraPictureRecvDone ∧
          device.camera.uart.buffer = some index ∧
            device.log.enqueued.filterMap Enqueued.picture =
                (device.camera.deliveries.filter
                  Delivery.queued).map Delivery.buffer ∧
              index ∈ device.log.enqueued.filterMap Enqueued.picture)
  constructor
  · rintro ⟨listens, picture, installed, noted, delivered⟩
    exact ⟨listens, picture, installed, noted, delivered⟩
  · rintro ⟨listens, picture, installed, noted, delivered⟩
    exact ⟨listens, picture, installed, noted, delivered⟩

/-- As many bytes as are missing then enqueue the picture again. -/
theorem ReceivesAgain.not_right
    {flash : Flash} {device : Device} {index : Nat}
    (again : ReceivesAgain device index) :
    ¬(deviceSystem flash).Always (fun device => device.log.RepliesRight)
        device
        ((List.replicate device.camera.uart.remaining
          (Arrival.mk 0 true)).map fun arrival => .byte arrival true) := by
  intro always
  rcases run_bytes flash device
      (List.replicate device.camera.uart.remaining (Arrival.mk 0 true)) with
    ⟨after, ran, camera, noted⟩
  have nodup := (always.last ran).nodup_pictures
  have enough :
      device.camera.uart.remaining ≤
        (List.replicate device.camera.uart.remaining
          (Arrival.mk 0 true)).length :=
    List.length_replicate.ge
  have completes :=
    Camera.receiveAll_completes again.listens again.picture again.installed
      enough
  rcases completes.completed with ⟨last, place, completed⟩
  have queued : last.queued = true := by
    have member := List.mem_of_getElem? place
    rw [List.eq_of_mem_replicate member]
  have deliveries :
      (after.camera.deliveries.filter Delivery.queued).map Delivery.buffer =
        (device.camera.deliveries.filter Delivery.queued).map
            Delivery.buffer ++
          [index] := by
    rw [camera, completed]
    simp [Camera.pictureRecvDone, queued]
  rw [noted again.noted, deliveries, ← again.noted, List.nodup_append]
    at nodup
  exact nodup.2.2 index again.delivered index List.mem_cons_self rfl

/-! ### A re-initialisation while a picture is received -/

/-- The configuration of a camera with a baud rate of 115200. -/
def fastCamera : DeviceConfig where
  name := .zeros 32
  room := .zeros 32
  type := DeviceType.camera.code
  dataLen := cameraDataSize
  data := some ⟨1, wordBytes 115200 ++ [5, 4, 0, 0]⟩

/-- A chip on which the camera was saved. -/
def fastCameraFlash : Flash :=
  (saveConfig (fun _ => 0xFF) silentCamera.save fastCamera).flash

/-- `init_done` of an access point, and the answer of its camera to the reset. -/
def initDoneAnswers (reset : Bool) (exchange : ExchangeInput) :
    InitDoneAnswers where
  init := { silentCamera.init with reset }
  reset := exchange
  opmode := .softapMode
  ipInfo := true
  listening := true
  keepsEvents := true
  keepsCallbacks := true

/-- A Get Picture arrives, and it is carried out. -/
def getPictureArrives (conn : Conn) (input : Camera.RequestInput) :
    List DeviceStep :=
  [.recvCb conn (.ofText "Camera Get Picture" (by decide)) (some 1) true true,
    .rx
      { RxAnswers.served with
        input := { RxAnswers.served.input with camera := input } }]

/-- The camera is initialised, and a picture is requested and received. -/
def pictureArrives : List DeviceStep :=
  .initDone (initDoneAnswers true (answered [0x76, 0x00, 0x26, 0x00])) ::
    getPictureArrives 1 (pictureInput 0 [] []) ++
      List.replicate 10 (.byte ⟨0, true⟩ true)

theorem replies_right_if_inTime_picture :
    (deviceSystem fastCameraFlash).Always
      (fun device => device.log.RepliesRight) (.boot fastCameraFlash)
      pictureArrives :=
  replies_right_if_inTime fastCameraFlash _ (by decide +kernel)

/--
Get Picture, whose size arrives before the interrupt is turned on for it, and
whose picture does as well.
-/
def earlyInput : Camera.RequestInput :=
  { pictureInput 0 [] [] with
    exchange :=
      { answered [] with
        installed := [0x76, 0x00, 0x34, 0x00, 0x04, 0x00, 0x00, 0x00, 0x00] }
    content :=
      { (pictureInput 0 [] []).content with
        installed := List.replicate 10 ⟨0, true⟩ } }

/--
`DeviceInit` frees the lock while a picture is received, and the response
buffer of `Camera_reset` is refused.  Then another client gets a picture.
-/
def interruptedPicture : List DeviceStep :=
  .initDone (initDoneAnswers true (answered [0x76, 0x00, 0x26, 0x00])) ::
    getPictureArrives 1 (pictureInput 20 [] []) ++
      .initDone
          (initDoneAnswers false
            { answered [] with
              create := { plentiful with buffer := false } }) ::
        getPictureArrives 2 earlyInput

/-- The second client gets its picture twice. -/
theorem picture_sent_twice :
    ¬∀ flash steps,
      (deviceSystem flash).Always (fun device => device.log.RepliesRight)
        (.boot flash) steps := by
  intro always
  have ran :
      ((deviceSystem fastCameraFlash).run (.boot fastCameraFlash)
          interruptedPicture).map
          (fun device => decide (ReceivesAgain device 4)) =
        some true := by
    decide +kernel
  rcases Option.map_eq_some_iff.mp ran with ⟨device, ranTo, observed⟩
  have again := of_decide_eq_true observed
  apply again.not_right
  exact (always fastCameraFlash _).after ranTo

end EspFirmware
