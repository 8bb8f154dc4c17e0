import EspFirmware.PictureTransfer

/-!
# Who a picture is sent to, and how often

The requester of a picture is kept in one variable, which the next request
overwrites before it knows whether it gets a buffer.  By then no buffer is
installed, so the variable names the requester of the buffer which is
received, whatever runs in between.  A buffer is delivered again only if its
picture was complete before the interrupt was turned on for it.
-/

namespace EspFirmware

/-! ## Buffers for a picture -/

namespace Uart

/-- The buffer was created with the callback of a picture. -/
def ForPicture (uart : Uart) (index : Nat) : Prop :=
  index < uart.created ∧
    (uart.cells index).recvCb = .cameraPictureRecvDone

/-- The same buffers are for a picture, whatever other buffers were created. -/
def SamePictures (before after : Uart) : Prop :=
  before.created ≤ after.created ∧
    ∀ index, after.ForPicture index ↔ before.ForPicture index

theorem SamePictures.created
    {before after : Uart}
    (same : SamePictures before after) :
    before.created ≤ after.created :=
  same.1

theorem SamePictures.pictures
    {before after : Uart}
    (same : SamePictures before after) (index : Nat) :
    after.ForPicture index ↔ before.ForPicture index :=
  same.2 index

theorem SamePictures.refl (uart : Uart) :
    SamePictures uart uart :=
  ⟨Nat.le_refl _, fun _ => Iff.rfl⟩

theorem SamePictures.trans
    {first second third : Uart}
    (left : SamePictures first second) (right : SamePictures second third) :
    SamePictures first third :=
  ⟨Nat.le_trans left.created right.created,
    fun index => (right.pictures index).trans (left.pictures index)⟩

/-- The places and the callbacks are what counts. -/
theorem SamePictures.of_eq
    {before after : Uart}
    (created : after.created = before.created)
    (recvCb :
      ∀ index, (after.cells index).recvCb = (before.cells index).recvCb) :
    SamePictures before after := by
  refine ⟨created.ge, ?_⟩
  intro index
  rw [ForPicture, ForPicture, created, recvCb]

theorem Received.samePictures
    {before after : Uart}
    (received : Received before after) :
    SamePictures before after :=
  .of_eq received.created received.recvCb

@[simp]
theorem recvCb_clear (buffer : RxBuffer) :
    buffer.clear.recvCb = buffer.recvCb := by
  rfl

theorem recvCb_flushReadBuffer (uart : Uart) (index : Nat) :
    (uart.flushReadBuffer.cells index).recvCb =
      (uart.cells index).recvCb := by
  rw [flushReadBuffer]
  cases uart.buffer with
  | none =>
      rfl
  | some current =>
      simp only
      split
      · exact updateCell_field recvCb_clear index
      · exact updateCell_field recvCb_clear index

theorem created_flushReadBuffer (uart : Uart) :
    uart.flushReadBuffer.created = uart.created := by
  rw [flushReadBuffer]
  cases uart.buffer with
  | none =>
      rfl
  | some current =>
      simp only
      split <;> rfl

theorem recvCb_release (uart : Uart) (index other : Nat) :
    ((uart.updateCell index fun buffer =>
        buffer.releaseBuf.releaseStruct).cells other).recvCb =
      (uart.cells other).recvCb := by
  apply updateCell_field
  intro buffer
  rfl

theorem samePictures_release (uart : Uart) (index : Nat) :
    SamePictures uart
      (uart.updateCell index fun buffer => buffer.releaseBuf.releaseStruct) :=
  .of_eq rfl (uart.recvCb_release index)

theorem buffer_destroyRxBuffer (uart : Uart) (bufferToKill : Option Nat) :
    (uart.destroyRxBuffer bufferToKill).buffer = none := by
  cases bufferToKill <;> rfl

theorem samePictures_destroyRxBuffer
    (uart : Uart) (bufferToKill : Option Nat) :
    SamePictures uart (uart.destroyRxBuffer bufferToKill) := by
  have flushed : SamePictures uart uart.flushReadBuffer :=
    .of_eq uart.created_flushReadBuffer uart.recvCb_flushReadBuffer
  cases bufferToKill with
  | none =>
      exact flushed
  | some index =>
      exact flushed.trans (samePictures_release uart.flushReadBuffer index)

/-- A buffer with another callback is not for a picture. -/
theorem forPicture_withBuffer
    (uart : Uart) (size : UInt16) (recvCb : RecvCb) (index : Nat) :
    (uart.withBuffer size recvCb).ForPicture index ↔
      uart.ForPicture index ∨
        index = uart.created ∧ recvCb = .cameraPictureRecvDone := by
  have created :
      (uart.withBuffer size recvCb).created = uart.created + 1 := rfl
  by_cases last : index = uart.created
  · rw [last, ForPicture, ForPicture, created, withBuffer]
    simp [updateCell, RxBuffer.fresh]
  · have same :
        (uart.withBuffer size recvCb).cells index = uart.cells index := by
      simp [withBuffer, updateCell, last]
    rw [ForPicture, ForPicture, created, same]
    constructor
    · rintro ⟨old, picture⟩
      exact Or.inl ⟨by omega, picture⟩
    · rintro (⟨old, picture⟩ | ⟨new, _⟩)
      · exact ⟨by omega, picture⟩
      · exact absurd new last

end Uart

/-! ### Exchanges -/

theorem samePictures_requested
    (uart : Uart) (index : Nat) (exchange : Exchange)
    (input : ExchangeInput) :
    Uart.SamePictures uart (requested uart index exchange input) := by
  have installed :=
    (Uart.received_receiveAll (uart.setRxBuffer index)
      input.installed).samePictures
  have early :=
    (Uart.received_receiveAll
      ((uart.setRxBuffer index).receiveAll input.installed).enableInterrupts
      input.early).samePictures
  exact installed.trans early

theorem samePictures_runExchange
    {uart : Uart} {exchange : Exchange} {input : ExchangeInput}
    {outcome : ExchangeOutcome}
    (returned : runExchange uart exchange input = some outcome) :
    Uart.SamePictures uart outcome.uart := by
  cases granted : input.create.grants exchange.responseSize with
  | false =>
      rw [runExchange_of_not_granted granted] at returned
      cases returned
      exact .refl uart
  | true =>
      rw [runExchange_of_granted granted, Option.map_eq_some_iff] at returned
      rcases returned with ⟨waited, ran, rfl⟩
      have ended := waitResponse_eq_some ran
      have created : Uart.SamePictures uart (allocated uart exchange) := by
        refine ⟨Nat.le_succ _, ?_⟩
        intro index
        rw [allocated, Uart.forPicture_withBuffer]
        simp
      have tested :=
        (Uart.received_receiveAll
          (requested (allocated uart exchange) uart.created exchange input)
          ((input.polls.take (waited.vain + 1)).flatMap
            Poll.bytes)).samePictures
      have same : Uart.SamePictures uart waited.uart := by
        rw [ended.uart, testedAt]
        exact
          (created.trans (samePictures_requested _ _ exchange input)).trans
            tested
      have late :=
        same.trans
          (Uart.received_receiveAll waited.uart input.late).samePictures
      rw [concludeExchange]
      split
      · exact late.trans (Uart.samePictures_destroyRxBuffer _ _)
      · exact
          Uart.SamePictures.trans late
            (Uart.samePictures_destroyRxBuffer
              (waited.uart.receiveAll input.late).disableInterrupts _)

theorem SyncCommand.samePictures
    {command : SyncCommand} {uart : Uart} {input : ExchangeInput}
    {outcome : ExchangeOutcome}
    (returned : command.call uart input = some outcome) :
    Uart.SamePictures uart outcome.uart := by
  rw [call_eq] at returned
  split at returned
  · exact samePictures_runExchange returned
  · cases returned
    exact .refl uart

namespace Camera

/-! ### Commands -/

theorem samePictures_receive (camera : Camera) (arrival : Arrival) :
    Uart.SamePictures camera.uart (camera.receive arrival).uart := by
  have received :=
    (Uart.received_receive camera.uart arrival.byte).samePictures
  have step := receive_cases camera arrival
  generalize camera.receive arrival = after at step
  cases step with
  | silent =>
      exact received
  | completed listens picture buffer quiet =>
      exact received.trans (Uart.samePictures_release _ _)

theorem samePictures_receiveAll (camera : Camera) (arrivals : List Arrival) :
    Uart.SamePictures camera.uart (camera.receiveAll arrivals).uart :=
  @receiveAll_keeps (fun after => Uart.SamePictures camera.uart after.uart)
    (fun before arrival same =>
      same.trans (before.samePictures_receive arrival))
    camera (.refl camera.uart) arrivals

theorem samePictures_requestContent
    (camera : Camera) (index : Nat) (command : List UInt8)
    (input : ContentInput) :
    Uart.SamePictures camera.uart
      (camera.requestContent index command input).uart := by
  have installed :=
    ({ camera.install with
      uart := camera.uart.setRxBuffer index } :
      Camera).samePictures_receiveAll input.installed
  have early :=
    (({ camera.install with
      uart := camera.uart.setRxBuffer index } : Camera).receiveAll
        input.installed).enabled.samePictures_receiveAll input.early
  have sent :=
    (((({ camera.install with
      uart := camera.uart.setRxBuffer index } : Camera).receiveAll
        input.installed).enabled.receiveAll input.early).withPin
          true).samePictures_receiveAll input.sent
  exact (Uart.SamePictures.trans installed early).trans sent

theorem samePictures_awaitContent
    (camera : Camera) (index : Nat) (input : ContentInput) :
    Uart.SamePictures camera.uart (camera.awaitContent index input).uart := by
  rw [awaitContent_eq]
  exact
    ({ camera with
      previousRxbuffer := some index } : Camera).samePictures_receiveAll
        (input.assigned ++ input.disarmed)

theorem samePictures_freed (camera : Camera) :
    Uart.SamePictures camera.uart camera.freed.uart := by
  rw [freed]
  split
  · exact .refl camera.uart
  · exact Uart.samePictures_destroyRxBuffer camera.uart _

theorem buffer_freed
    {camera : Camera}
    (idle : camera.uart.buffer = none) :
    camera.freed.uart.buffer = none := by
  rw [freed]
  split
  · exact idle
  · exact Uart.buffer_destroyRxBuffer camera.uart _

theorem deliveries_freed (camera : Camera) :
    camera.freed.deliveries = camera.deliveries := by
  rw [freed]
  split <;> rfl

theorem samePictures_exchanged
    {camera : Camera} {command : SyncCommand} {input : ExchangeInput}
    {outcome : ExchangeOutcome}
    (returned : command.call camera.uart input = some outcome) :
    Uart.SamePictures camera.uart
      (camera.exchanged command input outcome).uart :=
  SyncCommand.samePictures returned

theorem samePictures_entered (camera : Camera) (input : RequestInput) :
    Uart.SamePictures camera.uart (camera.entered input).uart :=
  ({ camera with busy := true } : Camera).samePictures_receiveAll
    input.entered

theorem samePictures_sizeRead
    {camera : Camera} {input : RequestInput} {outcome : ExchangeOutcome}
    (returned :
      SyncCommand.readSize.call (camera.entered input).uart input.exchange =
        some outcome) :
    Uart.SamePictures camera.uart
      (camera.sizeRead input outcome).freed.uart :=
  (((camera.samePictures_entered input).trans
    (samePictures_exchanged returned)).trans
      (samePictures_receiveAll _ input.between)).trans
        (camera.sizeRead input outcome).samePictures_freed

/-- After a size was read no buffer is installed. -/
theorem buffer_sizeRead
    {camera : Camera} {input : RequestInput} {outcome : ExchangeOutcome}
    (returned :
      SyncCommand.readSize.call (camera.entered input).uart input.exchange =
        some outcome)
    (success : outcome.result = 0) :
    (camera.sizeRead input outcome).uart.buffer = none := by
  have idle : outcome.uart.buffer = none := by
    cases SyncCommand.effect returned with
    | unchanged refused failed same =>
        exact absurd success failed
    | exchanged granted concluded disabled =>
        exact concluded.destroyed.buffer
  have null :
      ((camera.entered input).exchanged .readSize input.exchange
        outcome).uart.current.recvCb = .null := by
    simp only [exchanged, Uart.current, idle]
    rfl
  have received :=
    Uart.received_receiveAll outcome.uart (input.between.map Arrival.byte)
  rw [sizeRead, receiveAll_null null]
  exact received.buffer.trans idle

/-- `Camera_read_content` was granted a buffer, or it returned -1. -/
inductive ContentRead (camera : Camera) (conn : Conn) (input : RequestInput)
    (outcome : ExchangeOutcome) : Camera × Int → Prop where
  | refused
      (refused :
        input.content.create.grants (contentSize outcome.pictureSize) =
          false) :
      ContentRead camera conn input outcome
        ({ (camera.sizeRead input outcome).freed with replyConn := conn }, -1)
  | granted
      (granted :
        input.content.create.grants (contentSize outcome.pictureSize) =
          true) :
      ContentRead camera conn input outcome
        (((camera.pictureOpened conn input outcome).requestContent
            (camera.pictureIndex input outcome)
            (readContentCommand 0x0000 outcome.pictureSize 0x000a)
            input.content).awaitContent (camera.pictureIndex input outcome)
              input.content,
          0)

theorem contentRead_cases
    (camera : Camera) (conn : Conn) (input : RequestInput)
    (outcome : ExchangeOutcome) :
    ContentRead camera conn input outcome
      (camera.contentRead conn input outcome) := by
  rw [contentRead, readContent_eq]
  cases granted :
      input.content.create.grants (contentSize outcome.pictureSize) with
  | true =>
      exact .granted granted
  | false =>
      exact .refused granted

section

variable
    {camera : Camera} {conn : Conn} {input : RequestInput}
    {outcome : ExchangeOutcome}

/-- A failure has overwritten the requester. -/
theorem contentRead_failed
    (failed : (camera.contentRead conn input outcome).2 ≠ 0) :
    (camera.contentRead conn input outcome).1 =
      { (camera.sizeRead input outcome).freed with replyConn := conn } := by
  have read := camera.contentRead_cases conn input outcome
  generalize camera.contentRead conn input outcome = pair at read failed ⊢
  cases read with
  | refused refused =>
      rfl
  | granted granted =>
      exact absurd rfl failed

theorem contentRead_started
    (accepted : (camera.contentRead conn input outcome).2 = 0) :
    input.content.create.grants (contentSize outcome.pictureSize) = true ∧
      (camera.contentRead conn input outcome).1 =
        ((camera.pictureOpened conn input outcome).requestContent
            (camera.pictureIndex input outcome)
            (readContentCommand 0x0000 outcome.pictureSize 0x000a)
            input.content).awaitContent (camera.pictureIndex input outcome)
              input.content := by
  have read := camera.contentRead_cases conn input outcome
  generalize camera.contentRead conn input outcome = pair at read accepted ⊢
  cases read with
  | refused refused =>
      cases accepted
  | granted granted =>
      exact ⟨granted, rfl⟩

end

theorem forPicture_pictureOpened
    (camera : Camera) (conn : Conn) (input : RequestInput)
    (outcome : ExchangeOutcome) (index : Nat) :
    (camera.pictureOpened conn input outcome).uart.ForPicture index ↔
      (camera.sizeRead input outcome).freed.uart.ForPicture index ∨
        index = camera.pictureIndex input outcome := by
  have opened :=
    (camera.sizeRead input outcome).freed.uart.forPicture_withBuffer
      (contentSize outcome.pictureSize) .cameraPictureRecvDone index
  rw [eq_self_iff_true, and_true] at opened
  exact opened

theorem samePictures_content
    (camera : Camera) (conn : Conn) (input : RequestInput)
    (outcome : ExchangeOutcome) :
    Uart.SamePictures (camera.pictureOpened conn input outcome).uart
      (((camera.pictureOpened conn input outcome).requestContent
          (camera.pictureIndex input outcome)
          (readContentCommand 0x0000 outcome.pictureSize 0x000a)
          input.content).awaitContent (camera.pictureIndex input outcome)
            input.content).uart :=
  (samePictures_requestContent _ _ _ input.content).trans
    (samePictures_awaitContent _ _ input.content)

/-- Only a request which has started creates a buffer for a picture, and one only. -/
inductive PicturesAfter (camera after : Camera) :
    Request → Option (List UInt8) → Prop where
  | same {request : Request} {reply : Option (List UInt8)}
      (same : Uart.SamePictures camera.uart after.uart) :
      PicturesAfter camera after request reply
  | created {index : Nat}
      (free : camera.busy = false)
      (new : camera.uart.created ≤ index)
      (created :
        ∀ other,
          after.uart.ForPicture other ↔
            camera.uart.ForPicture other ∨ other = index) :
      PicturesAfter camera after .getPicture none

theorem Requested.pictures
    {camera after : Camera} {conn : Conn} {input : RequestInput}
    {request : Request} {reply : Option (List UInt8)}
    (requested : Requested camera conn input request after reply) :
    PicturesAfter camera after request reply := by
  cases requested with
  | busy | other =>
      exact .same (.refl camera.uart)
  | simple free returned noPicture =>
      exact
        .same
          ((camera.samePictures_entered input).trans
            (samePictures_exchanged returned))
  | sizeFailed free returned failed =>
      exact
        .same
          ((camera.samePictures_entered input).trans
            (samePictures_exchanged returned))
  | contentFailed free returned success failed =>
      rw [contentRead_failed failed]
      exact .same (samePictures_sizeRead returned)
  | @started outcome free returned success accepted =>
      have before := samePictures_sizeRead returned
      have same := camera.samePictures_content conn input outcome
      rw [(contentRead_started accepted).2]
      refine
        @PicturesAfter.created _ _ (camera.pictureIndex input outcome) free
          before.created ?_
      intro other
      rw [same.pictures, ← before.pictures]
      exact camera.forPicture_pictureOpened conn input outcome other

/-- A byte does not turn the interrupt on. -/
theorem etsIntr_of_receive
    {camera : Camera} {arrival : Arrival}
    (on : (camera.receive arrival).uart.etsIntr = true) :
    camera.uart.etsIntr = true := by
  have received := Uart.received_receive camera.uart arrival.byte
  have step := receive_cases camera arrival
  generalize camera.receive arrival = after at step on
  cases step with
  | silent | completed =>
      exact received.etsIntr on

/-! ## The requester -/

/-- The requester of the buffer which is installed is right. -/
def Aims (right : Nat → Conn → Prop) (camera : Camera) : Prop :=
  ∀ index,
    camera.uart.buffer = some index →
      (camera.uart.cells index).recvCb = .cameraPictureRecvDone →
        right index camera.replyConn

/-- The pictures delivered since some state went to the right requesters. -/
def Delivers
    (right : Nat → Conn → Prop) (base : List Delivery) (camera : Camera) :
    Prop :=
  ∃ added,
    camera.deliveries = base ++ added ∧
      ∀ picture ∈ added, right picture.buffer picture.conn

/--
Whoever a picture can still be delivered to is the right requester, and so
were those of the pictures delivered since some state.
-/
structure Aimed
    (right : Nat → Conn → Prop) (base : List Delivery) (camera : Camera) :
    Prop where
  aims : camera.uart.etsIntr = true → camera.Aims right
  delivers : camera.Delivers right base

section

variable
    {right : Nat → Conn → Prop} {base : List Delivery}
    {camera : Camera}

theorem Delivers.start (right : Nat → Conn → Prop) (camera : Camera) :
    camera.Delivers right camera.deliveries :=
  ⟨[], (List.append_nil _).symm, nofun⟩

theorem Delivers.of_deliveries
    {after : Camera}
    (delivers : camera.Delivers right base)
    (same : after.deliveries = camera.deliveries) :
    after.Delivers right base := by
  rw [Delivers, same]
  exact delivers

theorem Aims.of_idle
    (idle : camera.uart.buffer = none) :
    camera.Aims right := by
  intro index installed
  rw [idle] at installed
  cases installed

theorem Aims.receive
    (aims : camera.Aims right) (arrival : Arrival) :
    (camera.receive arrival).Aims right := by
  have received := Uart.received_receive camera.uart arrival.byte
  have step := receive_cases camera arrival
  generalize camera.receive arrival = after at step
  cases step with
  | silent =>
      intro index installed picture
      rw [received.recvCb] at picture
      exact aims index (received.buffer.symm.trans installed) picture
  | @completed called listens current buffer quiet =>
      intro index installed picture
      have released :=
        (camera.uart.receive arrival.byte).1.recvCb_release called index
      have same := (released.trans (received.recvCb index)).symm.trans picture
      exact aims index (received.buffer.symm.trans installed) same

theorem Delivers.receive
    (delivers : camera.Delivers right base)
    (aims : camera.uart.etsIntr = true → camera.Aims right)
    (arrival : Arrival) :
    (camera.receive arrival).Delivers right base := by
  have step := receive_cases camera arrival
  generalize camera.receive arrival = after at step
  cases step with
  | silent =>
      exact delivers
  | @completed index listens picture buffer quiet =>
      rcases delivers with ⟨added, equal, here⟩
      rw [Uart.listening, Bool.and_eq_true] at listens
      rw [Uart.current, buffer] at picture
      refine ⟨_, (congrArg (· ++ _) equal).trans (List.append_assoc _ _ _), ?_⟩
      intro delivery member
      rw [List.mem_append, List.mem_singleton] at member
      rcases member with old | rfl
      · exact here delivery old
      · exact aims listens.1 index buffer picture

namespace Aimed

theorem receive
    (aimed : camera.Aimed right base) (arrival : Arrival) :
    (camera.receive arrival).Aimed right base where
  aims := fun on => (aimed.aims (etsIntr_of_receive on)).receive arrival
  delivers := aimed.delivers.receive aimed.aims arrival

theorem receiveAll
    (aimed : camera.Aimed right base) (arrivals : List Arrival) :
    (camera.receiveAll arrivals).Aimed right base :=
  receiveAll_keeps (fun _ arrival aimed => aimed.receive arrival) aimed
    arrivals

/-- The lock, the timer and the records do not matter. -/
theorem withFields
    (aimed : camera.Aimed right base)
    (previousRxbuffer : Option Nat) (busy unlockTimer collided : Bool) :
    { camera with
      previousRxbuffer, busy, unlockTimer, collided }.Aimed right base where
  aims := aimed.aims
  delivers := aimed.delivers

theorem exchanged
    {command : SyncCommand} {input : ExchangeInput}
    {outcome : ExchangeOutcome}
    (aimed : camera.Aimed right base)
    (returned : command.call camera.uart input = some outcome) :
    (camera.exchanged command input outcome).Aimed right base where
  aims := by
    cases SyncCommand.effect returned with
    | unchanged refused failed same =>
        intro on index installed picture
        simp only [Camera.exchanged, same] at on installed picture
        exact aimed.aims on index installed picture
    | exchanged granted concluded disabled =>
        intro _
        exact .of_idle concluded.destroyed.buffer
  delivers := aimed.delivers

theorem cancelled
    (aimed : camera.Aimed right base) :
    camera.cancelReadPicture.Aimed right base where
  aims := fun _ => .of_idle (Uart.buffer_destroyRxBuffer _ _)
  delivers := aimed.delivers

end Aimed

/-- A buffer is requested for the right requester, from its installation on. -/
theorem Delivers.content
    {index : Nat}
    (delivers : camera.Delivers right base)
    (requester : right index camera.replyConn)
    (command : List UInt8) (input : ContentInput) :
    ((camera.requestContent index command input).awaitContent index
      input).Aimed right base := by
  have keeps (camera : Camera) (arrival : Arrival)
      (both : camera.Aims right ∧ camera.Delivers right base) :
      (camera.receive arrival).Aims right ∧
        (camera.receive arrival).Delivers right base :=
    ⟨both.1.receive arrival, both.2.receive (fun _ => both.1) arrival⟩
  have start :
      ({ camera.install with
        uart := camera.uart.setRxBuffer index } : Camera).Aims right := by
    intro other installed picture
    have same : index = other := Option.some.inj installed
    rw [← same]
    exact requester
  have installed := receiveAll_keeps keeps ⟨start, delivers⟩ input.installed
  have early :=
    @receiveAll_keeps _ keeps (_ : Camera).enabled
      ⟨installed.1, installed.2⟩ input.early
  have sent :=
    @receiveAll_keeps _ keeps ((_ : Camera).withPin true)
      ⟨early.1, early.2⟩ input.sent
  rw [awaitContent_eq]
  have awaited :=
    @receiveAll_keeps _ keeps
      { camera.requestContent index command input with
        previousRxbuffer := some index }
      ⟨sent.1, sent.2⟩ (input.assigned ++ input.disarmed)
  exact ⟨fun _ => awaited.1, awaited.2⟩

/-- A command aims its picture, if it creates a buffer, at the connection it came over. -/
theorem Requested.aimed
    {after : Camera} {conn : Conn} {input : RequestInput}
    {request : Request} {reply : Option (List UInt8)}
    (requested : Requested camera conn input request after reply)
    (aimed : camera.Aimed right base)
    (requester :
      ∀ index,
        ¬camera.uart.ForPicture index → after.uart.ForPicture index →
          right index conn) :
    after.Aimed right base := by
  have entered : (camera.entered input).Aimed right base :=
    (aimed.withFields camera.previousRxbuffer true camera.unlockTimer
      camera.collided).receiveAll input.entered
  cases requested with
  | busy | other =>
      exact aimed
  | simple free returned noPicture =>
      exact (entered.exchanged returned).withFields _ false _ _
  | sizeFailed free returned failed =>
      exact (entered.exchanged returned).withFields _ false _ _
  | contentFailed free returned success failed =>
      have idle := buffer_freed (buffer_sizeRead returned success)
      have sized := (entered.exchanged returned).receiveAll input.between
      rw [contentRead_failed failed]
      exact
        ⟨fun _ => .of_idle idle,
          sized.delivers.of_deliveries (deliveries_freed _)⟩
  | @started outcome free returned success accepted =>
      have before := samePictures_sizeRead returned
      have same := camera.samePictures_content conn input outcome
      have sized := (entered.exchanged returned).receiveAll input.between
      have delivers :
          (camera.pictureOpened conn input outcome).Delivers right base :=
        sized.delivers.of_deliveries (deliveries_freed _)
      rw [(contentRead_started accepted).2] at requester ⊢
      refine delivers.content (requester _ ?_ ?_) _ input.content
      · rw [← before.pictures]
        exact fun picture => Nat.lt_irrefl _ picture.1
      · rw [same.pictures, forPicture_pictureOpened]
        exact Or.inr rfl

end

/-! ## How often -/

/-- The place of the buffer is among the delivered ones. -/
def Delivered (camera : Camera) (index : Nat) : Prop :=
  index ∈ camera.deliveries.map Delivery.buffer

/-- No buffer is delivered twice, now and while the interrupt is on. -/
structure Once (camera : Camera) : Prop where
  nodup : (camera.deliveries.map Delivery.buffer).Nodup
  pictures : ∀ index, camera.Delivered index → camera.uart.ForPicture index
  installed :
    ∀ index, camera.uart.buffer = some index → index < camera.uart.created
  fresh :
    camera.uart.etsIntr = true →
      ∀ index, camera.uart.buffer = some index →
        (camera.uart.cells index).recvCb = .cameraPictureRecvDone →
          ¬camera.Delivered index

namespace Once

variable {camera : Camera}

theorem boot :
    Camera.boot.Once where
  nodup := List.nodup_nil
  pictures := nofun
  installed := nofun
  fresh := nofun

theorem withFields
    (once : camera.Once)
    (previousRxbuffer : Option Nat) (busy unlockTimer collided : Bool) :
    { camera with previousRxbuffer, busy, unlockTimer, collided }.Once where
  nodup := once.nodup
  pictures := once.pictures
  installed := once.installed
  fresh := once.fresh

theorem receive
    (once : camera.Once) (arrival : Arrival) :
    (camera.receive arrival).Once := by
  have received := Uart.received_receive camera.uart arrival.byte
  have same := camera.samePictures_receive arrival
  have step := receive_cases camera arrival
  generalize camera.receive arrival = after at same step
  cases step with
  | silent =>
      refine ⟨once.nodup, ?_, ?_, ?_⟩
      · intro index delivered
        rw [same.pictures]
        exact once.pictures index delivered
      · intro index installed
        rw [received.created]
        exact once.installed index (received.buffer.symm.trans installed)
      · intro on index installed picture
        exact
          once.fresh (received.etsIntr on) index
            (received.buffer.symm.trans installed)
            ((received.recvCb index).symm.trans picture)
  | @completed index listens picture buffer quiet =>
      rw [Uart.listening, Bool.and_eq_true] at listens
      rw [Uart.current, buffer] at picture
      have new := once.fresh listens.1 index buffer picture
      refine ⟨?_, ?_, ?_, ?_⟩
      · simp only [pictureRecvDone, List.map_append, List.map_cons,
          List.map_nil]
        rw [List.nodup_append]
        refine ⟨once.nodup, by simp, ?_⟩
        rintro other delivered _ last rfl
        rw [List.mem_singleton] at last
        rw [last] at delivered
        exact new delivered
      · intro other delivered
        rw [same.pictures]
        simp only [Delivered, pictureRecvDone, List.map_append,
          List.map_cons, List.map_nil, List.mem_append,
          List.mem_singleton] at delivered
        rcases delivered with old | rfl
        · exact once.pictures other old
        · exact ⟨once.installed _ buffer, picture⟩
      · intro other installed
        have created := received.created
        exact
          created.symm ▸
            once.installed other (received.buffer.symm.trans installed)
      · intro on
        have off := quiet.etsIntr
        rw [show (camera.uart.receive arrival.byte).1.etsIntr = true from on]
          at off
        cases off

theorem receiveAll
    (once : camera.Once) (arrivals : List Arrival) :
    (camera.receiveAll arrivals).Once :=
  receiveAll_keeps (fun _ arrival once => once.receive arrival) once arrivals

/-- Where no buffer is installed, only the records count. -/
theorem of_idle
    {after : Camera}
    (once : camera.Once)
    (idle : after.uart.buffer = none)
    (deliveries : after.deliveries = camera.deliveries)
    (kept :
      ∀ index, camera.uart.ForPicture index → after.uart.ForPicture index) :
    after.Once where
  nodup := by
    rw [deliveries]
    exact once.nodup
  pictures := by
    intro index delivered
    rw [Delivered, deliveries] at delivered
    exact kept index (once.pictures index delivered)
  installed := by
    rw [idle]
    nofun
  fresh := by
    rw [idle]
    nofun

theorem freed
    (once : camera.Once)
    (idle : camera.uart.buffer = none) :
    camera.freed.Once :=
  once.of_idle (buffer_freed idle) camera.deliveries_freed fun index =>
    (camera.samePictures_freed.pictures index).mpr

theorem exchanged
    {command : SyncCommand} {input : ExchangeInput}
    {outcome : ExchangeOutcome}
    (once : camera.Once)
    (returned : command.call camera.uart input = some outcome) :
    (camera.exchanged command input outcome).Once := by
  cases SyncCommand.effect returned with
  | unchanged refused failed same =>
      rw [Camera.exchanged, same]
      exact once.withFields _ _ _ _
  | exchanged granted concluded disabled =>
      exact
        once.of_idle concluded.destroyed.buffer rfl fun index =>
          ((samePictures_exchanged returned).pictures index).mpr

theorem cancelled
    (once : camera.Once) :
    camera.cancelReadPicture.Once :=
  once.of_idle (Uart.buffer_destroyRxBuffer _ _) rfl fun index =>
    ((Uart.samePictures_destroyRxBuffer camera.uart.disableInterrupts
      _).pictures index).mpr

/-- A new buffer is requested, and it is not full before the interrupt is turned on. -/
theorem content
    {index : Nat} {input : ContentInput}
    (once : camera.Once)
    (picture : camera.uart.ForPicture index)
    (new : ¬camera.Delivered index)
    (room : ¬camera.FilledEarly index input)
    (command : List UInt8) :
    ((camera.requestContent index command input).awaitContent index
      input).Once := by
  have receiving : (camera.receiving index).Once :=
    { nodup := once.nodup
      pictures := once.pictures
      installed := by
        intro other installed
        cases installed
        exact picture.1
      fresh := by
        intro _ other installed _
        cases installed
        exact new }
  rcases requestContent_eq room command with ⟨pinIntr, requested, _⟩
  have before := receiving.receiveAll (camera.arrivalsBefore input)
  have assigned :
      ({ ((camera.receiving index).receiveAll
          (camera.arrivalsBefore input)).withPin pinIntr with
        previousRxbuffer := some index } : Camera).Once :=
    { nodup := before.nodup
      pictures := before.pictures
      installed := before.installed
      fresh := before.fresh }
  rw [requested, awaitContent_eq]
  exact
    (assigned.receiveAll (input.assigned ++ input.disarmed)).withFields _ _
      true _

end Once

/--
Whenever the size of a picture is read and `Camera_read_content` gets its
buffer, the buffer is not full before the interrupt is turned on for it.
-/
def InTime (camera : Camera) (conn : Conn) (input : RequestInput) : Prop :=
  ∀ outcome ∈
      SyncCommand.readSize.call (camera.entered input).uart input.exchange,
    outcome.result = 0 →
      input.content.create.grants (contentSize outcome.pictureSize) = true →
        ¬(camera.pictureOpened conn input outcome).FilledEarly
          (camera.pictureIndex input outcome) input.content

instance (camera : Camera) (conn : Conn) (input : RequestInput) :
    Decidable (camera.InTime conn input) := by
  unfold InTime
  infer_instance

theorem Requested.once
    {camera after : Camera} {conn : Conn} {input : RequestInput}
    {request : Request} {reply : Option (List UInt8)}
    (requested : Requested camera conn input request after reply)
    (once : camera.Once)
    (inTime :
      camera.busy = false → request = .getPicture →
        camera.InTime conn input) :
    after.Once := by
  have entered : (camera.entered input).Once :=
    (once.withFields camera.previousRxbuffer true camera.unlockTimer
      camera.collided).receiveAll input.entered
  cases requested with
  | busy | other =>
      exact once
  | simple free returned noPicture =>
      exact (entered.exchanged returned).withFields _ false _ _
  | sizeFailed free returned failed =>
      exact (entered.exchanged returned).withFields _ false _ _
  | contentFailed free returned success failed =>
      have idle := buffer_sizeRead returned success
      have sized := (entered.exchanged returned).receiveAll input.between
      rw [contentRead_failed failed]
      exact (Once.freed sized idle).of_idle (buffer_freed idle) rfl fun _ => id
  | @started outcome free returned success accepted =>
      have idle := buffer_sizeRead returned success
      have sized := (entered.exchanged returned).receiveAll input.between
      have freed := Once.freed sized idle
      have opened : (camera.pictureOpened conn input outcome).Once :=
        freed.of_idle (buffer_freed idle) rfl fun index picture =>
          (camera.forPicture_pictureOpened conn input outcome index).mpr
            (Or.inl picture)
      rcases contentRead_started accepted with ⟨granted, equal⟩
      rw [equal]
      refine
        opened.content ?_ ?_
          (inTime free rfl outcome returned success granted) _
      · rw [forPicture_pictureOpened]
        exact Or.inr rfl
      · intro delivered
        exact Nat.lt_irrefl _ (freed.pictures _ delivered).1

end Camera

end EspFirmware
