import EspFirmware.CameraLock

/-!
# The lifetime of the receive buffers

Between two steps a buffer has been freed once, or it is the one which
`previous_rxbuffer` points to.  This, and that no flush finds a buffer which
is not live, holds along a run exactly when the unlock timer finds the buffer
of its own transfer installed, no picture is requested while an earlier one is
still remembered, and no picture is complete before its buffer is remembered.
-/

namespace EspFirmware

open Library

/-! ## Flushes -/

namespace Uart

/-- The fault of a flush, if it has one. -/
def flushFault (uart : Uart) : List UartFault :=
  match uart.buffer with
  | none => [.flushNull]
  | some index =>
      if (uart.cells index).structReleases = 0 then [] else [.flushFreed]

theorem flushFaults_destroyRxBuffer
    (uart : Uart) (bufferToKill : Option Nat) :
    (uart.destroyRxBuffer bufferToKill).flushFaults =
      uart.flushFaults ++ uart.flushFault := by
  have flushed :
      uart.flushReadBuffer.flushFaults =
        uart.flushFaults ++ uart.flushFault := by
    rw [flushReadBuffer, flushFault]
    cases uart.buffer with
    | none =>
        simp [flushFaults, fault]
    | some index =>
        by_cases live : (uart.cells index).structReleases = 0
        · simp [flushFaults, live, updateCell]
        · simp [flushFaults, live, updateCell, fault]
  cases bufferToKill with
  | none | some _ =>
      exact flushed

theorem withBuffer_other
    {uart : Uart} {other : Nat}
    (size : UInt16) (recvCb : RecvCb)
    (old : other < uart.created) :
    (uart.withBuffer size recvCb).cells other = uart.cells other := by
  exact
    updateCell_other uart (fun _ => RxBuffer.fresh size recvCb) old.ne

end Uart

namespace Camera

/-- Bytes do not flush. -/
theorem flushFaults_receiveAll
    (camera : Camera) (arrivals : List Arrival) :
    (camera.receiveAll arrivals).uart.flushFaults =
      camera.uart.flushFaults := by
  refine
    @receiveAll_keeps
      (fun after => after.uart.flushFaults = camera.uart.flushFaults)
      ?_ camera rfl arrivals
  intro before arrival same
  have received := Uart.received_receive before.uart arrival.byte
  have step := receive_cases before arrival
  generalize before.receive arrival = after at step
  cases step with
  | silent | completed =>
      exact received.flushFaults.trans same

/-- `Camera_read_content` flushes only to free the buffer of an earlier request. -/
theorem flushFaults_readContent
    (camera : Camera) (initAddr dataLen spacingInt : UInt16)
    (repConn : Conn) (input : ContentInput) :
    (camera.readContent initAddr dataLen spacingInt repConn
        input).1.uart.flushFaults =
      camera.freed.uart.flushFaults := by
  rw [readContent_eq]
  by_cases granted : input.create.grants (contentSize dataLen) = true
  · rw [if_pos granted]
    have awaited (before : Camera) (index : Nat) :
        (before.awaitContent index input).uart.flushFaults =
          before.uart.flushFaults := by
      rw [awaitContent_eq]
      exact flushFaults_receiveAll _ _
    have requested (before : Camera) (index : Nat) (command : List UInt8) :
        (before.requestContent index command input).uart.flushFaults =
          before.uart.flushFaults := by
      rw [requestContent, flushFaults_receiveAll]
      exact
        (flushFaults_receiveAll _ _).trans (flushFaults_receiveAll _ _)
    exact (awaited _ _).trans (requested _ _ _)
  · rw [if_neg granted]

/-- Get Picture reads the size of the picture with success. -/
def readsSize (camera : Camera) (input : RequestInput) : Bool :=
  (SyncCommand.readSize.call (camera.entered input).uart
    input.exchange).any fun outcome => decide (outcome.result = 0)

theorem readsSize_of_success
    {camera : Camera} {input : RequestInput} {outcome : ExchangeOutcome}
    (returned :
      SyncCommand.readSize.call (camera.entered input).uart input.exchange =
        some outcome)
    (success : outcome.result = 0) :
    camera.readsSize input = true := by
  rw [readsSize, returned]
  exact decide_eq_true success

theorem readsSize_of_failed
    {camera : Camera} {input : RequestInput} {outcome : ExchangeOutcome}
    (returned :
      SyncCommand.readSize.call (camera.entered input).uart input.exchange =
        some outcome)
    (failed : outcome.result ≠ 0) :
    camera.readsSize input = false := by
  rw [readsSize, returned]
  exact decide_eq_false failed

end Camera

/-! ## What is promised, and what is kept -/

/-- Both blocks of a buffer have been freed as often. -/
structure RxBuffer.Released (buffer : RxBuffer) (times : Nat) : Prop where
  data : buffer.bufReleases = times
  record : buffer.structReleases = times

theorem RxBuffer.Released.again
    {buffer : RxBuffer} {times : Nat}
    (released : buffer.Released times) :
    buffer.releaseBuf.releaseStruct.Released (times + 1) where
  data := congrArg (· + 1) released.data
  record := congrArg (· + 1) released.record

/--
What `previous_rxbuffer` points to is live, no flush found a buffer which was
not, and every other buffer was freed exactly once.
-/
structure BuffersSound (camera : Camera) : Prop where
  remembered :
    ∀ index, camera.previousRxbuffer = some index →
      (camera.uart.cells index).Released 0
  flushes : camera.uart.flushFaults = []
  freed :
    ∀ index < camera.uart.created,
      (camera.uart.cells index).Released 1 ∨
        camera.previousRxbuffer = some index

/--
The pointers point to buffers, the interrupt is on only while a buffer is
remembered, and a picture is received into the one which is remembered.
-/
structure BuffersOwned (camera : Camera) : Prop where
  remembered :
    ∀ index, camera.previousRxbuffer = some index →
      index < camera.uart.created
  installed :
    ∀ index, camera.uart.buffer = some index → index < camera.uart.created
  quiet : camera.previousRxbuffer = none → camera.uart.Quiet
  own :
    camera.uart.etsIntr = true →
      camera.uart.current.recvCb = .cameraPictureRecvDone →
        camera.uart.buffer = camera.previousRxbuffer

/-- Both together. -/
structure BuffersKept (camera : Camera) : Prop where
  sound : BuffersSound camera
  owned : BuffersOwned camera

namespace BuffersKept

variable {camera : Camera}

theorem boot :
    BuffersKept .boot where
  sound :=
    { remembered := nofun
      flushes := rfl
      freed := nofun }
  owned :=
    { remembered := nofun
      installed := nofun
      quiet := fun _ => ⟨rfl, rfl⟩
      own := nofun }

/-- The buffers do not depend on the lock, the timer and the requester. -/
theorem withFields
    (kept : BuffersKept camera)
    (busy unlockTimer collided : Bool) (replyConn : Conn) :
    BuffersKept
      { camera with
        busy
        unlockTimer
        collided
        replyConn } where
  sound := { kept.sound with }
  owned := { kept.owned with }

/-- Nothing is remembered, and all buffers have been freed. -/
theorem freed_all
    (kept : BuffersKept camera)
    (idle : camera.previousRxbuffer = none)
    {index : Nat}
    (old : index < camera.uart.created) :
    (camera.uart.cells index).Released 1 := by
  rcases kept.sound.freed index old with released | remembered
  · exact released
  · rw [idle] at remembered
    cases remembered

/-! ## Bytes -/

theorem receive
    (kept : BuffersKept camera) (arrival : Arrival) :
    BuffersKept (camera.receive arrival) := by
  have received := Uart.received_receive camera.uart arrival.byte
  have same {index times : Nat}
      (released : (camera.uart.cells index).Released times) :
      ((camera.uart.receive arrival.byte).1.cells index).Released times :=
    ⟨(received.bufReleases index).trans released.data,
      (received.structReleases index).trans released.record⟩
  have step := Camera.receive_cases camera arrival
  generalize camera.receive arrival = after at step
  cases step with
  | silent =>
      exact
        { sound :=
            { remembered := by
                intro index remembered
                exact same (kept.sound.remembered index remembered)
              flushes := received.flushFaults.trans kept.sound.flushes
              freed := by
                intro index old
                rw [received.created] at old
                exact (kept.sound.freed index old).imp_left same }
          owned :=
            { remembered := by
                intro index remembered
                rw [received.created]
                exact kept.owned.remembered index remembered
              installed := by
                intro index installed
                rw [received.buffer] at installed
                rw [received.created]
                exact kept.owned.installed index installed
              quiet := by
                intro idle
                have quiet := kept.owned.quiet idle
                rw [Uart.receive_of_not_listening quiet.deaf]
                exact quiet
              own := by
                intro on picture
                rw [received.current_recvCb] at picture
                rw [received.buffer]
                exact kept.owned.own (received.etsIntr on) picture } }
  | @completed index listens picture buffer quiet =>
      rw [Uart.listening, Bool.and_eq_true] at listens
      have remembered : camera.previousRxbuffer = some index := by
        rw [← kept.owned.own listens.1 picture]
        exact buffer
      have live := same (kept.sound.remembered index remembered)
      exact
        { sound :=
            { remembered := by
                intro other remembered
                cases remembered
              flushes := received.flushFaults.trans kept.sound.flushes
              freed := by
                intro other old
                left
                show (((camera.uart.receive arrival.byte).1.updateCell index
                  fun buffer =>
                    buffer.releaseBuf.releaseStruct).cells other).Released 1
                by_cases here : other = index
                · rw [here, Uart.updateCell_self]
                  exact live.again
                · rw [Uart.updateCell_other _ _ here]
                  have old : other < camera.uart.created :=
                    received.created ▸ old
                  rcases kept.sound.freed other old with released | again
                  · exact same released
                  · rw [remembered, Option.some.injEq] at again
                    exact absurd again.symm here }
          owned :=
            { remembered := by
                intro other remembered
                cases remembered
              installed := by
                intro other installed
                have installedBefore :
                    (camera.uart.receive arrival.byte).1.buffer =
                      some other := installed
                rw [received.buffer] at installedBefore
                show other < (camera.uart.receive arrival.byte).1.created
                rw [received.created]
                exact kept.owned.installed other installedBefore
              quiet := fun _ => ⟨quiet.etsIntr, quiet.pinIntr⟩
              own := by
                intro on
                have off := quiet.etsIntr
                rw [show (camera.uart.receive arrival.byte).1.etsIntr = true
                  from on] at off
                cases off } }

theorem receiveAll
    (kept : BuffersKept camera) (arrivals : List Arrival) :
    BuffersKept (camera.receiveAll arrivals) :=
  Camera.receiveAll_keeps (fun _ arrival here => here.receive arrival) kept
    arrivals

/-! ## Synchronous calls -/

/-- A synchronous call frees its own buffer, and leaves the others alone. -/
theorem exchanged
    {command : SyncCommand} {input : ExchangeInput}
    {outcome : ExchangeOutcome}
    (kept : BuffersKept camera)
    (returned : command.call camera.uart input = some outcome) :
    BuffersKept (camera.exchanged command input outcome) := by
  cases SyncCommand.effect returned with
  | unchanged refused failed same =>
      have unchanged :
          camera.exchanged command input outcome =
            { camera with
              collided :=
                camera.collided ||
                  command.granted input && camera.inFlight } := by
        rw [Camera.exchanged, same]
      rw [unchanged]
      exact kept.withFields _ _ _ _
  | exchanged granted concluded disabled =>
      have destroyed := concluded.destroyed
      have others {index : Nat} (old : index < camera.uart.created) :
          outcome.uart.cells index = camera.uart.cells index :=
        (destroyed.others index old.ne).trans
          (Uart.withBuffer_other _ _ old)
      have created : outcome.uart.created = camera.uart.created + 1 :=
        destroyed.created
      have cell := allocated_cell camera.uart command.exchange
      exact
        { sound :=
            { remembered := by
                intro index remembered
                show (outcome.uart.cells index).Released 0
                rw [others (kept.owned.remembered index remembered)]
                exact kept.sound.remembered index remembered
              flushes := destroyed.flushFaults.trans kept.sound.flushes
              freed := by
                intro index old
                have old : index < camera.uart.created + 1 := created ▸ old
                rcases Nat.lt_succ_iff_lt_or_eq.mp old with before | last
                · show (outcome.uart.cells index).Released 1 ∨ _
                  rw [others before]
                  exact kept.sound.freed index before
                · left
                  rw [last]
                  refine ⟨destroyed.bufReleases.trans ?_,
                    destroyed.structReleases.trans ?_⟩
                  · rw [cell]
                    rfl
                  · rw [cell]
                    rfl }
          owned :=
            { remembered := by
                intro index remembered
                show index < outcome.uart.created
                rw [created]
                exact Nat.lt_succ_of_lt
                  (kept.owned.remembered index remembered)
              installed := by
                intro index installed
                have none : outcome.uart.buffer = some index := installed
                rw [destroyed.buffer] at none
                cases none
              quiet := by
                intro idle
                exact SyncCommand.quiet returned (kept.owned.quiet idle)
              own := by
                intro _ picture
                have null : outcome.uart.current.recvCb = .null := by
                  rw [Uart.current, destroyed.buffer]
                  rfl
                rw [show outcome.uart.current.recvCb =
                  .cameraPictureRecvDone from picture] at null
                cases null } }

/-! ## The unlock timer -/

/-- The timer frees its buffer, if that is the one which is installed. -/
theorem cancelled
    {index : Nat}
    (kept : BuffersKept camera)
    (remembered : camera.previousRxbuffer = some index)
    (installed : camera.uart.buffer = some index) :
    BuffersKept { camera with unlockTimer := false }.cancelReadPicture := by
  have live := kept.sound.remembered index remembered
  have destroyed :=
    @Uart.destroyRxBuffer_current camera.uart.disableInterrupts index
      installed live.record
  have cancelled :
      ({ camera with unlockTimer := false } : Camera).cancelReadPicture =
        { camera with
          unlockTimer := false
          uart :=
            { camera.uart.disableInterrupts.updateCell index
                (fun buffer => buffer.clear.releaseBuf.releaseStruct) with
              byteCount := 0
              buffer := none }
          previousRxbuffer := none
          busy := false } := by
    rw [← destroyed, ← remembered]
    rfl
  rw [cancelled]
  exact
    { sound :=
        { remembered := nofun
          flushes := kept.sound.flushes
          freed := by
            intro other old
            left
            show ((camera.uart.disableInterrupts.updateCell index
              fun buffer =>
                buffer.clear.releaseBuf.releaseStruct).cells other).Released 1
            by_cases here : other = index
            · rw [here, Uart.updateCell_self]
              exact
                RxBuffer.Released.again
                  (show (camera.uart.cells index).clear.Released 0 from
                    ⟨live.data, live.record⟩)
            · rw [Uart.updateCell_other _ _ here]
              rcases kept.sound.freed other old with released | again
              · exact released
              · rw [remembered, Option.some.injEq] at again
                exact absurd again.symm here }
      owned :=
        { remembered := nofun
          installed := nofun
          quiet := fun _ => ⟨rfl, rfl⟩
          own := nofun } }

/-- The timer flushes a buffer which is not live, if it is not the remembered one. -/
theorem cancelled_badly
    (kept : BuffersKept camera)
    (other :
      ¬(camera.previousRxbuffer.isSome = true ∧
        camera.uart.buffer = camera.previousRxbuffer)) :
    ¬BuffersSound
      { camera with unlockTimer := false }.cancelReadPicture := by
  intro sound
  have flushes :
      (camera.uart.disableInterrupts.destroyRxBuffer
        camera.previousRxbuffer).flushFaults = [] := sound.flushes
  rw [Uart.flushFaults_destroyRxBuffer, List.append_eq_nil_iff] at flushes
  have fault : camera.uart.flushFault = [] := flushes.2
  rw [Uart.flushFault] at fault
  cases installed : camera.uart.buffer with
  | none =>
      rw [installed] at fault
      cases fault
  | some index =>
      rw [installed] at fault
      by_cases live : (camera.uart.cells index).structReleases = 0
      · rcases
          kept.sound.freed index (kept.owned.installed index installed) with
          released | remembered
        · rw [released.record] at live
          cases live
        · apply other
          rw [remembered, installed]
          exact ⟨rfl, rfl⟩
      · simp only [if_neg live] at fault
        cases fault

/-! ## A request for a picture -/

section

variable
    {conn : Conn} {input : Camera.RequestInput} {outcome : ExchangeOutcome}

/-- The size of a picture is read. -/
theorem sized
    (kept : BuffersKept (camera.entered input))
    (returned :
      SyncCommand.readSize.call (camera.entered input).uart input.exchange =
        some outcome) :
    BuffersKept (camera.sized input outcome) :=
  kept.exchanged returned

/-- The last buffer is the one of a picture, and the others have been freed. -/
structure Receiving (index : Nat) (uart : Uart) : Prop where
  created : uart.created = index + 1
  buffer : uart.buffer = some index
  live : (uart.cells index).Released 0
  others : ∀ other < index, (uart.cells other).Released 1
  flushes : uart.flushFaults = []

/-- The picture is still received. -/
theorem Receiving.waiting
    {index : Nat} {after : Camera}
    (receiving : Receiving index after.uart)
    (remembered : after.previousRxbuffer = some index) :
    BuffersKept after where
  sound :=
    { remembered := by
        intro other again
        rw [remembered, Option.some.injEq] at again
        rw [← again]
        exact receiving.live
      flushes := receiving.flushes
      freed := by
        intro other old
        rw [receiving.created] at old
        rcases Nat.lt_succ_iff_lt_or_eq.mp old with before | last
        · exact Or.inl (receiving.others other before)
        · rw [last]
          exact Or.inr remembered }
  owned :=
    { remembered := by
        intro other again
        rw [remembered, Option.some.injEq] at again
        rw [receiving.created, again]
        exact Nat.lt_succ_self other
      installed := by
        intro other again
        rw [receiving.buffer, Option.some.injEq] at again
        rw [receiving.created, again]
        exact Nat.lt_succ_self other
      quiet := by
        intro idle
        rw [remembered] at idle
        cases idle
      own := fun _ _ => receiving.buffer.trans remembered.symm }

/-- The picture is complete. -/
theorem Receiving.completed
    {index : Nat} {uart : Uart} {after : Camera}
    (receiving : Receiving index uart)
    (stopped : uart.Quiet)
    (forgotten : after.previousRxbuffer = none)
    (freed :
      after.uart =
        uart.updateCell index fun buffer => buffer.releaseBuf.releaseStruct) :
    BuffersKept after where
  sound :=
    { remembered := by
        intro other remembered
        rw [forgotten] at remembered
        cases remembered
      flushes := by
        rw [freed]
        exact receiving.flushes
      freed := by
        intro other old
        rw [freed] at old ⊢
        have old : other < uart.created := old
        rw [receiving.created] at old
        left
        rcases Nat.lt_succ_iff_lt_or_eq.mp old with before | last
        · rw [Uart.updateCell_other _ _ before.ne]
          exact receiving.others other before
        · rw [last, Uart.updateCell_self]
          exact receiving.live.again }
  owned :=
    { remembered := by
        intro other remembered
        rw [forgotten] at remembered
        cases remembered
      installed := by
        intro other installed
        rw [freed] at installed ⊢
        have installed : uart.buffer = some other := installed
        rw [receiving.buffer, Option.some.injEq] at installed
        show other < uart.created
        rw [receiving.created, installed]
        exact Nat.lt_succ_self other
      quiet := by
        intro _
        rw [freed]
        exact ⟨stopped.etsIntr, stopped.pinIntr⟩
      own := by
        intro on
        have off := stopped.etsIntr
        rw [freed] at on
        rw [show uart.etsIntr = true from on] at off
        cases off }

theorem receiving
    (kept : BuffersKept (camera.sized input outcome))
    (idle : (camera.sized input outcome).previousRxbuffer = none)
    (conn : Conn) (bytes : List UInt8) :
    Receiving outcome.uart.created
      (((camera.requesting conn input outcome).receiving
        outcome.uart.created).uart.receiveAll bytes) := by
  have received :=
    Uart.received_receiveAll
      ((camera.requesting conn input outcome).receiving
        outcome.uart.created).uart bytes
  have cell := Camera.requesting_cell camera conn input outcome
  exact
    { created := received.created
      buffer := received.buffer
      live := by
        refine
          ⟨(received.bufReleases _).trans ?_,
            (received.structReleases _).trans ?_⟩
        · exact congrArg RxBuffer.bufReleases cell
        · exact congrArg RxBuffer.structReleases cell
      others := by
        intro other old
        have same :
            (camera.requesting conn input outcome).uart.cells other =
              outcome.uart.cells other :=
          Uart.withBuffer_other _ _ old
        have released :
            ((camera.requesting conn input outcome).uart.cells
              other).Released 1 := by
          rw [same]
          exact kept.freed_all idle old
        exact
          ⟨(received.bufReleases other).trans released.data,
            (received.structReleases other).trans released.record⟩
      flushes := received.flushFaults.trans kept.sound.flushes }

/--
A request which found nothing remembered keeps the buffers exactly when its
picture is not complete before its buffer is remembered.
-/
theorem requesting
    {after : Camera}
    (kept : BuffersKept (camera.sized input outcome))
    (idle : (camera.sized input outcome).previousRxbuffer = none)
    (ends :
      Camera.ContentEnd (camera.requesting conn input outcome)
        outcome.uart.created input.content after) :
    if input.content.sent.length <
        Camera.capacity (Camera.contentSize outcome.pictureSize) then
      BuffersKept after
    else
      ¬BuffersSound after := by
  have quiet : (camera.requesting conn input outcome).uart.Quiet :=
    ⟨(kept.owned.quiet idle).etsIntr, (kept.owned.quiet idle).pinIntr⟩
  have size :
      ((camera.requesting conn input outcome).uart.cells
        outcome.uart.created).size =
          Camera.contentSize outcome.pictureSize := by
    rw [Camera.requesting_cell]
    rfl
  have before := Camera.arrivalsBefore_of_quiet quiet input.content
  cases ends with
  | tooSoon enough =>
      rw [size, before] at enough
      rw [if_neg (Nat.not_lt.mpr enough)]
      intro sound
      have freed :=
        (kept.receiving idle conn
          ((((camera.requesting conn input outcome).arrivalsBefore
            input.content).take
              (Camera.capacity
                ((camera.requesting conn input outcome).uart.cells
                  outcome.uart.created).size)).map Arrival.byte)).live.again
      have live := (sound.remembered outcome.uart.created rfl).record
      have again :
          ((Uart.updateCell _ outcome.uart.created
            fun buffer =>
              buffer.releaseBuf.releaseStruct).cells
                outcome.uart.created).structReleases = 0 := live
      rw [Uart.updateCell_self, freed.record] at again
      cases again
  | beforeTimer missing enough place stopped =>
      rw [size, before] at missing
      rw [if_pos missing]
      exact (kept.receiving idle conn _).completed stopped rfl rfl
  | waiting missing listens =>
      have sentMissing : input.content.sent.length <
          Camera.capacity (Camera.contentSize outcome.pictureSize) := by
        rw [size, Camera.arrivalsUntilArmed, before, List.length_append]
          at missing
        omega
      rw [if_pos sentMissing]
      exact Receiving.waiting (kept.receiving idle conn _) rfl

/-- A request which finds an earlier picture remembered flushes no buffer at all. -/
theorem requesting_again
    (conn : Conn)
    (returned :
      SyncCommand.readSize.call (camera.entered input).uart input.exchange =
        some outcome)
    (success : outcome.result = 0)
    (again : (camera.entered input).previousRxbuffer ≠ none) :
    (camera.contentRead conn input outcome).1.uart.flushFaults ≠ [] := by
  have noBuffer : (camera.sized input outcome).uart.buffer = none := by
    cases SyncCommand.effect returned with
    | unchanged _ failed =>
        exact absurd success failed
    | exchanged _ concluded =>
        exact concluded.destroyed.buffer
  have null : (camera.sized input outcome).uart.current.recvCb = .null := by
    rw [Uart.current, noBuffer]
    rfl
  have received :=
    Uart.received_receiveAll (camera.sized input outcome).uart
      (input.between.map Arrival.byte)
  have read := Camera.receiveAll_null null input.between
  rcases Option.ne_none_iff_exists'.mp again with ⟨index, remembered⟩
  have freed :
      (camera.sizeRead input outcome).freed.uart =
        ((camera.sized input outcome).uart.receiveAll
          (input.between.map Arrival.byte)).destroyRxBuffer (some index) := by
    have stays :
        (camera.sizeRead input outcome).previousRxbuffer = some index := by
      rw [Camera.sizeRead]
      exact (congrArg Camera.previousRxbuffer read).trans remembered
    rw [Camera.freed, stays]
    exact
      congrArg (fun uart => Uart.destroyRxBuffer uart (some index))
        (congrArg Camera.uart read)
  have fault :
      ((camera.sized input outcome).uart.receiveAll
        (input.between.map Arrival.byte)).flushFault = [.flushNull] := by
    rw [Uart.flushFault, received.buffer, noBuffer]
  rw [Camera.contentRead, Camera.flushFaults_readContent, freed,
    Uart.flushFaults_destroyRxBuffer, fault]
  exact List.append_ne_nil_of_right_ne_nil _ (List.cons_ne_nil _ _)

end

end BuffersKept

/-! ## Every run -/

/--
The unlock timer finds the buffer of its transfer installed; and when the size
of a picture is read, no earlier picture is remembered any more, and fewer
bytes than the picture needs arrive before its buffer is remembered.
-/
def Orderly (world : CameraWorld) : CameraStep → Prop
  | .request .getPicture _ input =>
      world.camera.busy = false →
        ((world.camera.readsSize input = true →
            (world.camera.entered input).previousRxbuffer = none) ∧
          ∀ size, world.camera.askedSize input = some size →
            input.content.sent.length <
              Camera.capacity (Camera.contentSize size))
  | .unlockTimer =>
      world.camera.previousRxbuffer.isSome = true ∧
        world.camera.uart.buffer = world.camera.previousRxbuffer
  | _ => True

section

variable {world : CameraWorld} {conn : Conn} {input : Camera.RequestInput}

/-- Where the condition holds, and the buffers are kept. -/
theorem sound_of_kept
    {after : Camera} {condition : Prop}
    (met : condition) (kept : BuffersKept after) :
    (BuffersSound after ↔ condition) ∧
      (BuffersSound after → BuffersKept after) :=
  ⟨⟨fun _ => met, fun _ => kept.sound⟩, fun _ => kept⟩

/-- Where the condition fails, and the buffers are not sound. -/
theorem unsound_of_broken
    {after : Camera} {condition : Prop}
    (broken : ¬condition) (unsound : ¬BuffersSound after) :
    (BuffersSound after ↔ condition) ∧
      (BuffersSound after → BuffersKept after) :=
  ⟨⟨fun sound => absurd sound unsound, fun met => absurd met broken⟩,
    fun sound => absurd sound unsound⟩

/-- Get Picture, once the size is read. -/
theorem lifetimes_content
    {outcome : ExchangeOutcome} {after : Camera} {result : Int}
    (kept : BuffersKept world.camera)
    (free : world.camera.busy = false)
    (returned :
      SyncCommand.readSize.call (world.camera.entered input).uart
        input.exchange = some outcome)
    (success : outcome.result = 0)
    (content : world.camera.contentRead conn input outcome = (after, result)) :
    (BuffersSound after ↔
        Orderly world (.request .getPicture conn input)) ∧
      (BuffersSound after → BuffersKept after) := by
  have entered : BuffersKept (world.camera.entered input) :=
    (kept.withFields true _ _ _).receiveAll input.entered
  have reads := Camera.readsSize_of_success returned success
  by_cases idle : (world.camera.entered input).previousRxbuffer = none
  · have sized := entered.sized returned
    have case :=
      Camera.contentCase returned (entered.owned.quiet idle) idle conn
    rw [content] at case
    cases case with
    | refused refused =>
        refine sound_of_kept ?_ (sized.withFields _ _ _ _)
        intro _
        refine ⟨fun _ => idle, ?_⟩
        intro size asked
        rw [Camera.askedSize_of_failed returned fun _ => refused] at asked
        cases asked
    | ended granted ends =>
        have asked : world.camera.askedSize input =
            some outcome.pictureSize :=
          Camera.askedSize_of_granted returned success granted
        have ending := sized.requesting idle ends
        by_cases below :
            input.content.sent.length <
              Camera.capacity (Camera.contentSize outcome.pictureSize)
        · rw [if_pos below] at ending
          refine sound_of_kept ?_ ending
          intro _
          refine ⟨fun _ => idle, ?_⟩
          intro size askedToo
          rw [asked, Option.some.injEq] at askedToo
          rw [← askedToo]
          exact below
        · rw [if_neg below] at ending
          refine unsound_of_broken ?_ ending
          intro orderly
          exact below ((orderly free).2 outcome.pictureSize asked)
  · have flushes :=
      BuffersKept.requesting_again conn returned success idle
    rw [content] at flushes
    refine unsound_of_broken ?_ fun sound => flushes sound.flushes
    intro orderly
    exact idle ((orderly free).1 reads)

/-- A camera command keeps the buffers exactly when it is orderly. -/
theorem lifetimes_request
    {request : Camera.Request} {after : Camera} {reply : Option (List UInt8)}
    (kept : BuffersKept world.camera)
    (requested : Camera.Requested world.camera conn input request after reply) :
    (BuffersSound after ↔ Orderly world (.request request conn input)) ∧
      (BuffersSound after → BuffersKept after) := by
  have entered : BuffersKept (world.camera.entered input) :=
    (kept.withFields true _ _ _).receiveAll input.entered
  cases requested with
  | busy locked =>
      refine sound_of_kept ?_ kept
      cases request with
      | getPicture =>
          intro free
          rw [locked] at free
          cases free
      | _ =>
          exact True.intro
  | other =>
      exact sound_of_kept True.intro kept
  | simple free returned noPicture =>
      refine
        sound_of_kept ?_ ((entered.exchanged returned).withFields false _ _ _)
      cases request with
      | getPicture =>
          exact absurd rfl noPicture
      | _ =>
          exact True.intro
  | sizeFailed free returned failed =>
      refine
        sound_of_kept ?_ ((entered.exchanged returned).withFields false _ _ _)
      intro _
      constructor
      · intro reads
        rw [Camera.readsSize_of_failed returned failed] at reads
        cases reads
      · intro size asked
        rw [Camera.askedSize_of_failed returned fun success =>
          absurd success failed] at asked
        cases asked
  | @contentFailed outcome free returned success failed =>
      rcases content : world.camera.contentRead conn input outcome with
        ⟨read, result⟩
      have lifetimes :=
        lifetimes_content kept free returned success content
      have unlocked :
          BuffersSound { read with busy := false } ↔ BuffersSound read :=
        ⟨fun sound => { sound with }, fun sound => { sound with }⟩
      rw [unlocked]
      exact
        ⟨lifetimes.1, fun sound =>
          (lifetimes.2 sound).withFields false _ _ _⟩
  | @started outcome free returned success accepted =>
      exact lifetimes_content kept free returned success rfl

/-- One step keeps the buffers exactly when it is orderly. -/
theorem lifetimes_step
    (world : CameraWorld) (step : CameraStep) (after : CameraWorld)
    (kept : BuffersKept world.camera)
    (taken : cameraSystem.next world step = some after) :
    (BuffersSound after.camera ↔ Orderly world step) ∧
      (BuffersSound after.camera → BuffersKept after.camera) := by
  cases Camera.stepped_of_next taken with
  | request requested =>
      exact lifetimes_request kept requested
  | reinitialised returned =>
      have unlocked : BuffersKept { world.camera with busy := false } :=
        kept.withFields false _ _ _
      exact sound_of_kept True.intro (unlocked.exchanged returned)
  | notInitialised =>
      exact sound_of_kept True.intro kept
  | byte =>
      exact sound_of_kept True.intro (kept.receive _)
  | unlockTimer =>
      by_cases own :
          world.camera.previousRxbuffer.isSome = true ∧
            world.camera.uart.buffer = world.camera.previousRxbuffer
      · rcases Option.isSome_iff_exists.mp own.1 with ⟨index, remembered⟩
        exact
          sound_of_kept own
            (kept.cancelled remembered (own.2.trans remembered))
      · exact unsound_of_broken own (kept.cancelled_badly own)

end

/--
The lifetime of the receive buffers is sound in every state of a run exactly
when every step of the run is orderly.
-/
theorem buffer_lifetimes_iff (steps : List CameraStep) :
    cameraSystem.Always (fun world => BuffersSound world.camera)
        cameraSystem.start steps ↔
      cameraSystem.Each Orderly cameraSystem.start steps := by
  have kept : BuffersKept cameraSystem.start.camera := .boot
  exact
    @System.always_iff_each _ _ cameraSystem
      (fun world => BuffersSound world.camera)
      (fun world => BuffersKept world.camera) Orderly
      (fun world step after kept _ taken =>
        lifetimes_step world step after kept taken)
      cameraSystem.start steps kept kept.sound

/-! ### A re-initialisation, and then the timer -/

/--
`Camera_reset` has left no buffer installed when the unlock timer of the
transfer fires.
-/
theorem buffer_lifetimes_unsound :
    ¬∀ steps,
      cameraSystem.Always (fun world => BuffersSound world.camera)
        cameraSystem.start steps := by
  intro always
  have ran :
      (cameraSystem.run cameraSystem.start
          (interruptedSteps ++ [.unlockTimer])).map
          (fun world => world.camera.uart.flushFaults) =
        some [.flushNull] := by
    decide
  rcases (always (interruptedSteps ++ [.unlockTimer])).last_of_map ran with
    ⟨world, observed, sound⟩
  have flushes := sound.flushes
  rw [observed] at flushes
  cases flushes

end EspFirmware
