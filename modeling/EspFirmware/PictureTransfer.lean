import EspFirmware.CameraLock

/-!
# The transfer of a picture

From the size which the camera reports to the message for the client.  What
is received after the buffer is installed depends on the line only: neither
the pointers of the driver nor its timer matter until the picture is complete.
-/

namespace EspFirmware

/-! ## Sizes -/

/-- The size which a response of READ SIZE carries. -/
def ExchangeOutcome.carried (outcome : ExchangeOutcome) : Nat :=
  256 * (outcome.response.getD 7 0).toNat + (outcome.response.getD 8 0).toNat

/-- Two bytes, the high one first. -/
theorem toNat_highLow (high low : UInt8) :
    (high.toUInt16 <<< 8 ||| low.toUInt16).toNat =
      256 * high.toNat + low.toNat := by
  have highBound := high.toNat_lt
  have lowBound := low.toNat_lt
  have shifted : (high.toUInt16 <<< 8).toNat = high.toNat <<< 8 := by
    rw [UInt16.toNat_shiftLeft]
    simp [Nat.shiftLeft_eq]
    omega
  rw [UInt16.toNat_or, shifted, UInt8.toNat_toUInt16,
    ← Nat.shiftLeft_add_eq_or_of_lt (by omega), Nat.shiftLeft_eq]
  omega

/-- The size is decoded right. -/
theorem ExchangeOutcome.pictureSize_toNat (outcome : ExchangeOutcome) :
    outcome.pictureSize.toNat = outcome.carried :=
  toNat_highLow _ _

/-! ## Stores outside of a block -/

namespace Uart

/-- There is no room for one more byte. -/
def full (uart : Uart) : Bool :=
  match uart.buffer with
  | none => true
  | some index =>
      decide ((uart.cells index).size.toNat ≤ uart.byteCount.toNat)

/-- A byte is stored outside of the block when the interrupt is on without room. -/
theorem faults_receive (uart : Uart) (byte : UInt8) :
    (uart.receive byte).1.faults =
      uart.faults ++
        if uart.listening && uart.full then [.storeOutside] else [] := by
  have stored :
      (uart.store byte).faults =
        uart.faults ++ if uart.full then [.storeOutside] else [] := by
    rw [store, full]
    cases uart.buffer with
    | none =>
        rfl
    | some index =>
        by_cases room : uart.byteCount.toNat < (uart.cells index).size.toNat
        · simp [room, updateCell]
        · simp [room, fault]
  cases listens : uart.listening with
  | false =>
      rw [receive_of_not_listening listens, Bool.false_and]
      exact (List.append_nil _).symm
  | true =>
      rw [receive, listens, if_pos rfl, Bool.true_and, bitBangReadByte]
      split <;> exact stored

end Uart

/-! ## Numbers on the way of a size -/

namespace Camera

/-- The decimal text of a number. -/
def decimal (number : Nat) : List UInt8 :=
  (Nat.toDigits 10 number).map fun digit => UInt8.ofNat digit.toNat

/-- The buffer has room for the header exactly when the sum does not wrap. -/
theorem contentSize_toNat
    {size : UInt16}
    (small : size.toNat ≤ 65525) :
    (contentSize size).toNat = size.toNat + 10 := by
  rw [contentSize, UInt16.toNat_add]
  simp
  omega

/-- `%hu` prints the sum exactly when it does not wrap. -/
theorem printed_eq_decimal_iff (size : UInt16) :
    printed (size + 10) = decimal (size.toNat + 10) ↔
      size.toNat ≤ 65525 := by
  have sum : (size + 10).toNat = (size.toNat + 10) % 65536 := by
    rw [UInt16.toNat_add]
    rfl
  have wrapped :
      ∀ excess < 10, decimal excess ≠ decimal (65536 + excess) := by
    decide
  have same : printed (size + 10) = decimal (size + 10).toNat := rfl
  have bounded := size.toNat_lt
  rw [same, sum]
  constructor
  · intro equal
    by_contra large
    have below : (size.toNat + 10) % 65536 < 10 := by
      omega
    have number : size.toNat + 10 = 65536 + (size.toNat + 10) % 65536 := by
      omega
    rw [number] at equal
    rw [Nat.add_mod_left, Nat.mod_mod] at equal
    exact wrapped _ below equal
  · intro small
    rw [Nat.mod_eq_of_lt (by omega)]

/-! ## What is received -/

/-- The accesses outside of the block which is received into. -/
def outsideStores (camera : Camera) : List UartFault :=
  camera.uart.faults.filter (· = .storeOutside)

/-- Same UART, same messages. -/
structure SameLine (left right : Camera) : Prop where
  uart : left.uart = right.uart
  deliveries : left.deliveries = right.deliveries
  replyConn : left.replyConn = right.replyConn

theorem SameLine.receive
    {left right : Camera}
    (same : SameLine left right) (arrival : Arrival) :
    SameLine (left.receive arrival) (right.receive arrival) := by
  cases called : (right.uart.receive arrival.byte).2 with
  | none =>
      have calledLeft : (left.uart.receive arrival.byte).2 = none := by
        rw [same.uart]
        exact called
      rw [receive_silent called, receive_silent calledLeft]
      exact
        { uart := by rw [same.uart]
          deliveries := same.deliveries
          replyConn := same.replyConn }
  | some index =>
      have calledLeft : (left.uart.receive arrival.byte).2 = some index := by
        rw [same.uart]
        exact called
      rw [receive_called called, receive_called calledLeft]
      exact
        { uart := by
            simp only [pictureRecvDone, same.uart]
          deliveries := by
            rcases same with ⟨uart, deliveries, replyConn⟩
            cases left
            cases right
            simp only at uart deliveries replyConn
            subst uart deliveries replyConn
            rfl
          replyConn := same.replyConn }

theorem SameLine.receiveAll
    {left right : Camera}
    (same : SameLine left right) (arrivals : List Arrival) :
    SameLine (left.receiveAll arrivals) (right.receiveAll arrivals) := by
  induction arrivals generalizing left right with
  | nil =>
      exact same
  | cons arrival rest induction =>
      exact induction (same.receive arrival)

/--
What arrives from the installation of the buffer on, in the stretches in which
the interrupt can be on.
-/
def heard
    (opened : Camera) (input : ContentInput) (later : List Arrival) :
    List Arrival :=
  opened.arrivalsUntilArmed input ++ later

/--
Unless the buffer is full before the interrupt is turned on, all the bytes are
received as one stretch.
-/
theorem heard_eq
    {opened : Camera} {index : Nat} {input : ContentInput}
    (room : ¬opened.FilledEarly index input)
    (command : List UInt8) (later : List Arrival) :
    (((opened.requestContent index command input).awaitContent index
          input).receiveAll later).deliveries =
        ((opened.receiving index).receiveAll
          (opened.heard input later)).deliveries ∧
      (((opened.requestContent index command input).awaitContent index
          input).receiveAll later).outsideStores =
        ((opened.receiving index).receiveAll
          (opened.heard input later)).outsideStores := by
  have listens : (opened.receiving index).uart.listening = true := rfl
  rcases requestContent_eq room command with ⟨pinIntr, requested, pinOn⟩
  have stretches :
      opened.heard input later =
        opened.arrivalsBefore input ++
          (input.assigned ++ input.disarmed ++ later) := by
    rw [heard, arrivalsUntilArmed, List.append_assoc]
  rw [requested, awaitContent_eq, stretches,
    receiveAll_append (opened.receiving index)]
  have eitherWay := enables_receiveAll listens (opened.arrivalsBefore input)
  generalize
    (opened.receiving index).receiveAll (opened.arrivalsBefore input) = front
    at eitherWay pinOn ⊢
  by_cases still : front.uart.listening = true
  · have pin : front.uart.pinIntr = pinIntr := by
      rw [pinOn still]
      rw [Uart.listening, Bool.and_eq_true] at still
      exact still.2
    have same :
        SameLine { front.withPin pinIntr with previousRxbuffer := some index }
          front := by
      rw [withPin_self pin]
      exact ⟨rfl, rfl, rfl⟩
    have until_ := same.receiveAll (input.assigned ++ input.disarmed)
    have armed :
        SameLine
          (({ front.withPin pinIntr with
            previousRxbuffer := some index } : Camera).receiveAll
              (input.assigned ++ input.disarmed)).armed
          (front.receiveAll (input.assigned ++ input.disarmed)) :=
      ⟨until_.uart, until_.deliveries, until_.replyConn⟩
    have final := armed.receiveAll later
    rw [← receiveAll_append] at final
    refine ⟨final.deliveries, ?_⟩
    rw [outsideStores, final.uart]
    rfl
  · have off : front.uart.etsIntr = false := by
      rcases eitherWay with on | off
      · exact absurd on still
      · exact off
    have deaf : front.uart.listening = false := by
      rw [Uart.listening, off]
      rfl
    have deafHere :
        ({ front.withPin pinIntr with
          previousRxbuffer := some index } : Camera).uart.listening =
            false := by
      rw [Uart.listening, Bool.and_eq_false_iff]
      exact Or.inl off
    have deafLater :
        ({ front.withPin pinIntr with
          previousRxbuffer := some index } : Camera).armed.uart.listening =
            false := deafHere
    rw [receiveAll_of_not_listening deafHere,
      receiveAll_of_not_listening deafLater, receiveAll_of_not_listening deaf]
    exact ⟨rfl, rfl⟩

/-! ## One stretch of bytes -/

/-- The message of a picture: the first of the bytes, as many as the buffer has. -/
structure IsPicture
    (opened : Camera) (index : Nat) (all : List Arrival) (queued : Bool)
    (delivery : Delivery) : Prop where
  buffer : delivery.buffer = index
  conn : delivery.conn = opened.replyConn
  data :
    delivery.data =
      (all.take (opened.uart.cells index).size.toNat).map Arrival.byte
  len : delivery.len = (opened.uart.cells index).size
  queued : delivery.queued = queued

section

variable
    {opened : Camera} {index : Nat}
    (nonempty : 0 < (opened.uart.cells index).size.toNat)
    (picture : (opened.uart.cells index).recvCb = .cameraPictureRecvDone)

include nonempty

theorem capacity_of_nonempty :
    capacity (opened.uart.cells index).size =
      (opened.uart.cells index).size.toNat := by
  have nonzero : (opened.uart.cells index).size ≠ 0 := by
    intro zero
    rw [zero] at nonempty
    exact absurd nonempty (Nat.lt_irrefl 0)
  rw [capacity, if_neg nonzero]

/-- The buffer holds what has been received, up to its size. -/
theorem holding_receiving (bytes : List UInt8) :
    Uart.Holding opened.uart index
      (bytes.take (opened.uart.cells index).size.toNat)
      ((opened.receiving index).uart.receiveAll bytes) := by
  have installed : Uart.Holding opened.uart index []
      (opened.receiving index).uart :=
    { Uart.Holding.setRxBuffer opened.uart index nonempty with
      stopped := fun _ => nonempty }
  have received := (installed.receiveAll rfl bytes).1
  rw [List.nil_append, List.length_nil, Nat.sub_zero] at received
  exact received

include picture

/-- Nothing is stored outside, and one message is sent once there are enough bytes. -/
theorem receiveAll_receiving (all : List Arrival) :
    ((opened.receiving index).receiveAll all).outsideStores =
        opened.outsideStores ∧
      if all.length < (opened.uart.cells index).size.toNat then
        ((opened.receiving index).receiveAll all).deliveries =
          opened.deliveries
      else
        ∃ (last : Arrival) (delivery : Delivery),
          all[(opened.uart.cells index).size.toNat - 1]? = some last ∧
            ((opened.receiving index).receiveAll all).deliveries =
                opened.deliveries ++ [delivery] ∧
              opened.IsPicture index all last.queued delivery := by
  have listens : (opened.receiving index).uart.listening = true := rfl
  have missing := remaining_receiving opened index
  rw [capacity_of_nonempty nonempty] at missing
  by_cases below : all.length < (opened.uart.cells index).size.toNat
  · have rest := (receiveAll_below listens (missing.symm ▸ below)).1
    rw [if_pos below, rest]
    have holding := holding_receiving nonempty (all.map Arrival.byte)
    refine ⟨?_, rfl⟩
    rw [outsideStores, outsideStores]
    exact congrArg (List.filter _) holding.faults
  · have completes :=
      receiveAll_completes listens picture rfl
        (missing.trans_le (Nat.not_lt.mp below))
    rcases completes.completed with ⟨last, place, completed⟩
    rw [missing] at place completed
    have holding :=
      holding_receiving nonempty
        ((all.take (opened.uart.cells index).size.toNat).map Arrival.byte)
    rw [if_neg below, completed]
    constructor
    · rw [outsideStores, outsideStores]
      exact congrArg (List.filter _) holding.faults
    · rcases holding.contents with ⟨buf, cell, bytes⟩
      have full :
          (((all.take (opened.uart.cells index).size.toNat).map
            Arrival.byte).take (opened.uart.cells index).size.toNat) =
              (all.take (opened.uart.cells index).size.toNat).map
                Arrival.byte := by
        apply List.take_of_length_le
        rw [List.length_map, List.length_take]
        exact Nat.min_le_left _ _
      have room := Nat.not_lt.mp below
      rw [full, List.length_map, List.length_take, Nat.min_eq_left room,
        List.drop_of_length_le (opened.uart.cells index).buf.length_bytes.le,
        List.append_nil] at bytes
      refine
        ⟨last, _, place, rfl,
          { buffer := rfl
            conn := rfl
            data := ?_
            len := ?_
            queued := rfl }⟩
      · simp only
        rw [cell]
        exact bytes
      · simp only
        rw [cell]

end

/-! ## A buffer which is full too early -/

/-- The interrupt is turned on again although the buffer is full. -/
def overrunning (opened : Camera) (index : Nat) (input : ContentInput) :
    Camera :=
  ((opened.receiving index).receiveAll input.installed).enabled.withPin true

theorem overrun_eq
    {opened : Camera} {index : Nat} {input : ContentInput}
    (picture : (opened.uart.cells index).recvCb = .cameraPictureRecvDone)
    (filled : opened.FilledEarly index input)
    (command : List UInt8) (later : List Arrival) :
    SameLine
      (((opened.requestContent index command input).awaitContent index
        input).receiveAll later)
      ((opened.overrunning index input).receiveAll
        (input.afterSend ++ later)) := by
  have on := filled.1
  rw [Uart.listening, Bool.and_eq_true] at on
  have start :
      ({ opened.install with
        uart := opened.uart.setRxBuffer index } : Camera) =
          opened.receiving index := by
    simp only [receiving, Uart.setRxBuffer, install, on.1, on.2]
  have listens : (opened.receiving index).uart.listening = true := rfl
  have completes :=
    receiveAll_completes listens picture rfl
      ((remaining_receiving opened index).trans_le filled.2)
  have earlyDeaf :
      ((opened.receiving index).receiveAll
        input.installed).enabled.uart.listening = false := by
    rw [Uart.listening, Bool.and_eq_false_iff]
    exact Or.inr completes.pinIntr
  have stretches :
      opened.requestContent index command input =
        (opened.overrunning index input).receiveAll input.sent := by
    have unfolded :
        opened.requestContent index command input =
          (((({ opened.install with
            uart := opened.uart.setRxBuffer index } : Camera).receiveAll
              input.installed).enabled.receiveAll input.early).withPin
                true).receiveAll input.sent := rfl
    rw [unfolded, start, receiveAll_of_not_listening earlyDeaf]
    rfl
  rw [stretches, awaitContent_eq, ContentInput.afterSend, List.append_assoc,
    receiveAll_append (opened.overrunning index input), receiveAll_append _ _ later]
  apply SameLine.receiveAll
  have assigned :
      SameLine
        { (opened.overrunning index input).receiveAll input.sent with
          previousRxbuffer := some index }
        ((opened.overrunning index input).receiveAll input.sent) :=
    ⟨rfl, rfl, rfl⟩
  have until_ := assigned.receiveAll (input.assigned ++ input.disarmed)
  exact ⟨until_.uart, until_.deliveries, until_.replyConn⟩

/-- Bytes never take a store back. -/
theorem outsideStores_receiveAll
    (camera : Camera) (arrivals : List Arrival) :
    camera.outsideStores.length ≤
      (camera.receiveAll arrivals).outsideStores.length := by
  refine
    @receiveAll_keeps
      (fun after =>
        camera.outsideStores.length ≤ after.outsideStores.length)
      ?_ camera (Nat.le_refl _) arrivals
  intro before arrival grown
  have byByte :
      before.outsideStores.length ≤
        (before.receive arrival).outsideStores.length := by
    have step := receive_cases before arrival
    generalize before.receive arrival = after at step
    have received := Uart.faults_receive before.uart arrival.byte
    cases step with
    | silent | completed =>
        show (before.uart.faults.filter _).length ≤
          ((before.uart.receive arrival.byte).1.faults.filter _).length
        rw [received, List.filter_append, List.length_append]
        exact Nat.le_add_right _ _
  exact grown.trans byByte

/-- The first byte which arrives afterwards is stored outside of the block. -/
theorem overrunning_stores
    {opened : Camera} {index : Nat} {input : ContentInput}
    (nonempty : 0 < (opened.uart.cells index).size.toNat)
    (picture : (opened.uart.cells index).recvCb = .cameraPictureRecvDone)
    (filled : opened.FilledEarly index input)
    {rest : List Arrival}
    (more : rest ≠ []) :
    ((opened.overrunning index input).receiveAll rest).outsideStores ≠
      opened.outsideStores := by
  have listens : (opened.receiving index).uart.listening = true := rfl
  have capacity := capacity_of_nonempty nonempty
  have missing := (remaining_receiving opened index).trans capacity
  have enough := filled.2
  rw [capacity] at enough
  have completes :=
    receiveAll_completes listens picture rfl (missing.trans_le enough)
  rcases completes.completed with ⟨last, _, completed⟩
  rw [missing] at completed
  have holding :=
    holding_receiving nonempty
      ((input.installed.take (opened.uart.cells index).size.toNat).map
        Arrival.byte)
  have counted := holding.count
  rw [List.length_take, List.length_map, List.length_take,
    Nat.min_eq_left enough, Nat.min_self] at counted
  have size := holding.size
  rw [Uart.current, holding.buffer] at size
  have uart :
      (opened.overrunning index input).uart =
        { ((opened.receiving index).uart.receiveAll
              ((input.installed.take
                (opened.uart.cells index).size.toNat).map
                  Arrival.byte)).updateCell index
            (fun buffer => buffer.releaseBuf.releaseStruct) with
          etsIntr := true
          pinIntr := true } := by
    rw [overrunning, completed]
    rfl
  cases rest with
  | nil =>
      exact absurd rfl more
  | cons arrival rest =>
      have full : (opened.overrunning index input).uart.full = true := by
        rw [uart, Uart.full]
        simp only [Uart.updateCell, holding.buffer, if_true,
          RxBuffer.releaseStruct, RxBuffer.releaseBuf]
        rw [counted]
        exact decide_eq_true (congrArg UInt16.toNat size).le
      have listensAgain :
          (opened.overrunning index input).uart.listening = true := by
        rw [uart]
        rfl
      have faults :=
        Uart.faults_receive (opened.overrunning index input).uart
          arrival.byte
      rw [listensAgain, full] at faults
      have before :
          (opened.overrunning index input).outsideStores =
            opened.outsideStores := by
        rw [outsideStores, uart]
        exact congrArg (List.filter _) holding.faults
      have first :
          ((opened.overrunning index input).receive arrival).outsideStores =
            opened.outsideStores ++ [.storeOutside] := by
        rw [← before]
        have step := receive_cases (opened.overrunning index input) arrival
        generalize (opened.overrunning index input).receive arrival = after
          at step
        cases step with
        | silent | completed =>
            show ((opened.overrunning index input).uart.receive
              arrival.byte).1.faults.filter _ = _
            rw [faults, List.filter_append]
            rfl
      have grown :=
        outsideStores_receiveAll
          ((opened.overrunning index input).receive arrival) rest
      rw [first, List.length_append, List.length_singleton] at grown
      intro same
      have again :
          (((opened.overrunning index input).receive arrival).receiveAll
            rest).outsideStores = opened.outsideStores := same
      rw [again] at grown
      exact absurd grown (Nat.not_succ_le_self _)

/-! ## A picture from its request on -/

/-- The driver with the buffer for the picture, which is installed next. -/
def pictureOpened
    (camera : Camera) (conn : Conn) (input : RequestInput)
    (outcome : ExchangeOutcome) :
    Camera :=
  (camera.sizeRead input outcome).freed.opened outcome.pictureSize conn

/-- The place of the buffer for the picture. -/
def pictureIndex
    (camera : Camera) (input : RequestInput) (outcome : ExchangeOutcome) :
    Nat :=
  (camera.sizeRead input outcome).freed.uart.created

/--
The transfer of a picture is intact.  The bytes of `later` arrive after Get
Picture has returned and before the timer fires.  Nothing is stored outside of
the block; if as many bytes arrive as the size says, and ten more, then exactly
one message is sent, to the requester, with exactly the first of these bytes;
and Get Size reports the same number for the same response.
-/
structure PictureIntact
    (camera : Camera) (conn : Conn) (input : RequestInput)
    (outcome : ExchangeOutcome) (started : Camera) (later : List Arrival) :
    Prop where
  inside :
    (started.receiveAll later).outsideStores =
      (camera.pictureOpened conn input outcome).outsideStores
  delivered :
    outcome.carried + 10 ≤
        ((camera.pictureOpened conn input outcome).heard input.content
          later).length →
      ∃ message : Delivery,
        ((started.receiveAll later).deliveries.drop
            (camera.pictureOpened conn input outcome).deliveries.length).filter
              (·.queued) = [message] ∧
          message.conn = conn ∧
            message.len.toNat = outcome.carried + 10 ∧
              message.data =
                (((camera.pictureOpened conn input outcome).heard
                  input.content later).take (outcome.carried + 10)).map
                    Arrival.byte
  reported :
    ∀ (other : Camera) (otherConn : Conn) (otherInput : RequestInput)
        (otherOutcome : ExchangeOutcome),
      other.busy = false →
        SyncCommand.readSize.call (other.entered otherInput).uart
            otherInput.exchange = some otherOutcome →
          otherOutcome.result = 0 →
            otherOutcome.carried = outcome.carried →
              ∃ after,
                other.request .getSize otherConn otherInput =
                  some (after, some (decimal (outcome.carried + 10)))

/--
The sum does not wrap; the message can be queued when the last byte arrives;
and the buffer is not full before the interrupt is turned on, unless no byte
follows.
-/
structure PictureFits
    (camera : Camera) (conn : Conn) (input : RequestInput)
    (outcome : ExchangeOutcome) (later : List Arrival) : Prop where
  small : outcome.carried ≤ 65525
  inTime :
    ¬((camera.pictureOpened conn input outcome).FilledEarly
        (camera.pictureIndex input outcome) input.content ∧
      input.content.afterSend ++ later ≠ [])
  queued :
    ∀ last : Arrival,
      ((camera.pictureOpened conn input outcome).heard input.content later)[
          outcome.carried + 9]? = some last →
        last.queued = true

/-- What Get Size replies once the size is read. -/
theorem getSize_reply
    {other : Camera} {input : RequestInput} {outcome : ExchangeOutcome}
    (free : other.busy = false)
    (returned :
      SyncCommand.readSize.call (other.entered input).uart input.exchange =
        some outcome)
    (success : outcome.result = 0)
    (conn : Conn) :
    ∃ after,
      other.request .getSize conn input =
        some (after, some (printed (outcome.pictureSize + 10))) := by
  have exchange :
      (other.entered input).exchangeWith .readSize input.exchange =
        some
          ((other.entered input).exchanged .readSize input.exchange outcome,
            outcome) := by
    rw [exchangeWith, returned]
    rfl
  have reply :
      other.request .getSize conn input =
        ((other.entered input).exchangeWith .readSize input.exchange).map
          fun returned =>
            ({ returned.1 with busy := false },
              if returned.2.result = 0 then
                some (printed (returned.2.pictureSize + 10))
              else
                some (ascii "Get Size Fail")) := by
    unfold Camera.request
    rw [free]
    rfl
  rw [reply, exchange]
  exact ⟨_, by rw [Option.map_some, if_pos success]⟩

/-- An accepted request has read the size and got its buffer. -/
theorem started_of_accepted
    {camera started : Camera} {conn : Conn} {input : RequestInput}
    {outcome : ExchangeOutcome}
    (free : camera.busy = false)
    (returned :
      SyncCommand.readSize.call (camera.entered input).uart input.exchange =
        some outcome)
    (accepted : camera.request .getPicture conn input = some (started, none)) :
    outcome.result = 0 ∧
      started =
        ((camera.pictureOpened conn input outcome).requestContent
          (camera.pictureIndex input outcome)
          (readContentCommand 0x0000 outcome.pictureSize 0x000a)
          input.content).awaitContent (camera.pictureIndex input outcome)
            input.content := by
  cases requested_of_request accepted with
  | busy locked =>
      rw [free] at locked
      cases locked
  | simple _ _ noPicture =>
      exact absurd rfl noPicture
  | started _ called success taken =>
      rw [returned, Option.some.injEq] at called
      subst called
      refine ⟨success, ?_⟩
      rw [contentRead, readContent_eq] at taken ⊢
      by_cases granted :
          input.content.create.grants (contentSize outcome.pictureSize) = true
      · rw [if_pos granted]
        rfl
      · rw [if_neg granted] at taken
        exact absurd taken (Int.neg_ne_zero.mpr Int.one_ne_zero)

theorem pictureOpened_cell
    (camera : Camera) (conn : Conn) (input : RequestInput)
    (outcome : ExchangeOutcome) :
    (camera.pictureOpened conn input outcome).uart.cells
        (camera.pictureIndex input outcome) =
      .fresh (contentSize outcome.pictureSize) .cameraPictureRecvDone :=
  opened_cell (camera.sizeRead input outcome).freed outcome.pictureSize conn

section

variable
    {camera started : Camera} {conn : Conn} {input : RequestInput}
    {outcome : ExchangeOutcome}
    (free : camera.busy = false)
    (returned :
      SyncCommand.readSize.call (camera.entered input).uart input.exchange =
        some outcome)
    (accepted : camera.request .getPicture conn input = some (started, none))

include free returned accepted

/-- The size that is reported wraps exactly when it is large. -/
theorem small_of_reported
    {later : List Arrival}
    (intact : PictureIntact camera conn input outcome started later) :
    outcome.carried ≤ 65525 := by
  have success := (started_of_accepted free returned accepted).1
  rcases intact.reported camera conn input outcome free returned success rfl
    with ⟨after, reply⟩
  rcases getSize_reply free returned success conn with ⟨same, printedReply⟩
  rw [printedReply, Option.some.injEq, Prod.mk.injEq, Option.some.injEq,
    ← outcome.pictureSize_toNat] at reply
  rw [← outcome.pictureSize_toNat]
  exact (printed_eq_decimal_iff outcome.pictureSize).mp reply.2

/-- A transfer in which the buffer has room for the header. -/
theorem small_transfer
    (small : outcome.carried ≤ 65525) (later : List Arrival) :
    if (camera.pictureOpened conn input outcome).FilledEarly
          (camera.pictureIndex input outcome) input.content ∧
        input.content.afterSend ++ later ≠ [] then
      (started.receiveAll later).outsideStores ≠
        (camera.pictureOpened conn input outcome).outsideStores
    else
      (started.receiveAll later).outsideStores =
          (camera.pictureOpened conn input outcome).outsideStores ∧
        ∀ last : Arrival,
          ((camera.pictureOpened conn input outcome).heard input.content
              later)[outcome.carried + 9]? = some last →
            ∃ delivery : Delivery,
              (started.receiveAll later).deliveries =
                  (camera.pictureOpened conn input outcome).deliveries ++
                    [delivery] ∧
                (camera.pictureOpened conn input outcome).IsPicture
                  (camera.pictureIndex input outcome)
                  ((camera.pictureOpened conn input outcome).heard
                    input.content later)
                  last.queued delivery := by
  have started_ := (started_of_accepted free returned accepted).2
  have cell := pictureOpened_cell camera conn input outcome
  rw [← outcome.pictureSize_toNat] at small ⊢
  have size :
      ((camera.pictureOpened conn input outcome).uart.cells
        (camera.pictureIndex input outcome)).size.toNat =
          outcome.pictureSize.toNat + 10 := by
    rw [cell]
    exact contentSize_toNat small
  have nonempty :
      0 < ((camera.pictureOpened conn input outcome).uart.cells
        (camera.pictureIndex input outcome)).size.toNat := by
    rw [size]
    exact Nat.succ_pos _
  have picture :
      ((camera.pictureOpened conn input outcome).uart.cells
        (camera.pictureIndex input outcome)).recvCb =
          .cameraPictureRecvDone := by
    rw [cell]
    rfl
  by_cases filled :
      (camera.pictureOpened conn input outcome).FilledEarly
        (camera.pictureIndex input outcome) input.content
  · have line := overrun_eq picture filled
      (readContentCommand 0x0000 outcome.pictureSize 0x000a) later
    rw [← started_] at line
    by_cases more : input.content.afterSend ++ later ≠ []
    · rw [if_pos ⟨filled, more⟩, outsideStores, line.uart]
      exact overrunning_stores nonempty picture filled more
    · rw [if_neg fun both => more both.2]
      have nothing := not_ne_iff.mp more
      have whole := receiveAll_receiving nonempty picture input.content.installed
      have enough := filled.2
      rw [capacity_of_nonempty nonempty, size] at enough
      rw [nothing] at line
      have stretches :
          (camera.pictureOpened conn input outcome).heard input.content later =
            input.content.installed ++
              heardIf
                (camera.pictureOpened conn input outcome).uart.pinIntr
                input.content.early := by
        rw [ContentInput.afterSend, List.append_eq_nil_iff,
          List.append_eq_nil_iff] at nothing
        rw [heard, arrivalsUntilArmed, arrivalsBefore, filled.1,
          nothing.1.1, nothing.1.2, nothing.2]
        simp only [heardIf, if_true, List.append_nil]
      rw [outsideStores, line.uart, line.deliveries]
      refine ⟨whole.1, ?_⟩
      intro last place
      rw [size, if_neg (Nat.not_lt.mpr enough)] at whole
      rcases whole.2 with ⟨same, delivery, samePlace, message, picture⟩
      have index : outcome.pictureSize.toNat + 10 - 1 =
          outcome.pictureSize.toNat + 9 := rfl
      rw [stretches, List.getElem?_append_left (by omega), ← index, samePlace,
        Option.some.injEq] at place
      rw [← place, stretches]
      refine ⟨delivery, message, { picture with data := ?_ }⟩
      rw [picture.data, size, List.take_append_of_le_length enough]
  · rw [if_neg fun both => filled both.1]
    have line := heard_eq filled
      (readContentCommand 0x0000 outcome.pictureSize 0x000a) later
    rw [← started_] at line
    have whole :=
      receiveAll_receiving nonempty picture
        ((camera.pictureOpened conn input outcome).heard input.content later)
    rw [line.1, line.2, size] at *
    refine ⟨whole.1, ?_⟩
    intro last place
    have within := (List.getElem?_eq_some_iff.mp place).1
    have messages := whole.2
    rw [if_neg (by omega)] at messages
    rcases messages with ⟨same, delivery, samePlace, message, picture⟩
    have index : outcome.pictureSize.toNat + 10 - 1 =
        outcome.pictureSize.toNat + 9 := rfl
    rw [index, place, Option.some.injEq] at samePlace
    rw [← samePlace] at picture
    exact ⟨delivery, message, picture⟩

/--
The transfer of a picture is intact, for every state of the driver which is not
busy, every response of the camera, every allocation that succeeds and every
stream of bytes, exactly when the transfer fits.
-/
theorem picture_transfer_iff (later : List Arrival) :
    PictureIntact camera conn input outcome started later ↔
      PictureFits camera conn input outcome later := by
  constructor
  · intro intact
    have small := small_of_reported free returned accepted intact
    have transfer := small_transfer free returned accepted small later
    have inTime :
        ¬((camera.pictureOpened conn input outcome).FilledEarly
            (camera.pictureIndex input outcome) input.content ∧
          input.content.afterSend ++ later ≠ []) := by
      intro late
      rw [if_pos late] at transfer
      exact transfer intact.inside
    rw [if_neg inTime] at transfer
    refine ⟨small, inTime, ?_⟩
    intro last place
    have enough := (List.getElem?_eq_some_iff.mp place).1
    rcases intact.delivered (by omega) with ⟨message, sent, _⟩
    rcases transfer.2 last place with ⟨delivery, messages, picture⟩
    rw [messages, List.drop_left] at sent
    cases queued : delivery.queued with
    | true =>
        rw [← picture.queued]
        exact queued
    | false =>
        rw [List.filter_cons_of_neg (by rw [queued]; exact nofun)] at sent
        cases sent
  · intro fits
    have transfer := small_transfer free returned accepted fits.small later
    rw [if_neg fits.inTime] at transfer
    refine ⟨transfer.1, ?_, ?_⟩
    · intro enough
      have place :=
        List.getElem?_eq_getElem
          (show outcome.carried + 9 <
            ((camera.pictureOpened conn input outcome).heard input.content
              later).length from enough)
      have size := contentSize_toNat
        (outcome.pictureSize_toNat.trans_le fits.small)
      rw [outcome.pictureSize_toNat] at size
      have cell := pictureOpened_cell camera conn input outcome
      rcases transfer.2 _ place with ⟨delivery, messages, picture⟩
      refine ⟨delivery, ?_, picture.conn, ?_, ?_⟩
      · have queued := picture.queued.trans (fits.queued _ place)
        rw [messages, List.drop_left, List.filter_cons_of_pos queued,
          List.filter_nil]
      · rw [picture.len, cell]
        exact size
      · rw [picture.data, cell]
        exact congrArg (fun count => (List.take count _).map Arrival.byte) size
    · intro other otherConn otherInput otherOutcome otherFree called success
        same
      rcases getSize_reply otherFree called success otherConn with
        ⟨after, reply⟩
      have text :
          printed (otherOutcome.pictureSize + 10) =
            decimal (outcome.carried + 10) := by
        rw [← same, ← otherOutcome.pictureSize_toNat]
        apply (printed_eq_decimal_iff otherOutcome.pictureSize).mpr
        rw [otherOutcome.pictureSize_toNat, same]
        exact fits.small
      exact ⟨after, text ▸ reply⟩

end

end Camera

/-! ### Two pictures -/

/-- A camera which was initialised and has nothing to do. -/
def idleCamera : Camera :=
  { Camera.boot with busy := false }

/-- Get Picture for a picture of 65526 bytes. -/
def largeInput : Camera.RequestInput :=
  { pictureInput 0 [] [] with
    exchange :=
      answered [0x76, 0x00, 0x34, 0x00, 0x04, 0x00, 0x00, 0xff, 0xf6] }

/-- The response with a picture of three bytes. -/
def shortPicture : List Arrival :=
  [0x76, 0x00, 0x32, 0x00, 0x00, 0xff, 0xd8, 0xff, 0x76, 0x00, 0x32, 0x00,
    0x00].map fun byte => { byte := byte, queued := true }

theorem picture_transfer_short :
    ∃ outcome started,
      idleCamera.request .getPicture 1 (pictureInput 3 [] []) =
          some (started, none) ∧
        (Camera.PictureIntact idleCamera 1 (pictureInput 3 [] []) outcome
            started shortPicture ↔
          Camera.PictureFits idleCamera 1 (pictureInput 3 [] []) outcome
            shortPicture) := by
  have called :
      (SyncCommand.readSize.call
        (idleCamera.entered (pictureInput 3 [] [])).uart
        (pictureInput 3 [] []).exchange).isSome = true := by
    decide
  have accepted :
      (idleCamera.request .getPicture 1 (pictureInput 3 [] [])).map
        (·.2) = some none := by
    decide
  rcases Option.isSome_iff_exists.mp called with ⟨outcome, returned⟩
  rcases Option.map_eq_some_iff.mp accepted with
    ⟨⟨started, reply⟩, taken, rfl⟩
  exact
    ⟨outcome, started, taken,
      Camera.picture_transfer_iff rfl returned taken shortPicture⟩

/-- The buffer for a picture of 65526 bytes has no byte, and Get Size reports 0. -/
theorem picture_transfer_wraps :
    ¬∀ (camera : Camera) (conn : Conn) (input : Camera.RequestInput)
        (outcome : ExchangeOutcome) (started : Camera)
        (later : List Arrival),
      camera.busy = false →
        SyncCommand.readSize.call (camera.entered input).uart
            input.exchange = some outcome →
          camera.request .getPicture conn input = some (started, none) →
            Camera.PictureIntact camera conn input outcome started later := by
  intro intact
  have called :
      (SyncCommand.readSize.call (idleCamera.entered largeInput).uart
        largeInput.exchange).map (·.carried) = some 65526 := by
    decide
  have accepted :
      (idleCamera.request .getPicture 1 largeInput).map (·.2) =
        some none := by
    decide
  rcases Option.map_eq_some_iff.mp called with ⟨outcome, returned, carried⟩
  rcases Option.map_eq_some_iff.mp accepted with
    ⟨⟨started, reply⟩, taken, rfl⟩
  have small :=
    Camera.small_of_reported rfl returned taken
      (intact idleCamera 1 largeInput outcome started [] rfl returned taken)
  omega

end EspFirmware
