import EspFirmware.CameraSteps

/-!
# A request for a picture

`Camera_read_content` with no other transfer in flight.  The interrupt is off
when it installs its buffer, so the bytes count from `enable_interrupts` on.
How the call ends depends on whether the bytes which have arrived complete the
picture, and in which of its stretches.
-/

namespace EspFirmware

namespace Camera

/-! ## From the request on -/

/-- The size of the buffer for a picture, `2 * READ_CONTENT_RESPONSE_SIZE + data_len`. -/
def contentSize (dataLen : UInt16) : UInt16 :=
  2 * 5 + dataLen

/-- After how many bytes the counter meets the size of a buffer. -/
def capacity (size : UInt16) : Nat :=
  if size = 0 then 65536 else size.toNat

/-- The driver which receives into buffer `index` from its first byte on. -/
def receiving (camera : Camera) (index : Nat) : Camera :=
  { camera.install with
    uart :=
      { camera.uart.setRxBuffer index with etsIntr := true, pinIntr := true } }

/-- The same driver with the interrupt of the pin set as given. -/
def withPin (camera : Camera) (pinIntr : Bool) : Camera :=
  { camera with uart := { camera.uart with pinIntr } }

/-- The same driver with the interrupt turned on. -/
def enabled (camera : Camera) : Camera :=
  { camera with uart := camera.uart.enableInterrupts }

/-- The bytes of a stretch in which the interrupt is on, if it is. -/
def heardIf (on : Bool) (arrivals : List Arrival) : List Arrival :=
  if on then arrivals else []

/-- The bytes which can be received before `previous_rxbuffer` is assigned. -/
def arrivalsBefore (camera : Camera) (input : ContentInput) : List Arrival :=
  heardIf camera.uart.listening input.installed ++
    heardIf camera.uart.pinIntr input.early ++ input.sent

/--
The interrupt is on when buffer `index` is installed, and the buffer is full
before `enable_interrupts` runs.
-/
def FilledEarly (camera : Camera) (index : Nat) (input : ContentInput) : Prop :=
  camera.uart.listening = true ∧
    capacity (camera.uart.cells index).size ≤ input.installed.length

instance (camera : Camera) (index : Nat) (input : ContentInput) :
    Decidable (camera.FilledEarly index input) :=
  inferInstanceAs (Decidable (_ ∧ _))

theorem remaining_receiving (camera : Camera) (index : Nat) :
    (camera.receiving index).uart.remaining =
      capacity (camera.uart.cells index).size := by
  have size :
      (camera.receiving index).uart.current.size =
        (camera.uart.cells index).size := rfl
  have count : (camera.receiving index).uart.byteCount.toNat = 0 := rfl
  rw [Uart.remaining, size, count, capacity]
  by_cases empty : (camera.uart.cells index).size = 0
  · rw [if_pos empty, empty]
    rfl
  · have positive : 0 < (camera.uart.cells index).size.toNat := by
      rw [Nat.pos_iff_ne_zero]
      exact fun zero => empty (UInt16.toNat_inj.mp zero)
    rw [if_neg empty, if_pos positive, Nat.sub_zero]

/-- An interrupt which was on stays on, or is turned off as a whole. -/
theorem enables_receiveAll
    {camera : Camera}
    (listens : camera.uart.listening = true) (arrivals : List Arrival) :
    (camera.receiveAll arrivals).uart.listening = true ∨
      (camera.receiveAll arrivals).uart.etsIntr = false := by
  induction arrivals generalizing camera with
  | nil =>
      exact Or.inl listens
  | cons arrival rest induction =>
      have again :
          camera.receiveAll (arrival :: rest) =
            (camera.receive arrival).receiveAll rest := rfl
      rw [again]
      have enables :
          (camera.receive arrival).uart.etsIntr =
              (camera.uart.receive arrival.byte).1.etsIntr ∧
            (camera.receive arrival).uart.pinIntr =
              (camera.uart.receive arrival.byte).1.pinIntr := by
        have step := receive_cases camera arrival
        generalize camera.receive arrival = after at step
        cases step with
        | silent =>
            exact ⟨rfl, rfl⟩
        | completed =>
            exact ⟨rfl, rfl⟩
      by_cases last : camera.uart.remaining = 1
      · have off := Uart.receive_remaining listens last arrival.byte
        have deaf : (camera.receive arrival).uart.listening = false := by
          rw [Uart.listening, enables.1, off.1]
          rfl
        rw [receiveAll_of_not_listening deaf]
        exact Or.inr (enables.1.trans off.1)
      · have kept := Uart.receive_more listens last arrival.byte
        apply induction
        rw [Uart.listening, enables.1, enables.2, kept.2.1, kept.2.2.1]
        exact listens

/-- The driver when the interrupt is turned on, if the pin has its interrupt. -/
theorem enabled_eq
    {camera : Camera} {index : Nat} {input : ContentInput}
    (pin : camera.uart.pinIntr = true)
    (room : ¬camera.FilledEarly index input) :
    (({ camera.install with
      uart := camera.uart.setRxBuffer index } : Camera).receiveAll
        input.installed).enabled =
      (camera.receiving index).receiveAll
        (heardIf camera.uart.listening input.installed) := by
  cases ets : camera.uart.etsIntr with
  | false =>
      have deaf : camera.uart.listening = false := by
        rw [Uart.listening, ets]
        rfl
      have installedDeaf :
          ({ camera.install with
            uart := camera.uart.setRxBuffer index } :
            Camera).uart.listening = false := deaf
      rw [receiveAll_of_not_listening installedDeaf, deaf]
      simp only [enabled, receiving, Uart.enableInterrupts, Uart.setRxBuffer,
        install, pin]
      rfl
  | true =>
      have on : camera.uart.listening = true := by
        rw [Uart.listening, ets, pin]
        rfl
      have start :
          ({ camera.install with
            uart := camera.uart.setRxBuffer index } : Camera) =
              camera.receiving index := by
        simp only [receiving, Uart.setRxBuffer, install, pin, ets]
      have listens : (camera.receiving index).uart.listening = true := rfl
      have below :
          input.installed.length <
            (camera.receiving index).uart.remaining := by
        rw [remaining_receiving]
        exact Nat.not_le.mp fun filled => room ⟨on, filled⟩
      have stays := (receiveAll_below listens below).2.2.1
      rw [start, on, heardIf, if_pos rfl]
      generalize (camera.receiving index).receiveAll input.installed = after
        at stays ⊢
      have same : after.uart.etsIntr = true := stays
      rw [enabled, Uart.enableInterrupts, ← same]

/--
The stretches before the assignment are one stretch, which begins when the
interrupt is on, unless the buffer is full before.  Only the enable of the pin
may differ, once the interrupt is off again.
-/
theorem requestContent_eq
    {camera : Camera} {index : Nat} {input : ContentInput}
    (room : ¬camera.FilledEarly index input) (command : List UInt8) :
    ∃ pinIntr,
      camera.requestContent index command input =
          ((camera.receiving index).receiveAll
            (camera.arrivalsBefore input)).withPin pinIntr ∧
        (((camera.receiving index).receiveAll
            (camera.arrivalsBefore input)).uart.listening = true →
          pinIntr = true) := by
  have stretches :
      camera.requestContent index command input =
        (((({ camera.install with
          uart := camera.uart.setRxBuffer index } : Camera).receiveAll
            input.installed).enabled.receiveAll input.early).withPin
              true).receiveAll input.sent := rfl
  rw [stretches]
  cases pin : camera.uart.pinIntr with
  | false =>
      have deaf : camera.uart.listening = false := by
        rw [Uart.listening, Bool.and_eq_false_iff]
        exact Or.inr pin
      have before : camera.arrivalsBefore input = input.sent := by
        rw [arrivalsBefore, deaf, pin]
        rfl
      have installedDeaf :
          ({ camera.install with
            uart := camera.uart.setRxBuffer index } :
            Camera).uart.listening = false := deaf
      have earlyDeaf :
          ({ camera.install with
            uart := camera.uart.setRxBuffer index } :
            Camera).enabled.uart.listening = false := by
        rw [Uart.listening, Bool.and_eq_false_iff]
        exact Or.inr pin
      rw [before, receiveAll_of_not_listening installedDeaf,
        receiveAll_of_not_listening earlyDeaf]
      refine
        ⟨((camera.receiving index).receiveAll input.sent).uart.pinIntr,
          rfl, ?_⟩
      intro listens
      rw [Uart.listening, Bool.and_eq_true] at listens
      exact listens.2
  | true =>
      have before :
          camera.arrivalsBefore input =
            heardIf camera.uart.listening input.installed ++ input.early ++
              input.sent := by
        rw [arrivalsBefore, pin]
        rfl
      have listens : (camera.receiving index).uart.listening = true := rfl
      rw [enabled_eq pin room, ← receiveAll_append, before,
        receiveAll_append _ (_ ++ _)]
      have eitherWay :=
        enables_receiveAll listens
          (heardIf camera.uart.listening input.installed ++ input.early)
      generalize
        (camera.receiving index).receiveAll
          (heardIf camera.uart.listening input.installed ++ input.early) =
            front at eitherWay ⊢
      rcases eitherWay with stays | off
      · have same : front.withPin true = front := by
          rw [Uart.listening, Bool.and_eq_true] at stays
          rw [withPin, ← stays.2]
        refine ⟨(front.receiveAll input.sent).uart.pinIntr, ?_, ?_⟩
        · rw [same]
          rfl
        · intro listens
          rw [Uart.listening, Bool.and_eq_true] at listens
          exact listens.2
      · have deaf : front.uart.listening = false := by
          rw [Uart.listening, off]
          rfl
        have deafWithPin : (front.withPin true).uart.listening = false := by
          rw [Uart.listening, Bool.and_eq_false_iff]
          exact Or.inl off
        rw [receiveAll_of_not_listening deaf,
          receiveAll_of_not_listening deafWithPin]
        exact ⟨true, rfl, fun _ => rfl⟩

/-! ## How the call ends -/

/-- `os_timer_arm` of the unlock timer. -/
def armed (camera : Camera) : Camera :=
  { camera with unlockTimer := true }

/-- Bytes do not depend on the timer. -/
theorem armed_receiveAll
    (camera : Camera) (unlockTimer : Bool) (arrivals : List Arrival) :
    ({ camera with unlockTimer }.receiveAll arrivals).armed =
      (camera.receiveAll arrivals).armed := by
  induction arrivals generalizing camera unlockTimer with
  | nil =>
      rfl
  | cons arrival rest induction =>
      cases called : (camera.uart.receive arrival.byte).2 with
      | none =>
          have silent :
              ({ camera with unlockTimer } : Camera).receive arrival =
                { camera.receive arrival with unlockTimer } := by
            rw [receive_silent called]
            exact receive_silent called
          rw [receiveAll, List.foldl_cons, silent]
          exact induction _ _
      | some index =>
          have completed :
              ({ camera with unlockTimer } : Camera).receive arrival =
                camera.receive arrival := by
            rw [receive_called called]
            exact receive_called called
          rw [receiveAll, List.foldl_cons, completed]
          rfl

theorem awaitContent_eq
    (camera : Camera) (index : Nat) (input : ContentInput) :
    camera.awaitContent index input =
      ({ camera with previousRxbuffer := some index }.receiveAll
        (input.assigned ++ input.disarmed)).armed := by
  rw [receiveAll_append]
  exact armed_receiveAll _ false input.disarmed

/-- All the bytes which are received until the timer is armed. -/
def arrivalsUntilArmed (camera : Camera) (input : ContentInput) :
    List Arrival :=
  camera.arrivalsBefore input ++ (input.assigned ++ input.disarmed)

theorem length_arrivalsUntilArmed (camera : Camera) (input : ContentInput) :
    (camera.arrivalsUntilArmed input).length =
      (camera.arrivalsBefore input).length +
        (input.assigned ++ input.disarmed).length :=
  List.length_append

theorem receiveAll_arrivalsUntilArmed
    (uart : Uart) (camera : Camera) (input : ContentInput) :
    uart.receiveAll ((camera.arrivalsUntilArmed input).map Arrival.byte) =
      (uart.receiveAll
        ((camera.arrivalsBefore input).map Arrival.byte)).receiveAll
          ((input.assigned ++ input.disarmed).map Arrival.byte) := by
  rw [arrivalsUntilArmed, List.map_append, Uart.receiveAll_append]

theorem take_arrivalsUntilArmed
    {camera : Camera} {input : ContentInput} {count : Nat}
    (behind : (camera.arrivalsBefore input).length ≤ count) :
    (camera.arrivalsUntilArmed input).take count =
      camera.arrivalsBefore input ++
        (input.assigned ++ input.disarmed).take
          (count - (camera.arrivalsBefore input).length) := by
  rw [arrivalsUntilArmed, List.take_append, List.take_of_length_le behind]

theorem getElem?_arrivalsUntilArmed
    {camera : Camera} {input : ContentInput} {place : Nat}
    (behind : (camera.arrivalsBefore input).length ≤ place) :
    (camera.arrivalsUntilArmed input)[place]? =
      (input.assigned ++ input.disarmed)[
        place - (camera.arrivalsBefore input).length]? :=
  List.getElem?_append_right behind

/--
The end of a call which got its buffer: the picture is complete before
`previous_rxbuffer` is assigned, or before the timer is armed, or not yet.
-/
inductive ContentEnd
    (opened : Camera) (index : Nat) (input : ContentInput) :
    Camera → Prop where
  | tooSoon {last : Arrival} {pinIntr : Bool}
      (enough :
        capacity (opened.uart.cells index).size ≤
          (opened.arrivalsBefore input).length)
      (place :
        (opened.arrivalsBefore input)[
          capacity (opened.uart.cells index).size - 1]? = some last)
      (stopped :
        ((opened.receiving index).uart.receiveAll
          (((opened.arrivalsBefore input).take
            (capacity (opened.uart.cells index).size)).map
            Arrival.byte)).etsIntr = false) :
      ContentEnd opened index input
        { ({ opened.receiving index with
            uart :=
              (opened.receiving index).uart.receiveAll
                (((opened.arrivalsBefore input).take
                  (capacity (opened.uart.cells index).size)).map
                  Arrival.byte) }.pictureRecvDone index
                    last.queued).withPin pinIntr with
          previousRxbuffer := some index
          unlockTimer := true }
  | beforeTimer {last : Arrival}
      (missing :
        (opened.arrivalsBefore input).length <
          capacity (opened.uart.cells index).size)
      (enough :
        capacity (opened.uart.cells index).size ≤
          (opened.arrivalsUntilArmed input).length)
      (place :
        (opened.arrivalsUntilArmed input)[
          capacity (opened.uart.cells index).size - 1]? = some last)
      (stopped :
        ((opened.receiving index).uart.receiveAll
          (((opened.arrivalsUntilArmed input).take
            (capacity (opened.uart.cells index).size)).map
            Arrival.byte)).Quiet) :
      ContentEnd opened index input
        ({ opened.receiving index with
          uart :=
            (opened.receiving index).uart.receiveAll
              (((opened.arrivalsUntilArmed input).take
                (capacity (opened.uart.cells index).size)).map
                Arrival.byte) }.pictureRecvDone index last.queued).armed
  | waiting
      (missing :
        (opened.arrivalsUntilArmed input).length <
          capacity (opened.uart.cells index).size)
      (listens :
        ((opened.receiving index).uart.receiveAll
          ((opened.arrivalsUntilArmed input).map
            Arrival.byte)).listening = true) :
      ContentEnd opened index input
        { opened.receiving index with
          uart :=
            (opened.receiving index).uart.receiveAll
              ((opened.arrivalsUntilArmed input).map Arrival.byte)
          previousRxbuffer := some index
          unlockTimer := true }

theorem withPin_self
    {camera : Camera} {pinIntr : Bool}
    (same : camera.uart.pinIntr = pinIntr) :
    camera.withPin pinIntr = camera := by
  subst same
  rfl

section

variable
    {opened : Camera} {index : Nat} {input : ContentInput}
    (picture : (opened.uart.cells index).recvCb = .cameraPictureRecvDone)

include picture

/-- The picture is complete when `previous_rxbuffer` is assigned. -/
theorem contentEnd_tooSoon
    (pinIntr : Bool)
    (enough :
      capacity (opened.uart.cells index).size ≤
        (opened.arrivalsBefore input).length) :
    ContentEnd opened index input
      ((((opened.receiving index).receiveAll
        (opened.arrivalsBefore input)).withPin pinIntr).awaitContent index
          input) := by
  have listens : (opened.receiving index).uart.listening = true := rfl
  have missing := remaining_receiving opened index
  have completes :=
    receiveAll_completes listens picture rfl (missing.trans_le enough)
  rcases completes.completed with ⟨last, place, completed⟩
  have deaf :
      ({ ((opened.receiving index).receiveAll
          (opened.arrivalsBefore input)).withPin pinIntr with
        previousRxbuffer := some index } : Camera).uart.listening =
          false := by
    rw [Uart.listening, Bool.and_eq_false_iff]
    exact Or.inl completes.etsIntr
  have stopped := completes.etsIntr
  rw [completed, missing] at stopped
  rw [missing] at place
  rw [awaitContent_eq, receiveAll_of_not_listening deaf, completed, missing]
  exact .tooSoon enough place stopped

/-- Bytes of the picture are missing when `previous_rxbuffer` is assigned. -/
theorem contentEnd_later
    (below :
      (opened.arrivalsBefore input).length <
        capacity (opened.uart.cells index).size) :
    ContentEnd opened index input
      (({ opened.receiving index with
        uart :=
          (opened.receiving index).uart.receiveAll
            ((opened.arrivalsBefore input).map Arrival.byte) } :
        Camera).awaitContent index input) := by
  have listens : (opened.receiving index).uart.listening = true := rfl
  have missing := remaining_receiving opened index
  have front := receiveAll_below listens (missing.symm ▸ below)
  rw [front.1] at front
  rcases front.2 with ⟨left, ets, pin⟩
  have received :=
    Uart.received_receiveAll (opened.receiving index).uart
      ((opened.arrivalsBefore input).map Arrival.byte)
  have whole :=
    receiveAll_arrivalsUntilArmed (opened.receiving index).uart opened input
  have count := opened.length_arrivalsUntilArmed input
  rw [awaitContent_eq]
  generalize before :
    (opened.receiving index).uart.receiveAll
      ((opened.arrivalsBefore input).map Arrival.byte) = uart
    at left ets pin received whole ⊢
  have stillListens : uart.listening = true := by
    rw [Uart.listening, ets, pin]
    rfl
  have leftHere : uart.remaining + (opened.arrivalsBefore input).length =
      (opened.receiving index).uart.remaining := left
  by_cases short :
      (input.assigned ++ input.disarmed).length < uart.remaining
  · have rest :=
      @receiveAll_below
        { opened.receiving index with
          uart := uart
          previousRxbuffer := some index }
        stillListens (input.assigned ++ input.disarmed) short
    have listensAfter :
        ((opened.receiving index).uart.receiveAll
          ((opened.arrivalsUntilArmed input).map
            Arrival.byte)).listening = true := by
      have ends := rest.2.2
      rw [rest.1] at ends
      rw [whole, Uart.listening]
      exact
        Bool.and_eq_true_iff.mpr ⟨ends.1.trans ets, ends.2.trans pin⟩
    rw [rest.1]
    have waiting :=
      @ContentEnd.waiting opened index input (by omega) listensAfter
    rw [whole] at waiting
    exact waiting
  · have completes :=
      @receiveAll_completes
        { opened.receiving index with
          uart := uart
          previousRxbuffer := some index }
        index stillListens
        (received.current_recvCb.trans picture)
        (received.buffer.trans rfl)
        (input.assigned ++ input.disarmed) (Nat.not_lt.mp short)
    rcases completes.completed with ⟨last, place, completed⟩
    rw [completed]
    have room := uart.remaining_pos
    have remaining :
        capacity (opened.uart.cells index).size -
            (opened.arrivalsBefore input).length =
          uart.remaining := by
      omega
    have placeOfAll :
        (opened.arrivalsUntilArmed input)[
          capacity (opened.uart.cells index).size - 1]? = some last := by
      rw [getElem?_arrivalsUntilArmed (by omega), Nat.sub_right_comm,
        remaining]
      exact place
    have receivedOfAll :
        (opened.receiving index).uart.receiveAll
            (((opened.arrivalsUntilArmed input).take
              (capacity (opened.uart.cells index).size)).map
              Arrival.byte) =
          uart.receiveAll
            (((input.assigned ++ input.disarmed).take
              uart.remaining).map Arrival.byte) := by
      rw [take_arrivalsUntilArmed below.le, remaining, List.map_append,
        Uart.receiveAll_append, before]
    have etsOff := completes.etsIntr
    have pinOff := completes.pinIntr
    rw [completed] at etsOff pinOff
    have ending :=
      @ContentEnd.beforeTimer opened index input last below (by omega) placeOfAll
        (by
          rw [receivedOfAll]
          exact ⟨etsOff, pinOff⟩)
    rw [receivedOfAll] at ending
    exact ending

end

/--
How a call ends whose buffer is not full before the interrupt is turned on.
-/
theorem contentEnd
    {opened : Camera} {index : Nat} {input : ContentInput}
    (room : ¬opened.FilledEarly index input)
    (picture : (opened.uart.cells index).recvCb = .cameraPictureRecvDone)
    (command : List UInt8) :
    ContentEnd opened index input
      ((opened.requestContent index command input).awaitContent index
        input) := by
  rcases requestContent_eq room command with ⟨pinIntr, requested, pinOn⟩
  rw [requested]
  by_cases enough :
      capacity (opened.uart.cells index).size ≤
        (opened.arrivalsBefore input).length
  · exact contentEnd_tooSoon picture pinIntr enough
  · have below := Nat.not_le.mp enough
    have listens : (opened.receiving index).uart.listening = true := rfl
    have missing := remaining_receiving opened index
    have front := receiveAll_below listens (missing.symm ▸ below)
    have stillListens :
        ((opened.receiving index).receiveAll
          (opened.arrivalsBefore input)).uart.listening = true := by
      rw [Uart.listening, front.2.2.1, front.2.2.2]
      exact listens
    have pin := front.2.2.2.trans (pinOn stillListens).symm
    rw [withPin_self pin, front.1]
    exact contentEnd_later picture below

/-! ## The whole call -/

/-- `Camera_read_content` frees the buffer of a request which never finished. -/
def freed (camera : Camera) : Camera :=
  match camera.previousRxbuffer with
  | none => camera
  | some index =>
      { camera with uart := camera.uart.destroyRxBuffer (some index) }

/-- The driver with the buffer for a picture. -/
def opened (camera : Camera) (dataLen : UInt16) (repConn : Conn) : Camera :=
  { camera with
    replyConn := repConn
    uart := camera.uart.withBuffer (contentSize dataLen) .cameraPictureRecvDone }

@[simp]
theorem opened_cell
    (camera : Camera) (dataLen : UInt16) (repConn : Conn) :
    (camera.opened dataLen repConn).uart.cells camera.uart.created =
      .fresh (contentSize dataLen) .cameraPictureRecvDone := by
  simp [opened, Uart.withBuffer]

theorem readContent_eq
    (camera : Camera) (initAddr dataLen spacingInt : UInt16)
    (repConn : Conn) (input : ContentInput) :
    camera.readContent initAddr dataLen spacingInt repConn input =
      if input.create.grants (contentSize dataLen) then
        (((camera.freed.opened dataLen repConn).requestContent
            camera.freed.uart.created
            (readContentCommand initAddr dataLen spacingInt)
            input).awaitContent camera.freed.uart.created input,
          0)
      else
        ({ camera.freed with replyConn := repConn }, -1) := by
  rw [readContent, Uart.createRxBuffer_eq, contentSize]
  by_cases granted : input.create.grants (2 * 5 + dataLen) = true
  · rw [if_pos granted, if_pos granted]
    rfl
  · rw [if_neg granted, if_neg granted]
    rfl

/-- The driver when `Camera_read_size` has returned to Get Picture. -/
def sized
    (camera : Camera) (input : RequestInput) (outcome : ExchangeOutcome) :
    Camera :=
  (camera.entered input).exchanged .readSize input.exchange outcome

/-- The driver with the buffer for the picture of the size which was read. -/
def requesting
    (camera : Camera) (conn : Conn) (input : RequestInput)
    (outcome : ExchangeOutcome) :
    Camera :=
  (camera.sized input outcome).opened outcome.pictureSize conn

@[simp]
theorem requesting_cell
    (camera : Camera) (conn : Conn) (input : RequestInput)
    (outcome : ExchangeOutcome) :
    (camera.requesting conn input outcome).uart.cells outcome.uart.created =
      .fresh (contentSize outcome.pictureSize) .cameraPictureRecvDone :=
  opened_cell (camera.sized input outcome) outcome.pictureSize conn

/-- How Get Picture ends once the size is read, when it finds no transfer in flight. -/
inductive ContentCase
    (camera : Camera) (conn : Conn) (input : RequestInput)
    (outcome : ExchangeOutcome) : Camera × Int → Prop where
  | refused
      (refused :
        input.content.create.grants (contentSize outcome.pictureSize) = false) :
      ContentCase camera conn input outcome
        ({ camera.sized input outcome with replyConn := conn }, -1)
  | ended {after : Camera}
      (granted :
        input.content.create.grants (contentSize outcome.pictureSize) = true)
      (ends :
        ContentEnd (camera.requesting conn input outcome)
          outcome.uart.created input.content after) :
      ContentCase camera conn input outcome (after, 0)

theorem contentCase
    {camera : Camera} {input : RequestInput} {outcome : ExchangeOutcome}
    (returned :
      SyncCommand.readSize.call (camera.entered input).uart input.exchange =
        some outcome)
    (quiet : (camera.entered input).uart.Quiet)
    (idle : (camera.entered input).previousRxbuffer = none)
    (conn : Conn) :
    ContentCase camera conn input outcome
      (camera.contentRead conn input outcome) := by
  have quietAfter : outcome.uart.Quiet := SyncCommand.quiet returned quiet
  have same : camera.sizeRead input outcome = camera.sized input outcome :=
    receiveAll_of_not_listening quietAfter.deaf input.between
  have nothingFreed :
      (camera.sized input outcome).freed = camera.sized input outcome := by
    have none : (camera.sized input outcome).previousRxbuffer = none := idle
    rw [freed, none]
  rw [contentRead, readContent_eq, same, nothingFreed]
  cases granted :
      input.content.create.grants (contentSize outcome.pictureSize) with
  | false =>
      exact .refused granted
  | true =>
      apply ContentCase.ended granted
      apply contentEnd
      · intro filled
        have deaf :
            (camera.requesting conn input outcome).uart.listening = false :=
          quietAfter.deaf
        rw [FilledEarly, deaf] at filled
        exact absurd filled.1 Bool.false_ne_true
      · rw [requesting_cell]
        rfl

/--
The size of the picture for which Get Picture allocates a buffer, if it comes
so far.
-/
def askedSize (camera : Camera) (input : RequestInput) : Option UInt16 :=
  (SyncCommand.readSize.call (camera.entered input).uart
    input.exchange).bind fun outcome =>
      if outcome.result = 0 ∧
          input.content.create.grants (contentSize outcome.pictureSize) then
        some outcome.pictureSize
      else
        none

theorem askedSize_of_granted
    {camera : Camera} {input : RequestInput} {outcome : ExchangeOutcome}
    (returned :
      SyncCommand.readSize.call (camera.entered input).uart input.exchange =
        some outcome)
    (success : outcome.result = 0)
    (granted :
      input.content.create.grants (contentSize outcome.pictureSize) = true) :
    camera.askedSize input = some outcome.pictureSize := by
  rw [askedSize, returned, Option.bind_some, if_pos ⟨success, granted⟩]

theorem askedSize_of_failed
    {camera : Camera} {input : RequestInput} {outcome : ExchangeOutcome}
    (returned :
      SyncCommand.readSize.call (camera.entered input).uart input.exchange =
        some outcome)
    (failed :
      outcome.result = 0 →
        input.content.create.grants (contentSize outcome.pictureSize) =
          false) :
    camera.askedSize input = none := by
  rw [askedSize, returned, Option.bind_some, if_neg]
  rintro ⟨success, granted⟩
  rw [failed success] at granted
  exact absurd granted Bool.false_ne_true

/-- The bytes which arrive from `bit_bang_send` until the timer is armed. -/
def ContentInput.afterSend (input : ContentInput) : List Arrival :=
  input.sent ++ (input.assigned ++ input.disarmed)

theorem arrivalsBefore_of_quiet
    {camera : Camera}
    (quiet : camera.uart.Quiet) (input : ContentInput) :
    camera.arrivalsBefore input = input.sent := by
  rw [arrivalsBefore, quiet.deaf, quiet.pinIntr]
  rfl

theorem arrivalsUntilArmed_of_quiet
    {camera : Camera}
    (quiet : camera.uart.Quiet) (input : ContentInput) :
    camera.arrivalsUntilArmed input = input.afterSend := by
  rw [arrivalsUntilArmed, arrivalsBefore_of_quiet quiet,
    ContentInput.afterSend]

end Camera

end EspFirmware
