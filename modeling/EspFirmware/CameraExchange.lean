import EspFirmware.Reception

/-!
# The synchronous exchanges of `camera.c`

Eight functions send a command to the camera and wait for its response.  They
differ in the command, in the pattern of a success and in the size of the
response, and two of them put their argument into the command.  The exchange
which they share takes the answers of the allocator, the bytes which arrive
in each of its stretches, and the readings of the tick counter.  It has no
outcome while the readings which it is given leave it waiting.
-/

namespace EspFirmware

/-! ## The exchange -/

/-- `TOTICKS`. -/
def toTicks (microseconds : UInt32) : UInt32 :=
  (microseconds * 5) >>> 4

/-- `CAMERA_RESPONSE_TIMEOUT`. -/
def cameraResponseTimeout : UInt32 := 10000

/-- What a synchronous function sends and expects. -/
structure Exchange where
  command : List UInt8
  success : List UInt8
  responseSize : UInt16

/--
One test of the wait loop: the bytes which have arrived since the test
before, and the ticks of the counter since the loop began, which are fewer
than its period.
-/
structure Poll where
  bytes : List UInt8
  ticks : UInt32
deriving DecidableEq

/--
The outcomes of the calls of one exchange.  The bytes arrive between
`set_rx_buffer` and the end of `enable_interrupts`, from there to
`bit_bang_send`, before each test of the loop, and after the last one.
`clock` is the counter when the loop begins.
-/
structure ExchangeInput where
  create : Uart.CreateAnswers
  installed : List UInt8
  early : List UInt8
  clock : UInt32
  polls : List Poll
  late : List UInt8
deriving DecidableEq

/-- How the wait loop ended: after how many tests in vain, and whether the buffer was full. -/
structure Waited where
  uart : Uart
  vain : Nat
  full : Bool

/-- `while (!read_buffer_full())`, with the timeout in its body. -/
def waitResponse (clock : UInt32) (uart : Uart) : List Poll → Option Waited
  | [] => none
  | poll :: rest =>
      let uart := uart.receiveAll poll.bytes
      if uart.readBufferFull then
        some { uart, vain := 0, full := true }
      else if toTicks cameraResponseTimeout < (clock + poll.ticks) - clock then
        some { uart, vain := 0, full := false }
      else
        (waitResponse clock uart rest).map fun waited =>
          { waited with vain := waited.vain + 1 }

/-- The UART when the loop begins: buffer `index` is installed and the command is sent. -/
def requested
    (uart : Uart) (index : Nat) (exchange : Exchange) (input : ExchangeInput) :
    Uart :=
  let uart := (uart.setRxBuffer index).receiveAll input.installed
  let uart := uart.enableInterrupts.receiveAll input.early
  (uart.bitBangSend exchange.command).1

/--
What an exchange returned, the response it compared, and after how many
tests in vain it did so.
-/
structure ExchangeOutcome where
  result : Int
  response : List UInt8
  uart : Uart
  vain : Nat

/-- The end of an exchange: compare the response, or give up. -/
def concludeExchange
    (exchange : Exchange) (index : Nat) (late : List UInt8)
    (waited : Waited) :
    ExchangeOutcome :=
  if waited.full then
    let response := (waited.uart.cells index).buf.bytes
    { result :=
        if response.take exchange.success.length = exchange.success then 0
        else 1
      response
      uart := (waited.uart.receiveAll late).destroyRxBuffer (some index)
      vain := waited.vain }
  else
    { result := 1
      response := []
      uart :=
        (waited.uart.receiveAll late).disableInterrupts.destroyRxBuffer
          (some index)
      vain := waited.vain }

/-- What the synchronous functions do alike. -/
def runExchange
    (uart : Uart) (exchange : Exchange) (input : ExchangeInput) :
    Option ExchangeOutcome :=
  match uart.createRxBuffer input.create exchange.responseSize .null with
  | (uart, none) =>
      some { result := -1, response := [], uart, vain := 0 }
  | (uart, some index) =>
      (waitResponse input.clock (requested uart index exchange input)
        input.polls).map
        (concludeExchange exchange index input.late)

/-! ## The functions -/

/-- The exchange of `Camera_reset`. -/
def resetExchange : Exchange where
  command := [0x56, 0x00, 0x26, 0x00]
  success := [0x76, 0x00, 0x26, 0x00]
  responseSize := 4

/-- `Camera_reset`. -/
def cameraReset (uart : Uart) (input : ExchangeInput) :
    Option ExchangeOutcome :=
  runExchange uart resetExchange input

/-- The exchange of `Camera_take_picture`. -/
def takePictureExchange : Exchange where
  command := [0x56, 0x00, 0x36, 0x01, 0x00]
  success := [0x76, 0x00, 0x36, 0x00, 0x00]
  responseSize := 5

/-- `Camera_take_picture`. -/
def cameraTakePicture (uart : Uart) (input : ExchangeInput) :
    Option ExchangeOutcome :=
  runExchange uart takePictureExchange input

/-- The exchange of `Camera_read_size`. -/
def readSizeExchange : Exchange where
  command := [0x56, 0x00, 0x34, 0x01, 0x00]
  success := [0x76, 0x00, 0x34, 0x00, 0x04, 0x00, 0x00]
  responseSize := 9

/-- `Camera_read_size`, without its result parameter. -/
def cameraReadSize (uart : Uart) (input : ExchangeInput) :
    Option ExchangeOutcome :=
  runExchange uart readSizeExchange input

/-- What `Camera_read_size` stores through `size_p` on success. -/
def ExchangeOutcome.pictureSize (outcome : ExchangeOutcome) : UInt16 :=
  (outcome.response.getD 7 0).toUInt16 <<< 8 |||
    (outcome.response.getD 8 0).toUInt16

/-- The exchange of `Camera_stop_pictures`. -/
def stopPicturesExchange : Exchange where
  command := [0x56, 0x00, 0x36, 0x01, 0x03]
  success := [0x76, 0x00, 0x36, 0x00, 0x00]
  responseSize := 5

/-- `Camera_stop_pictures`. -/
def cameraStopPictures (uart : Uart) (input : ExchangeInput) :
    Option ExchangeOutcome :=
  runExchange uart stopPicturesExchange input

/-- The exchange of `Camera_compression_ratio`. -/
def compressionRatioExchange (ratio : UInt8) : Exchange where
  command := [0x56, 0x00, 0x31, 0x05, 0x01, 0x01, 0x12, 0x04, ratio]
  success := [0x76, 0x00, 0x31, 0x00, 0x00]
  responseSize := 5

/-- `Camera_compression_ratio`. -/
def cameraCompressionRatio
    (uart : Uart) (ratio : UInt8) (input : ExchangeInput) :
    Option ExchangeOutcome :=
  runExchange uart (compressionRatioExchange ratio) input

/-- The exchange of `Camera_set_image_size`. -/
def setImageSizeExchange (size : UInt8) : Exchange where
  command := [0x56, 0x00, 0x54, 0x01, size * 0x11]
  success := [0x76, 0x00, 0x54, 0x00, 0x00]
  responseSize := 5

/-- `Camera_set_image_size`. -/
def cameraSetImageSize
    (uart : Uart) (size : UInt8) (input : ExchangeInput) :
    Option ExchangeOutcome :=
  if 2 < size then
    some { result := -1, response := [], uart, vain := 0 }
  else
    runExchange uart (setImageSizeExchange size) input

/-- The exchange of `Camera_power_saving_on`. -/
def powerSavingOnExchange : Exchange where
  command := [0x56, 0x00, 0x3e, 0x03, 0x00, 0x01, 0x01]
  success := [0x76, 0x00, 0x3e, 0x00, 0x00]
  responseSize := 5

/-- `Camera_power_saving_on`. -/
def cameraPowerSavingOn (uart : Uart) (input : ExchangeInput) :
    Option ExchangeOutcome :=
  runExchange uart powerSavingOnExchange input

/-- The exchange of `Camera_power_saving_off`. -/
def powerSavingOffExchange : Exchange where
  command := [0x56, 0x00, 0x3e, 0x03, 0x00, 0x01, 0x00]
  success := [0x76, 0x00, 0x3e, 0x00, 0x00]
  responseSize := 5

/-- `Camera_power_saving_off`. -/
def cameraPowerSavingOff (uart : Uart) (input : ExchangeInput) :
    Option ExchangeOutcome :=
  runExchange uart powerSavingOffExchange input

/-! ### A call of any of them -/

/-- A call of one of the eight functions. -/
inductive SyncCommand where
  | reset
  | takePicture
  | readSize
  | stopPictures
  | compressionRatio (ratio : UInt8)
  | setImageSize (size : UInt8)
  | powerSavingOn
  | powerSavingOff
deriving DecidableEq

namespace SyncCommand

/-- Call the function. -/
def call (command : SyncCommand) (uart : Uart) (input : ExchangeInput) :
    Option ExchangeOutcome :=
  match command with
  | reset => cameraReset uart input
  | takePicture => cameraTakePicture uart input
  | readSize => cameraReadSize uart input
  | stopPictures => cameraStopPictures uart input
  | compressionRatio ratio => cameraCompressionRatio uart ratio input
  | setImageSize size => cameraSetImageSize uart size input
  | powerSavingOn => cameraPowerSavingOn uart input
  | powerSavingOff => cameraPowerSavingOff uart input

/-- What the function sends and expects. -/
def exchange : SyncCommand → Exchange
  | reset => resetExchange
  | takePicture => takePictureExchange
  | readSize => readSizeExchange
  | stopPictures => stopPicturesExchange
  | compressionRatio ratio => compressionRatioExchange ratio
  | setImageSize size => setImageSizeExchange size
  | powerSavingOn => powerSavingOnExchange
  | powerSavingOff => powerSavingOffExchange

/-- The function accepts its argument. -/
def accepts : SyncCommand → Bool
  | setImageSize size => decide (size ≤ 2)
  | _ => true

/-- All of the functions are the same exchange, behind a check of the argument. -/
theorem call_eq
    (command : SyncCommand) (uart : Uart) (input : ExchangeInput) :
    command.call uart input =
      if command.accepts then
        runExchange uart command.exchange input
      else
        some { result := -1, response := [], uart, vain := 0 } := by
  cases command with
  | setImageSize size =>
      by_cases large : 2 < size
      · have refused : ¬size ≤ 2 := UInt8.not_le.mpr large
        simp [call, cameraSetImageSize, accepts, large, refused]
      · have accepted : size ≤ 2 := UInt8.not_lt.mp large
        simp [call, cameraSetImageSize, accepts, exchange, large, accepted]
  | reset | takePicture | readSize | stopPictures | powerSavingOn
  | powerSavingOff =>
      rfl
  | compressionRatio ratio =>
      rfl

theorem responseSize_pos (command : SyncCommand) :
    0 < command.exchange.responseSize.toNat := by
  cases command with
  | reset =>
      exact Nat.zero_lt_succ 3
  | readSize =>
      exact Nat.zero_lt_succ 8
  | takePicture | stopPictures | compressionRatio | setImageSize
  | powerSavingOn | powerSavingOff =>
      exact Nat.zero_lt_succ 4

end SyncCommand

/-! ## The wait loop -/

/-- The UART at one test of the loop. -/
def testedAt (start : Uart) (polls : List Poll) (test : Nat) : Uart :=
  start.receiveAll ((polls.take (test + 1)).flatMap Poll.bytes)

/-- The buffer is full at a test of the loop. -/
def FullAt (start : Uart) (polls : List Poll) (test : Nat) : Prop :=
  (testedAt start polls test).readBufferFull = true

/-- More than the timeout has elapsed at a test of the loop. -/
def LateAt (polls : List Poll) (test : Nat) : Prop :=
  ∃ poll, polls[test]? = some poll ∧
    toTicks cameraResponseTimeout < poll.ticks

theorem testedAt_cons
    (start : Uart) (poll : Poll) (polls : List Poll) (test : Nat) :
    testedAt start (poll :: polls) (test + 1) =
      testedAt (start.receiveAll poll.bytes) polls test := by
  rw [testedAt, List.take_succ_cons, List.flatMap_cons,
    Uart.receiveAll_append]
  rfl

theorem fullAt_zero (start : Uart) (poll : Poll) (polls : List Poll) :
    FullAt start (poll :: polls) 0 ↔
      (start.receiveAll poll.bytes).readBufferFull = true := by
  rw [FullAt, testedAt, Nat.zero_add, List.take_succ_cons, List.take_zero,
    List.flatMap_singleton]

theorem fullAt_cons
    (start : Uart) (poll : Poll) (polls : List Poll) (test : Nat) :
    FullAt start (poll :: polls) (test + 1) ↔
      FullAt (start.receiveAll poll.bytes) polls test := by
  rw [FullAt, FullAt, testedAt_cons]

theorem lateAt_zero (poll : Poll) (polls : List Poll) :
    LateAt (poll :: polls) 0 ↔
      toTicks cameraResponseTimeout < poll.ticks := by
  simp [LateAt]

theorem lateAt_cons (poll : Poll) (polls : List Poll) (test : Nat) :
    LateAt (poll :: polls) (test + 1) ↔ LateAt polls test := by
  simp [LateAt]

/-- The difference to the start is right when the counter wraps in between. -/
theorem elapsed_eq (clock ticks : UInt32) :
    (clock + ticks) - clock = ticks := by
  rw [UInt32.add_comm, UInt32.add_sub_cancel]

/-- The loop goes on only while the buffer is not full and it is not late. -/
theorem waitResponse_eq_none
    (clock : UInt32) (start : Uart) (polls : List Poll) :
    waitResponse clock start polls = none ↔
      ∀ test < polls.length, ¬FullAt start polls test ∧ ¬LateAt polls test := by
  induction polls generalizing start with
  | nil =>
      simp [waitResponse]
  | cons poll rest induction =>
      rw [waitResponse, elapsed_eq]
      constructor
      · intro waits
        by_cases full : (start.receiveAll poll.bytes).readBufferFull = true
        · simp [full] at waits
        · by_cases late : toTicks cameraResponseTimeout < poll.ticks
          · simp [full, late] at waits
          · rw [if_neg full, if_neg late, Option.map_eq_none_iff,
              induction] at waits
            intro test within
            cases test with
            | zero =>
                rw [fullAt_zero, lateAt_zero]
                exact ⟨full, late⟩
            | succ test =>
                rw [fullAt_cons, lateAt_cons]
                exact waits test (Nat.lt_of_succ_lt_succ within)
      · intro waits
        have first := waits 0 (Nat.zero_lt_succ _)
        rw [fullAt_zero, lateAt_zero] at first
        rw [if_neg first.1, if_neg first.2, Option.map_eq_none_iff, induction]
        intro test within
        have later := waits (test + 1) (Nat.succ_lt_succ within)
        rw [fullAt_cons, lateAt_cons] at later
        exact later

/-- Where and why the loop ended. -/
structure Ended
    (start : Uart) (polls : List Poll) (waited : Waited) : Prop where
  tested : waited.vain < polls.length
  before :
    ∀ test < waited.vain, ¬FullAt start polls test ∧ ¬LateAt polls test
  full : waited.full = true ↔ FullAt start polls waited.vain
  ended : FullAt start polls waited.vain ∨ LateAt polls waited.vain
  uart : waited.uart = testedAt start polls waited.vain

theorem waitResponse_eq_some
    {clock : UInt32} {start : Uart} {polls : List Poll} {waited : Waited}
    (returned : waitResponse clock start polls = some waited) :
    Ended start polls waited := by
  induction polls generalizing start waited with
  | nil =>
      simp [waitResponse] at returned
  | cons poll rest induction =>
      have here : testedAt start (poll :: rest) 0 =
          start.receiveAll poll.bytes := by
        rw [testedAt, Nat.zero_add, List.take_succ_cons, List.take_zero,
          List.flatMap_singleton]
      rw [waitResponse, elapsed_eq] at returned
      by_cases full : (start.receiveAll poll.bytes).readBufferFull = true
      · rw [if_pos full, Option.some.injEq] at returned
        subst returned
        exact
          { tested := Nat.zero_lt_succ _
            before := fun _ absurd => False.elim (Nat.not_lt_zero _ absurd)
            full := by
              rw [fullAt_zero, full]
            ended := Or.inl ((fullAt_zero start poll rest).mpr full)
            uart := here.symm }
      · rw [if_neg full] at returned
        by_cases late : toTicks cameraResponseTimeout < poll.ticks
        · rw [if_pos late, Option.some.injEq] at returned
          subst returned
          exact
            { tested := Nat.zero_lt_succ _
              before := fun _ absurd => False.elim (Nat.not_lt_zero _ absurd)
              full := by
                rw [fullAt_zero]
                simp [full]
              ended := Or.inr ((lateAt_zero poll rest).mpr late)
              uart := here.symm }
        · rw [if_neg late, Option.map_eq_some_iff] at returned
          rcases returned with ⟨later, ran, rfl⟩
          have ended := induction ran
          exact
            { tested := Nat.succ_lt_succ ended.tested
              before := by
                intro test earlier
                cases test with
                | zero =>
                    rw [fullAt_zero, lateAt_zero]
                    exact ⟨full, late⟩
                | succ test =>
                    rw [fullAt_cons, lateAt_cons]
                    exact ended.before test (Nat.lt_of_succ_lt_succ earlier)
              full := by
                rw [fullAt_cons]
                exact ended.full
              ended := by
                rw [fullAt_cons, lateAt_cons]
                exact ended.ended
              uart := by
                rw [testedAt_cons]
                exact ended.uart }

/-! ## From the installed buffer to its end -/

theorem serving_requested
    (base : Uart) (index : Nat) (exchange : Exchange) (input : ExchangeInput) :
    Uart.Serving base index (requested base index exchange input) := by
  have installed :=
    (Uart.Serving.setRxBuffer base index).receiveAll input.installed
  have early :=
    (installed.enables true
      ((base.setRxBuffer index).receiveAll input.installed).pinIntr).receiveAll
      input.early
  exact early.enables _ true

theorem serving_testedAt
    {base start : Uart} {index : Nat}
    (serving : Uart.Serving base index start)
    (polls : List Poll) (test : Nat) :
    Uart.Serving base index (testedAt start polls test) :=
  serving.receiveAll _

/--
What an exchange returned.  All that depends on the interrupt enables is left
open.
-/
structure Concluded
    (base : Uart) (index : Nat) (exchange : Exchange) (input : ExchangeInput)
    (outcome : ExchangeOutcome) : Prop where
  tested : outcome.vain < input.polls.length
  before :
    ∀ test < outcome.vain,
      ¬FullAt (requested base index exchange input) input.polls test ∧
        ¬LateAt input.polls test
  ended :
    FullAt (requested base index exchange input) input.polls outcome.vain ∨
      LateAt input.polls outcome.vain
  result :
    outcome.result = 0 ↔
      FullAt (requested base index exchange input) input.polls outcome.vain ∧
        exchange.success <+:
          ((testedAt (requested base index exchange input) input.polls
            outcome.vain).cells index).buf.bytes
  response :
    outcome.result = 0 →
      outcome.response =
        ((testedAt (requested base index exchange input) input.polls
          outcome.vain).cells index).buf.bytes
  enablesFull :
    FullAt (requested base index exchange input) input.polls outcome.vain →
      outcome.uart.etsIntr =
          ((testedAt (requested base index exchange input) input.polls
            outcome.vain).receiveAll input.late).etsIntr ∧
        outcome.uart.pinIntr =
          ((testedAt (requested base index exchange input) input.polls
            outcome.vain).receiveAll input.late).pinIntr
  enablesLate :
    ¬FullAt (requested base index exchange input) input.polls outcome.vain →
      outcome.uart.etsIntr = false ∧ outcome.uart.pinIntr = false
  destroyed : Uart.Destroyed base index outcome.uart

theorem destroyRxBuffer_enables (uart : Uart) (bufferToKill : Option Nat) :
    (uart.destroyRxBuffer bufferToKill).etsIntr = uart.etsIntr ∧
      (uart.destroyRxBuffer bufferToKill).pinIntr = uart.pinIntr := by
  have flushed :
      uart.flushReadBuffer.etsIntr = uart.etsIntr ∧
        uart.flushReadBuffer.pinIntr = uart.pinIntr := by
    rw [Uart.flushReadBuffer]
    cases uart.buffer with
    | none =>
        exact ⟨rfl, rfl⟩
    | some current =>
        simp only
        split <;> exact ⟨rfl, rfl⟩
  cases bufferToKill with
  | none | some _ =>
      exact flushed

theorem concluded_of_ended
    {base : Uart} {index : Nat}
    {exchange : Exchange} {input : ExchangeInput} {waited : Waited}
    (live : (base.cells index).structReleases = 0)
    (ended : Ended (requested base index exchange input) input.polls waited) :
    Concluded base index exchange input
      (concludeExchange exchange index input.late waited) := by
  have serving :=
    serving_testedAt (serving_requested base index exchange input)
      input.polls waited.vain
  rw [concludeExchange]
  by_cases full : waited.full = true
  · have fullAt := ended.full.mp full
    rw [if_pos full]
    exact
      { tested := ended.tested
        before := ended.before
        ended := ended.ended
        result := by
          rw [List.prefix_iff_eq_take, ended.uart]
          simp [fullAt, eq_comm]
        response := fun _ => by rw [ended.uart]
        enablesFull := by
          intro _
          rw [ended.uart]
          exact destroyRxBuffer_enables _ _
        enablesLate := fun notFull => absurd fullAt notFull
        destroyed := by
          rw [ended.uart]
          exact (serving.receiveAll input.late).destroy live }
  · have notFull := fun fullAt => full (ended.full.mpr fullAt)
    rw [if_neg full]
    exact
      { tested := ended.tested
        before := ended.before
        ended := ended.ended
        result := by
          constructor
          · intro success
            exact absurd success Int.one_ne_zero
          · intro success
            exact absurd success.1 notFull
        response := by
          intro success
          exact absurd success Int.one_ne_zero
        enablesFull := fun fullAt => absurd fullAt notFull
        enablesLate := by
          intro _
          exact destroyRxBuffer_enables _ _
        destroyed := by
          rw [ended.uart]
          exact
            ((serving.receiveAll input.late).enables false false).destroy
              live }

/-- The UART with the buffer which an exchange allocates. -/
def allocated (uart : Uart) (exchange : Exchange) : Uart :=
  uart.withBuffer exchange.responseSize .null

@[simp]
theorem allocated_cell (uart : Uart) (exchange : Exchange) :
    (allocated uart exchange).cells uart.created =
      .fresh exchange.responseSize .null := by
  simp [allocated, Uart.withBuffer]

/-- An exchange without a buffer. -/
theorem runExchange_of_not_granted
    {uart : Uart} {exchange : Exchange} {input : ExchangeInput}
    (refused : input.create.grants exchange.responseSize = false) :
    runExchange uart exchange input =
      some { result := -1, response := [], uart, vain := 0 } := by
  rw [runExchange, Uart.createRxBuffer_eq, refused]
  rfl

theorem runExchange_of_granted
    {uart : Uart} {exchange : Exchange} {input : ExchangeInput}
    (granted : input.create.grants exchange.responseSize = true) :
    runExchange uart exchange input =
      (waitResponse input.clock
        (requested (allocated uart exchange) uart.created exchange input)
        input.polls).map
        (concludeExchange exchange uart.created input.late) := by
  rw [runExchange, Uart.createRxBuffer_eq, granted]
  rfl

/-- An exchange which got its buffer, when it has returned. -/
theorem concluded_of_granted
    {uart : Uart} {exchange : Exchange} {input : ExchangeInput}
    {outcome : ExchangeOutcome}
    (granted : input.create.grants exchange.responseSize = true)
    (returned : runExchange uart exchange input = some outcome) :
    Concluded (allocated uart exchange) uart.created exchange input
      outcome := by
  rw [runExchange_of_granted granted, Option.map_eq_some_iff] at returned
  rcases returned with ⟨waited, ran, rfl⟩
  have live :
      ((allocated uart exchange).cells uart.created).structReleases = 0 := by
    rw [allocated_cell]
    rfl
  exact concluded_of_ended live (waitResponse_eq_some ran)

namespace SyncCommand

/-- The argument is accepted and the allocations succeed. -/
def granted (command : SyncCommand) (input : ExchangeInput) : Bool :=
  command.accepts && input.create.grants command.exchange.responseSize

theorem call_of_granted
    {command : SyncCommand} {input : ExchangeInput}
    (uart : Uart) (granted : command.granted input = true) :
    command.call uart input = runExchange uart command.exchange input ∧
      input.create.grants command.exchange.responseSize = true := by
  rw [SyncCommand.granted, Bool.and_eq_true] at granted
  rw [call_eq, if_pos granted.1]
  exact ⟨rfl, granted.2⟩

/-- A call returns when the clock passes the timeout, whatever the camera answers. -/
theorem call_returns
    (command : SyncCommand) (uart : Uart) {input : ExchangeInput}
    {test : Nat}
    (late : LateAt input.polls test) :
    ∃ outcome, command.call uart input = some outcome := by
  rw [call_eq]
  by_cases accepted : command.accepts = true
  · rw [if_pos accepted]
    cases granted : input.create.grants command.exchange.responseSize with
    | false =>
        exact ⟨_, runExchange_of_not_granted granted⟩
    | true =>
        rw [runExchange_of_granted granted]
        apply Option.isSome_iff_exists.mp
        rw [Option.isSome_map, Option.isSome_iff_ne_none]
        intro waits
        rw [waitResponse_eq_none] at waits
        rcases late with ⟨poll, place, exceeded⟩
        have within := (List.getElem?_eq_some_iff.mp place).1
        exact (waits test within).2 ⟨poll, place, exceeded⟩
  · rw [if_neg accepted]
    exact ⟨_, rfl⟩

theorem call_of_not_granted
    {command : SyncCommand} {input : ExchangeInput}
    (uart : Uart) (refused : command.granted input = false) :
    command.call uart input =
      some { result := -1, response := [], uart, vain := 0 } := by
  rw [SyncCommand.granted, Bool.and_eq_false_iff] at refused
  rw [call_eq]
  cases accepted : command.accepts with
  | false =>
      rfl
  | true =>
      rw [if_pos rfl]
      apply runExchange_of_not_granted
      simpa [accepted] using refused

end SyncCommand

end EspFirmware
