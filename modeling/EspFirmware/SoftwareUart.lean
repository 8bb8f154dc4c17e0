import EspFirmware.Memory

/-!
# The software UART of `software_uart.c`

The receive buffers are kept in the order of their allocation, and a pointer
to one is its place in that order.  A buffer which was freed keeps its
contents, and its place is not used again.  A null pointer to a buffer reads
as zeros.  Accesses which are not inside of a live block do not trap; they
are recorded.  The timing of the samples and the console output are left
out.
-/

namespace EspFirmware

/-! ## Receive buffers -/

/-- Write one byte of an array, if it is inside. -/
def Chars.set {size : Nat} (array : Chars size) (index : Nat) (byte : UInt8) :
    Chars size where
  bytes := array.bytes.set index byte
  length_bytes := by simp

/-- The functions which `recv_cb` points to. -/
inductive RecvCb where
  | null
  | cameraPictureRecvDone
deriving DecidableEq

/--
`struct rx_buffer` with its data block.  Two counters say how often the data
block was freed or handed to another owner, and how often the structure was
freed.
-/
structure RxBuffer where
  size : UInt16
  buf : Chars size.toNat
  recvCb : RecvCb
  bufReleases : Nat
  structReleases : Nat

namespace RxBuffer

/-- A buffer as `create_rx_buffer` fills it in. -/
def fresh (size : UInt16) (recvCb : RecvCb) : RxBuffer where
  size := size
  buf := .zeros size.toNat
  recvCb := recvCb
  bufReleases := 0
  structReleases := 0

/-- What a null pointer points to. -/
def null : RxBuffer :=
  fresh 0 .null

/-- `buffer->buf[index] = byte`, inside of the block. -/
def store (buffer : RxBuffer) (index : Nat) (byte : UInt8) : RxBuffer :=
  { buffer with buf := buffer.buf.set index byte }

/-- `os_memset(buffer->buf, 0, buffer->size)`. -/
def clear (buffer : RxBuffer) : RxBuffer :=
  { buffer with buf := .zeros buffer.size.toNat }

/-- `os_free(buffer->buf)`, or the data block is handed to another owner. -/
def releaseBuf (buffer : RxBuffer) : RxBuffer :=
  { buffer with bufReleases := buffer.bufReleases + 1 }

/-- `os_free(buffer)`. -/
def releaseStruct (buffer : RxBuffer) : RxBuffer :=
  { buffer with structReleases := buffer.structReleases + 1 }

end RxBuffer

/-! ## State -/

/-- An access which is not inside of a live block. -/
inductive UartFault where
  | storeOutside
  | flushNull
  | flushFreed
deriving DecidableEq

/--
The static variables of `software_uart.c`, the two interrupt enables, and the
receive buffers allocated so far.
-/
structure Uart where
  byteCount : UInt16
  buffer : Option Nat
  etsIntr : Bool
  pinIntr : Bool
  created : Nat
  cells : Nat → RxBuffer
  faults : List UartFault

namespace Uart

/-- The statically initialised UART. -/
def boot : Uart where
  byteCount := 0
  buffer := none
  etsIntr := false
  pinIntr := false
  created := 0
  cells := fun _ => .null
  faults := []

/-- What the global pointer `buffer` points to. -/
def current (uart : Uart) : RxBuffer :=
  match uart.buffer with
  | none => .null
  | some index => uart.cells index

/-- A start bit calls `bit_bang_read_byte`. -/
def listening (uart : Uart) : Bool :=
  uart.etsIntr && uart.pinIntr

/-- Change one receive buffer. -/
def updateCell (uart : Uart) (index : Nat) (change : RxBuffer → RxBuffer) :
    Uart :=
  { uart with
    cells := fun other =>
      if other = index then change (uart.cells index) else uart.cells other }

/-- Record an access which is not inside of a live block. -/
def fault (uart : Uart) (kind : UartFault) : Uart :=
  { uart with faults := uart.faults ++ [kind] }

/-! ## Functions -/

/-- `enable_interrupts`. -/
def enableInterrupts (uart : Uart) : Uart :=
  { uart with etsIntr := true }

/-- `disable_interrupts`. -/
def disableInterrupts (uart : Uart) : Uart :=
  { uart with pinIntr := false, etsIntr := false }

/-- `read_buffer_full`. -/
def readBufferFull (uart : Uart) : Bool :=
  if uart.byteCount < uart.current.size then false else true

/-- `flush_read_buffer`. -/
def flushReadBuffer (uart : Uart) : Uart :=
  let flushed :=
    match uart.buffer with
    | none => uart.fault .flushNull
    | some index =>
        if (uart.cells index).structReleases = 0 then
          uart.updateCell index .clear
        else
          (uart.updateCell index .clear).fault .flushFreed
  { flushed with byteCount := 0, buffer := none }

/-- `set_rx_buffer`. -/
def setRxBuffer (uart : Uart) (bufferSet : Nat) : Uart :=
  { uart with buffer := some bufferSet, byteCount := 0 }

/-- The answers to the calls of `create_rx_buffer`. -/
structure CreateAnswers where
  heapSize : UInt32
  buffer : Bool
  bufferStruct : Bool
deriving DecidableEq

/-- `create_rx_buffer`; without a buffer it returned `NULL`. -/
def createRxBuffer
    (uart : Uart) (answers : CreateAnswers)
    (responseSize : UInt16) (recvCb : RecvCb) :
    Uart × Option Nat :=
  if answers.heapSize ≤ responseSize.toUInt32 then
    (uart, none)
  else if answers.buffer then
    if answers.bufferStruct then
      ({ uart.updateCell uart.created fun _ => .fresh responseSize recvCb with
          created := uart.created + 1 },
        some uart.created)
    else
      (uart, none)
  else
    (uart, none)

/-- `destroy_rx_buffer`. -/
def destroyRxBuffer (uart : Uart) (bufferToKill : Option Nat) : Uart :=
  let flushed := uart.flushReadBuffer
  match bufferToKill with
  | none => flushed
  | some index =>
      flushed.updateCell index fun buffer => buffer.releaseBuf.releaseStruct

/-! ### Sending -/

/-- The loop over the data bits in `bit_bang_send`: the low bits of a byte, lowest first. -/
def dataBits : Nat → UInt8 → List Bool
  | 0, _ => []
  | count + 1, byte => (byte &&& 1 != 0) :: dataBits count (byte >>> 1)

/-- The levels of the line for one byte: start bit, data bits, stop bit. -/
def sendByte (byte : UInt8) : List Bool :=
  false :: dataBits 8 byte ++ [true]

/--
`bit_bang_send`, and the levels it drives for one bit time each.  No byte is
received meanwhile, because the interrupt of the pin is off.
-/
def bitBangSend (uart : Uart) (data : List UInt8) : Uart × List Bool :=
  ({ uart with pinIntr := true }, data.flatMap sendByte)

/-! ### Receiving -/

/-- One turn of the loop in `bit_bang_read_byte`. -/
def sampleBit (byte : UInt8) (level : Bool) : UInt8 :=
  byte >>> 1 ||| level.toUInt8 <<< 7

/-- `buffer->buf[byte_count++] = byte`. -/
def store (uart : Uart) (byte : UInt8) : Uart :=
  let stored :=
    match uart.buffer with
    | none => uart.fault .storeOutside
    | some index =>
        if uart.byteCount.toNat < (uart.cells index).size.toNat then
          uart.updateCell index (·.store uart.byteCount.toNat byte)
        else
          uart.fault .storeOutside
  { stored with byteCount := uart.byteCount + 1 }

/--
`bit_bang_read_byte` from the end of its loop on, and the buffer whose
`recv_cb` it calls last.
-/
def bitBangReadByte (uart : Uart) (byte : UInt8) : Uart × Option Nat :=
  let stored := uart.store byte
  if stored.byteCount = stored.current.size then
    let disabled := stored.disableInterrupts
    (disabled,
      if disabled.current.recvCb = .null then none else disabled.buffer)
  else
    (stored, none)

/-- A byte arrives on the line. -/
def receive (uart : Uart) (byte : UInt8) : Uart × Option Nat :=
  if uart.listening then uart.bitBangReadByte byte else (uart, none)

/-- Bytes arrive on the line, and no `recv_cb` is called. -/
def receiveAll (uart : Uart) (bytes : List UInt8) : Uart :=
  bytes.foldl (fun uart byte => (uart.receive byte).1) uart

/-! ## Receiving -/

@[simp]
theorem updateCell_self
    (uart : Uart) (index : Nat) (change : RxBuffer → RxBuffer) :
    (uart.updateCell index change).cells index =
      change (uart.cells index) := by
  simp [updateCell]

@[simp]
theorem updateCell_other
    (uart : Uart) {index other : Nat} (change : RxBuffer → RxBuffer)
    (differ : other ≠ index) :
    (uart.updateCell index change).cells other = uart.cells other := by
  simp [updateCell, differ]

/-- A change that keeps a field of one buffer keeps it in all of them. -/
theorem updateCell_field
    {α : Type} {field : RxBuffer → α}
    {uart : Uart} {index : Nat} {change : RxBuffer → RxBuffer}
    (keeps : ∀ cell, field (change cell) = field cell) (other : Nat) :
    field ((uart.updateCell index change).cells other) =
      field (uart.cells other) := by
  by_cases same : other = index
  · rw [same, updateCell_self, keeps]
  · rw [updateCell_other uart change same]

theorem readBufferFull_eq_true {uart : Uart} :
    uart.readBufferFull = true ↔
      uart.current.size.toNat ≤ uart.byteCount.toNat := by
  rw [readBufferFull, ← Nat.not_lt, ← UInt16.lt_iff_toNat_lt]
  split <;> simp [*]

theorem receive_of_not_listening
    {uart : Uart}
    (deaf : uart.listening = false) (byte : UInt8) :
    uart.receive byte = (uart, none) := by
  rw [receive, deaf]
  rfl

theorem receiveAll_of_not_listening
    {uart : Uart}
    (deaf : uart.listening = false) (bytes : List UInt8) :
    uart.receiveAll bytes = uart := by
  induction bytes with
  | nil =>
      rfl
  | cons byte rest induction =>
      rw [receiveAll, List.foldl_cons, receive_of_not_listening deaf]
      exact induction

theorem receiveAll_append (uart : Uart) (front back : List UInt8) :
    uart.receiveAll (front ++ back) =
      (uart.receiveAll front).receiveAll back := by
  rw [receiveAll, List.foldl_append]
  rfl

/-! ## Creating and destroying -/

/-- The allocations of `create_rx_buffer` succeed. -/
def CreateAnswers.grants (answers : CreateAnswers) (size : UInt16) : Bool :=
  decide (size.toUInt32 < answers.heapSize) && answers.buffer &&
    answers.bufferStruct

/-- The UART with one more receive buffer. -/
def withBuffer (uart : Uart) (size : UInt16) (recvCb : RecvCb) : Uart :=
  { uart.updateCell uart.created fun _ => .fresh size recvCb with
    created := uart.created + 1 }

theorem createRxBuffer_eq
    (uart : Uart) (answers : CreateAnswers)
    (size : UInt16) (recvCb : RecvCb) :
    uart.createRxBuffer answers size recvCb =
      if answers.grants size then
        (uart.withBuffer size recvCb, some uart.created)
      else
        (uart, none) := by
  rw [createRxBuffer, CreateAnswers.grants]
  by_cases heap : answers.heapSize ≤ size.toUInt32
  · rw [if_pos heap, decide_eq_false (UInt32.not_lt.mpr heap)]
    rfl
  · rw [if_neg heap, decide_eq_true (UInt32.not_le.mp heap)]
    cases answers.buffer with
    | false =>
        rfl
    | true =>
        cases answers.bufferStruct with
        | false =>
            rfl
        | true =>
            rfl

/-- The current buffer is destroyed while it is live. -/
theorem destroyRxBuffer_current
    {uart : Uart} {index : Nat}
    (current : uart.buffer = some index)
    (live : (uart.cells index).structReleases = 0) :
    uart.destroyRxBuffer (some index) =
      { uart.updateCell index
          (fun buffer => buffer.clear.releaseBuf.releaseStruct) with
        byteCount := 0
        buffer := none } := by
  rw [destroyRxBuffer, flushReadBuffer, current]
  simp only [if_pos live]
  simp only [updateCell, Uart.mk.injEq, true_and, and_true, if_true]
  funext other
  split <;> rfl

end Uart

end EspFirmware
