import EspFirmware.Library.ShiftRegister
import EspFirmware.Reception

/-!
# What is sent on a line is received

The line is observed once in every bit time, as the levels which
`bit_bang_send` drives.  A falling edge enters `bit_bang_read_byte`, if the
interrupts are on, and the handler takes its eight samples in the eight bit
times behind the start bit.  An edge while the handler runs enters nothing:
the handler clears the status of the pin when it returns.
-/

namespace EspFirmware

open Library

/-! ## Bits -/

theorem dataBits_eq_shiftOut (count : Nat) (byte : UInt8) :
    Uart.dataBits count byte = shiftOut count byte.toBitVec := by
  induction count generalizing byte with
  | zero =>
      rfl
  | succ count induction =>
      have lowest : (byte &&& 1 != 0) = byte.toBitVec.getLsbD 0 := by
        rw [Bool.eq_iff_iff, bne_iff_ne, ne_eq, ← UInt8.toNat_inj,
          UInt8.toNat_and]
        simp [BitVec.getLsbD]
      rw [Uart.dataBits, shiftOut, induction, lowest]
      rfl

theorem toBitVec_sampleBit (byte : UInt8) (level : Bool) :
    (Uart.sampleBit byte level).toBitVec =
      shiftIn byte.toBitVec level := by
  cases level <;> rfl

/-- The handler rebuilds the byte from its data bits, lowest first. -/
theorem foldl_sampleBit_dataBits (byte : UInt8) :
    (Uart.dataBits 8 byte).foldl Uart.sampleBit 0 = byte := by
  have samples (bits : List Bool) (register : UInt8) :
      (bits.foldl Uart.sampleBit register).toBitVec =
        bits.foldl shiftIn register.toBitVec := by
    induction bits generalizing register with
    | nil =>
        rfl
    | cons bit rest induction =>
        rw [List.foldl_cons, List.foldl_cons, induction, toBitVec_sampleBit]
  apply UInt8.toBitVec_inj.mp
  rw [samples, dataBits_eq_shiftOut, foldl_shiftIn_shiftOut]

/-! ## The receiver on the line -/

/-- A call of a `recv_cb`, and the UART it finds. -/
structure RecvCall where
  buffer : Nat
  uart : Uart

/--
The UART with the last level of the line, the samples of the handler, if it
runs, and the calls of `recv_cb` so far.
-/
@[ext]
structure Receiver where
  uart : Uart
  level : Bool
  samples : Option (List Bool)
  calls : List RecvCall

namespace Receiver

/-- The line rests, and no handler runs. -/
def idle (uart : Uart) (calls : List RecvCall) : Receiver where
  uart := uart
  level := true
  samples := none
  calls := calls

/-- What `bit_bang_read_byte` or the waiting UART makes of a byte. -/
def take
    (read : Uart × Option Nat) (level : Bool) (calls : List RecvCall) :
    Receiver where
  uart := read.1
  level := level
  samples := none
  calls := calls ++ read.2.toList.map (⟨·, read.1⟩)

/-- One bit time. -/
def bitTime (receiver : Receiver) (level : Bool) : Receiver :=
  match receiver.samples with
  | none =>
      if receiver.level && !level && receiver.uart.listening then
        { receiver with level, samples := some [] }
      else
        { receiver with level }
  | some samples =>
      if samples.length + 1 = 8 then
        take
          (receiver.uart.bitBangReadByte
            ((samples ++ [level]).foldl Uart.sampleBit 0))
          level receiver.calls
      else
        { receiver with level, samples := some (samples ++ [level]) }

/-- A stretch of the line. -/
def listen (receiver : Receiver) (line : List Bool) : Receiver :=
  line.foldl bitTime receiver

theorem listen_append (receiver : Receiver) (front back : List Bool) :
    receiver.listen (front ++ back) = (receiver.listen front).listen back := by
  rw [listen, List.foldl_append]
  rfl

/-- Without the interrupts the line passes by. -/
theorem listen_of_not_listening
    {uart : Uart}
    (deaf : uart.listening = false)
    (level : Bool) (calls : List RecvCall) (line : List Bool) :
    listen { uart, level, samples := none, calls } line =
      { uart, level := line.getLastD level, samples := none, calls } := by
  induction line generalizing level with
  | nil =>
      rfl
  | cons next rest induction =>
      rw [listen, List.foldl_cons, bitTime, deaf, Bool.and_false]
      rw [if_neg Bool.false_ne_true]
      have step := induction next
      rw [listen] at step
      rw [step, List.getLastD_cons]

/-- A start bit enters the handler. -/
theorem bitTime_start
    {uart : Uart}
    (listens : uart.listening = true) (calls : List RecvCall) :
    (idle uart calls).bitTime false =
      { uart, level := false, samples := some [], calls } := by
  show (if true && !false && uart.listening then _ else _) = _
  rw [listens]
  rfl

/-- The last sample ends the handler. -/
theorem bitTime_last
    (uart : Uart) (level : Bool) (calls : List RecvCall)
    {samples : List Bool}
    (last : samples.length + 1 = 8) (bit : Bool) :
    bitTime { uart, level, samples := some samples, calls } bit =
      take
        (uart.bitBangReadByte ((samples ++ [bit]).foldl Uart.sampleBit 0))
        bit calls := by
  show (if samples.length + 1 = 8 then _ else _) = _
  rw [if_pos last]

theorem bitTime_more
    (uart : Uart) (level : Bool) (calls : List RecvCall)
    {samples : List Bool}
    (more : samples.length + 1 ≠ 8) (bit : Bool) :
    bitTime { uart, level, samples := some samples, calls } bit =
      { uart, level := bit, samples := some (samples ++ [bit]), calls } := by
  show (if samples.length + 1 = 8 then _ else _) = _
  rw [if_neg more]

/-- A running handler takes its samples until it has eight. -/
theorem listen_samples
    (uart : Uart) (level : Bool) (calls : List RecvCall)
    (samples : List Bool) {bits : List Bool}
    (some_bits : bits ≠ [])
    (eight : samples.length + bits.length = 8) :
    listen { uart, level, samples := some samples, calls } bits =
      take
        (uart.bitBangReadByte ((samples ++ bits).foldl Uart.sampleBit 0))
        (bits.getLast some_bits) calls := by
  induction bits generalizing samples level with
  | nil =>
      exact absurd rfl some_bits
  | cons bit rest induction =>
      rw [List.length_cons] at eight
      rw [listen, List.foldl_cons]
      by_cases last : rest = []
      · subst last
        rw [bitTime_last uart level calls eight]
        rfl
      · have count := List.length_pos_iff.mpr last
        have more : samples.length + 1 ≠ 8 := by
          omega
        have step := induction bit (samples ++ [bit]) last
          (by rw [List.length_append, List.length_singleton]; omega)
        rw [listen] at step
        rw [bitTime_more uart level calls more, step, List.getLast_cons last,
          List.append_assoc, List.singleton_append]

/-- A stop bit enters nothing. -/
theorem listen_stop
    (read : Uart × Option Nat) (level : Bool) (calls : List RecvCall) :
    (take read level calls).listen [true] = take read true calls := by
  show (if level && !true && read.1.listening then _ else _) = _
  rw [Bool.not_true, Bool.and_false, Bool.false_and, if_neg Bool.false_ne_true]
  rfl

@[simp]
theorem length_dataBits (count : Nat) (byte : UInt8) :
    (Uart.dataBits count byte).length = count := by
  rw [dataBits_eq_shiftOut, length_shiftOut]

/-- One byte on the line is one call of the handler, if the interrupts are on. -/
theorem listen_sendByte
    (uart : Uart) (calls : List RecvCall) (byte : UInt8) :
    (idle uart calls).listen (Uart.sendByte byte) =
      take (uart.receive byte) true calls := by
  cases listens : uart.listening with
  | false =>
      have passes :=
        listen_of_not_listening listens true calls (Uart.sendByte byte)
      rw [Uart.sendByte, List.getLastD_concat] at passes
      rw [Uart.receive_of_not_listening listens, idle, Uart.sendByte, passes,
        take, Option.toList_none, List.map_nil, List.append_nil]
  | true =>
      have some_bits : Uart.dataBits 8 byte ≠ [] :=
        List.ne_nil_of_length_pos (by rw [length_dataBits]; decide)
      have samples :=
        listen_samples uart false calls [] some_bits
          (by rw [length_dataBits]; rfl)
      rw [List.nil_append, foldl_sampleBit_dataBits] at samples
      have start :
          (idle uart calls).listen (Uart.sendByte byte) =
            (((idle uart calls).bitTime false).listen
              (Uart.dataBits 8 byte)).listen [true] := by
        rw [← listen_append]
        rfl
      rw [start, bitTime_start listens, samples, listen_stop, Uart.receive,
        listens, if_pos rfl]

/-- The handler is called once for every byte. -/
theorem listen_sendBytes
    (uart : Uart) (calls : List RecvCall) (bytes : List UInt8) :
    ((idle uart calls).listen (bytes.flatMap Uart.sendByte)).uart =
        uart.receiveAll bytes ∧
      ((idle uart calls).listen (bytes.flatMap Uart.sendByte)).level = true ∧
        ((idle uart calls).listen (bytes.flatMap Uart.sendByte)).samples =
          none := by
  induction bytes generalizing uart calls with
  | nil =>
      exact ⟨rfl, rfl, rfl⟩
  | cons byte rest induction =>
      rw [List.flatMap_cons, listen_append, listen_sendByte]
      exact induction (uart.receive byte).1 _

/--
While a buffer is filled, its `recv_cb` is called once, by the byte which
fills it.
-/
theorem calls_sendBytes
    {start uart : Uart} {index : Nat} {got : List UInt8}
    (holding : Uart.Holding start index got uart)
    (listens : uart.listening = true)
    (calls : List RecvCall) (bytes : List UInt8) :
    ((idle uart calls).listen (bytes.flatMap Uart.sendByte)).calls =
      calls ++
        if (start.cells index).recvCb ≠ .null ∧
            (start.cells index).size.toNat ≤ got.length + bytes.length then
          [⟨index, uart.receiveAll bytes⟩]
        else
          [] := by
  induction bytes generalizing got uart calls with
  | nil =>
      have room := holding.room listens
      rw [List.length_nil, if_neg (by omega), List.append_nil]
      rfl
  | cons byte rest induction =>
      have room := holding.room listens
      have again :
          uart.receiveAll (byte :: rest) =
            (uart.receive byte).1.receiveAll rest := rfl
      rw [List.flatMap_cons, listen_append, listen_sendByte, again,
        List.length_cons]
      by_cases below : got.length + 1 < (start.cells index).size.toNat
      · rcases holding.receive_below listens below byte with
          ⟨stored, ets, pin, none⟩
        have stillListens : (uart.receive byte).1.listening = true := by
          rw [Uart.listening, ets, pin]
          exact listens
        have step := induction stored stillListens
          (calls ++ (uart.receive byte).2.toList.map (⟨·, (uart.receive byte).1⟩))
        rw [List.length_append, List.length_singleton, Nat.add_assoc,
          Nat.add_comm 1] at step
        rw [take]
        exact step.trans (by rw [none]; simp)
      · have last : got.length + 1 = (start.cells index).size.toNat := by
          omega
        rcases holding.receive_last listens last byte with
          ⟨_, ets, _, called⟩
        have deaf : (uart.receive byte).1.listening = false := by
          rw [Uart.listening, ets]
          rfl
        have passes :=
          listen_of_not_listening deaf true
            (calls ++ (uart.receive byte).2.toList.map
              (⟨·, (uart.receive byte).1⟩))
            (rest.flatMap Uart.sendByte)
        rw [Uart.receiveAll_of_not_listening deaf, take, passes, called]
        have full :
            (start.cells index).size.toNat ≤ got.length + (rest.length + 1) := by
          omega
        by_cases null : (start.cells index).recvCb = .null
        · simp [null]
        · simp [null, full]

end Receiver

/--
What is emitted on a line by `bit_bang_send` and read by a UART whose buffer
was installed by `set_rx_buffer`.
-/
def lineActivity
    (sender receiver : Uart) (index : Nat) (data : List UInt8) : Receiver :=
  (Receiver.idle (receiver.setRxBuffer index) []).listen
    (sender.bitBangSend data).2

section

variable
    {receiver : Uart} {index : Nat}
    (enabled : receiver.listening = true)
    (nonempty : 1 ≤ (receiver.cells index).size.toNat)

include enabled nonempty

/-- The installed buffer after bytes were received into it. -/
theorem holding_received (data : List UInt8) :
    Uart.Holding receiver index
        (data.take (receiver.cells index).size.toNat)
        ((receiver.setRxBuffer index).receiveAll data) ∧
      ((receiver.cells index).size.toNat ≤ data.length →
        ((receiver.setRxBuffer index).receiveAll data).etsIntr = false ∧
          ((receiver.setRxBuffer index).receiveAll data).pinIntr = false) := by
  have holding := Uart.Holding.setRxBuffer receiver index nonempty
  have received := holding.receiveAll enabled data
  rw [List.nil_append, List.length_nil, Nat.sub_zero, Nat.zero_add] at received
  refine ⟨received.1, ?_⟩
  intro enough
  have stopped := received.2
  rw [if_neg (by omega)] at stopped
  exact stopped

/-- The bytes behind those which fill the buffer are not received. -/
theorem receiveAll_take
    {data : List UInt8}
    (enough : (receiver.cells index).size.toNat ≤ data.length) :
    (receiver.setRxBuffer index).receiveAll
        (data.take (receiver.cells index).size.toNat) =
      (receiver.setRxBuffer index).receiveAll data := by
  have filled :=
    (holding_received enabled nonempty
      (data.take (receiver.cells index).size.toNat)).2
      (by rw [List.length_take, Nat.min_eq_left enough])
  have deaf :
      ((receiver.setRxBuffer index).receiveAll
        (data.take (receiver.cells index).size.toNat)).listening = false := by
    rw [Uart.listening, filled.1]
    rfl
  have split :=
    Uart.receiveAll_append (receiver.setRxBuffer index)
      (data.take (receiver.cells index).size.toNat)
      (data.drop (receiver.cells index).size.toNat)
  rw [List.take_append_drop, Uart.receiveAll_of_not_listening deaf] at split
  exact split.symm

end

theorem lineActivity_uart
    (sender receiver : Uart) (index : Nat) (data : List UInt8) :
    (lineActivity sender receiver index data).uart =
      (receiver.setRxBuffer index).receiveAll data :=
  (Receiver.listen_sendBytes (receiver.setRxBuffer index) [] data).1

theorem lineActivity_calls
    (sender : Uart) {receiver : Uart} {index : Nat}
    (enabled : receiver.listening = true)
    (nonempty : 1 ≤ (receiver.cells index).size.toNat)
    (data : List UInt8) :
    (lineActivity sender receiver index data).calls =
      if (receiver.cells index).recvCb ≠ .null ∧
          (receiver.cells index).size.toNat ≤ data.length then
        [⟨index, (receiver.setRxBuffer index).receiveAll data⟩]
      else
        [] := by
  have holding := Uart.Holding.setRxBuffer receiver index nonempty
  have calls := Receiver.calls_sendBytes holding enabled [] data
  rw [List.length_nil, Nat.zero_add, List.nil_append] at calls
  exact calls

/-- Bytes behind those which fill the buffer change nothing at all. -/
theorem lineActivity_take
    (sender : Uart) {receiver : Uart} {index : Nat}
    (enabled : receiver.listening = true)
    (nonempty : 1 ≤ (receiver.cells index).size.toNat)
    {data : List UInt8}
    (enough : (receiver.cells index).size.toNat ≤ data.length) :
    lineActivity sender receiver index
        (data.take (receiver.cells index).size.toNat) =
      lineActivity sender receiver index data := by
  have rests (data : List UInt8) :=
    (Receiver.listen_sendBytes (receiver.setRxBuffer index) [] data).2
  have same := receiveAll_take enabled nonempty enough
  apply Receiver.ext
  · rw [lineActivity_uart, lineActivity_uart, same]
  · exact (rests _).1.trans (rests _).1.symm
  · exact (rests _).2.trans (rests _).2.symm
  · rw [lineActivity_calls sender enabled nonempty,
      lineActivity_calls sender enabled nonempty, same, List.length_take,
      Nat.min_eq_left enough]
    simp only [Nat.le_refl, enough]

/--
The software UART decodes what it encodes.  The buffer holds the first bytes
of the data, as many as fit, and its other cells are untouched; it is full
exactly when there were enough bytes; `recv_cb` was called exactly once in
that case, by the byte which filled the buffer and with the interrupts
already off; and further bytes change nothing.
-/
theorem lineActivity_decodes
    (sender receiver : Uart) (index : Nat) (data : List UInt8)
    (enabled : receiver.listening = true)
    (nonempty : 1 ≤ (receiver.cells index).size.toNat) :
    ((lineActivity sender receiver index data).uart.cells index).buf.bytes =
        data.take (receiver.cells index).size.toNat ++
          (receiver.cells index).buf.bytes.drop data.length ∧
      (lineActivity sender receiver index data).uart.byteCount.toNat =
        min (receiver.cells index).size.toNat data.length ∧
      ((lineActivity sender receiver index data).uart.readBufferFull = true ↔
        (receiver.cells index).size.toNat ≤ data.length) ∧
      (lineActivity sender receiver index data).calls =
        (if (receiver.cells index).recvCb ≠ .null ∧
            (receiver.cells index).size.toNat ≤ data.length then
          [⟨index, (lineActivity sender receiver index data).uart⟩]
        else
          []) ∧
      ((receiver.cells index).size.toNat ≤ data.length →
        (lineActivity sender receiver index data).uart.etsIntr = false ∧
          (lineActivity sender receiver index data).uart.pinIntr = false ∧
            lineActivity sender receiver index
                (data.take (receiver.cells index).size.toNat) =
              lineActivity sender receiver index data) := by
  rcases holding_received enabled nonempty data with ⟨holding, stopped⟩
  rw [lineActivity_uart]
  refine ⟨?_, ?_, ?_, lineActivity_calls sender enabled nonempty data, ?_⟩
  · rcases holding.contents with ⟨buf, cell, bytes⟩
    rw [cell]
    refine bytes.trans (congrArg _ ?_)
    rw [List.length_take]
    rcases Nat.le_total data.length (receiver.cells index).size.toNat with
      short | long
    · rw [Nat.min_eq_right short]
    · rw [Nat.min_eq_left long, List.drop_eq_nil_of_le (by simp),
        List.drop_eq_nil_of_le (by simpa using long)]
  · rw [holding.count, List.length_take]
  · have count := holding.count
    rw [List.length_take] at count
    rw [Uart.readBufferFull_eq_true, holding.size, count]
    omega
  · intro enough
    exact
      ⟨(stopped enough).1, (stopped enough).2,
        lineActivity_take sender enabled nonempty enough⟩

/-- A UART that listens, with a buffer of two bytes which reports to the camera. -/
def pairUart : Uart :=
  { Uart.boot with
    etsIntr := true
    pinIntr := true
    created := 1
    cells := fun _ => .fresh 2 .cameraPictureRecvDone }

/-- Three bytes for a buffer of two. -/
theorem lineActivity_decodes_pair :
    ((lineActivity .boot pairUart 0 [0x76, 0xa5, 0x01]).uart.cells 0).buf.bytes =
        [0x76, 0xa5] ∧
      (lineActivity .boot pairUart 0 [0x76, 0xa5, 0x01]).uart.etsIntr =
        false := by
  have decoded :=
    lineActivity_decodes .boot pairUart 0 [0x76, 0xa5, 0x01] rfl (by decide)
  exact ⟨decoded.1, (decoded.2.2.2.2 (by decide)).1⟩

end EspFirmware
