import EspFirmware.SoftwareUart

/-!
# Received bytes

What the receive interrupt does to the UART, byte by byte and over a stream
of bytes: what it leaves alone, what a buffer holds while it is filled, how
the counter runs, and how a buffer which is installed comes to its end.
-/

namespace EspFirmware

namespace Uart

/-! ## What receiving leaves alone -/

/-- The flushes of a buffer that was not live. -/
def flushFaults (uart : Uart) : List UartFault :=
  uart.faults.filter (· ≠ .storeOutside)

/--
Received bytes change the contents of the current buffer and its counter.
They may turn the interrupts off, but never on.
-/
structure Received (before after : Uart) : Prop where
  buffer : after.buffer = before.buffer
  created : after.created = before.created
  size : ∀ index, (after.cells index).size = (before.cells index).size
  recvCb : ∀ index, (after.cells index).recvCb = (before.cells index).recvCb
  bufReleases :
    ∀ index,
      (after.cells index).bufReleases = (before.cells index).bufReleases
  structReleases :
    ∀ index,
      (after.cells index).structReleases = (before.cells index).structReleases
  others :
    ∀ index, before.buffer ≠ some index →
      after.cells index = before.cells index
  flushFaults : after.flushFaults = before.flushFaults
  etsIntr : after.etsIntr = true → before.etsIntr = true
  pinIntr : after.pinIntr = true → before.pinIntr = true

theorem Received.refl (uart : Uart) :
    Received uart uart where
  buffer := rfl
  created := rfl
  size := fun _ => rfl
  recvCb := fun _ => rfl
  bufReleases := fun _ => rfl
  structReleases := fun _ => rfl
  others := fun _ _ => rfl
  flushFaults := rfl
  etsIntr := id
  pinIntr := id

theorem Received.trans
    {first second third : Uart}
    (left : Received first second) (right : Received second third) :
    Received first third where
  buffer := right.buffer.trans left.buffer
  created := right.created.trans left.created
  size index := (right.size index).trans (left.size index)
  recvCb index := (right.recvCb index).trans (left.recvCb index)
  bufReleases index :=
    (right.bufReleases index).trans (left.bufReleases index)
  structReleases index :=
    (right.structReleases index).trans (left.structReleases index)
  others index other :=
    (right.others index (left.buffer ▸ other)).trans (left.others index other)
  flushFaults := right.flushFaults.trans left.flushFaults
  etsIntr on := left.etsIntr (right.etsIntr on)
  pinIntr on := left.pinIntr (right.pinIntr on)

@[simp]
theorem flushFaults_storeOutside (uart : Uart) :
    (uart.fault .storeOutside).flushFaults = uart.flushFaults := by
  simp [flushFaults, fault]

theorem received_store (uart : Uart) (byte : UInt8) :
    Received uart (uart.store byte) := by
  have outside :
      Received uart
        { uart.fault .storeOutside with byteCount := uart.byteCount + 1 } :=
    { Received.refl uart with
      flushFaults := flushFaults_storeOutside uart }
  rw [store]
  cases shape : uart.buffer with
  | none =>
      exact outside
  | some index =>
      have kept {α : Type} (field : RxBuffer → α)
          (keeps :
            ∀ cell : RxBuffer,
              field (cell.store uart.byteCount.toNat byte) = field cell)
          (other : Nat) :
          field
              ((uart.updateCell index
                (·.store uart.byteCount.toNat byte)).cells other) =
            field (uart.cells other) :=
        updateCell_field keeps other
      simp only
      split
      · exact
          { Received.refl uart with
            size := kept (·.size) fun _ => rfl
            recvCb := kept (·.recvCb) fun _ => rfl
            bufReleases := kept (·.bufReleases) fun _ => rfl
            structReleases := kept (·.structReleases) fun _ => rfl
            others := by
              intro other differs
              rw [shape, ne_eq, Option.some.injEq] at differs
              simp [updateCell, Ne.symm differs] }
      · exact outside

theorem received_receive (uart : Uart) (byte : UInt8) :
    Received uart (uart.receive byte).1 := by
  rw [receive]
  split
  · rw [bitBangReadByte]
    split
    · exact
        { received_store uart byte with
          etsIntr := fun on => absurd on Bool.false_ne_true
          pinIntr := fun on => absurd on Bool.false_ne_true }
    · exact received_store uart byte
  · exact .refl uart

theorem received_receiveAll (uart : Uart) (bytes : List UInt8) :
    Received uart (uart.receiveAll bytes) := by
  induction bytes generalizing uart with
  | nil =>
      exact .refl uart
  | cons byte rest induction =>
      exact (received_receive uart byte).trans (induction _)

/-! ## One buffer while it is filled -/

/--
The UART has stored `got` in the installed buffer, which had the contents of
`start`, and nothing else has changed.  The interrupt is off once the buffer
is full.
-/
structure Holding
    (start : Uart) (index : Nat) (got : List UInt8) (uart : Uart) : Prop where
  buffer : uart.buffer = some index
  count : uart.byteCount.toNat = got.length
  within : got.length ≤ (start.cells index).size.toNat
  stopped :
    uart.etsIntr = true → got.length < (start.cells index).size.toNat
  contents :
    ∃ buf : Chars (start.cells index).size.toNat,
      uart.cells index = { start.cells index with buf } ∧
        buf.bytes = got ++ (start.cells index).buf.bytes.drop got.length
  others : ∀ other, other ≠ index → uart.cells other = start.cells other
  created : uart.created = start.created
  faults : uart.faults = start.faults

/-- A buffer of at least one byte which was installed last. -/
theorem Holding.setRxBuffer
    (uart : Uart) (index : Nat)
    (nonempty : 0 < (uart.cells index).size.toNat) :
    Holding uart index [] (uart.setRxBuffer index) where
  buffer := rfl
  count := rfl
  within := Nat.zero_le _
  stopped := fun _ => nonempty
  contents := ⟨(uart.cells index).buf, rfl, rfl⟩
  others := fun _ _ => rfl
  created := rfl
  faults := rfl

section

variable {start uart : Uart} {index : Nat} {got : List UInt8}

theorem Holding.size
    (holding : Holding start index got uart) :
    uart.current.size = (start.cells index).size := by
  rcases holding.contents with ⟨buf, cell, _⟩
  rw [current, holding.buffer]
  simp only [cell]

theorem Holding.recvCb
    (holding : Holding start index got uart) :
    uart.current.recvCb = (start.cells index).recvCb := by
  rcases holding.contents with ⟨buf, cell, _⟩
  rw [current, holding.buffer]
  simp only [cell]

theorem Holding.room
    (holding : Holding start index got uart)
    (listens : uart.listening = true) :
    got.length < (start.cells index).size.toNat := by
  rw [listening, Bool.and_eq_true] at listens
  exact holding.stopped listens.1

/-- One byte is stored, in all but the interrupt enables. -/
theorem Holding.store
    (holding : Holding start index got uart)
    (room : got.length < (start.cells index).size.toNat) (byte : UInt8) :
    (uart.store byte).byteCount.toNat = got.length + 1 ∧
      (uart.store byte).etsIntr = uart.etsIntr ∧
        (uart.store byte).pinIntr = uart.pinIntr ∧
          ∀ etsIntr pinIntr : Bool,
            (etsIntr = true →
              got.length + 1 < (start.cells index).size.toNat) →
            Holding start index (got ++ [byte])
              { uart.store byte with etsIntr, pinIntr } := by
  rcases holding.contents with ⟨buf, cell, bytes⟩
  have bounded := (start.cells index).size.toNat_lt
  have position : uart.byteCount.toNat < (uart.cells index).size.toNat := by
    rw [holding.count, cell]
    exact room
  have advanced : (uart.byteCount + 1).toNat = got.length + 1 := by
    rw [UInt16.toNat_add, holding.count]
    exact Nat.mod_eq_of_lt (by simpa using Nat.lt_of_le_of_lt room bounded)
  have stored :
      uart.store byte =
        { uart.updateCell index (·.store uart.byteCount.toNat byte) with
          byteCount := uart.byteCount + 1 } := by
    simp only [Uart.store, holding.buffer, if_pos position]
  have storedCell :
      (uart.updateCell index (·.store uart.byteCount.toNat byte)).cells index =
        { start.cells index with buf := buf.set got.length byte } := by
    rw [updateCell_self, cell, holding.count]
    rfl
  rw [stored]
  refine ⟨advanced, rfl, rfl, ?_⟩
  intro etsIntr pinIntr stops
  exact
    { buffer := holding.buffer
      count := by
        rw [List.length_append, List.length_singleton]
        exact advanced
      within := by
        rw [List.length_append, List.length_singleton]
        exact room
      stopped := by
        rw [List.length_append, List.length_singleton]
        exact stops
      contents := by
        refine ⟨buf.set got.length byte, storedCell, ?_⟩
        · show buf.bytes.set got.length byte = _
          rw [bytes, List.length_append, List.length_singleton,
            List.set_append_right _ _ (Nat.le_refl _), Nat.sub_self,
            List.drop_eq_getElem_cons (by simpa using room), List.set_cons_zero,
            List.append_assoc, List.singleton_append]
      others := by
        intro other differ
        exact
          (updateCell_other uart (·.store uart.byteCount.toNat byte) differ).trans
            (holding.others other differ)
      created := holding.created
      faults := holding.faults }

/-- A byte which leaves room in the buffer. -/
theorem Holding.receive_below
    (holding : Holding start index got uart)
    (listens : uart.listening = true)
    (below : got.length + 1 < (start.cells index).size.toNat)
    (byte : UInt8) :
    Holding start index (got ++ [byte]) (uart.receive byte).1 ∧
      (uart.receive byte).1.etsIntr = uart.etsIntr ∧
        (uart.receive byte).1.pinIntr = uart.pinIntr ∧
          (uart.receive byte).2 = none := by
  rcases holding.store (holding.room listens) byte with
    ⟨count, ets, pin, holdingStored⟩
  have stored := holdingStored uart.etsIntr uart.pinIntr fun _ => below
  rw [← ets, ← pin] at stored
  have notFull : (uart.store byte).byteCount ≠ (uart.store byte).current.size := by
    intro equal
    rw [Holding.size stored] at equal
    rw [equal] at count
    omega
  rw [receive, listens, if_pos rfl, bitBangReadByte, if_neg notFull]
  exact ⟨stored, ets, pin, rfl⟩

/-- The byte which fills the buffer. -/
theorem Holding.receive_last
    (holding : Holding start index got uart)
    (listens : uart.listening = true)
    (last : got.length + 1 = (start.cells index).size.toNat)
    (byte : UInt8) :
    Holding start index (got ++ [byte]) (uart.receive byte).1 ∧
      (uart.receive byte).1.etsIntr = false ∧
        (uart.receive byte).1.pinIntr = false ∧
          (uart.receive byte).2 =
            if (start.cells index).recvCb = .null then none
            else some index := by
  rcases holding.store (holding.room listens) byte with
    ⟨count, _, _, holdingStored⟩
  have disabled :
      Holding start index (got ++ [byte])
        (uart.store byte).disableInterrupts :=
    holdingStored false false nofun
  have full : (uart.store byte).byteCount = (uart.store byte).current.size := by
    have size := Holding.size disabled
    apply UInt16.toNat_inj.mp
    rw [count, last]
    exact congrArg UInt16.toNat size.symm
  rw [receive, listens, if_pos rfl, bitBangReadByte, if_pos full]
  refine ⟨disabled, rfl, rfl, ?_⟩
  show (if _ then none else (uart.store byte).disableInterrupts.buffer) = _
  rw [Holding.recvCb disabled, disabled.buffer]

/--
Of the bytes which arrive while the interrupt is on, those are stored for
which there is room.
-/
theorem Holding.receiveAll
    (holding : Holding start index got uart)
    (listens : uart.listening = true) (bytes : List UInt8) :
    Holding start index
        (got ++ bytes.take ((start.cells index).size.toNat - got.length))
        (uart.receiveAll bytes) ∧
      if got.length + bytes.length < (start.cells index).size.toNat then
        (uart.receiveAll bytes).etsIntr = uart.etsIntr ∧
          (uart.receiveAll bytes).pinIntr = uart.pinIntr
      else
        (uart.receiveAll bytes).etsIntr = false ∧
          (uart.receiveAll bytes).pinIntr = false := by
  induction bytes generalizing got uart with
  | nil =>
      have room := holding.room listens
      rw [List.take_nil, List.append_nil, List.length_nil, Nat.add_zero,
        if_pos room]
      exact ⟨holding, rfl, rfl⟩
  | cons byte rest induction =>
      have room := holding.room listens
      have again :
          uart.receiveAll (byte :: rest) =
            (uart.receive byte).1.receiveAll rest := rfl
      rw [again]
      by_cases below : got.length + 1 < (start.cells index).size.toNat
      · rcases holding.receive_below listens below byte with
          ⟨stored, ets, pin, _⟩
        have stillListens : (uart.receive byte).1.listening = true := by
          rw [listening, ets, pin]
          exact listens
        have step := induction stored stillListens
        have count :
            (start.cells index).size.toNat - got.length =
              (start.cells index).size.toNat - (got ++ [byte]).length + 1 := by
          rw [List.length_append, List.length_singleton]
          omega
        rw [List.append_assoc, List.singleton_append, ← List.take_succ_cons,
          ← count, ets, pin] at step
        rw [List.length_append, List.length_singleton] at step
        rw [List.length_cons]
        refine ⟨step.1, ?_⟩
        have order : got.length + (rest.length + 1) =
            got.length + 1 + rest.length := by
          omega
        rw [order]
        exact step.2
      · have last : got.length + 1 = (start.cells index).size.toNat := by
          omega
        rcases holding.receive_last listens last byte with
          ⟨stored, ets, pin, _⟩
        have deaf : (uart.receive byte).1.listening = false := by
          rw [listening, ets]
          rfl
        have count :
            (start.cells index).size.toNat - got.length = 1 := by
          omega
        rw [receiveAll_of_not_listening deaf, count, List.take_succ_cons,
          List.take_zero, List.length_cons, if_neg (by omega)]
        exact ⟨stored, ets, pin⟩

end

/-! ## The counter -/

@[simp]
theorem byteCount_store (uart : Uart) (byte : UInt8) :
    (uart.store byte).byteCount = uart.byteCount + 1 := by
  rfl

theorem Received.current_size
    {before after : Uart}
    (received : Received before after) :
    after.current.size = before.current.size := by
  rw [current, current, received.buffer]
  split
  · rfl
  · exact received.size _

theorem Received.current_recvCb
    {before after : Uart}
    (received : Received before after) :
    after.current.recvCb = before.current.recvCb := by
  rw [current, current, received.buffer]
  split
  · rfl
  · exact received.recvCb _

/-- What one byte does to the counter and to the interrupts. -/
theorem receive_listening
    {uart : Uart}
    (listens : uart.listening = true) (byte : UInt8) :
    (uart.receive byte).1.byteCount = uart.byteCount + 1 ∧
      if uart.byteCount + 1 = uart.current.size then
        (uart.receive byte).1.etsIntr = false ∧
          (uart.receive byte).1.pinIntr = false
      else
        (uart.receive byte).1.etsIntr = uart.etsIntr ∧
          (uart.receive byte).1.pinIntr = uart.pinIntr := by
  have size := (received_store uart byte).current_size
  have enables :
      (uart.store byte).etsIntr = uart.etsIntr ∧
        (uart.store byte).pinIntr = uart.pinIntr := by
    rw [store]
    split
    · exact ⟨rfl, rfl⟩
    · split <;> exact ⟨rfl, rfl⟩
  rw [receive, if_pos listens, bitBangReadByte, byteCount_store, size]
  by_cases full : uart.byteCount + 1 = uart.current.size
  · rw [if_pos full, if_pos full]
    exact ⟨rfl, rfl, rfl⟩
  · rw [if_neg full, if_neg full]
    exact ⟨rfl, enables⟩

/-- The interrupt is on only while there is room in the buffer. -/
def Stops (uart : Uart) : Prop :=
  uart.etsIntr = true →
    uart.byteCount.toNat < uart.current.size.toNat

theorem Stops.receive
    {uart : Uart}
    (stops : uart.Stops) (byte : UInt8) :
    (uart.receive byte).1.Stops := by
  cases listens : uart.listening with
  | false =>
      rw [receive_of_not_listening listens]
      exact stops
  | true =>
      have received := received_receive uart byte
      have step := receive_listening listens byte
      intro on
      have room := stops (received.etsIntr on)
      by_cases full : uart.byteCount + 1 = uart.current.size
      · rw [if_pos full] at step
        rw [step.2.1] at on
        exact absurd on Bool.false_ne_true
      · have bounded := uart.current.size.toNat_lt
        have advanced :
            (uart.byteCount + 1).toNat = uart.byteCount.toNat + 1 := by
          rw [UInt16.toNat_add]
          exact Nat.mod_eq_of_lt (by simpa using Nat.lt_of_le_of_lt room bounded)
        have differs :
            uart.byteCount.toNat + 1 ≠ uart.current.size.toNat := by
          rw [← advanced]
          exact fun equal => full (UInt16.toNat_inj.mp equal)
        rw [received.current_size, step.1, advanced]
        omega

theorem Stops.receiveAll
    {uart : Uart}
    (stops : uart.Stops) (bytes : List UInt8) :
    (uart.receiveAll bytes).Stops := by
  induction bytes generalizing uart with
  | nil =>
      exact stops
  | cons byte rest induction =>
      exact induction (stops.receive byte)

/-- Each byte advances the counter once at most. -/
theorem byteCount_receiveAll_le (uart : Uart) (bytes : List UInt8) :
    (uart.receiveAll bytes).byteCount.toNat ≤
      uart.byteCount.toNat + bytes.length := by
  induction bytes generalizing uart with
  | nil =>
      exact Nat.le_refl _
  | cons byte rest induction =>
      have step :
          (uart.receive byte).1.byteCount.toNat ≤ uart.byteCount.toNat + 1 := by
        cases listens : uart.listening with
        | false =>
            rw [receive_of_not_listening listens]
            exact Nat.le_succ _
        | true =>
            rw [(receive_listening listens byte).1, UInt16.toNat_add]
            exact Nat.mod_le _ _
      have later := induction (uart.receive byte).1
      rw [List.length_cons]
      show ((uart.receive byte).1.receiveAll rest).byteCount.toNat ≤ _
      omega

/--
A buffer which is overrun stops the interrupt only when the counter comes
round to its size again.
-/
theorem receiveAll_overrun
    {uart : Uart} (seen : Nat)
    (listens : uart.listening = true)
    (count :
      uart.byteCount.toNat = (uart.current.size.toNat + seen) % 65536)
    (before : seen < 65536)
    (bytes : List UInt8) :
    if seen + bytes.length < 65536 then
      (uart.receiveAll bytes).listening = true ∧
        (uart.receiveAll bytes).byteCount.toNat =
          (uart.current.size.toNat + seen + bytes.length) % 65536
    else
      (uart.receiveAll bytes).etsIntr = false := by
  induction bytes generalizing uart seen with
  | nil =>
      rw [List.length_nil, Nat.add_zero, if_pos before]
      exact ⟨listens, count⟩
  | cons byte rest induction =>
      have received := received_receive uart byte
      have step := receive_listening listens byte
      have bounded := uart.current.size.toNat_lt
      have advanced :
          (uart.byteCount + 1).toNat =
            (uart.current.size.toNat + (seen + 1)) % 65536 := by
        rw [UInt16.toNat_add, count]
        simp
        omega
      have again :
          uart.receiveAll (byte :: rest) =
            (uart.receive byte).1.receiveAll rest := rfl
      rw [again, List.length_cons]
      by_cases full : uart.byteCount + 1 = uart.current.size
      · rw [if_pos full] at step
        rw [full] at advanced
        have deaf : (uart.receive byte).1.listening = false := by
          rw [listening, step.2.1]
          rfl
        rw [receiveAll_of_not_listening deaf, if_neg (by omega)]
        exact step.2.1
      · rw [if_neg full] at step
        have stillListens : (uart.receive byte).1.listening = true := by
          rw [listening, step.2.1, step.2.2]
          exact listens
        have differs :
            (uart.byteCount + 1).toNat ≠ uart.current.size.toNat :=
          fun equal => full (UInt16.toNat_inj.mp equal)
        have size := received.current_size
        have later :=
          induction (seen + 1) stillListens
            (by rw [step.1, size]; exact advanced) (by omega)
        rw [size, ← Nat.add_assoc, Nat.add_assoc seen, Nat.add_comm 1,
          Nat.add_assoc (_ + seen), Nat.add_comm 1] at later
        exact later

/-! ## Both enables -/

/-- Neither of the two interrupt enables is on. -/
structure Quiet (uart : Uart) : Prop where
  etsIntr : uart.etsIntr = false
  pinIntr : uart.pinIntr = false

theorem Quiet.deaf
    {uart : Uart}
    (quiet : uart.Quiet) :
    uart.listening = false := by
  rw [listening, quiet.etsIntr]
  rfl

/-- Received bytes turn both of the enables off, or none. -/
theorem receiveAll_paired
    {uart : Uart}
    (paired : uart.etsIntr = uart.pinIntr) (bytes : List UInt8) :
    (uart.receiveAll bytes).etsIntr = (uart.receiveAll bytes).pinIntr := by
  induction bytes generalizing uart with
  | nil =>
      exact paired
  | cons byte rest induction =>
      have pairedAfter :
          (uart.receive byte).1.etsIntr = (uart.receive byte).1.pinIntr := by
        cases listens : uart.listening with
        | false =>
            rw [receive_of_not_listening listens]
            exact paired
        | true =>
            have step := receive_listening listens byte
            by_cases full : uart.byteCount + 1 = uart.current.size
            · rw [if_pos full] at step
              exact step.2.1.trans step.2.2.symm
            · rw [if_neg full] at step
              rw [step.2.1, step.2.2]
              exact paired
      exact induction pairedAfter

/-! ## How many bytes are missing -/

/-- The number of bytes after which the interrupt stops, if it is on. -/
def remaining (uart : Uart) : Nat :=
  if uart.byteCount.toNat < uart.current.size.toNat then
    uart.current.size.toNat - uart.byteCount.toNat
  else
    65536 + uart.current.size.toNat - uart.byteCount.toNat

theorem remaining_pos (uart : Uart) :
    0 < uart.remaining := by
  have count := uart.byteCount.toNat_lt
  rw [remaining]
  split <;> omega

theorem remaining_eq_one_iff (uart : Uart) :
    uart.remaining = 1 ↔ uart.byteCount + 1 = uart.current.size := by
  have count := uart.byteCount.toNat_lt
  have size := uart.current.size.toNat_lt
  have advanced :
      (uart.byteCount + 1).toNat = (uart.byteCount.toNat + 1) % 65536 := by
    rw [UInt16.toNat_add]
    rfl
  rw [remaining, ← UInt16.toNat_inj, advanced]
  split <;> omega

/-- A byte which is not the last one. -/
theorem receive_more
    {uart : Uart}
    (listens : uart.listening = true)
    (more : uart.remaining ≠ 1) (byte : UInt8) :
    (uart.receive byte).1.remaining + 1 = uart.remaining ∧
      (uart.receive byte).1.etsIntr = uart.etsIntr ∧
        (uart.receive byte).1.pinIntr = uart.pinIntr ∧
          (uart.receive byte).2 = none := by
  have step := receive_listening listens byte
  have size := (received_receive uart byte).current_size
  have notFull := fun full => more ((remaining_eq_one_iff uart).mpr full)
  rw [if_neg notFull] at step
  refine ⟨?_, step.2.1, step.2.2, ?_⟩
  · have count := uart.byteCount.toNat_lt
    have bounded := uart.current.size.toNat_lt
    have advanced :
        (uart.byteCount + 1).toNat = (uart.byteCount.toNat + 1) % 65536 := by
      rw [UInt16.toNat_add]
      rfl
    rw [remaining] at more
    rw [remaining, remaining, size, step.1, advanced]
    split at more <;> split <;> omega
  · have stored := (received_store uart byte).current_size
    rw [receive, if_pos listens, bitBangReadByte, byteCount_store, stored,
      if_neg notFull]

/-- The last byte. -/
theorem receive_remaining
    {uart : Uart}
    (listens : uart.listening = true)
    (last : uart.remaining = 1) (byte : UInt8) :
    (uart.receive byte).1.etsIntr = false ∧
      (uart.receive byte).1.pinIntr = false ∧
        (uart.receive byte).2 =
          if uart.current.recvCb = .null then none else uart.buffer := by
  have step := receive_listening listens byte
  have received := received_store uart byte
  have full := (remaining_eq_one_iff uart).mp last
  rw [if_pos full] at step
  refine ⟨step.2.1, step.2.2, ?_⟩
  have callback :
      (uart.store byte).current.recvCb = uart.current.recvCb :=
    received.current_recvCb
  rw [receive, if_pos listens, bitBangReadByte, byteCount_store,
    received.current_size, if_pos full]
  show (if (uart.store byte).current.recvCb = .null then none
    else (uart.store byte).buffer) = _
  rw [callback, received.buffer]

/-! ## A buffer in use -/

/--
Buffer `index` is installed, and since `base` nothing else has happened than
received bytes and changes of the interrupt enables.
-/
structure Serving (base : Uart) (index : Nat) (uart : Uart) : Prop where
  buffer : uart.buffer = some index
  created : uart.created = base.created
  size : (uart.cells index).size = (base.cells index).size
  recvCb : (uart.cells index).recvCb = (base.cells index).recvCb
  bufReleases :
    (uart.cells index).bufReleases = (base.cells index).bufReleases
  structReleases :
    (uart.cells index).structReleases = (base.cells index).structReleases
  others : ∀ other, other ≠ index → uart.cells other = base.cells other
  flushFaults : uart.flushFaults = base.flushFaults

namespace Serving

variable {base uart : Uart} {index : Nat}

theorem setRxBuffer (base : Uart) (index : Nat) :
    Serving base index (base.setRxBuffer index) where
  buffer := rfl
  created := rfl
  size := rfl
  recvCb := rfl
  bufReleases := rfl
  structReleases := rfl
  others := fun _ _ => rfl
  flushFaults := rfl

theorem enables
    (serving : Serving base index uart) (etsIntr pinIntr : Bool) :
    Serving base index { uart with etsIntr, pinIntr } :=
  { serving with }

theorem received
    {after : Uart}
    (serving : Serving base index uart)
    (received : Received uart after) :
    Serving base index after where
  buffer := received.buffer.trans serving.buffer
  created := received.created.trans serving.created
  size := (received.size index).trans serving.size
  recvCb := (received.recvCb index).trans serving.recvCb
  bufReleases := (received.bufReleases index).trans serving.bufReleases
  structReleases :=
    (received.structReleases index).trans serving.structReleases
  others other differs :=
    (received.others other
      (by rw [serving.buffer]; simpa using Ne.symm differs)).trans
      (serving.others other differs)
  flushFaults := received.flushFaults.trans serving.flushFaults

theorem receiveAll
    (serving : Serving base index uart) (bytes : List UInt8) :
    Serving base index (uart.receiveAll bytes) :=
  serving.received (received_receiveAll uart bytes)

theorem current_size
    (serving : Serving base index uart) :
    uart.current.size = (base.cells index).size := by
  rw [current, serving.buffer]
  exact serving.size

end Serving

/-- A buffer which was in use is destroyed. -/
structure Destroyed (base : Uart) (index : Nat) (uart : Uart) : Prop where
  buffer : uart.buffer = none
  created : uart.created = base.created
  bufReleases :
    (uart.cells index).bufReleases = (base.cells index).bufReleases + 1
  structReleases :
    (uart.cells index).structReleases = (base.cells index).structReleases + 1
  others : ∀ other, other ≠ index → uart.cells other = base.cells other
  flushFaults : uart.flushFaults = base.flushFaults

theorem Serving.destroy
    {base uart : Uart} {index : Nat}
    (serving : Serving base index uart)
    (live : (base.cells index).structReleases = 0) :
    Destroyed base index (uart.destroyRxBuffer (some index)) := by
  have liveHere : (uart.cells index).structReleases = 0 :=
    serving.structReleases.trans live
  rw [destroyRxBuffer_current serving.buffer liveHere]
  exact
    { buffer := rfl
      created := serving.created
      bufReleases := by
        simp [RxBuffer.releaseStruct, RxBuffer.releaseBuf, RxBuffer.clear,
          serving.bufReleases]
      structReleases := by
        simp [RxBuffer.releaseStruct, RxBuffer.releaseBuf, RxBuffer.clear,
          serving.structReleases]
      others := by
        intro other differs
        rw [← serving.others other differs]
        simp [updateCell, differs]
      flushFaults := serving.flushFaults }

end Uart

end EspFirmware
