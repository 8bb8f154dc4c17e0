import EspFirmware.CameraExchange

/-!
# When a synchronous exchange cleans up

All that an exchange promises holds in every call, but for the interrupt: it
is off on return as long as there was room in the buffer whenever it was on.
A call which finds the interrupt on may fill its buffer before it turns the
interrupt on itself.
-/

namespace EspFirmware

/-! ## The interrupt -/

section

variable
    {base : Uart} {index : Nat} {exchange : Exchange} {input : ExchangeInput}

/-- There is room in the buffer when the interrupt is turned on. -/
theorem stops_requested
    (exchange : Exchange) (input : ExchangeInput)
    (nonempty : 0 < (base.cells index).size.toNat)
    (room :
      base.listening = true →
        input.installed.length < (base.cells index).size.toNat) :
    (requested base index exchange input).Stops := by
  have serving :=
    (Uart.Serving.setRxBuffer base index).receiveAll input.installed
  have below :
      ((base.setRxBuffer index).receiveAll input.installed).byteCount.toNat <
        (base.cells index).size.toNat := by
    cases listens : base.listening with
    | false =>
        have deaf : (base.setRxBuffer index).listening = false := listens
        rw [Uart.receiveAll_of_not_listening deaf]
        exact nonempty
    | true =>
        have counted :=
          Uart.byteCount_receiveAll_le (base.setRxBuffer index) input.installed
        have zero : (base.setRxBuffer index).byteCount.toNat = 0 := rfl
        have less := room listens
        omega
  have enabled :
      ((base.setRxBuffer index).receiveAll
        input.installed).enableInterrupts.Stops := by
    intro _
    show _ < ((base.setRxBuffer index).receiveAll
      input.installed).current.size.toNat
    rw [serving.current_size]
    exact below
  exact enabled.receiveAll input.early

/-- The buffer was filled before the interrupt is turned on. -/
theorem requested_overrun
    (exchange : Exchange)
    (nonempty : 0 < (base.cells index).size.toNat)
    (listens : base.listening = true)
    (filled : (base.cells index).size.toNat ≤ input.installed.length) :
    (requested base index exchange input).listening = true ∧
      (requested base index exchange input).byteCount.toNat =
        (base.cells index).size.toNat := by
  have holding := Uart.Holding.setRxBuffer base index nonempty
  have installed := holding.receiveAll listens input.installed
  rw [List.nil_append, List.length_nil, Nat.sub_zero, Nat.zero_add,
    if_neg (Nat.not_lt.mpr filled)] at installed
  have count := installed.1.count
  rw [List.length_take, Nat.min_eq_left filled] at count
  have deaf :
      ((base.setRxBuffer index).receiveAll
        input.installed).enableInterrupts.listening = false := by
    rw [Uart.listening, Bool.and_eq_false_iff]
    exact Or.inr installed.2.2
  rw [requested, Uart.receiveAll_of_not_listening deaf]
  exact ⟨rfl, count⟩

/-- The interrupt is off on return, if it could be on only while there was room. -/
theorem Concluded.disabled
    {outcome : ExchangeOutcome}
    (concluded : Concluded base index exchange input outcome)
    (stops :
      (testedAt (requested base index exchange input) input.polls
        outcome.vain).Stops) :
    outcome.uart.etsIntr = false := by
  by_cases full :
      FullAt (requested base index exchange input) input.polls outcome.vain
  · rw [(concluded.enablesFull full).1]
    cases on :
        ((testedAt (requested base index exchange input) input.polls
          outcome.vain).receiveAll input.late).etsIntr with
    | false =>
        rfl
    | true =>
        have before := (Uart.received_receiveAll _ _).etsIntr on
        have room := stops before
        rw [FullAt, Uart.readBufferFull_eq_true] at full
        omega
  · exact (concluded.enablesLate full).1

/-- The loop has something to read although the buffer was overrun. -/
theorem fullAt_overrun
    (exchange : Exchange)
    (nonempty : 0 < (base.cells index).size.toNat)
    (listens : base.listening = true)
    (filled : (base.cells index).size.toNat ≤ input.installed.length)
    {first : Poll} {rest : List Poll}
    (polls : input.polls = first :: rest)
    (short : (base.cells index).size.toNat + first.bytes.length < 65536) :
    FullAt (requested base index exchange input) input.polls 0 := by
  have serving := serving_requested base index exchange input
  have overrun :=
    requested_overrun exchange nonempty listens filled
  have counted :
      (requested base index exchange input).byteCount.toNat =
        ((requested base index exchange input).current.size.toNat + 0) %
          65536 := by
    rw [serving.current_size, overrun.2, Nat.add_zero]
    exact (Nat.mod_eq_of_lt (base.cells index).size.toNat_lt).symm
  have ran :=
    Uart.receiveAll_overrun 0 overrun.1 counted (by decide) first.bytes
  rw [serving.current_size, Nat.zero_add, Nat.add_zero, if_pos (by omega),
    Nat.mod_eq_of_lt short] at ran
  rw [polls, fullAt_zero, Uart.readBufferFull_eq_true,
    (serving.receiveAll first.bytes).current_size, ran.2]
  exact Nat.le_add_right _ _

/--
Once the buffer was filled too early, the interrupt stays on exactly when the
first test still finds the buffer full and the counter does not come round.
-/
theorem Concluded.disabled_iff
    {outcome : ExchangeOutcome}
    (concluded : Concluded base index exchange input outcome)
    (nonempty : 0 < (base.cells index).size.toNat)
    (listens : base.listening = true)
    (filled : (base.cells index).size.toNat ≤ input.installed.length)
    {first : Poll} {rest : List Poll}
    (polls : input.polls = first :: rest) :
    outcome.uart.etsIntr = false ↔
      ¬((base.cells index).size.toNat + first.bytes.length < 65536 ∧
        first.bytes.length + input.late.length < 65536) := by
  have serving := serving_requested base index exchange input
  have overrun :=
    requested_overrun exchange nonempty listens filled
  have size := serving.current_size
  have bounded := (base.cells index).size.toNat_lt
  have counted :
      (requested base index exchange input).byteCount.toNat =
        ((requested base index exchange input).current.size.toNat + 0) %
          65536 := by
    rw [size, overrun.2, Nat.add_zero]
    exact (Nat.mod_eq_of_lt bounded).symm
  have firstTest :
      testedAt (requested base index exchange input) input.polls 0 =
        (requested base index exchange input).receiveAll first.bytes := by
    rw [testedAt, polls, Nat.zero_add, List.take_succ_cons, List.take_zero,
      List.flatMap_singleton]
  have ran :=
    Uart.receiveAll_overrun 0 overrun.1 counted (by decide) first.bytes
  rw [size, Nat.zero_add, Nat.add_zero] at ran
  by_cases short : (base.cells index).size.toNat + first.bytes.length < 65536
  · have full :=
      fullAt_overrun exchange nonempty listens filled polls short
    have vain : outcome.vain = 0 := by
      by_contra later
      exact (concluded.before 0 (Nat.pos_of_ne_zero later)).1 full
    have enables := concluded.enablesFull (vain ▸ full)
    rw [vain, firstTest, ← Uart.receiveAll_append] at enables
    have whole :=
      Uart.receiveAll_overrun 0 overrun.1 counted (by decide)
        (first.bytes ++ input.late)
    rw [List.length_append, Nat.zero_add] at whole
    rw [enables.1]
    by_cases round : first.bytes.length + input.late.length < 65536
    · rw [if_pos round, Uart.listening, Bool.and_eq_true] at whole
      simp [whole.1.1, short, round]
    · rw [if_neg round] at whole
      simp [whole, round]
  · have firstStops :
        ((requested base index exchange input).receiveAll
          first.bytes).Stops := by
      intro on
      rw [(serving.receiveAll first.bytes).current_size]
      by_cases round : first.bytes.length < 65536
      · rw [if_pos round] at ran
        rw [ran.2]
        omega
      · rw [if_neg round] at ran
        rw [ran] at on
        exact absurd on Bool.false_ne_true
    have stops :
        (testedAt (requested base index exchange input) input.polls
          outcome.vain).Stops := by
      rw [testedAt, polls, List.take_succ_cons, List.flatMap_cons,
        Uart.receiveAll_append]
      exact firstStops.receiveAll _
    simp [concluded.disabled stops, short]

end

/-! ## Correctness -/

namespace SyncCommand

/-- The UART when the wait loop of a granted call begins. -/
def start (command : SyncCommand) (uart : Uart) (input : ExchangeInput) :
    Uart :=
  requested (allocated uart command.exchange) uart.created command.exchange
    input

/--
A call is correct and cleans up.  The loop ends at the first test which finds
the buffer full or the timeout exceeded; the result is 0 exactly when the
buffer was full and begins with the pattern of a success; and on return the
interrupt is off, no buffer is installed, and both blocks have been freed
once.  A call which is refused, or whose allocation fails, changes nothing.
-/
structure Correct
    (command : SyncCommand) (uart : Uart) (input : ExchangeInput) : Prop where
  refused :
    command.granted input = false →
      ∃ outcome, command.call uart input = some outcome ∧
        outcome.result ≠ 0 ∧ outcome.uart = uart
  waits :
    command.granted input = true →
      (command.call uart input = none ↔
        ∀ test < input.polls.length,
          ¬FullAt (command.start uart input) input.polls test ∧
            ¬LateAt input.polls test)
  ends :
    command.granted input = true →
      ∀ outcome, command.call uart input = some outcome →
        outcome.vain < input.polls.length ∧
          (∀ test < outcome.vain,
            ¬FullAt (command.start uart input) input.polls test ∧
              ¬LateAt input.polls test) ∧
          (FullAt (command.start uart input) input.polls outcome.vain ∨
            LateAt input.polls outcome.vain)
  result :
    command.granted input = true →
      ∀ outcome, command.call uart input = some outcome →
        (outcome.result = 0 ↔
          FullAt (command.start uart input) input.polls outcome.vain ∧
            command.exchange.success <+:
              ((testedAt (command.start uart input) input.polls
                outcome.vain).cells uart.created).buf.bytes)
  cleansUp :
    command.granted input = true →
      ∀ outcome, command.call uart input = some outcome →
        outcome.uart.etsIntr = false ∧
          outcome.uart.buffer = none ∧
            (outcome.uart.cells uart.created).bufReleases = 1 ∧
              (outcome.uart.cells uart.created).structReleases = 1

/--
A call finds the interrupt on, and its buffer is filled before
`enable_interrupts` has run, which turns the interrupt on again.  It stays on
unless the counter comes round.
-/
def LeftOn
    (command : SyncCommand) (uart : Uart) (input : ExchangeInput) : Prop :=
  command.granted input = true ∧
    uart.listening = true ∧
      command.exchange.responseSize.toNat ≤ input.installed.length ∧
        ∃ first rest, input.polls = first :: rest ∧
          command.exchange.responseSize.toNat + first.bytes.length < 65536 ∧
            first.bytes.length + input.late.length < 65536

variable {command : SyncCommand} {uart : Uart} {input : ExchangeInput}

/-- Everything but the interrupt is always right. -/
theorem correct_iff_disabled :
    command.Correct uart input ↔
      (command.granted input = true →
        ∀ outcome, command.call uart input = some outcome →
          outcome.uart.etsIntr = false) := by
  constructor
  · intro correct granted outcome returned
    exact (correct.cleansUp granted outcome returned).1
  · intro disabled
    have concluded
        (granted : command.granted input = true)
        {outcome : ExchangeOutcome}
        (returned : command.call uart input = some outcome) :
        Concluded (allocated uart command.exchange) uart.created
          command.exchange input outcome := by
      rcases call_of_granted uart granted with ⟨same, grants⟩
      exact concluded_of_granted grants (same ▸ returned)
    exact
      { refused := by
          intro refused
          exact ⟨_, call_of_not_granted uart refused, Int.neg_ne_zero.mpr Int.one_ne_zero, rfl⟩
        waits := by
          intro granted
          rcases call_of_granted uart granted with ⟨same, grants⟩
          rw [same, runExchange_of_granted grants, Option.map_eq_none_iff,
            waitResponse_eq_none]
          rfl
        ends := by
          intro granted outcome returned
          have ends := concluded granted returned
          exact ⟨ends.tested, ends.before, ends.ended⟩
        result := by
          intro granted outcome returned
          exact (concluded granted returned).result
        cleansUp := by
          intro granted outcome returned
          have destroyed := (concluded granted returned).destroyed
          refine
            ⟨disabled granted outcome returned, destroyed.buffer, ?_, ?_⟩
          · rw [destroyed.bufReleases, allocated_cell]
            rfl
          · rw [destroyed.structReleases, allocated_cell]
            rfl }

/--
A synchronous exchange is correct and cleans up, for every stream of bytes,
every timing, every answer of the allocator and every start of the counter,
exactly unless it finds the receive interrupt on and its buffer is filled
before it turns the interrupt on itself.
-/
theorem correct_iff
    (command : SyncCommand) (uart : Uart) (input : ExchangeInput) :
    command.Correct uart input ↔ ¬command.LeftOn uart input := by
  have cell := allocated_cell uart command.exchange
  have nonempty :
      0 < ((allocated uart command.exchange).cells uart.created).size.toNat := by
    rw [cell]
    exact command.responseSize_pos
  have size :
      ((allocated uart command.exchange).cells uart.created).size =
        command.exchange.responseSize := by
    rw [cell]
    rfl
  rw [correct_iff_disabled]
  constructor
  · intro disabled left
    rcases left with
      ⟨granted, listens, filled, first, rest, polls, short, round⟩
    rcases call_of_granted uart granted with ⟨same, grants⟩
    rw [← size] at filled short
    cases returned : command.call uart input with
    | none =>
        have full :=
          fullAt_overrun command.exchange nonempty listens filled
            polls short
        rw [same, runExchange_of_granted grants, Option.map_eq_none_iff,
          waitResponse_eq_none] at returned
        exact (returned 0 (by rw [polls]; exact Nat.zero_lt_succ _)).1 full
    | some outcome =>
        have concluded := concluded_of_granted grants (same ▸ returned)
        exact
          (concluded.disabled_iff nonempty listens filled polls).mp
            (disabled granted outcome returned) ⟨short, round⟩
  · intro kept granted outcome returned
    rcases call_of_granted uart granted with ⟨same, grants⟩
    have concluded := concluded_of_granted grants (same ▸ returned)
    by_cases early :
        uart.listening = true ∧
          ((allocated uart command.exchange).cells uart.created).size.toNat ≤
            input.installed.length
    · rcases early with ⟨listens, filled⟩
      cases polls : input.polls with
      | nil =>
          have tested := concluded.tested
          rw [polls] at tested
          exact absurd tested (Nat.not_lt_zero _)
      | cons first rest =>
          rw [concluded.disabled_iff nonempty listens filled polls]
          intro stays
          rw [size] at filled stays
          exact
            kept
              ⟨granted, listens, filled, first, rest, polls, stays.1, stays.2⟩
    · have stops :=
        stops_requested command.exchange input nonempty
          (fun listens => by
            by_contra filled
            exact early ⟨listens, Nat.not_lt.mp filled⟩)
      exact concluded.disabled (stops.receiveAll _)

/-- What a call that has returned did to the UART. -/
inductive Effect
    (command : SyncCommand) (uart : Uart) (input : ExchangeInput)
    (outcome : ExchangeOutcome) : Prop where
  | unchanged
      (refused : command.granted input = false)
      (failed : outcome.result ≠ 0)
      (same : outcome.uart = uart)
  | exchanged
      (granted : command.granted input = true)
      (concluded :
        Concluded (allocated uart command.exchange) uart.created
          command.exchange input outcome)
      (disabled :
        uart.listening = false → outcome.uart.etsIntr = false)

theorem effect
    {command : SyncCommand} {uart : Uart} {input : ExchangeInput}
    {outcome : ExchangeOutcome}
    (returned : command.call uart input = some outcome) :
    Effect command uart input outcome := by
  cases granted : command.granted input with
  | false =>
      rw [call_of_not_granted uart granted, Option.some.injEq] at returned
      subst returned
      exact
        .unchanged granted (Int.neg_ne_zero.mpr Int.one_ne_zero) rfl
  | true =>
      rcases call_of_granted uart granted with ⟨same, grants⟩
      have concluded := concluded_of_granted grants (same ▸ returned)
      refine .exchanged granted concluded ?_
      intro deaf
      have nonempty :
          0 < ((allocated uart command.exchange).cells
            uart.created).size.toNat := by
        rw [allocated_cell]
        exact command.responseSize_pos
      have stops :=
        stops_requested command.exchange input nonempty
          (fun listens => by
            have both : uart.listening = true := listens
            rw [deaf] at both
            exact absurd both Bool.false_ne_true)
      exact concluded.disabled (stops.receiveAll _)

/-- A call which finds both of the interrupt enables off leaves them off. -/
theorem quiet
    {command : SyncCommand} {uart : Uart} {input : ExchangeInput}
    {outcome : ExchangeOutcome}
    (returned : command.call uart input = some outcome)
    (quiet : uart.Quiet) :
    outcome.uart.Quiet := by
  cases effect returned with
  | unchanged _ _ same =>
      rw [same]
      exact quiet
  | exchanged _ concluded disabled =>
      have ets := disabled quiet.deaf
      by_cases full :
          FullAt (requested (allocated uart command.exchange) uart.created
            command.exchange input) input.polls outcome.vain
      · have enables := concluded.enablesFull full
        have deaf :
            ((allocated uart command.exchange).setRxBuffer
              uart.created).listening = false :=
          quiet.deaf
        have earlyDeaf :
            ((allocated uart command.exchange).setRxBuffer
              uart.created).enableInterrupts.listening = false := by
          rw [Uart.listening, Bool.and_eq_false_iff]
          exact Or.inr quiet.pinIntr
        have paired :
            (requested (allocated uart command.exchange) uart.created
                command.exchange input).etsIntr =
              (requested (allocated uart command.exchange) uart.created
                command.exchange input).pinIntr := by
          rw [requested, Uart.receiveAll_of_not_listening deaf,
            Uart.receiveAll_of_not_listening earlyDeaf]
          rfl
        have pairedAtTest := Uart.receiveAll_paired paired
        have still :=
          Uart.receiveAll_paired
            (pairedAtTest
              ((input.polls.take (outcome.vain + 1)).flatMap Poll.bytes))
            input.late
        rw [testedAt] at enables
        rw [← enables.1, ← enables.2, ets] at still
        exact ⟨ets, still.symm⟩
      · have enables := concluded.enablesLate full
        exact ⟨enables.1, enables.2⟩

end SyncCommand

/-! ### A reset during a transfer -/

/-- A UART which receives a picture of twenty bytes. -/
def receivingUart : Uart :=
  { Uart.boot with
    byteCount := 3
    buffer := some 0
    etsIntr := true
    pinIntr := true
    created := 1
    cells := fun _ => .fresh 20 .cameraPictureRecvDone }

/-- Four bytes of the picture arrive while `Camera_reset` has not yet sent its command. -/
def crossedInput : ExchangeInput where
  create := { heapSize := 1000, buffer := true, bufferStruct := true }
  installed := [1, 2, 3, 4]
  early := []
  clock := 0
  polls := [{ bytes := [], ticks := 0 }]
  late := []

/-- `Camera_reset` returns with the interrupt on and no buffer. -/
theorem cameraReset_leaves_interrupt_on :
    ¬SyncCommand.reset.Correct receivingUart crossedInput := by
  intro correct
  have left :
      (SyncCommand.reset.call receivingUart crossedInput).map
        (·.uart.etsIntr) = some true := by
    decide
  rcases Option.map_eq_some_iff.mp left with ⟨outcome, returned, on⟩
  have cleansUp := correct.cleansUp (by decide) outcome returned
  rw [cleansUp.1] at on
  exact absurd on Bool.false_ne_true

end EspFirmware
