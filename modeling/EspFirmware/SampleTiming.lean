import EspFirmware.CameraExchange
import EspFirmware.LineCoding
import Mathlib.Algebra.Order.Field.Rat
import Mathlib.Tactic.IntervalCases
import Mathlib.Tactic.NormNum

/-!
# When the samples of a byte are taken

`software_uart_config` computes the length of a bit in whole microseconds, and
the loops of `bit_bang_read_byte` wait in whole ticks of the timer.  The clock
is read in ticks from the start edge on, and the loops themselves take no
time.
-/

namespace EspFirmware

open Library

/-! ## The samples -/

/-- The static variables of `software_uart.c` which depend on the baud rate. -/
structure UartTiming where
  baudRate : UInt32
  /-- In microseconds. -/
  bitDelay : UInt32
deriving DecidableEq

namespace UartTiming

/-- The statically initialised variables. -/
def boot : UartTiming where
  baudRate := 38400
  bitDelay := 26

/-- `software_uart_config`, which refuses a baud rate of zero. -/
def softwareUartConfig (timing : UartTiming) (baud : UInt32) : UartTiming :=
  if baud = 0 then timing
  else { baudRate := baud, bitDelay := 1000000 / baud }

/-- The loop of `bit_bang_read_byte`, from some value of the clock on: when it samples. -/
def sampleLoop (timing : UartTiming) : Nat → Nat → List Nat
  | 0, _ => []
  | turns + 1, clock =>
      clock ::
        timing.sampleLoop turns (clock + (toTicks timing.bitDelay).toNat)

/-- When `bit_bang_read_byte` samples, in ticks behind the start edge. -/
def sampleInstants (timing : UartTiming) : List Nat :=
  timing.sampleLoop 8
    (toTicks (timing.bitDelay + timing.bitDelay / 2)).toNat

end UartTiming

/-! ## The bits on the line -/

/-- `TIMER_CLK_FREQ`. -/
def timerClkFreq : Nat := 312500

/-- The instant lies in the cell of a data bit, at exactly this baud rate. -/
def InCell (baud bit instant : Nat) : Prop :=
  (bit + 1 : ℚ) * timerClkFreq / baud ≤ instant ∧
    (instant : ℚ) < (bit + 2) * timerClkFreq / baud

/-- Every data bit is sampled in its own cell. -/
def SamplesRightBits (timing : UartTiming) (baud : Nat) : Prop :=
  ∀ bit < 8,
    ∃ instant, timing.sampleInstants[bit]? = some instant ∧
      InCell baud bit instant

/-- The baud rates for which the rounding does no harm. -/
def rightBauds : List (Nat × Nat) :=
  [(1, 18181), (18249, 19230), (19532, 20833), (21009, 22222),
    (22523, 23809), (24272, 24390), (24510, 25641), (26596, 27777),
    (29412, 31250), (32468, 34482), (36765, 38461), (42373, 43478),
    (49020, 50000), (59524, 62500), (75758, 76923), (100000, 100000)]

/-! ## Rounding -/

theorem inCell_iff
    {baud bit instant : Nat}
    (positive : 0 < baud) :
    InCell baud bit instant ↔
      (bit + 1) * 312500 ≤ instant * baud ∧
        instant * baud < (bit + 2) * 312500 := by
  have rate : (0 : ℚ) < baud := Nat.cast_pos.mpr positive
  rw [InCell, div_le_iff₀ rate, lt_div_iff₀ rate, timerClkFreq]
  norm_cast

/-- The truncated length of a bit in ticks. -/
def bitTicks (delay : Nat) : Nat :=
  delay * 5 / 16

/-- The truncated length of one and a half bits in ticks. -/
def firstTicks (delay : Nat) : Nat :=
  (delay + delay / 2) * 5 / 16

/-- No sample is too late, and the last one decides whether one is too early. -/
theorem inCells_iff
    {baud delay : Nat}
    (short : delay * baud ≤ 1000000) :
    (∀ bit < 8,
      (bit + 1) * 312500 ≤ (firstTicks delay + bit * bitTicks delay) * baud ∧
        (firstTicks delay + bit * bitTicks delay) * baud <
          (bit + 2) * 312500) ↔
      2500000 ≤ (firstTicks delay + 7 * bitTicks delay) * baud := by
  have first : firstTicks delay * baud ≤ 468750 := by
    have ticks : firstTicks delay * 32 ≤ delay * 15 := by
      rw [firstTicks]
      omega
    have scaled := Nat.mul_le_mul_right baud ticks
    rw [Nat.mul_right_comm, Nat.mul_right_comm delay] at scaled
    omega
  have step : bitTicks delay * baud ≤ 312500 := by
    have ticks : bitTicks delay * 16 ≤ delay * 5 := by
      rw [bitTicks]
      omega
    have scaled := Nat.mul_le_mul_right baud ticks
    rw [Nat.mul_right_comm, Nat.mul_right_comm delay] at scaled
    omega
  have scaled (bit : Nat) :
      (firstTicks delay + bit * bitTicks delay) * baud =
        firstTicks delay * baud + bit * (bitTicks delay * baud) := by
    rw [Nat.add_mul, Nat.mul_assoc]
  simp only [scaled]
  constructor
  · intro cells
    exact (cells 7 (by decide)).1
  · intro last bit inside
    interval_cases bit <;> omega

/-- The last sample is in its cell for the right baud rates, and no others. -/
theorem last_sample_iff
    {baud : Nat}
    (positive : 1 ≤ baud)
    (supported : baud ≤ 115200) :
    2500000 ≤
        (firstTicks (1000000 / baud) + 7 * bitTicks (1000000 / baud)) *
          baud ↔
      ∃ range ∈ rightBauds, range.1 ≤ baud ∧ baud ≤ range.2 := by
  have ranges :
      (∃ range ∈ rightBauds, range.1 ≤ baud ∧ baud ≤ range.2) ↔
        baud ≤ 18181 ∨ 18249 ≤ baud ∧ baud ≤ 19230 ∨
          19532 ≤ baud ∧ baud ≤ 20833 ∨ 21009 ≤ baud ∧ baud ≤ 22222 ∨
          22523 ≤ baud ∧ baud ≤ 23809 ∨ 24272 ≤ baud ∧ baud ≤ 24390 ∨
          24510 ≤ baud ∧ baud ≤ 25641 ∨ 26596 ≤ baud ∧ baud ≤ 27777 ∨
          29412 ≤ baud ∧ baud ≤ 31250 ∨ 32468 ≤ baud ∧ baud ≤ 34482 ∨
          36765 ≤ baud ∧ baud ≤ 38461 ∨ 42373 ≤ baud ∧ baud ≤ 43478 ∨
          49020 ≤ baud ∧ baud ≤ 50000 ∨ 59524 ≤ baud ∧ baud ≤ 62500 ∨
          75758 ≤ baud ∧ baud ≤ 76923 ∨ 100000 = baud := by
    simp only [rightBauds, List.mem_cons, List.not_mem_nil, or_false,
      exists_eq_or_imp, exists_eq_left]
    omega
  rw [ranges]
  have below : 1000000 / baud * baud ≤ 1000000 :=
    Nat.div_mul_le_self _ _
  have above : 1000000 < (1000000 / baud + 1) * baud := by
    rw [Nat.mul_comm]
    exact Nat.lt_mul_div_succ _ positive
  generalize 1000000 / baud = delay at below above
  by_cases long : 65 ≤ delay
  · have enough :
        (delay + 1) * 5 ≤ (firstTicks delay + 7 * bitTicks delay) * 2 := by
      rw [firstTicks, bitTicks]
      omega
    have scaled := Nat.mul_le_mul_right baud enough
    rw [Nat.mul_right_comm, Nat.mul_right_comm _ 2] at scaled
    have few : baud * 65 ≤ 1000000 := by
      have := Nat.mul_le_mul_right baud long
      omega
    constructor
    · intro _
      omega
    · intro _
      omega
  · have some : 8 ≤ delay := by
      by_contra short
      have := Nat.mul_le_mul_right baud (show delay + 1 ≤ 8 by omega)
      omega
    rw [firstTicks, bitTicks]
    interval_cases delay <;> omega

/-! ## The samples of a configured UART -/

theorem getElem?_sampleLoop
    (timing : UartTiming) {turns : Nat} (clock : Nat) {bit : Nat}
    (inside : bit < turns) :
    (timing.sampleLoop turns clock)[bit]? =
      some (clock + bit * (toTicks timing.bitDelay).toNat) := by
  induction turns generalizing clock bit with
  | zero =>
      cases inside
  | succ turns induction =>
      rw [UartTiming.sampleLoop]
      cases bit with
      | zero =>
          rw [Nat.zero_mul]
          rfl
      | succ bit =>
          rw [List.getElem?_cons_succ,
            induction _ (Nat.lt_of_succ_lt_succ inside), Nat.add_assoc,
            Nat.add_mul, Nat.one_mul, Nat.add_comm (bit * _)]

theorem toNat_toTicks
    {microseconds : UInt32}
    (small : microseconds.toNat * 5 < 2 ^ 32) :
    (toTicks microseconds).toNat = microseconds.toNat * 5 / 16 := by
  have five : (5 : UInt32).toNat = 5 := rfl
  rw [toTicks, UInt32.toNat_shiftRight, UInt32.toNat_mul, five,
    Nat.mod_eq_of_lt small, Nat.shiftRight_eq_div_pow]
  rfl

/-- Nothing overflows: a bit has a million microseconds at most. -/
theorem sampleInstants_configured
    (timing : UartTiming) {baud : UInt32}
    (nonzero : baud ≠ 0)
    {bit : Nat} (inside : bit < 8) :
    (timing.softwareUartConfig baud).sampleInstants[bit]? =
      some
        (firstTicks (1000000 / baud.toNat) +
          bit * bitTicks (1000000 / baud.toNat)) := by
  have million : (1000000 : UInt32).toNat = 1000000 := rfl
  have delay : (1000000 / baud).toNat = 1000000 / baud.toNat := by
    rw [UInt32.toNat_div, million]
  have short : 1000000 / baud.toNat ≤ 1000000 := Nat.div_le_self _ _
  have half :
      (1000000 / baud + 1000000 / baud / 2).toNat =
        1000000 / baud.toNat + 1000000 / baud.toNat / 2 := by
    have two : (2 : UInt32).toNat = 2 := rfl
    have halved :
        (1000000 / baud / 2).toNat = 1000000 / baud.toNat / 2 := by
      rw [UInt32.toNat_div, delay, two]
    rw [UInt32.toNat_add, halved, delay, Nat.mod_eq_of_lt (by omega)]
  rw [UartTiming.softwareUartConfig, if_neg nonzero,
    UartTiming.sampleInstants, getElem?_sampleLoop _ _ inside]
  dsimp only
  rw [toNat_toTicks (by rw [half]; omega), toNat_toTicks (by rw [delay]; omega),
    half, delay, firstTicks, bitTicks]

/--
The UART samples every data bit in its cell exactly at the baud rates for
which the rounding does no harm.
-/
theorem samples_right_bits_iff
    (timing : UartTiming) (baud : UInt32)
    (positive : 1 ≤ baud)
    (supported : baud ≤ 115200) :
    SamplesRightBits (timing.softwareUartConfig baud) baud.toNat ↔
      ∃ range ∈ rightBauds,
        range.1 ≤ baud.toNat ∧ baud.toNat ≤ range.2 := by
  have some : 1 ≤ baud.toNat := UInt32.le_iff_toNat_le.mp positive
  have few : baud.toNat ≤ 115200 := UInt32.le_iff_toNat_le.mp supported
  have nonzero : baud ≠ 0 := by
    rintro rfl
    exact absurd some (by decide)
  rw [← last_sample_iff some few,
    ← inCells_iff (Nat.div_mul_le_self 1000000 baud.toNat)]
  apply forall₂_congr
  intro bit inside
  rw [sampleInstants_configured timing nonzero inside]
  simp only [Option.some.injEq, exists_eq_left', inCell_iff some]

/-- 9600 baud are slow enough. -/
theorem samples_right_bits_iff_9600 :
    SamplesRightBits (UartTiming.boot.softwareUartConfig 9600) 9600 :=
  (samples_right_bits_iff .boot 9600 (by decide) (by decide)).mpr
    ⟨(1, 18181), by decide, by decide, by decide⟩

/-- At 115200 baud the sample for the last bit is taken two bits too early. -/
theorem samples_wrong_bit_115200 :
    (UartTiming.boot.softwareUartConfig 115200).sampleInstants[7]? =
        some 17 ∧
      InCell 115200 5 17 ∧
        ¬SamplesRightBits (UartTiming.boot.softwareUartConfig 115200)
          115200 := by
  have last :
      (UartTiming.boot.softwareUartConfig 115200).sampleInstants[7]? =
        some 17 := by
    decide
  refine ⟨last, (inCell_iff (by decide)).mpr (by decide), ?_⟩
  intro right
  rcases right 7 (by decide) with ⟨instant, sampled, cell⟩
  rw [last, Option.some.injEq] at sampled
  rw [← sampled, inCell_iff (by decide)] at cell
  exact absurd cell (by decide)

/-! ## The byte which is read -/

/-- The level of the line at an instant, which is high behind the stop bit. -/
def lineLevel (baud : Nat) (levels : List Bool) (instant : Nat) : Bool :=
  levels.getD (instant * baud / timerClkFreq) true

/-- The byte which `bit_bang_read_byte` builds from the levels of a byte. -/
def UartTiming.readByte (timing : UartTiming) (baud : Nat) (byte : UInt8) :
    UInt8 :=
  (timing.sampleInstants.map (lineLevel baud (Uart.sendByte byte))).foldl
    Uart.sampleBit 0

theorem length_sampleLoop (timing : UartTiming) (turns clock : Nat) :
    (timing.sampleLoop turns clock).length = turns := by
  induction turns generalizing clock with
  | zero =>
      rfl
  | succ turns induction =>
      exact congrArg (· + 1) (induction _)

/-- A sample in the cell of a data bit sees this bit. -/
theorem lineLevel_of_inCell
    {baud bit instant : Nat} (byte : UInt8)
    (positive : 0 < baud)
    (inside : bit < 8)
    (cell : InCell baud bit instant) :
    some (lineLevel baud (Uart.sendByte byte) instant) =
      (Uart.dataBits 8 byte)[bit]? := by
  have bounds := (inCell_iff positive).mp cell
  have place : instant * baud / timerClkFreq = bit + 1 := by
    rw [timerClkFreq]
    omega
  have length := Receiver.length_dataBits 8 byte
  rw [lineLevel, place, Uart.sendByte, List.getD_eq_getElem?_getD,
    List.cons_append, List.getElem?_cons_succ,
    List.getElem?_append_left (by omega),
    List.getElem?_eq_getElem (by omega), Option.getD_some]

/-- A byte which is sampled in the right cells is received as it was sent. -/
theorem readByte_of_samplesRightBits
    {timing : UartTiming} {baud : Nat}
    (positive : 0 < baud)
    (right : SamplesRightBits timing baud) (byte : UInt8) :
    timing.readByte baud byte = byte := by
  have bits :
      timing.sampleInstants.map (lineLevel baud (Uart.sendByte byte)) =
        Uart.dataBits 8 byte := by
    apply List.ext_getElem?
    intro bit
    rw [List.getElem?_map]
    by_cases inside : bit < 8
    · rcases right bit inside with ⟨instant, sampled, cell⟩
      rw [sampled, Option.map_some,
        lineLevel_of_inCell byte positive inside cell]
    · rw [List.getElem?_eq_none, List.getElem?_eq_none]
      · rfl
      · rw [Receiver.length_dataBits]
        omega
      · rw [UartTiming.sampleInstants, length_sampleLoop]
        omega
  rw [UartTiming.readByte, bits, foldl_sampleBit_dataBits]

end EspFirmware
