import EspFirmware.Library.Runs
import EspFirmware.Temperature

/-!
# Pulses are classified by their lengths

The loop of `get_data_bits` counts the ones since the last zero, as the pass
which finds the completed runs does.  A bit of its block says whether the run
of the same number is long.
-/

namespace EspFirmware

open Library

namespace PulseScan

@[simp]
theorem zero_onesCounter (scan : PulseScan) :
    scan.zero.onesCounter = 0 :=
  rfl

@[simp]
theorem zero_dataIndex (scan : PulseScan) :
    scan.zero.dataIndex = scan.dataIndex + 1 :=
  rfl

@[simp]
theorem zero_stores (scan : PulseScan) :
    scan.zero.stores = scan.stores ++ [scan.dataIndex] :=
  rfl

theorem zero_data (scan : PulseScan) :
    scan.zero.data =
      scan.data.setIfInBounds scan.dataIndex
        (decide (dataBitHighThreshold < scan.onesCounter)) := by
  rw [zero]
  split
  · rename_i long
    rw [decide_eq_true long]
  · rename_i short
    rw [decide_eq_false short]

/-! ## The loop -/

/-- The loop is left as soon as the block is full. -/
theorem run_of_full
    {scan : PulseScan}
    (full : readBufferSize ≤ scan.dataIndex)
    (rest : List Bool) :
    scan.run rest = scan := by
  cases rest with
  | nil =>
      rfl
  | cons sample rest =>
      rw [run, if_pos full]

theorem run_append (scan : PulseScan) (front back : List Bool) :
    scan.run (front ++ back) = (scan.run front).run back := by
  induction front generalizing scan with
  | nil =>
      rfl
  | cons sample front induction =>
      rw [List.cons_append, run, run]
      by_cases full : readBufferSize ≤ scan.dataIndex
      · rw [if_pos full, if_pos full, run_of_full full]
      · rw [if_neg full, if_neg full]
        split
        · exact induction scan.one
        · split
          · exact induction scan.zero
          · exact induction scan

/-- Ones at the end are counted, and nothing is stored for them. -/
theorem run_ones_data (scan : PulseScan) (count : Nat) :
    (scan.run (List.replicate count true)).data = scan.data := by
  induction count generalizing scan with
  | zero =>
      rfl
  | succ count induction =>
      rw [List.replicate_succ, run]
      split
      · rfl
      · exact induction scan.one

/-- Zeros do nothing, when there is no streak. -/
theorem run_zeros
    {scan : PulseScan}
    (rests : scan.onesStreak = false)
    (count : Nat) :
    scan.run (List.replicate count false) = scan := by
  induction count with
  | zero =>
      rfl
  | succ count induction =>
      rw [List.replicate_succ, run, rests, induction]
      simp

/-- Behind a zero there is no streak, or the block is full. -/
theorem run_rests
    {scan : PulseScan} {samples : List Bool}
    (rests : scan.onesStreak = false)
    (last : samples.getLast? ≠ some true) :
    (scan.run samples).onesStreak = false ∨
      readBufferSize ≤ (scan.run samples).dataIndex := by
  induction samples using List.reverseRecOn with
  | nil =>
      exact Or.inl rests
  | append_singleton samples sample _ =>
      have zero : sample = false := by
        rw [List.getLast?_concat] at last
        simpa using last
      rw [zero, run_append, run]
      split
      · exact Or.inr ‹_›
      · left
        rw [if_neg Bool.false_ne_true]
        split
        · rfl
        · exact Bool.eq_false_of_not_eq_true ‹¬_›

/-- Zeros behind a zero, or in front of everything, change nothing. -/
theorem run_more_zeros
    {scan : PulseScan} {samples : List Bool}
    (rests : scan.onesStreak = false)
    (last : samples.getLast? ≠ some true)
    (zeros : Nat) (later : List Bool) :
    scan.run (samples ++ (List.replicate zeros false ++ later)) =
      scan.run (samples ++ later) := by
  rw [run_append, run_append, run_append]
  rcases run_rests rests last with waits | full
  · rw [run_zeros waits]
  · rw [run_of_full full]

/-- The loop stores inside of the block. -/
theorem mem_stores_run
    {scan : PulseScan} {rest : List Bool} {index : Nat}
    (inside : ∀ earlier ∈ scan.stores, earlier < readBufferSize)
    (member : index ∈ (scan.run rest).stores) :
    index < readBufferSize := by
  induction rest generalizing scan with
  | nil =>
      exact inside index member
  | cons sample rest induction =>
      rw [run] at member
      split at member
      · exact inside index member
      · rename_i room
        split at member
        · exact @induction scan.one inside member
        · split at member
          · apply induction _ member
            intro earlier stored
            rw [zero_stores, List.mem_append, List.mem_singleton] at stored
            rcases stored with before | same
            · exact inside earlier before
            · rw [same]
              exact Nat.lt_of_not_le room
          · exact induction inside member

/-! ## The runs -/

/-- The streak is the ones which are counted. -/
def Counts (scan : PulseScan) : Prop :=
  scan.onesStreak = true ↔ 0 < scan.onesCounter

theorem counts_start :
    start.Counts := by
  simp [Counts, start]

theorem counts_one (scan : PulseScan) :
    scan.one.Counts := by
  simp [Counts, one]

theorem counts_zero (scan : PulseScan) :
    scan.zero.Counts := by
  simp [Counts, zero]

/-- The bit for a run of ones. -/
def long (run : Run) : Bool :=
  decide (dataBitHighThreshold < run.length)

/-- Every run which is completed takes the next entry, while there is one. -/
theorem run_entry
    {scan : PulseScan}
    (counts : scan.Counts)
    (start : Nat) (rest : List Bool)
    {index : Nat} (inside : index < readBufferSize) :
    (scan.run rest).data[index] =
      if index < scan.dataIndex then
        scan.data[index]
      else
        ((runsFrom start scan.onesCounter rest)[index - scan.dataIndex]?.map
          long).getD scan.data[index] := by
  induction rest generalizing scan start with
  | nil =>
      simp [run, runsFrom]
  | cons sample rest induction =>
      rw [run]
      by_cases full : readBufferSize ≤ scan.dataIndex
      · rw [if_pos full, if_pos (by omega)]
      · rw [if_neg full]
        cases sample with
        | true =>
            exact induction (counts_one scan) start
        | false =>
            rw [if_neg Bool.false_ne_true, runsFrom]
            by_cases streak : scan.onesStreak = true
            · have some := Nat.ne_of_gt (counts.mp streak)
              rw [if_pos streak, if_neg some,
                induction (counts_zero scan) (start + scan.onesCounter + 1)]
              simp only [zero_onesCounter, zero_dataIndex, zero_data,
                Vector.getElem_setIfInBounds]
              rcases Nat.lt_trichotomy index scan.dataIndex with
                before | here | behind
              · rw [if_pos (by omega), if_pos before, if_neg (by omega)]
              · subst here
                simp [long]
              · have position : index - scan.dataIndex =
                    index - (scan.dataIndex + 1) + 1 := by
                  omega
                rw [if_neg (by omega), if_neg (by omega),
                  if_neg (by omega), position, List.getElem?_cons_succ]
            · have none : scan.onesCounter = 0 := by
                have := counts.not.mp streak
                omega
              rw [if_neg streak, if_pos none, induction counts (start + 1),
                none]

/-- The next entry is behind those of the completed runs. -/
theorem run_dataIndex
    {scan : PulseScan}
    (counts : scan.Counts)
    (room : scan.dataIndex ≤ readBufferSize)
    (start : Nat) (rest : List Bool) :
    (scan.run rest).dataIndex =
      min readBufferSize
        (scan.dataIndex +
          (runsFrom start scan.onesCounter rest).length) := by
  induction rest generalizing scan start with
  | nil =>
      simp [run, runsFrom, room]
  | cons sample rest induction =>
      rw [run]
      by_cases full : readBufferSize ≤ scan.dataIndex
      · rw [if_pos full, Nat.min_eq_left (by omega)]
        omega
      · rw [if_neg full]
        cases sample with
        | true =>
            exact induction (counts_one scan) room start
        | false =>
            rw [if_neg Bool.false_ne_true, runsFrom]
            by_cases streak : scan.onesStreak = true
            · have some := Nat.ne_of_gt (counts.mp streak)
              have next : scan.zero.dataIndex ≤ readBufferSize :=
                Nat.lt_of_not_le full
              rw [if_pos streak, if_neg some,
                induction (counts_zero scan) next
                  (start + scan.onesCounter + 1),
                zero_onesCounter, zero_dataIndex, List.length_cons,
                Nat.add_assoc, Nat.add_comm 1]
            · have none : scan.onesCounter = 0 := by
                have := counts.not.mp streak
                omega
              rw [if_neg streak, if_pos none,
                induction counts room (start + 1), none]

end PulseScan

/--
An entry is 1 exactly when the completed run of the same number is long.
What comes behind 42 runs, a run which no zero completes, and the lengths of
the runs of zeros do not matter, and every store is inside of the block.
-/
theorem getDataBits_classifies (raw : List Bool) :
    ∃ runs : List Run,
      (∀ run, run ∈ runs ↔ run.CompletedIn raw) ∧
      (runs.Pairwise fun earlier later => earlier.start < later.start) ∧
      (∀ (index : Nat) (inside : index < readBufferSize),
        (getDataBits raw)[index] = true ↔
          ∃ run, runs[index]? = some run ∧
            dataBitHighThreshold < run.length) ∧
      (∀ later, readBufferSize ≤ runs.length →
        getDataBits (raw ++ later) = getDataBits raw) ∧
      (∀ cut,
        getDataBits (raw ++ List.replicate cut true) = getDataBits raw) ∧
      (∀ zeros later, raw.getLast? ≠ some true →
        getDataBits (raw ++ (List.replicate zeros false ++ later)) =
          getDataBits (raw ++ later)) ∧
      ∀ index ∈ (PulseScan.start.run raw).stores, index < readBufferSize := by
  refine ⟨completedRuns raw, mem_completedRuns_iff raw,
    pairwise_runsFrom raw 0 0, ?_, ?_, ?_, ?_, ?_⟩
  · intro index inside
    rw [getDataBits, PulseScan.run_entry PulseScan.counts_start 0 raw inside]
    change ((completedRuns raw)[index]?.map PulseScan.long).getD
      (PulseScan.start.data[index]) = true ↔ _
    cases (completedRuns raw)[index]? with
    | none =>
        simp [PulseScan.start]
    | some run =>
        simp [PulseScan.long]
  · intro later enough
    have full : readBufferSize ≤ (PulseScan.start.run raw).dataIndex := by
      rw [PulseScan.run_dataIndex PulseScan.counts_start (Nat.zero_le _) 0]
      change readBufferSize ≤
        min readBufferSize (0 + (completedRuns raw).length)
      omega
    rw [getDataBits, PulseScan.run_append, PulseScan.run_of_full full,
      getDataBits]
  · intro cut
    rw [getDataBits, PulseScan.run_append, PulseScan.run_ones_data,
      getDataBits]
  · intro zeros later last
    rw [getDataBits, PulseScan.run_more_zeros rfl last, getDataBits]
  · intro index stored
    exact PulseScan.mem_stores_run (by simp [PulseScan.start]) stored

end EspFirmware
