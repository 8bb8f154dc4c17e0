import EspFirmware.Library.MemoryProgram
import EspFirmware.Parser
import Mathlib.Data.List.GetD

/-!
# The string functions, byte by byte

`separate`, `os_strcmp` and the conversion `%s` go through a string until they
find its terminator, or something else that stops them.  Nothing else keeps
them inside of the memory which they were given.
-/

namespace EspFirmware

open Library Program

/-! ## The functions -/

/-- The loop of `separate` ends at the terminator or at the separator. -/
def separateStops (sep : UInt8) (byte : UInt8) : Bool :=
  byte == 0 || byte == sep

/-- `separate`, called with a pointer into the memory. -/
def separateScan (str : Nat) (sep : UInt8) : Program UInt8 CharPtr :=
  (scan (fun _ => separateStops sep) str).andThen fun found =>
    if found.stop = 0 then
      done .literal
    else
      (store (str + found.passed.length) 0).andThen fun _ =>
        done (.inside (str + found.passed.length + 1))

/-- The loop of `os_strcmp` ends at the first difference, or at the end of the literal. -/
def strcmpStops (str : Nat) (literal : List UInt8) (index : Nat)
    (byte : UInt8) : Bool :=
  decide (literal.length ≤ index - str) || byte != literal.getD (index - str) 0

/-- `os_strcmp(str, literal) == 0`. -/
def osStrcmp (str : Nat) (literal : List UInt8) : Program UInt8 Bool :=
  (scan (strcmpStops str literal) str).andThen fun found =>
    done (decide (literal.length ≤ found.passed.length ∧ found.stop = 0))

/-- The conversion `%s`, and the text which it prints. -/
def printString (str : Nat) : Program UInt8 (List UInt8) :=
  (scan (fun _ byte => byte == 0) str).andThen fun found =>
    done found.passed

/-! ## `separate` -/

/-- What the scan of `separate` has found, when it stops. -/
theorem separateStops_layout
    {sep : UInt8} {cells : List UInt8} {index : Nat} {found : Scanned UInt8}
    (stopped :
      (scanFrom (fun _ => separateStops sep) index cells).2 = some found) :
    (∃ back, cells = found.passed ++ found.stop :: back) ∧
      (found.stop = 0 ∨ found.stop = sep) ∧
        0 ∉ found.passed ∧ sep ∉ found.passed := by
  rcases scanFrom_eq_some_iff.mp stopped with ⟨layout, stopping, before⟩
  refine ⟨layout, ?_, ?_, ?_⟩
  · simpa [separateStops] using stopping
  · intro member
    rcases List.getElem_of_mem member with ⟨offset, inside, zero⟩
    have passed := before offset inside
    rw [zero] at passed
    cases passed
  · intro member
    rcases List.getElem_of_mem member with ⟨offset, inside, place⟩
    have passed := before offset inside
    simp [place, separateStops] at passed

/-- `separate` does what its scan says, when that one comes to an end. -/
theorem separateScan_eq_separate
    {block : List UInt8} {str : Nat} {sep : UInt8} {found : Scanned UInt8}
    (proper : sep ≠ 0)
    (stopped :
      (scan (fun _ => separateStops sep) str block).result = some found) :
    (separateScan str sep block).memory =
        (separate block (.inside str) sep).1 ∧
      (separateScan str sep block).result =
        some (separate block (.inside str) sep).2 := by
  rcases separateStops_layout stopped with
    ⟨⟨back, layout⟩, ends, nonzero, absent⟩
  have inside : str + found.passed.length < block.length := by
    have length := congrArg List.length layout
    rw [List.length_drop, List.length_append, List.length_cons] at length
    omega
  simp only [separateScan, andThen, stopped, separate, layout]
  rcases ends with zero | here
  · rw [if_pos zero, zero, findSeparator_of_not_mem nonzero absent]
    exact ⟨rfl, rfl⟩
  · rw [if_neg (by rw [here]; exact proper), here,
      findSeparator_append nonzero proper absent]
    simp [andThen, store, done, scan, inside]

/-- A byte which ends the scan in the front keeps `separate` in the front. -/
theorem confined_separateScan
    {front : List UInt8} {str : Nat} {sep : UInt8} {found : Scanned UInt8}
    (within : str ≤ front.length)
    (stopped :
      (scan (fun _ => separateStops sep) str front).result = some found) :
    ∃ after ptr,
      (separateScan str sep).Confined front after ptr ∧
        0 ∈ after.drop str := by
  rcases separateStops_layout stopped with ⟨⟨back, layout⟩, -, -, -⟩
  have inside : str + found.passed.length < front.length := by
    have length := congrArg List.length layout
    rw [List.length_drop, List.length_append, List.length_cons] at length
    omega
  have scanned := confined_scan within stopped
  by_cases zero : found.stop = 0
  · refine ⟨front, .literal, scanned.andThen ?_, ?_⟩
    · rw [if_pos zero]
      exact confined_done _ _
    · rw [layout, zero]
      simp
  · refine
      ⟨front.set (str + found.passed.length) 0,
        .inside (str + found.passed.length + 1), scanned.andThen ?_, ?_⟩
    · rw [if_neg zero]
      exact (confined_store inside 0).andThen (confined_done _ _)
    · rw [List.drop_set, if_neg (by omega), layout, Nat.add_sub_cancel_left]
      simp

/-! ## `os_strcmp` and `%s` -/

theorem le_length_of_mem_drop
    {front : List UInt8} {str : Nat} {byte : UInt8}
    (member : byte ∈ front.drop str) :
    str ≤ front.length := by
  by_contra beyond
  rw [List.drop_eq_nil_of_le (Nat.le_of_not_le beyond)] at member
  cases member

/-- What `os_strcmp` has passed agrees with the literal, and what stopped it does not. -/
theorem strcmpStops_layout
    {literal cells : List UInt8} {str : Nat} {found : Scanned UInt8}
    (stopped :
      (scanFrom (strcmpStops str literal) str cells).2 = some found) :
    (∃ back, cells = found.passed ++ found.stop :: back) ∧
      (∃ rest, literal = found.passed ++ rest ∧
        rest.head? ≠ some found.stop) := by
  rcases scanFrom_eq_some_iff.mp stopped with ⟨layout, stopping, before⟩
  have agrees :
      ∀ offset (inside : offset < found.passed.length),
        offset < literal.length ∧
          found.passed[offset] = literal.getD offset 0 := by
    intro offset inside
    have passed := before offset inside
    rw [strcmpStops, Nat.add_sub_cancel_left, Bool.or_eq_false_iff,
      decide_eq_false_iff_not, Nat.not_le, bne_eq_false_iff_eq] at passed
    exact passed
  have short : found.passed.length ≤ literal.length := by
    by_contra long
    have last := (agrees literal.length (Nat.lt_of_not_le long)).1
    exact Nat.lt_irrefl _ last
  have front : literal.take found.passed.length = found.passed := by
    apply List.ext_getElem
    · rw [List.length_take, Nat.min_eq_left short]
    · intro offset _ inside
      rw [List.getElem_take, (agrees offset inside).2,
        List.getD_eq_getElem _ _ (Nat.lt_of_lt_of_le inside short)]
  refine ⟨layout, literal.drop found.passed.length, ?_, ?_⟩
  · conv_lhs => rw [← List.take_append_drop found.passed.length literal, front]
  · intro same
    rw [List.head?_drop] at same
    rw [strcmpStops, Nat.add_sub_cancel_left, List.getD_eq_getElem?_getD,
      same, Option.getD_some, bne_self_eq_false, Bool.or_false,
      decide_eq_true_eq] at stopping
    rw [List.getElem?_eq_none stopping] at same
    cases same

/-- A terminator in the front keeps `os_strcmp` there, which compares the string. -/
theorem confined_osStrcmp
    {front literal : List UInt8} {str : Nat}
    (ended : 0 ∈ front.drop str)
    (nonzero : 0 ∉ literal) :
    (osStrcmp str literal).Confined front front
      (decide (before 0 (front.drop str) = literal)) := by
  have within := le_length_of_mem_drop ended
  have stops :
      ∃ found,
        (scanFrom (strcmpStops str literal) str (front.drop str)).2 =
          some found := by
    rw [exists_scanFrom_iff]
    rcases List.getElem_of_mem ended with ⟨offset, inside, zero⟩
    refine ⟨offset, inside, ?_⟩
    rw [zero, strcmpStops, Nat.add_sub_cancel_left, Bool.or_eq_true,
      decide_eq_true_eq, bne_iff_ne]
    by_cases long : literal.length ≤ offset
    · exact Or.inl long
    · right
      rw [List.getD_eq_getElem _ _ (Nat.lt_of_not_le long)]
      intro same
      exact nonzero (same ▸ List.getElem_mem _)
  rcases stops with ⟨found, stopped⟩
  rcases strcmpStops_layout stopped with
    ⟨⟨back, layout⟩, rest, split, differs⟩
  have compared :
      (literal.length ≤ found.passed.length ∧ found.stop = 0) ↔
        before 0 (front.drop str) = literal := by
    have free : 0 ∉ found.passed := by
      intro member
      rw [split] at nonzero
      exact nonzero (List.mem_append_left _ member)
    rw [layout]
    constructor
    · rintro ⟨long, zero⟩
      have whole : rest = [] := by
        rw [split, List.length_append] at long
        exact List.eq_nil_of_length_eq_zero (by omega)
      rw [zero, before_append free, split, whole, List.append_nil]
    · intro same
      by_cases zero : found.stop = 0
      · rw [zero, before_append free] at same
        exact ⟨Nat.le_of_eq (congrArg List.length same.symm), zero⟩
      · exfalso
        apply differs
        have parts := congrArg (List.drop found.passed.length) same
        rw [before, List.takeWhile_append_of_pos (passes_of_not_mem free),
          List.takeWhile_cons_of_pos (by simpa using zero), split,
          List.drop_left, List.drop_left] at parts
        rw [← parts, List.head?_cons]
  have scanned := confined_scan within stopped
  apply scanned.andThen
  rw [decide_eq_decide.mpr compared]
  exact confined_done _ _

/-- A terminator in the front keeps `%s` there. -/
theorem confined_printString
    {front : List UInt8} {str : Nat}
    (ended : 0 ∈ front.drop str) :
    (printString str).Confined front front (before 0 (front.drop str)) := by
  have within := le_length_of_mem_drop ended
  have stopped :
      (scan (fun _ byte => byte == 0) str front).result =
        some { passed := before 0 (front.drop str), stop := 0 } := by
    apply scanFrom_eq_some_iff.mpr
    refine ⟨⟨after 0 (front.drop str), eq_before_append_after ended⟩, rfl, ?_⟩
    intro offset inside
    have free := not_mem_before 0 (front.drop str)
    rw [beq_eq_false_iff_ne]
    intro zero
    have member := List.getElem_mem inside
    rw [zero] at member
    exact free member
  exact (confined_scan within stopped).andThen (confined_done _ _)

end EspFirmware
