/-!
# Shift registers

A word is sent by shifting it out, lowest bit first, and received by shifting
every bit in at the top.  The two shifts go in the same direction, so a word
which passes through both of them is the same word again, whatever the
receiving register held before.
-/

namespace EspFirmware.Library

variable {width : Nat}

/-- Drop the lowest bit of a register, and take in a new highest one. -/
def shiftIn (register : BitVec width) (bit : Bool) : BitVec width :=
  register >>> 1 ||| (BitVec.ofBool bit).setWidth width <<< (width - 1)

/-- The bits which fall out of a register, lowest first. -/
def shiftOut : Nat → BitVec width → List Bool
  | 0, _ => []
  | count + 1, word => word.getLsbD 0 :: shiftOut count (word >>> 1)

@[simp]
theorem length_shiftOut (count : Nat) (word : BitVec width) :
    (shiftOut count word).length = count := by
  induction count generalizing word with
  | zero =>
      rfl
  | succ count induction =>
      rw [shiftOut, List.length_cons, induction]

/-- The new bit is the highest one, and the others have moved down. -/
theorem getLsbD_shiftIn
    (register : BitVec width) (bit : Bool) (index : Nat) :
    (shiftIn register bit).getLsbD index =
      if index + 1 = width then bit else register.getLsbD (index + 1) := by
  have place : index + 1 = width ↔ index < width ∧ index - (width - 1) = 0 ∧
      ¬index < width - 1 := by
    omega
  simp only [shiftIn, BitVec.getLsbD_or, BitVec.getLsbD_ushiftRight,
    BitVec.getLsbD_shiftLeft, BitVec.getLsbD_setWidth, BitVec.getLsbD_ofBool,
    Nat.add_comm 1 index]
  by_cases last : index + 1 = width
  · have cases := place.mp last
    simp [last, cases]
    omega
  · rw [if_neg last]
    by_cases within : index < width
    · have low : index < width - 1 := by
        omega
      simp [low]
    · simp [within]

/-- What a register holds after the lowest bits of a word were shifted in. -/
theorem getLsbD_foldl_shiftIn
    {count : Nat}
    (within : count ≤ width)
    (register word : BitVec width) (index : Nat) :
    ((shiftOut count word).foldl shiftIn register).getLsbD index =
      if index + count < width then
        register.getLsbD (index + count)
      else if index < width then
        word.getLsbD (index + count - width)
      else
        false := by
  induction count generalizing register word with
  | zero =>
      by_cases low : index < width
      · simp [shiftOut, low]
      · simp [shiftOut, low, BitVec.getLsbD_of_ge register index (by omega)]
  | succ count induction =>
      rw [shiftOut, List.foldl_cons, induction (by omega)]
      by_cases low : index < width
      · by_cases before : index + count < width
        · rw [if_pos before, getLsbD_shiftIn]
          by_cases last : index + count + 1 = width
          · have lowest : index + (count + 1) - width = 0 := by
              omega
            rw [if_pos last, if_neg (by omega), if_pos low, lowest]
          · rw [if_neg last, if_pos (by omega), Nat.add_assoc]
        · have moved : 1 + (index + count - width) = index + (count + 1) - width := by
            omega
          rw [if_neg before, if_pos low, if_neg (by omega), if_pos low,
            BitVec.getLsbD_ushiftRight, moved]
      · rw [if_neg (by omega), if_neg low, if_neg (by omega), if_neg low]

/-- A word which is shifted out and shifted in is received as it was sent. -/
theorem foldl_shiftIn_shiftOut (register word : BitVec width) :
    (shiftOut width word).foldl shiftIn register = word := by
  apply BitVec.eq_of_getLsbD_eq
  intro index within
  rw [getLsbD_foldl_shiftIn (Nat.le_refl width), if_neg (by omega),
    if_pos within, Nat.add_sub_cancel]

end EspFirmware.Library
