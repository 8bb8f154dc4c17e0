import Mathlib.Tactic

/-!
# Words packed from bits

Bits which arrive with the highest one first are shifted into the words of an
array, one word after the other.  A word then stands for the number whose
binary digits are the bits which it took.
-/

namespace EspFirmware.Library

variable {width : Nat}

/-! ## Numbers in binary -/

/-- The number which bits stand for, the highest one first. -/
def bitsValue : List Bool → Nat
  | [] => 0
  | bit :: rest => bit.toNat * 2 ^ rest.length + bitsValue rest

/-- The lowest `count` binary digits of a number, the highest one first. -/
def valueBits : Nat → Nat → List Bool
  | 0, _ => []
  | count + 1, value => value.testBit count :: valueBits count value

@[simp]
theorem bitsValue_nil :
    bitsValue [] = 0 :=
  rfl

theorem bitsValue_cons (bit : Bool) (rest : List Bool) :
    bitsValue (bit :: rest) = bit.toNat * 2 ^ rest.length + bitsValue rest :=
  rfl

theorem bitsValue_append (front back : List Bool) :
    bitsValue (front ++ back) =
      bitsValue front * 2 ^ back.length + bitsValue back := by
  induction front with
  | nil =>
      simp
  | cons bit front induction =>
      rw [List.cons_append, bitsValue_cons, induction, bitsValue_cons,
        List.length_append, Nat.pow_add]
      ring

theorem bitsValue_lt (bits : List Bool) :
    bitsValue bits < 2 ^ bits.length := by
  induction bits with
  | nil =>
      decide
  | cons bit rest induction =>
      have small := Bool.toNat_le bit
      rw [bitsValue_cons, List.length_cons, Nat.pow_succ]
      nlinarith

@[simp]
theorem length_valueBits (count value : Nat) :
    (valueBits count value).length = count := by
  induction count with
  | zero =>
      rfl
  | succ count induction =>
      rw [valueBits, List.length_cons, induction]

theorem bitsValue_valueBits (count value : Nat) :
    bitsValue (valueBits count value) = value % 2 ^ count := by
  induction count with
  | zero =>
      rw [valueBits, bitsValue_nil, Nat.pow_zero, Nat.mod_one]
  | succ count induction =>
      rw [valueBits, bitsValue_cons, induction, length_valueBits,
        Nat.mod_pow_succ, Nat.toNat_testBit]
      ring

/-! ## Registers -/

/-- Shift a register up, and take in a new lowest bit. -/
def shiftUp (register : BitVec width) (bit : Bool) : BitVec width :=
  register <<< 1 ||| (BitVec.ofBool bit).setWidth width

theorem toNat_shiftUp (register : BitVec width) (bit : Bool) :
    (shiftUp register bit).toNat =
      (register.toNat * 2 + bit.toNat) % 2 ^ width := by
  have same : shiftUp register bit = register.shiftConcat bit := by
    apply BitVec.eq_of_getLsbD_eq
    intro index within
    rw [BitVec.getLsbD_shiftConcat]
    cases index with
    | zero =>
        simp [shiftUp, within]
    | succ index =>
        simp [shiftUp, within, BitVec.getLsbD_eq_getElem (by omega : index < width)]
  rw [same, BitVec.toNat_shiftConcat, Nat.shiftLeft_eq, Nat.pow_one]

/-- A register keeps what its width leaves of the number it took in. -/
theorem toNat_foldl_shiftUp (register : BitVec width) (bits : List Bool) :
    (bits.foldl shiftUp register).toNat =
      (register.toNat * 2 ^ bits.length + bitsValue bits) % 2 ^ width := by
  induction bits generalizing register with
  | nil =>
      simp [Nat.mod_eq_of_lt register.isLt]
  | cons bit rest induction =>
      rw [List.foldl_cons, induction, toNat_shiftUp, Nat.add_mod,
        Nat.mod_mul_mod, ← Nat.add_mod, bitsValue_cons, List.length_cons,
        Nat.pow_succ]
      ring_nf

/-- A register which was zero takes as many bits as it is wide. -/
theorem toNat_foldl_shiftUp_zero
    {bits : List Bool}
    (fits : bits.length ≤ width) :
    (bits.foldl shiftUp (0 : BitVec width)).toNat = bitsValue bits := by
  have small : bitsValue bits < 2 ^ width :=
    Nat.lt_of_lt_of_le (bitsValue_lt bits)
      (Nat.pow_le_pow_right (by decide) fits)
  have cleared : (0 : BitVec width).toNat = 0 := by
    simp
  rw [toNat_foldl_shiftUp, cleared, Nat.zero_mul, Nat.zero_add,
    Nat.mod_eq_of_lt small]

/-! ## Arrays of registers -/

/--
Shift bits into the words of an array.  The bit with the number `index` goes
to the word `index / width`.
-/
def packWords (words : Nat → BitVec width) (index : Nat) :
    List Bool → Nat → BitVec width
  | [] => words
  | bit :: rest =>
      packWords
        (Function.update words (index / width)
          (shiftUp (words (index / width)) bit))
        (index + 1) rest

theorem packWords_append
    (words : Nat → BitVec width) (index : Nat) (front back : List Bool) :
    packWords words index (front ++ back) =
      packWords (packWords words index front) (index + front.length) back := by
  induction front generalizing words index with
  | nil =>
      rfl
  | cons bit front induction =>
      rw [List.cons_append, packWords, induction, packWords,
        List.length_cons, Nat.add_assoc, Nat.add_comm 1]

/-- A word takes the bits of its own part of the array. -/
theorem packWords_apply
    (positive : 0 < width)
    (words : Nat → BitVec width) (bits : List Bool) (word : Nat) :
    packWords words 0 bits word =
      ((bits.drop (word * width)).take width).foldl shiftUp (words word) := by
  induction bits using List.reverseRecOn with
  | nil =>
      simp [packWords]
  | append_singleton bits bit induction =>
      rw [packWords_append, packWords, packWords, Nat.zero_add]
      by_cases here : bits.length / width = word
      · have above : word * width ≤ bits.length :=
          here ▸ Nat.div_mul_le_self bits.length width
        have below : bits.length - word * width < width := by
          have := Nat.lt_div_mul_add positive (a := bits.length)
          rw [here] at this
          omega
        rw [here, Function.update_self, induction,
          List.drop_append_of_le_length above,
          List.take_of_length_le (by rw [List.length_drop]; omega),
          List.take_of_length_le (by simp; omega), List.foldl_append]
        rfl
      · rw [Function.update_of_ne (Ne.symm here), induction]
        rcases Nat.lt_or_gt_of_ne here with before | behind
        · have outside : bits.length < word * width :=
            (Nat.div_lt_iff_lt_mul positive).mp before
          rw [List.drop_eq_nil_of_le (Nat.le_of_lt outside),
            List.drop_eq_nil_of_le (by simp; omega)]
        · have full : (word + 1) * width ≤ bits.length :=
            (Nat.le_div_iff_mul_le positive).mp behind
          rw [Nat.add_mul, Nat.one_mul] at full
          rw [List.drop_append_of_le_length (by omega),
            List.take_append_of_le_length (by rw [List.length_drop]; omega)]

/-- The number which a word of a cleared array holds in the end. -/
theorem toNat_packWords_zero
    (positive : 0 < width) (bits : List Bool) (word : Nat) :
    (packWords (fun _ => (0 : BitVec width)) 0 bits word).toNat =
      bitsValue ((bits.drop (word * width)).take width) := by
  rw [packWords_apply positive,
    toNat_foldl_shiftUp_zero (List.length_take_le _ _)]

end EspFirmware.Library
