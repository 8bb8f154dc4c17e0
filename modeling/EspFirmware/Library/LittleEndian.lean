import Mathlib.Tactic

/-!
# Little-endian words

A number of fixed width as bytes, the least significant one first.
-/

namespace EspFirmware.Library

/-- The low `count` bytes of a number. -/
def toLittleEndian : Nat → Nat → List UInt8
  | 0, _ => []
  | count + 1, value =>
      UInt8.ofNat value :: toLittleEndian count (value / 256)

/-- The number which bytes stand for. -/
def ofLittleEndian : List UInt8 → Nat
  | [] => 0
  | byte :: rest => byte.toNat + 256 * ofLittleEndian rest

@[simp]
theorem length_toLittleEndian (count value : Nat) :
    (toLittleEndian count value).length = count := by
  induction count generalizing value with
  | zero =>
      rfl
  | succ count induction =>
      rw [toLittleEndian, List.length_cons, induction]

theorem ofLittleEndian_toLittleEndian
    {count value : Nat}
    (fits : value < 256 ^ count) :
    ofLittleEndian (toLittleEndian count value) = value := by
  induction count generalizing value with
  | zero =>
      rw [Nat.pow_zero] at fits
      rw [toLittleEndian, ofLittleEndian]
      omega
  | succ count induction =>
      have high : value / 256 < 256 ^ count := by
        rw [Nat.pow_succ] at fits
        omega
      have low : (UInt8.ofNat value).toNat = value % 256 := by
        simp
      rw [toLittleEndian, ofLittleEndian, induction high, low]
      omega

end EspFirmware.Library
