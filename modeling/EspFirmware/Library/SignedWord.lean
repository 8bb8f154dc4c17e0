import Mathlib.Tactic

/-!
# Signed words

The `int` of 32 bits.  What C leaves open is taken as a processor without traps
does it: a result which is too large wraps, and of the places of a shift only
the low five bits count.
-/

namespace EspFirmware.Library

/-- What an `int` of 32 bits holds of a number. -/
def intOf (number : Int) : Int :=
  number.bmod (2 ^ 32)

/-- `value << places`. -/
def intShiftLeft (value : Int) (places : Nat) : Int :=
  intOf (value * 2 ^ (places % 32))

variable {number : Int}

/-- A number which fits is held as it is. -/
theorem intOf_eq_self
    (low : -2 ^ 31 ≤ number) (high : number < 2 ^ 31) :
    intOf number = number :=
  Int.bmod_eq_of_le (by norm_num; omega) (by norm_num; omega)

theorem intOf_natCast {number : Nat} (small : number < 2 ^ 31) :
    intOf number = number :=
  intOf_eq_self (by omega) (by omega)

theorem intOf_add_left (left right : Int) :
    intOf (intOf left + right) = intOf (left + right) :=
  Int.bmod_add_bmod

theorem intOf_mul_left (left right : Int) :
    intOf (intOf left * right) = intOf (left * right) :=
  Int.bmod_mul_bmod

/-- The low bits of a number are held, whatever its size. -/
theorem intOf_emod {bits : Nat} (few : bits ≤ 32) :
    intOf number % 2 ^ bits = number % 2 ^ bits := by
  have divides : (2 : Int) ^ bits ∣ (2 ^ 32 : Nat) := by
    rw [Nat.cast_pow]
    exact pow_dvd_pow 2 few
  rw [intOf, ← Int.emod_emod_of_dvd _ divides, Int.bmod_emod,
    Int.emod_emod_of_dvd _ divides]

/-- A shift which stays inside of the word multiplies. -/
theorem intShiftLeft_natCast
    {value places : Nat} (inside : places < 32)
    (small : value * 2 ^ places < 2 ^ 31) :
    intShiftLeft value places = (value * 2 ^ places : Nat) := by
  rw [intShiftLeft, Nat.mod_eq_of_lt inside]
  have power : (value : Int) * 2 ^ places = (value * 2 ^ places : Nat) := by
    push_cast
    rfl
  rw [power, intOf_natCast small]

end EspFirmware.Library
