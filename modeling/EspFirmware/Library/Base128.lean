import Mathlib.Tactic

/-!
# Numbers in groups of seven bits

A number is written as bytes which hold seven bits each, the lowest first.  The
high bit of a byte says that another one follows.  Other bytes may follow the
last one, so a number is read from the front of a list.
-/

namespace EspFirmware.Library

/-- The bytes of a number. -/
def encode128 (number : Nat) : List UInt8 :=
  if number < 128 then
    [UInt8.ofNat number]
  else
    UInt8.ofNat (128 + number % 128) :: encode128 (number / 128)
termination_by number
decreasing_by
  omega

/-- The bytes are groups, all of them but the last one with the high bit. -/
inductive Groups : List UInt8 → Nat → Prop where
  | last {byte : UInt8}
      (ends : byte.toNat < 128) :
      Groups [byte] byte.toNat
  | more {byte : UInt8} {rest : List UInt8} {number : Nat}
      (goesOn : 128 ≤ byte.toNat)
      (groups : Groups rest number) :
      Groups (byte :: rest) (byte.toNat % 128 + 128 * number)

/-- The low seven bits. -/
theorem toNat_land_low (byte : UInt8) :
    (byte &&& 0x7F).toNat = byte.toNat % 128 := by
  rw [UInt8.toNat_and]
  exact Nat.and_two_pow_sub_one_eq_mod byte.toNat 7

/-- The high bit. -/
theorem land_high_eq_zero_iff (byte : UInt8) :
    byte &&& 0x80 = 0 ↔ byte.toNat < 128 := by
  have all :
      ∀ place : Fin 256, place.val &&& 128 = 0 ↔ place.val < 128 := by
    decide +kernel
  rw [← UInt8.toNat_inj, UInt8.toNat_and]
  exact all ⟨byte.toNat, byte.toNat_lt⟩

theorem groups_encode128 (number : Nat) :
    Groups (encode128 number) number := by
  induction number using Nat.strong_induction_on with
  | _ number induction =>
      rw [encode128]
      split
      · next small =>
          have value : (UInt8.ofNat number).toNat = number := by
            rw [UInt8.toNat_ofNat']
            omega
          have groups : Groups [UInt8.ofNat number] _ :=
            .last (by omega)
          rwa [value] at groups
      · next large =>
          have value :
              (UInt8.ofNat (128 + number % 128)).toNat =
                128 + number % 128 := by
            rw [UInt8.toNat_ofNat']
            omega
          have groups :
              Groups (UInt8.ofNat (128 + number % 128) ::
                encode128 (number / 128)) _ :=
            .more (by omega) (induction (number / 128) (by omega))
          have whole :
              (UInt8.ofNat (128 + number % 128)).toNat % 128 +
                  128 * (number / 128) =
                number := by
            omega
          rwa [whole] at groups

/-- A number needs as many groups as it has digits to the base 128. -/
theorem Groups.lt_pow
    {bytes : List UInt8} {number : Nat}
    (groups : Groups bytes number) :
    number < 128 ^ bytes.length := by
  induction groups with
  | last ends =>
      simpa using ends
  | @more byte rest number goesOn groups induction =>
      rw [List.length_cons, Nat.pow_succ]
      omega

theorem length_encode128_le
    {number count : Nat}
    (small : number < 128 ^ (count + 1)) :
    (encode128 number).length ≤ count + 1 := by
  induction count generalizing number with
  | zero =>
      rw [encode128, if_pos (by simpa using small)]
      exact Nat.le_refl 1
  | succ count induction =>
      rw [encode128]
      split
      · simp
      · have shorter : number / 128 < 128 ^ (count + 1) := by
          rw [Nat.pow_succ] at small
          omega
        have rest := induction shorter
        rw [List.length_cons]
        omega

end EspFirmware.Library
