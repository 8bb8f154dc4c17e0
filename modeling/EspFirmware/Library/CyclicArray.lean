import Mathlib.Data.Nat.ModEq
import Mathlib.Logic.Function.Iterate

/-!
# Stretches of a cyclic array

Behind the last place of a cyclic array comes its first one.  A stretch are
the cells from one place on.  An array which is written at one end of a stretch
and read at the other is a queue, as long as the two ends do not pass each
other.
-/

namespace EspFirmware.Library

universe u

variable {α : Type u} {size : Nat}

/-- The place behind a place. -/
def nextPlace (place : Fin size) : Fin size :=
  if inside : place.val + 1 < size then
    ⟨place.val + 1, inside⟩
  else
    ⟨0, place.pos⟩

theorem nextPlace_val (place : Fin size) :
    (nextPlace place).val = (place.val + 1) % size := by
  rw [nextPlace]
  split
  · next inside =>
      exact (Nat.mod_eq_of_lt inside).symm
  · next outside =>
      have last : place.val + 1 = size := by
        omega
      rw [last, Nat.mod_self]

/-- The place which is some places behind another one. -/
theorem nextPlace_iterate_val (place : Fin size) (count : Nat) :
    (nextPlace^[count] place).val = (place.val + count) % size := by
  induction count with
  | zero =>
      exact (Nat.mod_eq_of_lt place.isLt).symm
  | succ count induction =>
      rw [Function.iterate_succ_apply', nextPlace_val, induction,
        Nat.mod_add_mod, Nat.add_assoc]

/-- Places which are less than the whole array apart are different. -/
theorem nextPlace_iterate_ne
    {place : Fin size} {near far : Nat}
    (order : near < far) (short : far < size) :
    nextPlace^[near] place ≠ nextPlace^[far] place := by
  intro same
  have values := congrArg Fin.val same
  rw [nextPlace_iterate_val, nextPlace_iterate_val] at values
  have counts : near ≡ far [MOD size] :=
    Nat.ModEq.add_left_cancel' place.val values
  have equal := counts.eq_of_lt_of_lt (order.trans short) short
  omega

/-- The cells from a place on. -/
def stretch (cells : Vector α size) (place : Fin size) : Nat → List α
  | 0 => []
  | count + 1 =>
      cells[place] :: stretch cells (nextPlace place) count

@[simp]
theorem length_stretch
    (cells : Vector α size) (place : Fin size) (count : Nat) :
    (stretch cells place count).length = count := by
  induction count generalizing place with
  | zero =>
      rfl
  | succ count induction =>
      rw [stretch, List.length_cons, induction]

/-- A longer stretch has one more cell at its end. -/
theorem stretch_concat
    (cells : Vector α size) (place : Fin size) (count : Nat) :
    stretch cells place (count + 1) =
      stretch cells place count ++ [cells[nextPlace^[count] place]] := by
  induction count generalizing place with
  | zero =>
      rfl
  | succ count induction =>
      rw [stretch, induction, stretch, List.cons_append]
      rfl

/-- A cell outside of a stretch does not matter to it. -/
theorem stretch_set
    (cells : Vector α size) {place other : Fin size} {count : Nat}
    (outside : ∀ near < count, nextPlace^[near] place ≠ other)
    (value : α) :
    stretch (cells.set other value) place count =
      stretch cells place count := by
  induction count generalizing place with
  | zero =>
      rfl
  | succ count induction =>
      have here : other.val ≠ place.val := fun same =>
        outside 0 (Nat.succ_pos count) (Fin.ext same.symm)
      have rest :
          ∀ near < count, nextPlace^[near] (nextPlace place) ≠ other := by
        intro near within
        rw [← Function.iterate_succ_apply]
        exact outside (near + 1) (Nat.succ_lt_succ within)
      rw [stretch, stretch, induction rest]
      congr 1
      exact Vector.getElem_set_ne _ _ here

/-- What is written behind a stretch that is not the whole array makes it longer. -/
theorem stretch_set_concat
    (cells : Vector α size) {place behind : Fin size} {count : Nat}
    (here : behind = nextPlace^[count] place)
    (room : count < size) (value : α) :
    stretch (cells.set behind value) place (count + 1) =
      stretch cells place count ++ [value] := by
  subst here
  have outside :
      ∀ near < count,
        nextPlace^[near] place ≠ nextPlace^[count] place :=
    fun near order => nextPlace_iterate_ne order room
  rw [stretch_concat, stretch_set cells outside]
  congr 2
  exact Vector.getElem_set_self _

end EspFirmware.Library
