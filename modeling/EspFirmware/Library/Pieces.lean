import Mathlib.Tactic

/-!
# Cutting a list into pieces of bounded size

`pieces size list` is the list itself when it fits into one piece, otherwise
its first `size` elements followed by the pieces of the rest.  So there is
always at least one piece, every piece but the last is full, and the last one
is empty only when the list is.
-/

namespace EspFirmware.Library

universe u

variable {α : Type u}

/-- Consecutive pieces of `size` elements and one last piece. -/
def pieces (size : Nat) (list : List α) : List (List α) :=
  if size = 0 ∨ list.length ≤ size then
    [list]
  else
    list.take size :: pieces size (list.drop size)
termination_by list.length
decreasing_by
  simp only [List.length_drop]
  omega

theorem pieces_of_length_le
    {size : Nat} {list : List α}
    (short : list.length ≤ size) :
    pieces size list = [list] := by
  rw [pieces, if_pos (Or.inr short)]

theorem pieces_of_lt_length
    {size : Nat} {list : List α}
    (positive : 0 < size)
    (long : size < list.length) :
    pieces size list =
      list.take size :: pieces size (list.drop size) := by
  rw [pieces, if_neg (by omega)]

/-- Nothing is lost, repeated or reordered by cutting. -/
@[simp]
theorem pieces_flatten (size : Nat) (list : List α) :
    (pieces size list).flatten = list := by
  induction list using pieces.induct size with
  | case1 list short =>
      rw [pieces, if_pos short]
      simp
  | case2 list long induction =>
      rw [pieces, if_neg long, List.flatten_cons, induction,
        List.take_append_drop]

/-- Every piece but the last is full, and the last one has at most `size` elements. -/
theorem pieces_shape
    {size : Nat}
    (positive : 0 < size)
    (list : List α) :
    ∃ full last,
      pieces size list = full ++ [last] ∧
        (∀ piece ∈ full, piece.length = size) ∧
          last.length ≤ size ∧
            (list ≠ [] → last ≠ []) := by
  induction list using pieces.induct size with
  | case1 list short =>
      refine ⟨[], list, ?_, by simp, by omega, id⟩
      rw [pieces, if_pos short, List.nil_append]
  | case2 list long induction =>
      rcases induction with
        ⟨full, last, equal, fullLength, lastLength, lastNonempty⟩
      refine
        ⟨list.take size :: full, last, ?_, ?_, lastLength, ?_⟩
      · rw [pieces, if_neg long, equal, List.cons_append]
      · intro piece member
        rcases List.mem_cons.mp member with rfl | tailMember
        · rw [List.length_take]
          omega
        · exact fullLength piece tailMember
      · intro _
        apply lastNonempty
        apply List.ne_nil_of_length_pos
        rw [List.length_drop]
        omega

end EspFirmware.Library
