import Mathlib.Data.List.TakeWhile

/-!
# The parts of a list before and after a delimiter

The elements before the first occurrence of a delimiter, and those behind it.
Without an occurrence the first part is the whole list and the second is empty.
-/

namespace EspFirmware.Library

universe u

variable {α : Type u} [DecidableEq α]

/-- The elements before the first delimiter. -/
def before (stop : α) (list : List α) : List α :=
  list.takeWhile fun element => element ≠ stop

/-- The elements behind the first delimiter. -/
def after (stop : α) (list : List α) : List α :=
  (list.dropWhile fun element => element ≠ stop).tail

theorem not_mem_before (stop : α) (list : List α) :
    stop ∉ before stop list := by
  intro member
  have differs := List.mem_takeWhile_imp member
  simp at differs

theorem passes_of_not_mem
    {stop : α} {list : List α}
    (free : stop ∉ list) :
    ∀ element ∈ list, decide (element ≠ stop) = true := by
  intro element member
  rw [decide_eq_true_eq]
  rintro rfl
  exact free member

theorem before_append
    {stop : α} {front : List α}
    (free : stop ∉ front) (back : List α) :
    before stop (front ++ stop :: back) = front := by
  rw [before, List.takeWhile_append_of_pos (passes_of_not_mem free)]
  simp

theorem after_append
    {stop : α} {front : List α}
    (free : stop ∉ front) (back : List α) :
    after stop (front ++ stop :: back) = back := by
  rw [after, List.dropWhile_append_of_pos (passes_of_not_mem free)]
  simp

/-- A list with a delimiter is its two parts around the first one. -/
theorem eq_before_append_after
    {stop : α} {list : List α}
    (member : stop ∈ list) :
    list = before stop list ++ stop :: after stop list := by
  rcases List.eq_append_cons_of_mem member with ⟨front, back, equal, free⟩
  rw [equal, before_append free, after_append free]

theorem before_of_not_mem
    {stop : α} {list : List α}
    (free : stop ∉ list) :
    before stop list = list :=
  List.takeWhile_eq_self_iff.mpr (passes_of_not_mem free)

theorem after_of_not_mem
    {stop : α} {list : List α}
    (free : stop ∉ list) :
    after stop list = [] := by
  rw [after, List.dropWhile_eq_nil_iff.mpr (passes_of_not_mem free),
    List.tail_nil]

/-- What follows a list with a delimiter does not matter. -/
theorem before_append_of_mem
    {stop : α} {front : List α}
    (member : stop ∈ front) (back : List α) :
    before stop (front ++ back) = before stop front := by
  rcases List.eq_append_cons_of_mem member with ⟨start, rest, equal, free⟩
  rw [equal, List.append_assoc, List.cons_append, before_append free,
    before_append free]

theorem length_before_lt
    {stop : α} {list : List α}
    (member : stop ∈ list) :
    (before stop list).length < list.length := by
  have whole := congrArg List.length (eq_before_append_after member)
  rw [List.length_append, List.length_cons] at whole
  omega

end EspFirmware.Library
