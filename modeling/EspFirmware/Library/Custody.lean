import Mathlib.Tactic

/-!
# Custody of heap blocks

An owner takes blocks over and frees them.  What it holds is a multiset, and
to free a block which is not held is an error, so a history without an error
frees nothing twice.  What was taken is then what is held and what was freed,
and a block which was taken once is in exactly one of these places.
-/

namespace EspFirmware.Library

universe u

/-- What an owner does with a block. -/
inductive HeapEvent (Block : Type u) where
  | take (block : Block)
  | free (block : Block)
deriving DecidableEq

variable {Block : Type u} {front back events : List (HeapEvent Block)}

/-- The blocks which are taken over. -/
def taken : List (HeapEvent Block) → Multiset Block
  | [] => 0
  | .take block :: rest => block ::ₘ taken rest
  | .free _ :: rest => taken rest

/-- The blocks which are freed. -/
def freed : List (HeapEvent Block) → Multiset Block
  | [] => 0
  | .take _ :: rest => freed rest
  | .free block :: rest => block ::ₘ freed rest

theorem taken_append :
    taken (front ++ back) = taken front + taken back := by
  induction front with
  | nil =>
      rw [List.nil_append, taken, Multiset.zero_add]
  | cons event front induction =>
      cases event with
      | take block =>
          rw [List.cons_append, taken, taken, induction, Multiset.cons_add]
      | free block =>
          exact induction

theorem freed_append :
    freed (front ++ back) = freed front + freed back := by
  induction front with
  | nil =>
      rw [List.nil_append, freed, Multiset.zero_add]
  | cons event front induction =>
      cases event with
      | take block =>
          exact induction
      | free block =>
          rw [List.cons_append, freed, freed, induction, Multiset.cons_add]

@[simp]
theorem taken_map_take (blocks : List Block) :
    taken (blocks.map .take) = ↑blocks := by
  induction blocks with
  | nil =>
      rfl
  | cons block blocks induction =>
      rw [List.map_cons, taken, induction, Multiset.cons_coe]

@[simp]
theorem taken_map_free (blocks : List Block) :
    taken (blocks.map .free) = 0 := by
  induction blocks with
  | nil =>
      rfl
  | cons block blocks induction =>
      exact induction

@[simp]
theorem freed_map_take (blocks : List Block) :
    freed (blocks.map .take) = 0 := by
  induction blocks with
  | nil =>
      rfl
  | cons block blocks induction =>
      exact induction

@[simp]
theorem freed_map_free (blocks : List Block) :
    freed (blocks.map .free) = ↑blocks := by
  induction blocks with
  | nil =>
      rfl
  | cons block blocks induction =>
      rw [List.map_cons, freed, induction, Multiset.cons_coe]

variable [DecidableEq Block] {held after : Multiset Block}

/-- The blocks which are held in the end, when only blocks are freed which are held. -/
def custody (held : Multiset Block) :
    List (HeapEvent Block) → Option (Multiset Block)
  | [] => some held
  | .take block :: rest => custody (block ::ₘ held) rest
  | .free block :: rest =>
      if block ∈ held then custody (held.erase block) rest else none

@[simp]
theorem custody_nil (held : Multiset Block) :
    custody held [] = some held :=
  rfl

@[simp]
theorem custody_take
    (held : Multiset Block) (block : Block)
    (rest : List (HeapEvent Block)) :
    custody held (.take block :: rest) = custody (block ::ₘ held) rest :=
  rfl

/-- A block which is held can be freed. -/
@[simp]
theorem custody_free
    (held : Multiset Block) (block : Block)
    (rest : List (HeapEvent Block)) :
    custody (block ::ₘ held) (.free block :: rest) = custody held rest := by
  rw [custody, if_pos (Multiset.mem_cons_self block held),
    Multiset.erase_cons_head]

theorem custody_append :
    custody held (front ++ back) =
      (custody held front).bind fun middle => custody middle back := by
  induction front generalizing held with
  | nil =>
      rfl
  | cons event front induction =>
      cases event with
      | take block =>
          exact induction
      | free block =>
          rw [List.cons_append, custody, custody]
          split
          · exact induction
          · rfl

/-- Histories one after the other. -/
theorem custody_append_of
    {middle : Multiset Block}
    (first : custody held front = some middle) :
    custody held (front ++ back) = custody middle back := by
  rw [custody_append, first, Option.bind_some]

/-- Blocks which are held besides are not touched. -/
theorem custody_frame
    (kept : custody held events = some after)
    (other : Multiset Block) :
    custody (held + other) events = some (after + other) := by
  induction events generalizing held with
  | nil =>
      cases kept
      rfl
  | cons event rest induction =>
      cases event with
      | take block =>
          rw [custody_take, ← Multiset.cons_add]
          exact induction kept
      | free block =>
          rw [custody] at kept ⊢
          split at kept
          · rename_i member
            rw [if_pos (Multiset.mem_add.mpr (Or.inl member)),
              Multiset.erase_add_left_pos other member]
            exact induction kept
          · cases kept

/-- What was held and what was taken is what is held and what was freed. -/
theorem custody_balance
    (kept : custody held events = some after) :
    held + taken events = after + freed events := by
  induction events generalizing held with
  | nil =>
      cases kept
      rfl
  | cons event rest induction =>
      cases event with
      | take block =>
          rw [taken, freed, ← induction kept, Multiset.add_cons,
            Multiset.cons_add]
      | free block =>
          rw [custody] at kept
          split at kept
          · rename_i member
            rw [taken, freed, Multiset.add_cons, ← induction kept,
              ← Multiset.cons_add, Multiset.cons_erase member]
          · cases kept

/-- A block which was taken once is held, or it was freed once. -/
theorem count_eq_one_of_custody
    (kept : custody 0 events = some after)
    (once : (taken events).Nodup)
    {block : Block}
    (member : block ∈ taken events) :
    after.count block + (freed events).count block = 1 := by
  have balance := custody_balance kept
  rw [Multiset.zero_add] at balance
  rw [← Multiset.count_add, ← balance]
  exact Multiset.count_eq_one_of_mem once member

/-- Only blocks which were taken are freed. -/
theorem mem_taken_of_mem_freed
    (kept : custody 0 events = some after)
    {block : Block}
    (member : block ∈ freed events) :
    block ∈ taken events := by
  have balance := custody_balance kept
  rw [Multiset.zero_add] at balance
  rw [balance]
  exact Multiset.mem_add.mpr (Or.inr member)

/-- Only blocks which were taken are held. -/
theorem mem_taken_of_mem_held
    (kept : custody 0 events = some after)
    {block : Block}
    (member : block ∈ after) :
    block ∈ taken events := by
  have balance := custody_balance kept
  rw [Multiset.zero_add] at balance
  rw [balance]
  exact Multiset.mem_add.mpr (Or.inl member)

/-- Everything of a list is freed, one after the other. -/
theorem custody_free_all (blocks : List Block) (held : Multiset Block) :
    custody ((blocks : Multiset Block) + held) (blocks.map .free) =
      some held := by
  induction blocks with
  | nil =>
      rw [List.map_nil, custody_nil, Multiset.coe_nil, Multiset.zero_add]
  | cons block blocks induction =>
      rw [List.map_cons, ← Multiset.cons_coe, Multiset.cons_add,
        custody_free, induction]

/-- Everything of a list is taken, one after the other. -/
theorem custody_take_all (blocks : List Block) (held : Multiset Block) :
    custody held (blocks.map .take) =
      some ((blocks : Multiset Block) + held) := by
  induction blocks generalizing held with
  | nil =>
      rw [List.map_nil, custody_nil, Multiset.coe_nil, Multiset.zero_add]
  | cons block blocks induction =>
      rw [List.map_cons, custody_take, induction, ← Multiset.cons_coe,
        Multiset.cons_add, Multiset.add_cons]

end EspFirmware.Library
