import Mathlib.Tactic

/-!
# Memory that is erased in ranges and programmed cell by cell

A flash memory can only be moved towards some value by programming a cell, and
only erasing a whole range brings the cells back.  What such a memory is used
for rests on one law: an erased cell takes the value which is programmed into
it.  Ordinary memory is the case in which every cell does.  The reads of this
file are lists, so that an image written at one address can be taken apart at
others.
-/

namespace EspFirmware.Library

universe u

variable {β : Type u}

/-- The cells from `start` on. -/
def readRange (memory : Nat → β) (start count : Nat) : List β :=
  (List.range count).map fun index => memory (start + index)

@[simp]
theorem length_readRange (memory : Nat → β) (start count : Nat) :
    (readRange memory start count).length = count := by
  rw [readRange, List.length_map, List.length_range]

@[simp]
theorem getElem_readRange
    (memory : Nat → β) (start count index : Nat)
    (within : index < (readRange memory start count).length) :
    (readRange memory start count)[index] = memory (start + index) := by
  simp [readRange]

theorem readRange_congr
    {memory memory' : Nat → β} {start count : Nat}
    (agree :
      ∀ index < count, memory (start + index) = memory' (start + index)) :
    readRange memory start count = readRange memory' start count := by
  apply List.map_congr_left
  intro index member
  exact agree index (List.mem_range.mp member)

/-- A part of a range which was read is the read of that part. -/
theorem readRange_part
    (memory : Nat → β) {start count offset len : Nat}
    (within : offset + len ≤ count) :
    readRange memory (start + offset) len =
      ((readRange memory start count).drop offset).take len := by
  apply List.ext_getElem
  · rw [length_readRange, List.length_take, List.length_drop,
      length_readRange]
    omega
  · intro index _ _
    rw [List.getElem_take, List.getElem_drop, getElem_readRange,
      getElem_readRange, Nat.add_assoc]

/-- Reading where a part of a known image lies yields that part. -/
theorem readRange_middle
    {memory : Nat → β} {start count address len : Nat}
    {front middle back : List β}
    (image : readRange memory start count = front ++ middle ++ back)
    (place : address = start + front.length)
    (size : len = middle.length) :
    readRange memory address len = middle := by
  have whole : front.length + middle.length + back.length = count := by
    rw [← length_readRange memory start count, image, List.length_append,
      List.length_append]
  have inside : front.length + middle.length ≤ count := by
    omega
  subst place size
  rw [readRange_part memory inside, image,
    List.append_assoc, List.drop_left, List.take_left]

/-- The value of an erased cell, and what programming leaves in a cell. -/
structure CellKind (β : Type u) where
  erased : β
  program : β → β → β
  program_erased : ∀ value, program erased value = value

namespace CellKind

variable (kind : CellKind β)

/-- Erase the `count` cells from `start` on. -/
def erase (memory : Nat → β) (start count : Nat) : Nat → β :=
  fun address =>
    if start ≤ address ∧ address < start + count then
      kind.erased
    else
      memory address

/-- Program the cells from `start` on. -/
def write (memory : Nat → β) (start : Nat) (data : List β) : Nat → β :=
  fun address =>
    if start ≤ address then
      match data[address - start]? with
      | some value => kind.program (memory address) value
      | none => memory address
    else
      memory address

theorem readRange_erase
    (memory : Nat → β) (start count : Nat) :
    readRange (kind.erase memory start count) start count =
      List.replicate count kind.erased := by
  apply List.ext_getElem
  · rw [length_readRange, List.length_replicate]
  · intro index within _
    rw [length_readRange] at within
    rw [getElem_readRange, List.getElem_replicate, erase,
      if_pos ⟨by omega, by omega⟩]

/-- Erasing leaves ranges alone which it does not touch. -/
theorem readRange_erase_apart
    (memory : Nat → β) {start count place extent : Nat}
    (apart : start + count ≤ place ∨ place + extent ≤ start) :
    readRange (kind.erase memory place extent) start count =
      readRange memory start count := by
  apply readRange_congr
  intro index within
  rw [erase, if_neg]
  omega

/-- A part of an erased range is erased. -/
theorem readRange_erase_part
    (memory : Nat → β) {start count extent : Nat}
    (within : count ≤ extent) :
    readRange (kind.erase memory start extent) start count =
      List.replicate count kind.erased := by
  apply List.ext_getElem
  · rw [length_readRange, List.length_replicate]
  · intro index inside _
    rw [length_readRange] at inside
    rw [getElem_readRange, List.getElem_replicate, erase,
      if_pos ⟨by omega, by omega⟩]

/-- Programming an erased range leaves the data, and beyond it erased cells. -/
theorem readRange_write_erased
    {memory : Nat → β} {start count : Nat}
    (blank :
      readRange memory start count = List.replicate count kind.erased)
    (data : List β) :
    readRange (kind.write memory start data) start count =
      data.take count ++
        List.replicate (count - data.length) kind.erased := by
  apply List.ext_getElem
  · rw [length_readRange, List.length_append, List.length_take,
      List.length_replicate]
    omega
  · intro index within within'
    rw [length_readRange] at within
    have cell : memory (start + index) = kind.erased := by
      have read := getElem_readRange memory start count index (by simpa)
      rw [← read]
      simp [blank]
    rw [getElem_readRange, write, if_pos (by omega), cell,
      Nat.add_sub_cancel_left]
    by_cases programmed : index < data.length
    · rw [List.getElem?_eq_getElem programmed,
        List.getElem_append_left (by rw [List.length_take]; omega),
        List.getElem_take]
      exact kind.program_erased _
    · rw [List.getElem?_eq_none (by omega),
        List.getElem_append_right (by rw [List.length_take]; omega),
        List.getElem_replicate]

/-- Programming leaves ranges alone which it does not touch. -/
theorem readRange_write_apart
    (memory : Nat → β) {start count place : Nat} {data : List β}
    (apart : start + count ≤ place ∨ place + data.length ≤ start) :
    readRange (kind.write memory place data) start count =
      readRange memory start count := by
  apply readRange_congr
  intro index within
  rw [write]
  rcases apart with above | below
  · rw [if_neg (by omega)]
  · rw [List.getElem?_eq_none (by omega)]
    split <;> rfl

/-- In memory that can be overwritten, the data is followed by what was there. -/
theorem readRange_write_over
    (overwrites : ∀ old new, kind.program old new = new)
    (memory : Nat → β) {start count : Nat} {data : List β}
    (fits : data.length ≤ count) :
    readRange (kind.write memory start data) start count =
      data ++ (readRange memory start count).drop data.length := by
  apply List.ext_getElem
  · rw [length_readRange, List.length_append, List.length_drop,
      length_readRange]
    omega
  · intro index within _
    rw [length_readRange] at within
    rw [getElem_readRange, write, if_pos (by omega),
      Nat.add_sub_cancel_left]
    by_cases written : index < data.length
    · rw [List.getElem?_eq_getElem written, List.getElem_append_left written]
      exact overwrites _ _
    · have cell : data.length + (index - data.length) = index := by
        omega
      rw [List.getElem?_eq_none (by omega),
        List.getElem_append_right (by omega), List.getElem_drop,
        getElem_readRange, cell]

end CellKind

end EspFirmware.Library
