import EspFirmware.Library.CyclicArray

/-!
# The ring buffer

`ringbuf.c` of the MQTT library.  The pointers are places of the array, and
`fill_cnt` says how far the write pointer is ahead of the read pointer.
-/

namespace EspFirmware

open Library

/-- `RINGBUF`, over an array of `size` bytes. -/
structure RingBuf (size : Nat) where
  cells : Vector UInt8 size
  pR : Fin size
  pW : Fin size
  fillCnt : Nat
  bounded : fillCnt ≤ size
  ahead : pW = nextPlace^[fillCnt] pR
deriving DecidableEq

namespace RingBuf

variable {size : Nat}

/-- `RINGBUF_Init`, over an array of zeros. -/
def init (size : Nat) (large : 2 ≤ size) : RingBuf size where
  cells := Vector.replicate size 0
  pR := ⟨0, by omega⟩
  pW := ⟨0, by omega⟩
  fillCnt := 0
  bounded := Nat.zero_le size
  ahead := rfl

/-- `RINGBUF_Put`, which refuses a byte when the buffer is full. -/
def put (rb : RingBuf size) (c : UInt8) : Option (RingBuf size) :=
  if full : size ≤ rb.fillCnt then
    none
  else
    some
      { cells := rb.cells.set rb.pW c
        pR := rb.pR
        pW := nextPlace rb.pW
        fillCnt := rb.fillCnt + 1
        bounded := by
          omega
        ahead := by
          rw [Function.iterate_succ_apply', ← rb.ahead] }

/-- `RINGBUF_Get`, which has nothing to read when the buffer is empty. -/
def get (rb : RingBuf size) : Option (UInt8 × RingBuf size) :=
  if empty : rb.fillCnt = 0 then
    none
  else
    some
      (rb.cells[rb.pR],
        { cells := rb.cells
          pR := nextPlace rb.pR
          pW := rb.pW
          fillCnt := rb.fillCnt - 1
          bounded := by
            have bounded := rb.bounded
            omega
          ahead := by
            have one : rb.fillCnt - 1 + 1 = rb.fillCnt := by
              omega
            rw [← Function.iterate_succ_apply, Nat.succ_eq_add_one, one]
            exact rb.ahead })

/-! ## The bytes which are waiting -/

/-- The bytes which were put and not yet read, the oldest first. -/
def contents (rb : RingBuf size) : List UInt8 :=
  stretch rb.cells rb.pR rb.fillCnt

@[simp]
theorem length_contents (rb : RingBuf size) :
    rb.contents.length = rb.fillCnt :=
  length_stretch _ _ _

/-- A byte is refused exactly by a full buffer. -/
theorem put_eq_none_iff {rb : RingBuf size} {c : UInt8} :
    rb.put c = none ↔ rb.contents.length = size := by
  have bounded := rb.bounded
  rw [length_contents, put]
  split
  · next full =>
      exact iff_of_true rfl (by omega)
  · next room =>
      exact iff_of_false nofun (by omega)

/-- A byte which is put becomes the last one. -/
theorem contents_put
    {rb after : RingBuf size} {c : UInt8}
    (putTo : rb.put c = some after) :
    after.contents = rb.contents ++ [c] := by
  rw [put] at putTo
  split at putTo
  · cases putTo
  · next room =>
      cases putTo
      exact
        stretch_set_concat rb.cells rb.ahead (Nat.lt_of_not_le room) c

theorem get_eq_none_iff {rb : RingBuf size} :
    rb.get = none ↔ rb.contents = [] := by
  rw [← List.length_eq_zero_iff, length_contents, get]
  split
  · next empty =>
      exact iff_of_true rfl empty
  · next some =>
      exact iff_of_false nofun some

/-- The byte which is read is the first one. -/
theorem contents_get
    {rb after : RingBuf size} {c : UInt8}
    (got : rb.get = some (c, after)) :
    rb.contents = c :: after.contents := by
  rw [get] at got
  split at got
  · cases got
  · next some =>
      cases got
      obtain ⟨count, one⟩ := Nat.exists_eq_succ_of_ne_zero some
      simp only [contents, one, Nat.succ_eq_add_one, Nat.add_sub_cancel,
        stretch]

/-- Reading a byte makes room. -/
theorem fillCnt_get
    {rb after : RingBuf size} {c : UInt8}
    (got : rb.get = some (c, after)) :
    rb.fillCnt = after.fillCnt + 1 := by
  have lengths := congrArg List.length (contents_get got)
  rw [List.length_cons, length_contents, length_contents] at lengths
  exact lengths

end RingBuf

end EspFirmware
