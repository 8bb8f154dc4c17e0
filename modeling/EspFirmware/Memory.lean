import EspFirmware.Library.Delimited

/-!
# Blocks of memory, pointers into them, and copies

A block is known by its address and holds bytes.  The firmware never writes
to a block which it has queued, so a queued block carries its contents.  A
`uint8 *` which walks through a block is the block with an offset.
-/

namespace EspFirmware

/-- A block of memory, as `os_zalloc` returns it. -/
structure Buffer where
  address : Nat
  bytes : List UInt8
deriving DecidableEq

/-- The null pointer of the sender's static variables. -/
def Buffer.null : Buffer where
  address := 0
  bytes := []

/-- A pointer into a block. -/
structure Pointer where
  buffer : Buffer
  offset : Nat
deriving DecidableEq

namespace Pointer

/-- The pointer to the first byte of a block. -/
def start (buffer : Buffer) : Pointer where
  buffer := buffer
  offset := 0

/-- Pointer arithmetic, `pointer += count`. -/
def advance (pointer : Pointer) (count : Nat) : Pointer where
  buffer := pointer.buffer
  offset := pointer.offset + count

/-- The `len` bytes a pointer points to. -/
def read (pointer : Pointer) (len : Nat) : List UInt8 :=
  (pointer.buffer.bytes.drop pointer.offset).take len

theorem read_take
    (pointer : Pointer) {count len : Nat}
    (within : count ≤ len) :
    (pointer.read len).take count = pointer.read count := by
  rw [read, List.take_take, Nat.min_eq_left within, read]

theorem read_drop (pointer : Pointer) (count len : Nat) :
    (pointer.read len).drop count =
      (pointer.advance count).read (len - count) := by
  rw [read, List.drop_take, List.drop_drop, read, advance]

theorem length_read
    (pointer : Pointer) {len : Nat}
    (fits : pointer.offset + len ≤ pointer.buffer.bytes.length) :
    (pointer.read len).length = len := by
  rw [read, List.length_take, List.length_drop]
  omega

end Pointer

/-! ## Copies -/

/-- An array of `size` bytes. -/
@[ext]
structure Chars (size : Nat) where
  bytes : List UInt8
  length_bytes : bytes.length = size
deriving DecidableEq

attribute [simp] Chars.length_bytes

/-- `os_memset(array, 0, sizeof array)`. -/
def Chars.zeros (size : Nat) : Chars size where
  bytes := List.replicate size 0
  length_bytes := by simp

/-- A zero-terminated string, as `strlen` and `%s` see it. -/
structure CString where
  bytes : List UInt8
  nonzero : 0 ∉ bytes
deriving DecidableEq

/-- `strlen`. -/
def CString.strlen (string : CString) : Nat :=
  string.bytes.length

/-- The text of a literal. -/
def ascii (text : String) : List UInt8 :=
  text.toList.map fun character => UInt8.ofNat character.toNat

/-- The string at an offset of a block, if it ends inside the block. -/
def stringAt (block : List UInt8) (offset : Nat) : Option (List UInt8) :=
  if 0 ∈ block.drop offset then
    some (Library.before 0 (block.drop offset))
  else
    none

/-- A string that ends inside a part of a block. -/
theorem stringAt_append
    {front middle : List UInt8} {offset : Nat}
    (place : offset = front.length)
    (ends : 0 ∈ middle) (back : List UInt8) :
    stringAt (front ++ (middle ++ back)) offset =
      some (Library.before 0 middle) := by
  rw [stringAt, place, List.drop_left,
    if_pos (List.mem_append_left back ends),
    Library.before_append_of_mem ends]

/-- `os_memcpy(dest + offset, src, len)` for the `len` bytes of `src`, inside `dest`. -/
def osMemcpy (dest : List UInt8) (offset : Nat) (src : List UInt8) :
    List UInt8 :=
  dest.take offset ++ src ++ dest.drop (offset + src.length)

theorem length_osMemcpy
    {dest src : List UInt8} {offset : Nat}
    (within : offset + src.length ≤ dest.length) :
    (osMemcpy dest offset src).length = dest.length := by
  rw [osMemcpy, List.length_append, List.length_append, List.length_take,
    List.length_drop]
  omega

/-- A copy to the first byte still zero of a buffer that is filled in order. -/
theorem osMemcpy_zeros
    (front src : List UInt8) {offset count : Nat}
    (next : offset = front.length) :
    osMemcpy (front ++ List.replicate count 0) offset src =
      front ++ src ++ List.replicate (count - src.length) 0 := by
  subst next
  rw [osMemcpy, List.take_left, List.drop_append, List.drop_replicate,
    List.drop_eq_nil_of_le (Nat.le_add_right _ _), List.nil_append,
    Nat.add_sub_cancel_left]

end EspFirmware
