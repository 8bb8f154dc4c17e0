import EspFirmware.Library.ErasableMemory
import EspFirmware.Library.LittleEndian
import EspFirmware.Memory

/-!
# Flash storage of `flash.c`

The chip is erased in sectors of 4096 bytes, to bytes of ones, and programming
a byte can only clear bits of it.  The calls of the SDK may fail: a read then
yields nothing, an erase may or may not have happened, and a write has
programmed some of its words, in ascending order.
-/

namespace EspFirmware

open Library

/-- The contents of the flash chip. -/
abbrev Flash := Nat → UInt8

/-- Erasing sets every bit of a byte and programming clears bits. -/
def flashCell : CellKind UInt8 where
  erased := 0xFF
  program old new := old &&& new
  program_erased value := by
    change -1 &&& value = value
    simp

/-- Bytes in a sector. -/
def sectorSize : Nat := 4096

/-- Bytes in a word, the unit of `spi_flash_write`. -/
def wordSize : Nat := 4

/-- How `spi_flash_erase_sector` ends. -/
inductive EraseAnswer where
  | ok
  | failed (erased : Bool)
deriving DecidableEq

/-- How `spi_flash_write` ends. -/
inductive WriteAnswer where
  | ok
  | failed (words : Nat)
deriving DecidableEq

/-- `spi_flash_erase_sector` where it takes effect. -/
def spiFlashEraseSector (flash : Flash) (sector : Nat) : Flash :=
  flashCell.erase flash (sector * sectorSize) sectorSize

/-- `spi_flash_write` where it takes effect. -/
def spiFlashWrite (flash : Flash) (addr : Nat) (data : List UInt8) : Flash :=
  flashCell.write flash addr data

/-- The bytes which a write programs before it ends. -/
def WriteAnswer.programmed (answer : WriteAnswer) (data : List UInt8) :
    List UInt8 :=
  match answer with
  | .ok => data
  | .failed words => data.take (words * wordSize)

/-- `read_from_flash`, with the outcome of `spi_flash_read`. -/
def readFromFlash (flash : Flash) (success : Bool) (addr size : Nat) :
    Option (Chars size) :=
  if success then
    some ⟨readRange flash addr size, length_readRange flash addr size⟩
  else
    none

/-- `write_to_flash`: the chip afterwards, and whether the call returned 0. -/
def writeToFlash
    (flash : Flash) (erase : EraseAnswer) (write : WriteAnswer)
    (addr : Nat) (data : List UInt8) :
    Flash × Bool :=
  match erase with
  | .failed false => (flash, false)
  | .failed true => (spiFlashEraseSector flash (addr >>> 12), false)
  | .ok =>
      (spiFlashWrite (spiFlashEraseSector flash (addr >>> 12)) addr
        (write.programmed data), write = .ok)

/-- `FLASH_ALIGN_LEN`. -/
def flashAlignLen (n : UInt32) : UInt32 :=
  (n + 3) &&& 0xfffffffc

/-- A word of the little-endian machine as it lies in memory. -/
def wordBytes (word : UInt32) : List UInt8 :=
  toLittleEndian 4 word.toNat

/-- The word which four bytes of memory hold. -/
def Chars.word (array : Chars 4) : UInt32 :=
  UInt32.ofNat (ofLittleEndian array.bytes)

@[simp]
theorem length_wordBytes (word : UInt32) :
    (wordBytes word).length = 4 :=
  length_toLittleEndian 4 word.toNat

/-- A word is read back from its bytes. -/
theorem Chars.word_eq
    {array : Chars 4} {word : UInt32}
    (bytes : array.bytes = wordBytes word) :
    array.word = word := by
  have fits : word.toNat < 256 ^ 4 := word.toNat_lt
  rw [Chars.word, bytes, wordBytes, ofLittleEndian_toLittleEndian fits,
    UInt32.ofNat_toNat]

/-! ## Alignment -/

theorem land_wordMask (n : BitVec 32) :
    n &&& 0xfffffffc#32 = n >>> 2 <<< 2 := by
  have mask : ∀ i : Fin 32, (0xfffffffc#32).getLsbD i = decide (2 ≤ i.val) := by
    decide
  apply BitVec.eq_of_getLsbD_eq
  intro i within
  rw [BitVec.getLsbD_and, mask ⟨i, within⟩, BitVec.getLsbD_shiftLeft,
    BitVec.getLsbD_ushiftRight]
  by_cases high : 2 ≤ i
  · simp [high, within, show ¬ i < 2 by omega, show 2 + (i - 2) = i by omega]
  · simp [high, show i < 2 by omega]

/-- The mask rounds down to a multiple of four. -/
theorem toNat_flashAlignLen (n : UInt32) :
    (flashAlignLen n).toNat = (n.toNat + 3) % 2 ^ 32 / 4 * 4 := by
  have mask :
      (flashAlignLen n).toBitVec = (n + 3).toBitVec >>> 2 <<< 2 :=
    land_wordMask (n + 3).toBitVec
  have sum : (n + 3).toBitVec.toNat = (n.toNat + 3) % 2 ^ 32 := by
    simp
  rw [← UInt32.toNat_toBitVec, mask, BitVec.toNat_shiftLeft,
    BitVec.toNat_ushiftRight, sum, Nat.shiftRight_eq_div_pow,
    Nat.shiftLeft_eq]
  omega

/-- Without a wrap the rounded length holds the bytes. -/
theorem le_flashAlignLen_iff (n : UInt32) :
    n ≤ flashAlignLen n ↔ n ≤ 0xfffffffc := by
  rw [UInt32.le_iff_toNat_le, UInt32.le_iff_toNat_le, toNat_flashAlignLen]
  have bound := n.toNat_lt
  have top : (0xfffffffc : UInt32).toNat = 4294967292 := by
    rfl
  omega

end EspFirmware
