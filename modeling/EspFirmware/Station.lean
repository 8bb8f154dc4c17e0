import EspFirmware.Library.ErasableMemory
import EspFirmware.Memory

/-!
# Station configuration of `wifi.c`

`start_station` fills a `struct station_config` on its stack and passes it to
the SDK.  The structure is declared by the SDK; what the code relies on is a
place for each field, apart from the other fields.
-/

namespace EspFirmware

open Library

/-! ## The structure -/

/-- The fields of `struct station_config` which `start_station` fills. -/
inductive StationField where
  | ssid
  | password
  | bssidSet
  | bssid
deriving DecidableEq

/-- Bytes of a field. -/
def StationField.width : StationField → Nat
  | .ssid => 32
  | .password => 64
  | .bssidSet => 1
  | .bssid => 6

/-- Where the fields of a `struct station_config` lie. -/
structure StationLayout where
  offset : StationField → Nat
  apart :
    ∀ left right, left ≠ right →
      offset left + left.width ≤ offset right ∨
        offset right + right.width ≤ offset left

/-- Bytes copied to the beginning of a field. -/
structure FieldWrite where
  field : StationField
  bytes : List UInt8
deriving DecidableEq

/-- Ordinary memory takes any byte. -/
def memoryCell : CellKind UInt8 where
  erased := 0
  program _ new := new
  program_erased _ := by rfl

/-- The memory after some copies. -/
def copyAll
    (layout : StationLayout) (memory : Nat → UInt8)
    (writes : List FieldWrite) :
    Nat → UInt8 :=
  writes.foldl
    (fun memory write =>
      memoryCell.write memory (layout.offset write.field) write.bytes)
    memory

/-! ## `start_station` -/

/-- The outcomes of the SDK calls made by `start_station`. -/
structure StationAnswers where
  opmode : Bool
  setConfig : Bool
  connect : Bool
deriving DecidableEq

/-- What `start_station` copies, what it passes to the SDK, and whether it returned 0. -/
structure StationCall where
  writes : List FieldWrite
  config : Option (Nat → UInt8)
  success : Bool

/-- The copies of `start_station`, in order. -/
def stationWrites (ssid password : List UInt8) : List FieldWrite :=
  [{ field := .ssid, bytes := List.replicate 32 0 },
    { field := .password, bytes := List.replicate 64 0 },
    { field := .ssid, bytes := ssid },
    { field := .password, bytes := password },
    { field := .bssidSet, bytes := [0] },
    { field := .bssid, bytes := List.replicate 6 0 }]

/-- `start_station`, on a stack that holds anything. -/
def startStation
    (layout : StationLayout) (stack : Nat → UInt8)
    (answers : StationAnswers) (ssid password : List UInt8) :
    StationCall :=
  if answers.opmode then
    { writes := stationWrites ssid password
      config := some (copyAll layout stack (stationWrites ssid password))
      success := answers.setConfig && answers.connect }
  else
    { writes := [], config := none, success := false }

/-! ## Copies that stay inside their fields -/

/-- Every byte of a copy lands inside the field it is meant for. -/
def FieldWrite.Inside (layout : StationLayout) (write : FieldWrite) : Prop :=
  ∀ index < write.bytes.length,
    layout.offset write.field + index <
      layout.offset write.field + write.field.width

theorem FieldWrite.inside_iff
    (layout : StationLayout) (write : FieldWrite) :
    write.Inside layout ↔ write.bytes.length ≤ write.field.width := by
  constructor
  · intro inside
    by_contra long
    have last := inside write.field.width (Nat.lt_of_not_le long)
    omega
  · intro fits index within
    omega

/-- What a field holds after a copy which stays inside its field. -/
def StationField.overlay
    (field : StationField) (content : List UInt8) (write : FieldWrite) :
    List UInt8 :=
  if write.field = field then
    write.bytes ++ content.drop write.bytes.length
  else
    content

theorem readRange_fieldWrite
    {layout : StationLayout} {write : FieldWrite}
    (inside : write.Inside layout)
    (memory : Nat → UInt8) (field : StationField) :
    readRange
        (memoryCell.write memory (layout.offset write.field) write.bytes)
        (layout.offset field) field.width =
      field.overlay (readRange memory (layout.offset field) field.width)
        write := by
  have fits := (FieldWrite.inside_iff layout write).mp inside
  rw [StationField.overlay]
  by_cases same : write.field = field
  · subst same
    rw [if_pos rfl]
    exact memoryCell.readRange_write_over (fun _ _ => rfl) memory fits
  · rw [if_neg same]
    apply memoryCell.readRange_write_apart
    rcases layout.apart write.field field same with behind | before
    · exact Or.inr (by omega)
    · exact Or.inl before

/-- Copies which stay inside their fields change only their fields. -/
theorem readRange_copyAll
    {layout : StationLayout} {writes : List FieldWrite}
    (inside : ∀ write ∈ writes, write.Inside layout)
    (memory : Nat → UInt8) (field : StationField) :
    readRange (copyAll layout memory writes) (layout.offset field)
        field.width =
      writes.foldl field.overlay
        (readRange memory (layout.offset field) field.width) := by
  induction writes generalizing memory with
  | nil =>
      rfl
  | cons write rest induction =>
      have first :=
        readRange_fieldWrite (inside write List.mem_cons_self) memory field
      have others :=
        induction (fun write member => inside write (.tail _ member))
          (memoryCell.write memory (layout.offset write.field) write.bytes)
      rw [List.foldl_cons, ← first]
      exact others

end EspFirmware
