import EspFirmware.Library.BitPacking
import EspFirmware.Memory

/-!
# The temperature sensor of `temperature.c`

The sensor drives the pin, and every pulse of ones stands for a bit, by its
length.  The pin is sampled 4000 times, the pulses of the samples become 42
bits, and the bits of the frame become the reading.  Samples and bits, which
the source keeps in bytes, are 0 or 1.  Console output and the levels which
wake the sensor up are left out, and the two blocks of `read` are taken to be
allocated, as `read` does itself.
-/

namespace EspFirmware

open Library

/-! ## Pulses -/

/-- `READ_BUFFER_SIZE`. -/
def readBufferSize : Nat := 42

/-- `DATA_BIT_HIGH_THRESHOLD`. -/
def dataBitHighThreshold : Nat := 18

/-- `MAX_READ_TIME`. -/
def maxReadTime : Nat := 4000

/-- The block of bits which `get_data_bits` returns. -/
abbrev DataBits :=
  Vector Bool readBufferSize

/--
The variables of `get_data_bits`, and the indices at which it stored to its
block.
-/
structure PulseScan where
  data : DataBits
  onesCounter : Nat
  dataIndex : Nat
  onesStreak : Bool
  stores : List Nat

namespace PulseScan

/-- The variables before the loop. -/
def start : PulseScan where
  data := Vector.replicate readBufferSize false
  onesCounter := 0
  dataIndex := 0
  onesStreak := false
  stores := []

/-- Another one of a streak. -/
def one (scan : PulseScan) : PulseScan :=
  { scan with
    onesStreak := true
    onesCounter := scan.onesCounter + 1 }

/-- The first zero behind a streak. -/
def zero (scan : PulseScan) : PulseScan where
  data :=
    if dataBitHighThreshold < scan.onesCounter then
      scan.data.setIfInBounds scan.dataIndex true
    else
      scan.data.setIfInBounds scan.dataIndex false
  onesCounter := 0
  dataIndex := scan.dataIndex + 1
  onesStreak := false
  stores := scan.stores ++ [scan.dataIndex]

/-- The loop over the samples. -/
def run (scan : PulseScan) : List Bool → PulseScan
  | [] => scan
  | sample :: rest =>
      if readBufferSize ≤ scan.dataIndex then scan
      else if sample then scan.one.run rest
      else if scan.onesStreak then scan.zero.run rest
      else scan.run rest

end PulseScan

/-- `get_data_bits`. -/
def getDataBits (rawData : List Bool) : DataBits :=
  (PulseScan.start.run rawData).data

/-! ## Frames -/

/-- `count` bits of the frame, which begins behind one protocol bit. -/
def frameBits (data : DataBits) (first count : Nat) : List Bool :=
  (data.toList.drop (1 + first)).take count

/-- `data_bytes` of `checksum`, which is filled and not used. -/
def dataBytes (data : DataBits) : Nat → BitVec 8 :=
  packWords (fun _ => 0) 0 (frameBits data 0 (readBufferSize - 2))

/--
`checksum`.  The entries which it adds and compares are those of `data`,
which is advanced by one, and not those of `data_bytes`.
-/
def checksum (data : DataBits) : Bool :=
  data[1].toNat + data[2].toNat + data[3].toNat + data[4].toNat ==
    data[5].toNat

/-- The bit which `set_dht` tests for the sign, and clears. -/
def signBit (data : DataBits) : Bool :=
  data[1]

/-- `struct _dht`. -/
structure Dht where
  humidity : BitVec 16
  temperature : BitVec 16
  negativeTemp : Bool
deriving DecidableEq

namespace Dht

/-- The static variable `DHT` at the start. -/
def boot : Dht where
  humidity := 0
  temperature := 0
  negativeTemp := false

/-- `set_dht`, with `data` advanced by one. -/
def setDht (dht : Dht) (data : DataBits) : Dht :=
  let negative := data[1]
  let cleared := if negative then data.set 1 false else data
  let dataCompressed :=
    packWords (fun _ => (0 : BitVec 16)) 0
      (frameBits cleared 0 (readBufferSize - 10))
  { humidity := dataCompressed 0
    temperature := dataCompressed 1
    negativeTemp := if negative then true else dht.negativeTemp }

end Dht

/-! ## Reading the sensor -/

/-- The levels of the pin, in the order in which one call of `read` samples them. -/
abbrev Samples :=
  Nat → Bool

/--
`raw_data` when its loop is over.  The counter is incremented before the
store, so the first byte stays zero, and the last sample is stored behind the
block.
-/
def rawData (samples : Samples) : List Bool :=
  (List.range maxReadTime).foldl
    (fun raw index => raw.set (index + 1) (samples index))
    (List.replicate maxReadTime false)

/-- The end of `read`: the new value of `DHT`, if it returns 0. -/
def Dht.readBits (dht : Dht) (data : DataBits) : Option Dht :=
  if checksum data then some (dht.setDht data) else none

/-- `read`. -/
def Dht.read (dht : Dht) (samples : Samples) : Option Dht :=
  dht.readBits (getDataBits (rawData samples))

/-- An `unsigned short` as `%d` prints it. -/
def shortText (number : BitVec 16) : List UInt8 :=
  (Nat.toDigits 10 number.toNat).map fun digit => UInt8.ofNat digit.toNat

/-- The text of a reading. -/
def Dht.text (dht : Dht) : List UInt8 :=
  if dht.negativeTemp then
    shortText dht.humidity ++ ascii " -" ++ shortText dht.temperature
  else
    shortText dht.humidity ++ ascii " " ++ shortText dht.temperature

/-- `Temperature_get_temperature`: the text which it formats, if any. -/
def Dht.getTemperature (dht : Dht) (samples : Samples) :
    Option (List UInt8) :=
  (dht.read samples).map Dht.text

/-- `DHT` when `read` has returned. -/
def Dht.afterRead (dht : Dht) (samples : Samples) : Dht :=
  (dht.read samples).getD dht

/-- `DHT` after several calls of `Temperature_get_temperature`. -/
def Dht.afterReads (dht : Dht) (history : List Samples) : Dht :=
  history.foldl Dht.afterRead dht

end EspFirmware
