import ChipEight.Screen.Picture
import ChipEight.Slice

namespace ChipEight.Picture

/-! Pictures as PNG files.

The pixels are stored without compression, three bytes each, in rows that start
with the mark of an unfiltered row.
-/

def bigEndian (n : Nat) : List UInt8 :=
  [n / 0x1000000, n / 0x10000, n / 0x100, n].map UInt8.ofNat

/-- One bit of the remainder that guards a chunk. -/
def crcBit (crc : UInt32) : UInt32 :=
  if crc % 2 = 1 then (0xEDB88320 : UInt32) ^^^ (crc >>> 1) else crc >>> 1

def crcByte (crc : UInt32) (byte : UInt8) : UInt32 :=
  (List.range 8).foldl (fun crc _ => crcBit crc) (crc ^^^ byte.toUInt32)

def crc (bytes : List UInt8) : UInt32 := bytes.foldl crcByte 0xFFFFFFFF ^^^ 0xFFFFFFFF

/-- The two sums that guard the data of a stream. -/
def adler (bytes : List UInt8) : Nat :=
  let (low, high) := bytes.foldl (fun (sums : Nat × Nat) byte =>
    let low := (sums.1 + byte.toNat) % 65521
    (low, (sums.2 + low) % 65521)) (1, 0)
  high * 0x10000 + low

def chunk (name : String) (data : List UInt8) : List UInt8 :=
  let guarded := name.toUTF8.toList ++ data
  bigEndian data.length ++ guarded ++ bigEndian (crc guarded).toNat

def littleEndian (n : Nat) : List UInt8 := [n % 0x100, n / 0x100].map UInt8.ofNat

/-- A block of the stream that stores its bytes; `last` marks the final one. -/
def storedBlock (last : Bool) (bytes : List UInt8) : List UInt8 :=
  (if last then 1 else 0) :: littleEndian bytes.length ++
    littleEndian (0xFFFF - bytes.length) ++ bytes

def stream (bytes : List UInt8) : List UInt8 :=
  [0x78, 0x01] ++ (Slice.pieces 0xFFFF bytes).flatMap (storedBlock false) ++
    storedBlock true [] ++ bigEndian (adler bytes)

def pixelBytes (colour : Colour) : List UInt8 := [colour.red, colour.green, colour.blue]

def rowBytes (row : List Colour) : List UInt8 := 0 :: row.flatMap pixelBytes

def png (picture : Picture) : List UInt8 :=
  [0x89, 0x50, 0x4E, 0x47, 0x0D, 0x0A, 0x1A, 0x0A] ++
    chunk "IHDR" (bigEndian picture.width ++ bigEndian picture.height ++ [8, 2, 0, 0, 0]) ++
    chunk "IDAT" (stream (picture.rows.flatMap rowBytes)) ++
    chunk "IEND" []

end ChipEight.Picture
