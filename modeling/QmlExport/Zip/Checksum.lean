import QmlExport.Text.Utf8

/-!
# Checksums

The 32-bit cyclic redundancy check of archives: the remainder of the octets, seen as a polynomial
with the first bit of each octet last, with all bits of the register inverted before and after.
-/

namespace QmlExport.Zip

/-- The divisor, with its bits in reverse order. -/
def polynomial : UInt32 := 0xEDB88320

/-- Shift one bit out of the register. -/
def shiftBit (r : UInt32) : UInt32 :=
  if r &&& 1 = 1 then (r >>> 1) ^^^ polynomial else r >>> 1

/-- Take an octet into the register. -/
def addByte (r : UInt32) (b : UInt8) : UInt32 := Nat.repeat shiftBit 8 (r ^^^ b.toUInt32)

/-- The checksum of octets. -/
def checksum (bs : Text.Bytes) : UInt32 := bs.foldl addByte 0xFFFFFFFF ^^^ 0xFFFFFFFF

end QmlExport.Zip
