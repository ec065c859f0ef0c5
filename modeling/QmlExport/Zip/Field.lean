import QmlExport.Text.Utf8

/-!
# Fields of archives

The records of an archive begin with a signature and consist of numbers, written with the lowest
octet first, and of octets whose number stands in front of them.
-/

namespace QmlExport.Zip

open Text

/-- The number that octets spell, the lowest octet first. -/
def numberOf (bs : Bytes) : Nat := bs.foldr (fun b value => b.toNat + 256 * value) 0

/-- The number in `n` octets at an offset. -/
def numberAt (bs : Bytes) (offset n : Nat) : Nat := numberOf ((bs.drop offset).take n)

/-- The first `n` octets and the others, if there are as many. -/
def cut? (n : Nat) (bs : Bytes) : Option (Bytes × Bytes) :=
  let front := bs.take n
  if front.length = n then some (front, bs.drop n) else none

/-- The octets in front of a record of a kind. -/
def signature (a b : UInt8) : Bytes := [0x50, 0x4B, a, b]

/-- In front of each entry. -/
def entrySignature : Bytes := signature 3 4

/-- In front of each entry of the directory. -/
def directorySignature : Bytes := signature 1 2

/-- In front of the end record. -/
def endSignature : Bytes := signature 5 6

/-- In front of the long end record. -/
def longEndSignature : Bytes := signature 6 6

/-- In front of the locator of the long end record. -/
def locatorSignature : Bytes := signature 6 7

/-- Whether a signature stands at an offset. -/
def standsAt (s bs : Bytes) (offset : Nat) : Bool := s.isPrefixOf (bs.drop offset)

/-- The offsets at which a signature stands, the last first. The octets begin at `offset`; `found`
are the offsets before. -/
def offsetsFrom (s : Bytes) (offset : Nat) (found : List Nat) : Bytes → List Nat
  | [] => found
  | b :: bs =>
    offsetsFrom s (offset + 1) (if s.isPrefixOf (b :: bs) then offset :: found else found) bs

/-- The offsets at which a signature stands, the last first. -/
def offsetsOf (s bs : Bytes) : List Nat := offsetsFrom s 0 [] bs

/-- The offsets from `low` on at which a signature stands that ends before `high`, the first
first. -/
def offsetsBetween (s bs : Bytes) (low high : Nat) : List Nat :=
  (offsetsFrom s low [] ((bs.drop low).take (high - low))).reverse

end QmlExport.Zip
