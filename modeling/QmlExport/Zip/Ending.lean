import QmlExport.Zip.Field

/-!
# Ends of archives

The end record tells how many entries the directory has and where it begins, counted from where the
archive begins. Anything may stand in front of the archive, so that the true begin is found with the
directory itself: it is the first place with a signature of the directory that is not before the
one that the end record tells.

    … ‖ header, data, header, data, … ‖ directory ‖ [long end record ‖ locator] ‖ end record ‖ …

Numbers that are too large for the end record stand in a long end record, to which a locator right
in front of the end record leads.
-/

namespace QmlExport.Zip

open Text

/-- A directory: what its offsets count from, where it begins, and its number of entries. -/
structure Directory where
  base : Nat
  start : Nat
  count : Nat
  deriving DecidableEq, Repr

/-- The size of an end record without its comment. -/
def endSize : Nat := 22

/-- The size of a long end record without further data. -/
def longEndSize : Nat := 56

/-- The size of a locator. -/
def locatorSize : Nat := 20

/-- The size of a directory entry without its name and further fields. -/
def directoryEntrySize : Nat := 46

/-- The greatest number of two octets. -/
def twoOctetsLimit : Nat := 0xFFFF

/-- The greatest number of four octets. -/
def fourOctetsLimit : Nat := 0xFFFFFFFF

/-- An end record. -/
structure EndRecord where
  offset : Nat
  disk : Nat
  directoryDisk : Nat
  countHere : Nat
  count : Nat
  directoryOffset : Nat
  deriving DecidableEq, Repr

/-- The end record at an offset, if it is whole. -/
def endRecordAt? (bs : Bytes) (offset : Nat) : Option EndRecord := do
  let (fields, rest) ← cut? endSize (bs.drop offset)
  let _ ← cut? (numberAt fields 20 2) rest
  if endSignature.isPrefixOf fields then
    some ⟨offset, numberAt fields 4 2, numberAt fields 6 2, numberAt fields 8 2,
      numberAt fields 10 2, numberAt fields 16 4⟩
  else none

namespace EndRecord

/-- Whether a number may be too large for the record. -/
def mayBeLong (e : EndRecord) : Bool :=
  e.count == twoOctetsLimit || e.directoryOffset == fourOctetsLimit

/-- The directory that an end record leads to by itself. When there are no entries nothing is looked
for. -/
def directory? (bs : Bytes) (e : EndRecord) : Option Directory :=
  if e.disk ≠ e.directoryDisk then none
  else if e.count = 0 then
    let base := e.offset - e.directoryOffset
    some ⟨base, base + e.directoryOffset, e.countHere⟩
  else if e.offset ≤ e.directoryOffset then none
  else
    (offsetsBetween directorySignature bs e.directoryOffset e.offset).head?.map fun start =>
      ⟨start - e.directoryOffset, start, e.countHere⟩

end EndRecord

/-- A locator: which disk the long end record is on, where it is, and how many disks there are. -/
structure Locator where
  offset : Nat
  disk : Nat
  target : Nat
  disks : Nat
  deriving DecidableEq, Repr

/-- The locator in front of the end record at an offset. -/
def locatorBefore? (bs : Bytes) (offset : Nat) : Option Locator := do
  if offset < locatorSize then none
  else
    let place := offset - locatorSize
    let (fields, _) ← cut? locatorSize (bs.drop place)
    if locatorSignature.isPrefixOf fields then
      some ⟨place, numberAt fields 4 4, numberAt fields 8 8, numberAt fields 16 4⟩
    else none

/-- A long end record. -/
structure LongEndRecord where
  offset : Nat
  size : Nat
  versionMade : Nat
  versionNeeded : Nat
  disk : Nat
  directoryDisk : Nat
  countHere : Nat
  count : Nat
  directoryOffset : Nat
  deriving DecidableEq, Repr

/-- The long end record at an offset. -/
def longEndRecordAt? (bs : Bytes) (offset : Nat) : Option LongEndRecord := do
  let (fields, _) ← cut? longEndSize (bs.drop offset)
  some ⟨offset, numberAt fields 4 8, numberAt fields 12 2, numberAt fields 14 2,
    numberAt fields 16 4, numberAt fields 20 4, numberAt fields 24 8, numberAt fields 32 8,
    numberAt fields 48 8⟩

namespace LongEndRecord

/-- Whether a long end record fits its locator: it reaches up to it, is on the disk it tells, and
leaves room for the directory. Its size is counted from behind the size itself. -/
def fits (l : Locator) (e : LongEndRecord) : Bool :=
  e.size + 12 == l.offset - e.offset && longEndSize ≤ e.size + 12 && e.directoryDisk == l.disk &&
    e.count * directoryEntrySize + e.directoryOffset ≤ e.offset

/-- The directory that a long end record leads to. -/
def directory? (l : Locator) (e : LongEndRecord) : Option Directory :=
  if e.count < e.countHere || e.versionMade < e.versionNeeded || e.disk != e.directoryDisk then none
  else
    let base := e.offset - l.target
    some ⟨base, base + e.directoryOffset, e.count⟩

end LongEndRecord

/-- The directory that a locator leads to, by the first long end record that fits it and is not
before the place it tells. -/
def Locator.directory? (bs : Bytes) (l : Locator) : Option Directory :=
  if l.offset ≤ l.target || 1 < l.disks then none
  else do
    let e ← (offsetsBetween longEndSignature bs l.target l.offset).findSome? fun offset =>
      (longEndRecordAt? bs offset).filter (·.fits l)
    e.directory? l

/-- The directory that the end record at an offset leads to. -/
def directoryAt? (bs : Bytes) (offset : Nat) : Option Directory := do
  let e ← endRecordAt? bs offset
  match if e.mayBeLong then locatorBefore? bs offset else none with
  | some l => l.directory? bs
  | none => e.directory? bs

end QmlExport.Zip
