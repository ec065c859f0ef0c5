import QmlExport.Zip.Archive

/-!
# Writing archives

Members are written one after the other, each as it is, and then the directory and the end record.
A name may be used once only. Files can be written at the levels of compression that the format's
tools know; a level outside is refused with the first file.
-/

namespace QmlExport.Zip

open Text

/-- A member of an archive. The path of a directory ends in a slash. -/
inductive Member
  | directory (path : String)
  | file (path : String) (contents : Bytes)
  deriving DecidableEq, Repr

namespace Member

/-- The path of a member. -/
def path : Member → String
  | .directory p => p
  | .file p _ => p

/-- What a member holds; a directory holds nothing. -/
def contents : Member → Bytes
  | .directory _ => []
  | .file _ bs => bs

/-- Whether a member is a file. -/
def isFile : Member → Bool
  | .directory _ => false
  | .file _ _ => true

end Member

/-- A number in `n` octets, the lowest first. -/
def number : (n : Nat) → Nat → Bytes
  | 0, _ => []
  | n + 1, value => .ofNat value :: number n (value / 256)

/-- Flags of an entry: its name is UTF-8 unless it is ASCII. -/
def flagsOf (path : String) : Nat := if path.toList.all (·.toNat < 128) then 0 else 0x800

/-- The fields that a header and a directory entry share. -/
def sharedFields (m : Member) : Bytes :=
  number 2 20 ++ number 2 (flagsOf m.path) ++ number 2 0 ++ number 2 0 ++ number 2 33 ++
    number 4 (checksum m.contents).toNat ++ number 4 m.contents.length ++
    number 4 m.contents.length ++ number 2 (Utf8.encode m.path).length ++ number 2 0

/-- A member with its header. -/
def entryBytes (m : Member) : Bytes :=
  entrySignature ++ sharedFields m ++ Utf8.encode m.path ++ m.contents

/-- The attributes of a member: everybody may read it. -/
def attributes (m : Member) : Nat :=
  0x10000 * (if m.isFile then 0o100644 else 0o40755) + (if m.isFile then 0 else 16)

/-- The directory entry of a member that lies at an offset. -/
def directoryBytes (m : Member) (offset : Nat) : Bytes :=
  directorySignature ++ number 2 (3 * 256 + 20) ++ sharedFields m ++ number 2 0 ++ number 2 0 ++
    number 2 0 ++ number 4 (attributes m) ++ number 4 offset ++ Utf8.encode m.path

/-- The directory of members, the first of which lies at an offset. -/
def directoryOf (offset : Nat) : List Member → Bytes
  | [] => []
  | m :: ms => directoryBytes m offset ++ directoryOf (offset + (entryBytes m).length) ms

/-- The end record. -/
def endBytes (count directorySize directoryOffset : Nat) : Bytes :=
  endSignature ++ number 2 0 ++ number 2 0 ++ number 2 count ++ number 2 count ++
    number 4 directorySize ++ number 4 directoryOffset ++ number 2 0

/-- The archive of members. -/
def encode (ms : List Member) : Bytes :=
  let entries := ms.flatMap entryBytes
  let directory := directoryOf 0 ms
  entries ++ directory ++ endBytes ms.length directory.length entries.length

/-- Whether files can be written at a level of compression. -/
def isLevel (level : Int) : Bool := decide (1 ≤ level ∧ level ≤ 264)

end QmlExport.Zip
