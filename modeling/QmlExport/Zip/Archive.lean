import QmlExport.Zip.Extra
import QmlExport.Zip.Inflate

/-!
# Archives

An archive is a sequence of entries with their data, a directory of the entries, and an end record
that leads to the directory.

    … ‖ header, data, header, data, … ‖ directory ‖ end record ‖ …

`open?` reads the directory; `Entry.packed?` finds the data of an entry, and `Entry.unpack?` undoes
how it is packed. The directory tells all about an entry but where its data begins, which its header
tells. A directory is taken for one before the headers it leads to are looked at, as long as they
would lie in front of it.
-/

namespace QmlExport.Zip

open Text

/-- An entry of the directory, with where its header begins. -/
structure Entry where
  name : String
  encrypted : Bool
  method : Nat
  checksum : UInt32
  size : Nat
  headerOffset : Nat
  deriving DecidableEq, Repr

/-- The size of the header of an entry without its name and further fields. -/
def headerSize : Nat := 30

/-- The method that only encrypted data has. -/
def encryptedMethod : Nat := 99

/-- A text of an entry: UTF-8 if the flags say so, else code page 437. -/
def textOf (flags : Nat) (bs : Bytes) : String :=
  if flags.testBit 11 then Utf8.lossy bs else CodePage437.text bs

/-- The first entry of a part of a directory, and the rest of it. -/
def takeEntry? (d : Directory) (rest : Bytes) : Option (Entry × Bytes) := do
  let (fields, rest) ← cut? directoryEntrySize rest
  let (name, rest) ← cut? (numberAt fields 28 2) rest
  let (extra, rest) ← cut? (numberAt fields 30 2) rest
  let (comment, rest) ← cut? (numberAt fields 32 2) rest
  let flags := numberAt fields 8 2
  let details ← Extra.details? ⟨name, textOf flags name, Utf8.encode (textOf flags comment),
    numberAt fields 10 2, numberAt fields 20 4, numberAt fields 24 4, numberAt fields 42 4,
    false⟩ extra
  let offset := details.offset + d.base
  if !directorySignature.isPrefixOf fields || d.start ≤ offset ||
      (details.method == encryptedMethod && !details.encrypted) then none
  else
    some (⟨details.nameText, flags.testBit 0 || details.encrypted, details.method,
      .ofNat (numberAt fields 16 4), details.size, offset⟩, rest)

/-- So many entries of a directory. -/
def takeEntries? (d : Directory) : (count : Nat) → Bytes → Option (List Entry)
  | 0, _ => some []
  | count + 1, rest => do
    let (e, rest) ← takeEntry? d rest
    let es ← takeEntries? d count rest
    some (e :: es)

/-- The entries of a directory. -/
def entries? (bs : Bytes) (d : Directory) : Option (List Entry) :=
  takeEntries? d d.count (bs.drop d.start)

/-- Put an entry in place of the one with its name, or at the end. -/
def replaceOrAdd (es : List Entry) (e : Entry) : List Entry :=
  if es.any fun f => f.name == e.name then es.map fun f => if f.name = e.name then e else f
  else es ++ [e]

/-- The entries of an archive: the last end record that leads to a directory counts, and of entries
with one name the last. -/
def open? (bs : Bytes) : Option (List Entry) :=
  let found := (offsetsOf endSignature bs).findSome? fun offset =>
    (directoryAt? bs offset).bind (entries? bs)
  found.map fun es => es.foldl replaceOrAdd []

namespace Entry

/-- Whether the entry is a directory. -/
def isDirectory (e : Entry) : Bool :=
  match e.name.toList.getLast? with
  | some c => c == '/' || c == '\\'
  | none => false

/-- Whether the data of an entry is in a form that can be read: stored or deflated. -/
def isKnown (e : Entry) : Bool := !e.encrypted && (e.method == 0 || e.method == 8)

/-- Where the data of an entry begins, which is behind its header, its name and further fields. -/
def dataOffset? (archive : Bytes) (e : Entry) : Option Nat := do
  let (fields, _) ← cut? headerSize (archive.drop e.headerOffset)
  if entrySignature.isPrefixOf fields then
    some (e.headerOffset + headerSize + numberAt fields 26 2 + numberAt fields 28 2)
  else none

/-- The data of an entry as it lies in the archive, if it can be found and is in a form that can be
read. -/
def packed? (archive : Bytes) (e : Entry) : Option Bytes := do
  let start ← e.dataOffset? archive
  if e.isKnown then some ((archive.drop start).take e.size) else none

/-- The data of an entry as it was put in, if it comes out sound. -/
def unpack? (e : Entry) (packed : Bytes) : Option Bytes := do
  let bs ← if e.method = 8 then inflate packed else some packed
  if Zip.checksum bs = e.checksum then some bs else none

/-- The contents of an entry. -/
def contents? (archive : Bytes) (e : Entry) : Option Bytes :=
  (e.packed? archive).bind e.unpack?

end Entry

end QmlExport.Zip
