import QmlExport.Disk
import QmlExport.Failure
import QmlExport.Store.Record

/-!
# Storages

A storage keeps the written form of records under a partition and a key, in memory or in a folder
on a disk. In a folder each partition is a directory with one file per record, and a version file
tells in which way records are written.

    folder/version            1
    folder/Files/KEY.json
    folder/Metadata/KEY.json

A record is first written under a temporary name and then moved to its place, so that a reader never
sees half of it. Actions on a storage may fail half way; what they have done until then stays.
-/

namespace QmlExport.Store

open Disk Text

/-- Records in memory. -/
structure Memory where
  files : Catalog Bytes
  metadata : Catalog Bytes

/-- Where records are kept. -/
inductive Storage
  | memory (m : Memory)
  | folder (root : Path) (disk : Disk)

/-- Something done on a storage, which may fail. -/
abbrev Action (α : Type) := ExceptT Failure (StateM Storage) α

/-! ### Memory -/

namespace Memory

/-- A memory without records. -/
def empty : Memory := ⟨.empty, .empty⟩

/-- The records of a partition. -/
def shelf (m : Memory) : Partition → Catalog Bytes
  | .files => m.files
  | .metadata => m.metadata

/-- The record under a key. -/
def get? (m : Memory) (p : Partition) (key : String) : Option Bytes := (m.shelf p).get? key

/-- Put a record under a key. -/
def put (m : Memory) (p : Partition) (key : String) (bs : Bytes) : Memory :=
  match p with
  | .files => { m with files := m.files.insert key bs }
  | .metadata => { m with metadata := m.metadata.insert key bs }

end Memory

/-! ### Folders -/

namespace Folder

/-- The version of the way in which records are written. -/
def version : String := "1"

/-- The file with the version. -/
def versionPath (root : Path) : Path := root.join ⟨"version"⟩

/-- The directory of a partition. -/
def partitionPath (root : Path) (p : Partition) : Path := root.join ⟨p.name⟩

/-- The file of a record. -/
def recordPath (root : Path) (p : Partition) (key : String) : Path :=
  (partitionPath root p).join ⟨key ++ ".json"⟩

/-- The file that a record is written to before it is moved to its place. -/
def temporaryPath (record : Path) : Path := record.withExtension "json.tmp"

/-- The failure of an operation that names the path it is about. -/
def failedTo (what : String) (p : Path) : Failure :=
  .database ("failed to " ++ what ++ " " ++ p.text ++ ": " ++ Failure.systemCause)

/-- The failure of an operation that names nothing. -/
def failed : Failure := .ofSystem Failure.systemCause

/-- The failure of a folder that another version wrote. -/
def otherVersion (root : Path) (found : String) : Failure :=
  .database ("store at " ++ root.text ++ " has schema version " ++ found ++ ", expected " ++
    version ++ "; run `qmlbridge reset`")

/-- Keep a disk, or what it was before if the operation failed. -/
def orFail (d : Disk) (r : Except Fault Disk) (f : Failure) : Except Failure Unit × Disk :=
  match r with
  | .ok d => (.ok (), d)
  | .error _ => (.error f, d)

/-- Read a record. -/
def read (root : Path) (d : Disk) (p : Partition) (key : String) :
    Except Failure (Option Bytes) :=
  let path := recordPath root p key
  match d.read path with
  | .ok bs => .ok (some bs)
  | .error .missing => .ok none
  | .error .refused => .error (failedTo "read" path)

/-- Write a record. -/
def write (root : Path) (d : Disk) (p : Partition) (key : String) (bs : Bytes) :
    Except Failure Unit × Disk :=
  let path := recordPath root p key
  match d.makeDirectories path.parent with
  | (.error _, d) => (.error failed, d)
  | (.ok (), d) =>
    let temporary := temporaryPath path
    match d.write temporary bs with
    | .error _ => (.error (failedTo "write" temporary), d)
    | .ok d => orFail d (d.rename temporary path) failed

/-- Take away the directory of a partition, if there is one. -/
def clearPartition (root : Path) (d : Disk) (p : Partition) : Except Failure Unit × Disk :=
  let path := partitionPath root p
  match d.removeDirectory path with
  | .ok d => (.ok (), d)
  | .error .missing => (.ok (), d)
  | .error .refused => (.error (failedTo "clear" path), d)

/-- Take away all records. -/
def clear (root : Path) (d : Disk) : Except Failure Unit × Disk :=
  match clearPartition root d .files with
  | (.error f, d) => (.error f, d)
  | (.ok (), d) => clearPartition root d .metadata

/-- Open a folder, making it if there is none. -/
def openAt (root : Path) (d : Disk) : Except Failure Storage × Disk :=
  match d.makeDirectories root with
  | (.error _, d) => (.error (failedTo "create store directory" root), d)
  | (.ok (), d) =>
    match d.read (versionPath root) with
    | .ok bs =>
      match Utf8.text? bs with
      | none => (.error failed, d)
      | some s =>
        let found := String.ofList (trim s.toList)
        if found = version then (.ok (.folder root d), d)
        else (.error (otherVersion root found), d)
    | .error .missing =>
      match d.write (versionPath root) (Utf8.encode version) with
      | .ok d => (.ok (.folder root d), d)
      | .error _ => (.error failed, d)
    | .error .refused => (.error failed, d)

/-- Empty a folder whatever its version, and open it. -/
def resetAt (root : Path) (d : Disk) : Except Failure Storage × Disk :=
  match clear root d with
  | (.error f, d) => (.error f, d)
  | (.ok (), d) =>
    match d.removeFile (versionPath root) with
    | .ok d => openAt root d
    | .error .missing => openAt root d
    | .error .refused => (.error failed, d)

end Folder

/-! ### Both -/

namespace Storage

/-- A new storage in memory. -/
def fresh : Storage := .memory .empty

/-- The disk that a storage is on; memory is on none. -/
def disk? : Storage → Option Disk
  | .memory _ => none
  | .folder _ d => some d

/-- The written form of the record under a key. -/
def read (p : Partition) (key : String) : Action (Option Bytes) := fun s =>
  match s with
  | .memory m => (.ok (m.get? p key), s)
  | .folder root d => (Folder.read root d p key, s)

/-- Write a record under a key. -/
def write (p : Partition) (key : String) (bs : Bytes) : Action Unit := fun s =>
  match s with
  | .memory m => (.ok (), .memory (m.put p key bs))
  | .folder root d =>
    let (r, d) := Folder.write root d p key bs
    (r, .folder root d)

/-- Take away all records. -/
def clear : Action Unit := fun s =>
  match s with
  | .memory _ => (.ok (), .memory .empty)
  | .folder root d =>
    let (r, d) := Folder.clear root d
    (r, .folder root d)

end Storage

/-! ### Records -/

/-- The failure of a record that is put into the other partition. -/
def misplaced (r : Record) (p : Partition) : Failure :=
  .database ("record `" ++ r.key ++ "` does not belong in the " ++ p.name ++ " partition")

/-- The octets that a record is written as. -/
def Record.written (r : Record) : Bytes := Utf8.encode r.toJson.compact

/-- Put a record into its partition. -/
def putRecord (p : Partition) (r : Record) : Action Unit :=
  if r.partition ≠ p then throw (misplaced r p) else Storage.write p r.key r.written

/-- The record under a key. -/
def getRecord (p : Partition) (key : String) : Action (Option Record) := do
  match ← Storage.read p key with
  | none => pure none
  | some bs =>
    match Json.decode? (Record.decoderIn false p) (Json.parse bs) with
    | some r => pure (some r)
    | none => throw .ofRecord

/-- Put a content into the `Files` partition. Without content the record stays as an empty one. -/
def putContent (name : String) (c : Option Content) : Action Unit :=
  putRecord .files (.file ⟨name, c⟩)

/-- The content of a record of the `Files` partition. -/
def getContent (name : String) : Action (Option Content) := do
  match ← getRecord .files name with
  | some (.file r) => pure r.content
  | _ => pure none

/-- Put a record of a document. -/
def putDocument (r : MetadataRecord) : Action Unit := putRecord .metadata (.metadata r)

/-- The record of the document. -/
def getDocument : Action (Option MetadataRecord) := do
  match ← getRecord .metadata Key.metadata.name with
  | some (.metadata r) => pure (some r)
  | _ => pure none

end QmlExport.Store
