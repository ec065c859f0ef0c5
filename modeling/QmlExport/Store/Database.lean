import QmlExport.Store.Storage
import QmlExport.Upload

/-!
# Databases

A database is a storage together with the handles that were taken on it. Whoever works on the
records holds a handle; while one is open the database cannot be destroyed. An upload destroys what
is there and leaves nothing but the uploaded file.
-/

namespace QmlExport.Store

open Text

/-- A handle, by its number. -/
abbrev Handle := Nat

/-- A storage, for each handle ever taken whether it is open, and the number of open ones. -/
structure Database where
  storage : Storage
  handles : List Bool
  openHandles : Nat

namespace Database

/-- A database on a storage, without handles. -/
def on (s : Storage) : Database := ⟨s, [], 0⟩

/-- A new database in memory. -/
def fresh : Database := on .fresh

/-- Whether a handle is open. -/
def isOpen (db : Database) (h : Handle) : Bool := db.handles[h]? == some true

/-- Take a handle. -/
def init (db : Database) : Database × Handle :=
  ({ db with handles := db.handles ++ [true], openHandles := db.openHandles + 1 },
    db.handles.length)

/-- Close a handle. Nothing happens to one that is closed. -/
def close (db : Database) (h : Handle) : Database :=
  if db.isOpen h then
    { db with handles := db.handles.set h false, openHandles := db.openHandles - 1 }
  else db

/-- Do something on the storage. -/
def run (db : Database) (a : Action α) : Except Failure α × Database :=
  let (r, s) := a.run db.storage
  (r, { db with storage := s })

/-- The failure of a destruction while handles are open. -/
def blocked (openHandles : Nat) : Failure :=
  .database ("destroy blocked by " ++ Upload.numberText openHandles ++ " open handle(s)")

/-- Take away all records, unless a handle is open. -/
def destroy (db : Database) : Except Failure Unit × Database :=
  if 0 < db.openHandles then (.error (blocked db.openHandles), db) else db.run Storage.clear

/-- Store an uploaded file in place of everything else. -/
def upload (db : Database) (path : String) (bytes : Bytes) (limit : Nat) :
    Except Failure Upload.Receipt × Database :=
  let name := Upload.baseName path
  match Upload.check name bytes.length limit with
  | .error f => (.error f, db)
  | .ok () =>
    match db.destroy with
    | (.error f, db) => (.error f, db)
    | (.ok (), db) =>
      let (db, h) := db.init
      let (r, db) := db.run (putContent Key.uploadedFile.name (some (.upload name bytes)))
      (r.map fun _ => ⟨name, bytes.length⟩, db.close h)

end Database

end QmlExport.Store
