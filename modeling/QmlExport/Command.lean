import QmlExport.Answer
import QmlExport.CommandLine
import QmlExport.Package
import QmlExport.Run
import QmlExport.Settings
import QmlExport.Store.Database

/-!
# Commands

What a command line asks for, done on a disk:

    upload    check a file and store it in place of everything else
    process   generate code from the stored upload
    package   write everything stored into an archive
    convert   all of the above, one after the other
    reset     empty the store

Every step works on the disk alone, so a command that does several steps does just what the commands
for the single steps would do. A step that fails ends the command; what was done until then stays.
-/

namespace QmlExport

open Store Upload

/-- Something done on a disk, which may fail. -/
abbrev Task (α : Type) := ExceptT Failure (StateM Disk) α

namespace Command

/-- Where commands are carried out: the variables of the surroundings, the present millisecond, and
where fonts come from under given settings. -/
structure Place where
  surroundings : Settings.Variables
  millis : String
  source : Settings.FontSettings → Fonts.Source

/-- Load the settings. -/
def loadSettings (p : Place) (file : Option Path) : Task Settings := fun d =>
  (Settings.load d p.surroundings file, d)

/-! ### Steps -/

/-- Open the store in a folder. -/
def openStore (root : Path) : Task Unit := fun d =>
  let (r, d) := Folder.openAt root d
  (r.map fun _ => (), d)

/-- Empty the store in a folder. -/
def resetStore (root : Path) : Task Unit := fun d =>
  let (r, d) := Folder.resetAt root d
  (r.map fun _ => (), d)

/-- Do something at a fresh bench with the store in a folder. Returns also what was reported. -/
def atBench (root : Path) (job : Job α) : Task (α × List Event) := fun d =>
  let (r, b) := job.run (.start (.folder root d))
  (r.map fun a => (a, b.meter.events), b.storage.disk?.getD d)

/-- The failure of a file that cannot be read. -/
def unreadable (file : Path) : Failure :=
  ⟨.upload, "failed to read " ++ file.text ++ ": " ++ Failure.systemCause⟩

/-- The contents of a file. -/
def contents (file : Path) : Task Text.Bytes := fun d =>
  match d.read file with
  | .ok bs => (.ok bs, d)
  | .error _ => (.error (unreadable file), d)

/-- Store a file. -/
def upload (root : Path) (s : Settings) (file : Path) : Task Receipt := do
  let bs ← contents file
  fun d =>
    let (r, db) := (Database.on (.folder root d)).upload file.text bs s.uploadLimit
    (r, db.storage.disk?.getD d)

/-- Generate code. When fonts are to be downloaded, there must be a way to do so. -/
def process (p : Place) (root : Path) (s : Settings) (o : Design.Options) :
    Task (Run.Report × List Event) := do
  if o.downloadFonts then
    ofExcept (Settings.checkFonts s.fonts)
    atBench root (Run.start o (some (p.source s.fonts)))
  else atBench root (Run.start o none)

/-- The failure of a directory that cannot be made. -/
def cannotCreate (dir : Path) : Failure :=
  .archive ("failed to create " ++ dir.text ++ ": " ++ Failure.systemCause)

/-- The failure of a package that cannot be written. -/
def cannotWrite (file : Path) : Failure :=
  .archive ("failed to write " ++ file.text ++ ": " ++ Failure.systemCause)

/-- Write a package into a directory, which is made if there is none. -/
def deliver (dir : Path) (packed : Package.Packed) : Task Parcel := fun d =>
  match d.makeDirectories dir with
  | (.error _, d) => (.error (cannotCreate dir), d)
  | (.ok (), d) =>
    let path := dir.join ⟨packed.fileName⟩
    match d.write path packed.bytes with
    | .error _ => (.error (cannotWrite path), d)
    | .ok d => (.ok ⟨packed.fileName, path, packed.fileCount, packed.bytes.length⟩, d)

/-- Where packages go when nothing else is asked for. -/
def defaultOutput : Path := ⟨"."⟩

/-- Write everything stored into a package. -/
def package (p : Place) (root : Path) (s : Settings) (output : Option Path) :
    Task (Parcel × List Event) := do
  let (packed, events) ← atBench root (Package.build p.millis s.level)
  let parcel ← deliver (output.getD defaultOutput) packed
  pure (parcel, events)

/-! ### Commands -/

/-- Carry out a request under settings with the store in a folder. -/
def fulfil (p : Place) (root : Path) (s : Settings) : CommandLine.Request → Task Outcome
  | .upload file => do
    openStore root
    let receipt ← upload root s file
    pure (.uploaded receipt root)
  | .process o => do
    openStore root
    let (report, events) ← process p root s o
    pure (.processed o report (logOf events))
  | .package output => do
    openStore root
    let (parcel, _) ← package p root s output
    pure (.packaged parcel)
  | .convert file o output => do
    openStore root
    let receipt ← upload root s file
    let (report, processing) ← process p root s o
    let (parcel, packaging) ← package p root s output
    pure (.converted receipt o report ⟨Answer.version, parcel⟩ (logOf (processing ++ packaging)))
  | .reset => do
    resetStore root
    pure (.cleared root)

/-- Carry out what a command line asks for. -/
def carryOut (p : Place) (c : CommandLine) : Task Outcome := do
  let s ← loadSettings p c.settingsFile
  fulfil p (s.chosenStoreFolder c.storeFolder p.surroundings) s c.request

/-- The answer to a command line, and the disk afterwards. -/
def answer (p : Place) (c : CommandLine) (d : Disk) : Answer × Disk :=
  match (carryOut p c).run d with
  | (.ok o, d) => (.of o, d)
  | (.error f, d) => (.of (.ofFailure f), d)

end Command

end QmlExport
