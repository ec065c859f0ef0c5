import QmlExport.Progress
import QmlExport.Run.Report
import QmlExport.Store.Storage

/-!
# The bench

What a run and the packaging work on: a storage, the meter that they report to, and the stage that
the run is in. A job may fail half way; what it has done and said until then stays.
-/

namespace QmlExport

/-- A storage, a meter and the stage of the run. -/
structure Bench where
  storage : Store.Storage
  meter : Meter
  stage : Run.Stage

/-- Something done at the bench, which may fail. -/
abbrev Job (α : Type) := ExceptT Failure (StateM Bench) α

namespace Bench

/-- A bench with a fresh meter where nothing has been done. -/
def start (s : Store.Storage) : Bench := ⟨s, .fresh, .idle⟩

end Bench

namespace Job

/-- Do something on the storage, and go on whether or not it fails. -/
def attempt (a : Store.Action α) : Job (Except Failure α) := fun b =>
  let (r, s) := a.run b.storage
  (.ok r, { b with storage := s })

/-- Do something on the storage. -/
def onStorage (a : Store.Action α) : Job α := fun b =>
  let (r, s) := a.run b.storage
  (r, { b with storage := s })

/-- Report a percentage. -/
def progress (percent : Nat) : Job Unit := fun b =>
  (.ok (), { b with meter := b.meter.progress percent })

/-- Add a line to the log. -/
def say (line : String) : Job Unit := fun b => (.ok (), { b with meter := b.meter.say line })

/-- Enter a stage. -/
def enter (s : Run.Stage) : Job Unit := fun b => (.ok (), { b with stage := s })

end Job

end QmlExport
