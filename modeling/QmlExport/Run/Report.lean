import QmlExport.Json.Decoder

/-!
# Reports

What a run tells when it has come through: how much it stored, and how the fonts fared. A run that
was not asked for fonts says nothing about them.
-/

namespace QmlExport.Run

open Json

/-- Where a run is. -/
inductive Stage
  | idle
  | extracting
  | splitting
  | transforming
  | persisting
  | fontProcessing
  | done
  deriving DecidableEq, Repr

namespace Stage

/-- The name of a stage in records. -/
def name : Stage → String
  | .idle => "idle"
  | .extracting => "extracting"
  | .splitting => "splitting"
  | .transforming => "transforming"
  | .persisting => "persisting"
  | .fontProcessing => "font-processing"
  | .done => "done"

/-- All stages in order. -/
def all : List Stage :=
  [.idle, .extracting, .splitting, .transforming, .persisting, .fontProcessing, .done]

/-- A stage as a record. -/
def toJson (s : Stage) : Value := .text s.name

/-- Read a stage. -/
def decoder : Decoder Stage := .choice (all.map fun s => (s.name, s))

end Stage

/-- A font family that could not be downloaded. -/
structure FontFailure where
  family : String
  message : String
  deriving DecidableEq, Repr

/-- How the fonts of a run fared. -/
structure FontSummary where
  requested : Nat
  downloaded : Nat
  skipped : Nat
  failures : List FontFailure
  deriving DecidableEq, Repr

/-- What a run tells. -/
structure Report where
  resumed : Bool
  images : Nat
  codeFiles : Nat
  fontFamilies : List String
  fonts : Option FontSummary
  deriving DecidableEq, Repr

namespace FontFailure

/-- A font failure as a record. -/
def toJson (f : FontFailure) : Value :=
  .fields [("family", .text f.family), ("message", .text f.message)]

/-- Read a font failure. -/
def decoder : Decoder FontFailure :=
  .record ["family", "message"] fun fs => do
    let family ← fs.required "family" .text
    let message ← fs.required "message" .text
    some ⟨family, message⟩

end FontFailure

namespace FontSummary

/-- How many families have files at the end of the run. -/
def available (s : FontSummary) : Nat := s.downloaded + s.skipped

/-- A summary as a record. -/
def toJson (s : FontSummary) : Value :=
  .fields ([("requested", .nat s.requested), ("downloaded", .nat s.downloaded),
    ("skipped", .nat s.skipped)] ++ omitEmpty "failures" FontFailure.toJson s.failures)

/-- Read a summary. -/
def decoder : Decoder FontSummary :=
  .record ["requested", "downloaded", "skipped", "failures"] fun fs => do
    let requested ← fs.required "requested" .nat
    let downloaded ← fs.required "downloaded" .nat
    let skipped ← fs.required "skipped" .nat
    let failures ← fs.orElse "failures" (.list FontFailure.decoder) []
    some ⟨requested, downloaded, skipped, failures⟩

end FontSummary

namespace Report

/-- A report as a record. -/
def toJson (r : Report) : Value :=
  .fields ([("resumed", .bool r.resumed), ("images", .nat r.images),
    ("qmlFiles", .nat r.codeFiles), ("fontFamilies", .array (r.fontFamilies.map .text))] ++
    omitNone "fonts" FontSummary.toJson r.fonts)

/-- Read a report. -/
def decoder : Decoder Report :=
  .record ["resumed", "images", "qmlFiles", "fontFamilies", "fonts"] fun fs => do
    let resumed ← fs.required "resumed" .bool
    let images ← fs.required "images" .nat
    let codeFiles ← fs.required "qmlFiles" .nat
    let fontFamilies ← fs.required "fontFamilies" (.list .text)
    let fonts ← fs.nullable "fonts" FontSummary.decoder
    some ⟨resumed, images, codeFiles, fontFamilies, fonts⟩

end Report

end QmlExport.Run
