import QmlExport.Bench
import QmlExport.Code.Export
import QmlExport.Fonts.Fetch
import QmlExport.Run.Split
import QmlExport.Upload

/-!
# Runs

A run turns the uploaded archive into stored images, a stored document and stored code, and may
download the fonts that the document names:

    idle ─▶ extracting ─▶ splitting ─▶ transforming ─▶ persisting ─▶ [font processing] ─▶ done

Once the document is stored, later runs start at transforming. A failure ends the run; the stage is
idle again, and the log holds nothing but the failure. Fonts that cannot be downloaded do not fail
the run.
-/

namespace QmlExport.Run

open Store Text Job Upload

/-- The failure of a run that should download fonts from nowhere. -/
def noSource : Failure :=
  ⟨.fileProcessor, "font downloads were requested but no font source is configured"⟩

/-- The failure of a run without an upload. -/
def noUpload : Failure := .archive "no uploaded archive found; upload a .qtbridge file first"

/-- The failure of a run whose extracted files are gone. -/
def noExtracted : Failure := .archive "no extracted files found"

/-- The failure of a run whose document is gone. -/
def noStoredDocument : Failure :=
  ⟨.metadata, "no cached metadata; upload a .qtbridge file first"⟩

/-- Take the files out of the uploaded archive. Returns the name of the upload. -/
def extract : Job String := do
  enter .extracting
  progress 5
  say "Extracting QtBridge file..."
  match ← onStorage (getContent Key.uploadedFile.name) with
  | some (.upload name bytes) =>
    let files ← ofExcept (unzip bytes)
    onStorage (putContent Key.extractedFiles.name (some (.files files)))
    onStorage (putContent Key.uploadedFile.name none)
    progress 20
    say "Extraction successful."
    pure name
  | _ => throw noUpload

/-- Store the images and the document among the extracted files. Returns the number of images. -/
def split (uploadName : String) : Job Nat := do
  enter .splitting
  progress 25
  match ← onStorage (getContent Key.extractedFiles.name) with
  | some (.files files) =>
    let images := imagesOf files
    let document ← ofExcept (documentOf files uploadName)
    unless images.isEmpty do
      onStorage (putContent Key.images.name (some (.files images)))
    onStorage (putDocument (.of uploadName document))
    onStorage (putContent Key.extractedFiles.name none)
    progress 40
    say "Loading metadata succeeded."
    pure images.size
  | _ => throw noExtracted

/-- Generate code from the stored document and store it. Returns the number of files and the font
families of the document. -/
def transform (o : Design.Options) : Job (Nat × List String) := do
  enter .transforming
  progress 45
  match ← onStorage getDocument with
  | none => throw noStoredDocument
  | some record =>
    let (tree, families) := Code.generate o record.document
    let count := Code.countFiles tree
    enter .persisting
    progress 60
    onStorage (putContent Key.code.name (some (.code tree)))
    unless o.downloadFonts do
      onStorage (putContent Key.fonts.name none)
    progress 65
    say ("Generated " ++ numberText count ++ " QML file(s).")
    pure (count, families)

/-- The percentage after so many of all families. -/
def fontProgress (done total : Nat) : Nat := 70 + min (25 * done / max total 1) 25

/-- Download a family unless its files are stored. Returns what that adds to the summary. -/
def processFamily (s : Fonts.Source) (summary : FontSummary) (family : String) :
    Job FontSummary := do
  let stored ←
    match ← attempt (Fonts.isStored family) with
    | .ok stored => pure stored
    | .error _ => pure false
  if stored then
    say ("Skipping " ++ family ++ ", already downloaded.")
    pure { summary with skipped := summary.skipped + 1 }
  else
    say ("Downloading " ++ family ++ ".")
    match ← attempt (Fonts.fetch s family) with
    | .ok _ =>
      say "Downloading completed."
      pure { summary with downloaded := summary.downloaded + 1 }
    | .error f =>
      say ("Downloading " ++ family ++ " failed: " ++ f.display)
      pure { summary with failures := summary.failures ++ [⟨family, f.message⟩] }

/-- Download families one after the other; so many of all are done. -/
def processFamilies (s : Fonts.Source) (total : Nat) :
    (done : Nat) → FontSummary → List String → Job FontSummary
  | _, summary, [] => pure summary
  | done, summary, family :: families => do
    let summary ← processFamily s summary family
    progress (fontProgress (done + 1) total)
    processFamilies s total (done + 1) summary families

/-- Download the font families of a document. -/
def processFonts (s : Fonts.Source) (families : List String) : Job FontSummary := do
  enter .fontProcessing
  progress 70
  let total := families.length
  if total = 0 then
    say "No fonts to download."
    progress 95
    pure ⟨0, 0, 0, []⟩
  else
    let summary ← processFamilies s total 0 ⟨total, 0, 0, []⟩ families
    say ("Fonts ready: " ++ numberText summary.available ++ "/" ++
      numberText summary.requested ++ ".")
    pure summary

/-- The number of images that an earlier run has stored. -/
def storedImages : Job Nat := do
  match ← onStorage (getContent Key.images.name) with
  | some (.files images) => pure images.size
  | _ => pure 0

/-- Get at the document: it is stored already, or is taken out of the upload. Returns whether it was
stored, and the number of images. -/
def prepare : Job (Bool × Nat) := do
  match ← onStorage getDocument with
  | some _ =>
    say "Using cached metadata."
    let images ← storedImages
    pure (true, images)
  | none =>
    let name ← extract
    let images ← split name
    pure (false, images)

/-- Download the fonts, if that is wanted. -/
def fontsIfWanted (o : Design.Options) (s : Option Fonts.Source) (families : List String) :
    Job (Option FontSummary) :=
  match o.downloadFonts, s with
  | true, some s => do
    let summary ← processFonts s families
    pure (some summary)
  | _, _ => pure none

/-- Run from the start or from the stored document to the end. -/
def steps (o : Design.Options) (s : Option Fonts.Source) : Job Report := do
  if o.downloadFonts && s.isNone then throw noSource
  let (resumed, images) ← prepare
  let (count, families) ← transform o
  let fonts ← fontsIfWanted o s families
  enter .done
  progress 100
  say "Completed."
  pure ⟨resumed, images, count, families, fonts⟩

/-- A run. After a failure the stage is idle and the log starts again with the failure. -/
def start (o : Design.Options) (s : Option Fonts.Source) : Job Report := fun b =>
  match (steps o s).run b with
  | (.ok report, b) => (.ok report, b)
  | (.error f, b) =>
    (.error f, { b with stage := .idle, meter := b.meter.restart ("Error: " ++ f.display) })

end QmlExport.Run
