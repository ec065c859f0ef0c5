import QmlExport.Fonts.Naming
import QmlExport.Fonts.Source
import QmlExport.Store.Storage

/-!
# Fetching fonts

`fetch` downloads all variants of a family and adds their files to the fonts of the store. Nothing
is stored unless every variant comes through. Whatever goes wrong is a failure of the download.
-/

namespace QmlExport.Fonts

open Store Text

/-- The failure of a family that the index does not have. -/
def notFound (family : String) : Failure :=
  ⟨.fontDownload, "font family `" ++ family ++ "` not found"⟩

/-- The failure of a fonts record that holds something else. -/
def unexpectedContent : Failure := .database "Fonts record holds unexpected data"

/-- The fonts of the store. -/
def load : Action Fonts := do
  match ← getContent Key.fonts.name with
  | some (.fonts families) => pure families
  | some _ => throw unexpectedContent
  | none => pure .empty

/-- Download the variants of a family. -/
def downloadVariants (s : Source) (f : Family) : Except Failure (List (String × Bytes)) :=
  f.variants.mapM fun (key, url) => do
    let bytes ← s.download url
    .ok (fileName f.name key url, bytes)

/-- Download a family. -/
def download (s : Source) (family : String) : Except Failure Files := do
  let index ← s.index
  match index.find? family with
  | none => .error (notFound family)
  | some f => do
    let files ← downloadVariants s f
    .ok (.ofList files)

/-- Add files to a family. -/
def addFiles (fonts : Fonts) (family : String) (files : Files) : Fonts :=
  fonts.insert family (((fonts.get? family).getD .empty).insertAll files.entries)

/-- Download a family and store it. Returns the number of files. -/
def fetchAsIs (s : Source) (family : String) : Action Nat := do
  let files ← ofExcept (download s family)
  let fonts ← load
  putContent Key.fonts.name (some (.fonts (addFiles fonts family files)))
  pure files.size

/-- Download a family and store it; every failure is one of the download. -/
def fetch (s : Source) (family : String) : Action Nat :=
  ExceptT.mk do
    let r ← (fetchAsIs s family).run
    pure (r.mapError Failure.asFontDownload)

/-- Whether files of a family are stored. -/
def isStored (family : String) : Action Bool := do
  let fonts ← load
  match fonts.get? family with
  | some files => pure (!files.isEmpty)
  | none => pure false

end QmlExport.Fonts
