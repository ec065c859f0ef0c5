import QmlExport.Bench
import QmlExport.Code.Artboard
import QmlExport.Fonts.Fetch
import QmlExport.Package.Name
import QmlExport.Zip.Writer

/-!
# Packages

A package is an archive of everything in the store: the images, the fonts by family, and the code
tree with its directories. `membersOf` lists what goes in, in order; `pack` writes it member by
member.
-/

namespace QmlExport.Package

open Store Text Job Zip Upload

/-- The directory of fonts in a package. -/
def fontsDirectory : String := "Fonts"

/-- The extension of code files. -/
def codeExtension : String := "qml"

/-- A package that is ready. -/
structure Packed where
  fileName : String
  fileCount : Nat
  bytes : Bytes

/-- The members for images. -/
def imageMembers (images : Files) : List Member :=
  images.entries.map fun (name, bs) => .file (Code.imagesDirectory ++ "/" ++ name) bs

/-- The members for fonts. -/
def fontMembers (fonts : Fonts) : List Member :=
  fonts.entries.flatMap fun (family, files) =>
    files.entries.map fun (name, bs) =>
      .file (fontsDirectory ++ "/" ++ family ++ "/" ++ name) bs

mutual
/-- The members for an entry of the code tree. Above it lie directories with this path. -/
def entryMembers (above name : String) : Code.Entry → List Member
  | .file code => [.file (above ++ Identifier.sanitize name ++ "." ++ codeExtension)
      (Utf8.encode code)]
  | .directory es => .directory (above ++ name ++ "/") :: codeMembers (above ++ name ++ "/") es

/-- The members for the entries of a directory of the code tree. -/
def codeMembers (above : String) : List (String × Code.Entry) → List Member
  | [] => []
  | (name, e) :: es => entryMembers above name e ++ codeMembers above es
end

/-- The members for the stored images. -/
def storedImages : Action (List Member) := do
  match ← getContent Key.images.name with
  | some (.files images) => pure (imageMembers images)
  | _ => pure []

/-- The members for the stored fonts. -/
def storedFonts : Action (List Member) := do
  let fonts ← Fonts.load
  pure (fontMembers fonts)

/-- The members for the stored code. -/
def storedCode : Action (List Member) := do
  match ← getContent Key.code.name with
  | some (.code tree) => pure (codeMembers "" tree)
  | _ => pure []

/-- Text that says something. -/
def spoken? (s : String) : Option String := if allBlank s then none else some s

/-- What a package is named after: the uploaded file, or else the document. -/
def baseName : Action (Option String) := do
  match ← getDocument with
  | none => pure none
  | some r =>
    match spoken? r.fileName with
    | some name => pure (some name)
    | none => pure (r.document.info.bind fun i => spoken? i.name)

/-- The number of files among members. -/
def countFiles (ms : List Member) : Nat := (ms.filter Member.isFile).length

/-- The percentage after so many of all files. -/
def packProgress (written total : Nat) : Nat := 40 + min (55 * written / max total 1) 55

/-- The failure of an archive that cannot be written. -/
def unwritable : Failure := .archive Failure.zipCause

/-- Write members one after the other. `used` are the paths before them and `written` is the number
of files among these; `total` is the number of all files. -/
def packAll (level : Int) (total : Nat) :
    (used : List String) → (written : Nat) → List Member → Job Unit
  | _, _, [] => pure ()
  | used, written, m :: ms => do
    if m.isFile && !isLevel level then throw unwritable
    if used.contains m.path then throw unwritable
    if m.isFile then
      progress (packProgress (written + 1) total)
      packAll level total (m.path :: used) (written + 1) ms
    else packAll level total (m.path :: used) written ms

/-- Write members into an archive. -/
def pack (level : Int) (ms : List Member) : Job Bytes := do
  packAll level (countFiles ms) [] 0 ms
  pure (Zip.encode ms)

/-- The failure of a store without output. -/
def nothing : Failure := .archive "nothing to package"

/-- Make a package, in this millisecond, of everything in the store. -/
def build (millis : String) (level : Int) : Job Packed := do
  progress 0
  say "Collecting files..."
  let images ← onStorage storedImages
  progress 10
  let fonts ← onStorage storedFonts
  progress 20
  let code ← onStorage storedCode
  progress 40
  let ms := images ++ fonts ++ code
  let count := countFiles ms
  if count = 0 then throw nothing
  let base ← onStorage baseName
  let name := fileName millis base
  let bytes ← pack level ms
  progress 100
  say ("Packaged " ++ numberText count ++ " file(s) into " ++ name ++ ".")
  pure ⟨name, count, bytes⟩

end QmlExport.Package
