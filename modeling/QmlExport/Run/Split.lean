import QmlExport.Path
import QmlExport.Failure
import QmlExport.Store.Record
import QmlExport.Text.LetterCase
import QmlExport.Zip.Archive

/-!
# Splitting an archive

What a run takes out of the uploaded archive: its files, among them the images by their names, and
the design document. Of several documents the one named like the upload is taken, and else the first
by path.
-/

namespace QmlExport.Run

open Store Text

/-- The ending of design documents in an archive. -/
def documentEnding : String := ".metadata"

/-- The extensions of images. -/
def imageExtensions : List String := ["png", "jpg", "jpeg", "svg"]

/-- The failure of an archive that is none, or not one of a known form. -/
def malformedArchive : Failure := .archive Failure.zipCause

/-- The failure of an entry whose data is damaged. -/
def damagedEntry (name : String) : Failure :=
  .archive ("failed to decompress " ++ name ++ ": " ++ Failure.systemCause)

/-- Add the file of an entry; directories are passed over. -/
def addEntry (archive : Bytes) (files : Files) (e : Zip.Entry) : Except Failure Files :=
  match e.packed? archive with
  | none => .error malformedArchive
  | some packed =>
    if e.isDirectory then .ok files
    else
      match e.unpack? packed with
      | some bs => .ok (files.insert e.name bs)
      | none => .error (damagedEntry e.name)

/-- The files of an archive by their paths. -/
def unzip (archive : Bytes) : Except Failure Files :=
  match Zip.open? archive with
  | none => .error malformedArchive
  | some es => es.foldlM (addEntry archive) .empty

/-- The last segment of a path in an archive. -/
def entryFileName (path : String) : String :=
  String.ofList (lastPiece (fun c => c == '/' || c == '\\') path.toList)

/-- Whether a name has one of the endings, in any ASCII case. -/
def isImage (name : String) : Bool :=
  match Path.extension? ⟨name⟩ with
  | some ext => imageExtensions.any fun known => sameIgnoringCase known.toList ext.toList
  | none => false

/-- Whether a name is that of a design document. -/
def isDocument (name : String) : Bool :=
  endsWith documentEnding.toList (asciiLower name.toList)

/-- The images among files, by their names; of two with one name the later path wins. -/
def imagesOf (files : Files) : Files :=
  .ofList (files.entries.filterMap fun (path, bs) =>
    let name := entryFileName path
    if isImage name then some (name, bs) else none)

/-- The design documents among files, with their names, in the order of their paths. -/
def documentsOf (files : Files) : List (String × Bytes) :=
  files.entries.filterMap fun (path, bs) =>
    let name := entryFileName path
    if !isImage name && isDocument name then some (name, bs) else none

/-- The name that the document of an upload should have. -/
def expectedDocument (uploadName : String) : String :=
  (Path.stem? ⟨uploadName⟩).getD "" ++ documentEnding

/-- The document of an upload. -/
def pickDocument (documents : List (String × Bytes)) (uploadName : String) :
    Option (String × Bytes) :=
  let expected := (expectedDocument uploadName).toList
  match documents.find? fun d => sameIgnoringCase d.1.toList expected with
  | some d => some d
  | none => documents.head?

/-- The failure of an archive without a document. -/
def noDocument : Failure := ⟨.metadata, "archive contains no .metadata document"⟩

/-- The failure of a document that cannot be read. -/
def unreadableDocument (name : String) : Failure :=
  ⟨.metadata, "failed to parse " ++ name ++ ": " ++ Failure.jsonCause⟩

/-- The design document among files. -/
def documentOf (files : Files) (uploadName : String) : Except Failure Design.Document :=
  match pickDocument (documentsOf files) uploadName with
  | none => .error noDocument
  | some (name, bs) =>
    match Json.decode? Design.Document.decoder (Json.parse bs) with
    | none => .error (unreadableDocument name)
    | some d => .ok d

end QmlExport.Run
