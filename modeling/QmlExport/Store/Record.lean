import QmlExport.Catalog
import QmlExport.Code.Tree
import QmlExport.Design.Codec
import QmlExport.Json.Printer
import QmlExport.Text.Base64

/-!
# Records

What a store holds. The `Files` partition has records of files: the upload, loose files by path,
fonts by family, or a code tree; such a record may also be empty, which tells that its content was
moved on. The `Metadata` partition has the design document together with the name of the file it
came from.

Every record has a written form, and `decoder`s read it back.
-/

namespace QmlExport.Store

open Json Text

/-- Files by path or name. -/
abbrev Files := Catalog Bytes

/-- The files of each font family. -/
abbrev Fonts := Catalog Files

/-- What a record of files holds. -/
inductive Content
  | upload (fileName : String) (bytes : Bytes)
  | files (files : Files)
  | fonts (families : Fonts)
  | code (tree : Code.Directory)

/-- A named record of the `Files` partition. -/
structure FileRecord where
  name : String
  content : Option Content

/-- The record of the `Metadata` partition. -/
structure MetadataRecord where
  key : String
  fileName : String
  document : Design.Document

/-- A record of either partition. -/
inductive Record
  | file (record : FileRecord)
  | metadata (record : MetadataRecord)

/-! ### Octets -/

/-- Octets as a string. -/
def blobToJson (bs : Bytes) : Value := .text (Base64.encode bs)

/-- Read octets. -/
def blobDecoder : Decoder Bytes := .filterMap (fun s => Base64.decode? s) .text

/-! ### Contents -/

/-- A catalog as a record. -/
def catalogToJson (f : α → Value) (c : Catalog α) : Value :=
  .fields (c.entries.map fun e => (e.1, f e.2))

/-- Read a catalog. -/
def catalogDecoder (d : Decoder α) : Decoder (Catalog α) := (Decoder.entries d).map Catalog.ofList

/-- Files as a record. -/
def filesToJson (c : Files) : Value := catalogToJson blobToJson c

/-- Read files. -/
def filesDecoder : Decoder Files := catalogDecoder blobDecoder

/-- The kinds of contents. -/
inductive Kind
  | upload
  | files
  | fonts
  | code
  deriving DecidableEq, Repr

namespace Kind

/-- The name of a kind in records. -/
def name : Kind → String
  | .upload => "upload"
  | .files => "files"
  | .fonts => "fonts"
  | .code => "qmlTree"

/-- All kinds. -/
def all : List Kind := [.upload, .files, .fonts, .code]

/-- Read a kind that is given by name. -/
def decoder : Decoder Kind := .choice (all.map fun k => (k.name, k))

/-- Read a kind that is the first item of an array: its name, or, in what was looked at as a whole
before, its place among all kinds. -/
def itemDecoder (settled : Bool) : Decoder Kind := fun levels v =>
  match Decoder.text levels v with
  | some t => (all.map fun k => (k.name, k)).lookup t
  | none => if settled then (Decoder.nat levels v).bind fun n => all[n]? else none

end Kind

namespace Content

/-- The kind of a content. -/
def kind : Content → Kind
  | .upload _ _ => .upload
  | .files _ => .files
  | .fonts _ => .fonts
  | .code _ => .code

/-- A content without its kind. -/
def valueToJson : Content → Value
  | .upload fileName bytes => .fields [("file_name", .text fileName), ("bytes", blobToJson bytes)]
  | .files fs => filesToJson fs
  | .fonts families => catalogToJson filesToJson families
  | .code tree => tree.toJson

/-- A content as a record. -/
def toJson (c : Content) : Value :=
  .fields [("kind", .text c.kind.name), ("value", c.valueToJson)]

/-- Read an upload, whose fields are always given by name. -/
def uploadDecoder : Decoder Content := fun levels v => do
  let fs ← Fields.ofObject ["file_name", "bytes"] [] levels v
  let fileName ← fs.required "file_name" .text
  let bytes ← fs.required "bytes" blobDecoder
  some (.upload fileName bytes)

/-- Read a content of a known kind. -/
def valueDecoder : Kind → Decoder Content
  | .upload => uploadDecoder
  | .files => filesDecoder.map .files
  | .fonts => (catalogDecoder filesDecoder).map .fonts
  | .code => Code.Directory.decoder.map .code

/-- Whether a member comes before another one. -/
def precedes (first second : String) (given : List (String × Value)) : Bool :=
  match given.find? fun m => m.1 == first || m.1 == second with
  | some m => m.1 == first
  | none => false

/-- Read a content. When the value stands before the kind, nothing is known of it until all of it
has been looked at. `settled` tells whether all of the record has been looked at before. -/
def decoder (settled : Bool) : Decoder Content := fun levels v => do
  let fs ← Fields.of ["kind", "value"] [] levels v
  let kind ← fs.required "kind" (if fs.named then Kind.decoder else Kind.itemDecoder settled)
  let value := valueDecoder kind
  fs.required "value" (if precedes "value" "kind" fs.given then .whole value else value)

end Content

namespace FileRecord

/-- A record of files in written form. -/
def toJson (r : FileRecord) : Value :=
  .fields [("name", .text r.name), ("data", .ofOption Content.toJson r.content)]

/-- Read a record of files. -/
def decoder (settled : Bool) : Decoder FileRecord :=
  .record ["name", "data"] fun fs => do
    let name ← fs.required "name" .text
    let content ← fs.nullable "data" (Content.decoder settled)
    some ⟨name, content⟩

end FileRecord

namespace MetadataRecord

/-- A record of a document in written form. -/
def toJson (r : MetadataRecord) : Value :=
  .fields [("key", .text r.key), ("FileName", .text r.fileName),
    ("Metadata", r.document.toJson)]

/-- Read a record of a document. -/
def decoder : Decoder MetadataRecord :=
  .record ["key", "FileName", "Metadata"] fun fs => do
    let key ← fs.required "key" .text
    let fileName ← fs.required "FileName" .text
    let document ← fs.required "Metadata" Design.Document.decoder
    some ⟨key, fileName, document⟩

end MetadataRecord

/-! ### Partitions and keys -/

/-- The two parts of a store. -/
inductive Partition
  | files
  | metadata
  deriving DecidableEq, Repr

namespace Partition

/-- The name of a partition. -/
def name : Partition → String
  | .files => "Files"
  | .metadata => "Metadata"

/-- Both partitions. -/
def all : List Partition := [.files, .metadata]

end Partition

/-- The keys of the records that a run reads and writes. -/
inductive Key
  | uploadedFile
  | extractedFiles
  | images
  | fonts
  | code
  | metadata
  deriving DecidableEq, Repr

/-- The name of a key. -/
def Key.name : Key → String
  | .uploadedFile => "UploadedFile"
  | .extractedFiles => "ExtractedFiles"
  | .images => "Images"
  | .fonts => "Fonts"
  | .code => "QmlFiles"
  | .metadata => "Metadata"

/-- The record of a document that came from a file. -/
def MetadataRecord.of (fileName : String) (d : Design.Document) : MetadataRecord :=
  ⟨Key.metadata.name, fileName, d⟩

namespace Record

/-- The key that a record is kept under. -/
def key : Record → String
  | .file r => r.name
  | .metadata r => r.key

/-- The partition that a record belongs to. -/
def partition : Record → Partition
  | .file _ => .files
  | .metadata _ => .metadata

/-- A record in written form. -/
def toJson : Record → Value
  | .file r => r.toJson
  | .metadata r => r.toJson

/-- Read a record of a known partition. -/
def decoderIn (settled : Bool) : Partition → Decoder Record
  | .files => (FileRecord.decoder settled).map .file
  | .metadata => MetadataRecord.decoder.map .metadata

/-- Read a record of either partition: it is one of files if it can be. -/
def decoder : Decoder Record :=
  .whole fun levels v =>
    match decoderIn true .files levels v with
    | some r => some r
    | none => decoderIn true .metadata levels v

end Record

end QmlExport.Store
