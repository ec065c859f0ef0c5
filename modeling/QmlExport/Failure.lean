import QmlExport.Json.Decoder
import QmlExport.Text.LetterCase
import QmlExport.Text.Blank

/-!
# Failures

Everything that can go wrong, sorted by the part of the work that it concerns. A failure has a
category and a message; its display puts the name of the category in front, and its payload, which
is what the command line prints, adds a hint at a remedy.

Where a failure has a cause outside this library (the operating system, a parser), the message names
the kind of cause and leaves its wording open.
-/

namespace QmlExport

open Json

/-- The part of the work that a failure concerns. -/
inductive Category
  | upload
  | archive
  | metadata
  | database
  | fontDownload
  | fileProcessor
  | unclassified
  deriving DecidableEq, Repr

namespace Category

/-- The name of a category in records. -/
def name : Category → String
  | .upload => "upload"
  | .archive => "archive"
  | .metadata => "metadata"
  | .database => "database"
  | .fontDownload => "font-download"
  | .fileProcessor => "file-processor"
  | .unclassified => "unclassified"

/-- The words in front of a displayed failure. -/
def label : Category → String
  | .upload => "Upload error"
  | .archive => "Archive error"
  | .metadata => "Metadata error"
  | .database => "Database error"
  | .fontDownload => "Font download error"
  | .fileProcessor => "File processing error"
  | .unclassified => "Unexpected error"

/-- All categories. -/
def all : List Category :=
  [.upload, .archive, .metadata, .database, .fontDownload, .fileProcessor, .unclassified]

/-- The categories by their names. -/
def names : List (String × Category) := all.map fun c => (c.name, c)

/-- Read a category. -/
def decoder : Decoder Category := .choice names

end Category

/-- A failure: what it concerns and what happened. -/
structure Failure where
  category : Category
  message : String
  deriving DecidableEq, Repr

namespace Failure

/-! ### Causes outside the library -/

/-- Stands for the words of the operating system. -/
def systemCause : String := "<io>"

/-- Stands for the words of the JSON parser. -/
def jsonCause : String := "<json>"

/-- Stands for the words of the TOML parser. -/
def tomlCause : String := "<toml>"

/-- Stands for the words of the URL parser. -/
def urlCause : String := "<url>"

/-- Stands for the words about a malformed ZIP archive. -/
def zipCause : String := "<zip>"

/-! ### Making failures -/

/-- A failure of the store. -/
def database (message : String) : Failure := ⟨.database, message⟩

/-- A failure of the archive. -/
def archive (message : String) : Failure := ⟨.archive, message⟩

/-- A failure of the operating system while the store was at work. -/
def ofSystem (words : String) : Failure := database words

/-- A record that cannot be read. -/
def ofRecord : Failure := database ("record serialization failed: " ++ jsonCause)

/-- A failure that belongs to no other part. -/
def unclassified (words : String) : Failure := ⟨.unclassified, words⟩

/-- Seen from a font download, every failure is one of the download. -/
def asFontDownload (f : Failure) : Failure := { f with category := .fontDownload }

/-! ### Showing failures -/

/-- The failure for a reader. -/
def display (f : Failure) : String := f.category.label ++ ": " ++ f.message

/-- Whether the message contains the words, in any ASCII case. -/
def mentions (f : Failure) (words : String) : Bool :=
  Text.contains words.toList (Text.asciiLower f.message.toList)

/-- A hint at a remedy. -/
def remedy (f : Failure) : String :=
  match f.category with
  | .upload => "Select a .qtbridge export no larger than 10 MiB and upload it again."
  | .archive =>
    if f.mentions "nothing to package" then
      "Run `qmlbridge process` before packaging; the store holds no output yet."
    else "Re-export the design from QtBridge; the archive could not be read."
  | .metadata => "Ensure the archive contains a .metadata document produced by QtBridge."
  | .database =>
    if f.mentions "blocked" then
      "Close other running qmlbridge commands before resetting the store."
    else "Check --store-dir permissions and free disk space."
  | .fontDownload =>
    "Check connectivity and QMLBRIDGE_FONTS_API_KEY; the family may not exist upstream."
  | .fileProcessor => "Re-run `qmlbridge process` with --verbose for details."
  | .unclassified => "Re-run with --verbose; file an issue if persistent."

end Failure

/-- What is printed about a failure. -/
structure Payload where
  category : Category
  message : String
  remedy : Option String
  deriving DecidableEq, Repr

namespace Payload

/-- The payload of a failure. -/
def ofFailure (f : Failure) : Payload := ⟨f.category, f.message, some f.remedy⟩

/-- A payload as a record. -/
def toJson (p : Payload) : Value :=
  .fields ([("category", .text p.category.name), ("message", .text p.message)] ++
    omitNone "remediation" .text p.remedy)

/-- Read a payload, its category in a given way. -/
def decoderWith (category : Decoder Category) : Decoder Payload :=
  .record ["category", "message", "remediation"] fun fs => do
    let category ← fs.required "category" category
    let message ← fs.required "message" .text
    let remedy ← fs.nullable "remediation" .text
    some ⟨category, message, remedy⟩

/-- Read a payload. -/
def decoder : Decoder Payload := decoderWith Category.decoder

end Payload

end QmlExport
