import QmlExport.Design.Options
import QmlExport.Run.Report
import QmlExport.Upload

/-!
# Answers

What a command answers with: what it has done, or what went wrong. An answer is stamped with the
version of its form. In a record the mode tells what kind of answer it is; in an object it may stand
anywhere, in an array it comes first and the fields follow in order.
-/

namespace QmlExport

open Json Upload

/-- Something with the version of its form. -/
structure Versioned (α : Type) where
  version : String
  body : α
  deriving DecidableEq, Repr

/-- A package that lies at a path. -/
structure Parcel where
  fileName : String
  path : Path
  fileCount : Nat
  size : Nat
  deriving DecidableEq, Repr

/-- What came of a command. -/
inductive Outcome
  | uploaded (receipt : Receipt) (storeFolder : Path)
  | processed (options : Design.Options) (report : Run.Report) (log : List String)
  | packaged (parcel : Parcel)
  | converted (receipt : Receipt) (options : Design.Options) (report : Run.Report)
      (parcel : Versioned Parcel) (log : List String)
  | cleared (storeFolder : Path)
  | failed (message : Option String) (payload : Payload)
  deriving DecidableEq, Repr

/-- What a command answers with. -/
abbrev Answer := Versioned Outcome

/-- A path in a record. -/
def Path.toJson (p : Path) : Value := .text p.text

/-- Read a path. -/
def Path.decoder : Decoder Path := Decoder.text.map Path.mk

namespace Parcel

/-- The members of a package. -/
def members (p : Parcel) : List (String × Value) :=
  [("fileName", .text p.fileName), ("path", p.path.toJson), ("fileCount", .nat p.fileCount),
    ("sizeBytes", .nat p.size)]

/-- The names of the fields of a package. -/
def names : List String := ["fileName", "path", "fileCount", "sizeBytes"]

/-- Read the members of a package among the fields of a record. -/
def ofFields? (fs : Fields) : Option Parcel := do
  let fileName ← fs.required "fileName" .text
  let path ← fs.required "path" Path.decoder
  let fileCount ← fs.required "fileCount" .nat
  let size ← fs.required "sizeBytes" .nat
  some ⟨fileName, path, fileCount, size⟩

end Parcel

namespace Versioned

/-- The version in front of the members of a body. -/
def members (f : α → List (String × Value)) (v : Versioned α) : List (String × Value) :=
  ("version", .text v.version) :: f v.body

/-- Read the version and the body among the fields of a record. -/
def ofFields? (read : Fields → Option α) (fs : Fields) : Option (Versioned α) := do
  let version ← fs.required "version" .text
  let body ← read fs
  some ⟨version, body⟩

/-- Read a body with its version in front. -/
def decoder (names : List String) (read : Fields → Option α) : Decoder (Versioned α) :=
  .record ("version" :: names) (ofFields? read)

end Versioned

/-- The kinds of answers. -/
inductive Mode
  | upload
  | process
  | package
  | convert
  | reset
  | error
  deriving DecidableEq, Repr

namespace Mode

/-- The name of a mode in records. -/
def name : Mode → String
  | .upload => "upload"
  | .process => "process"
  | .package => "package"
  | .convert => "convert"
  | .reset => "reset"
  | .error => "error"

/-- All modes. -/
def all : List Mode := [.upload, .process, .package, .convert, .reset, .error]

/-- The mode with a name. -/
def ofName? (s : String) : Option Mode := all.find? fun m => m.name == s

/-- The names of the fields of answers in a mode, behind the version. -/
def names : Mode → List String
  | .upload => "storeDir" :: Receipt.names
  | .process => ["options", "report", "log"]
  | .package => Parcel.names
  | .convert => ["upload", "options", "report", "archive", "log"]
  | .reset => ["storeDir"]
  | .error => ["message", "error"]

/-- Read the outcome in a mode among the fields of a record. -/
def ofFields? (fs : Fields) : Mode → Option Outcome
  | .upload => do
    let receipt ← Receipt.ofFields? fs
    let storeFolder ← fs.required "storeDir" Path.decoder
    some (.uploaded receipt storeFolder)
  | .process => do
    let options ← fs.required "options" Design.Options.decoder
    let report ← fs.required "report" Run.Report.decoder
    let log ← fs.orElse "log" (.list .text) []
    some (.processed options report log)
  | .package => (Parcel.ofFields? fs).map .packaged
  | .convert => do
    let receipt ← fs.required "upload" Receipt.decoder
    let options ← fs.required "options" Design.Options.decoder
    let report ← fs.required "report" Run.Report.decoder
    let parcel ← fs.required "archive" (Versioned.decoder Parcel.names Parcel.ofFields?)
    let log ← fs.orElse "log" (.list .text) []
    some (.converted receipt options report parcel log)
  | .reset => (fs.required "storeDir" Path.decoder).map .cleared
  | .error => do
    let message ← fs.nullable "message" .text
    let payload ← fs.required "error" (Payload.decoderWith (.settledChoice Category.names))
    some (.failed message payload)

/-- The fields of an answer in a mode. Those of an upload are always given by name. -/
def fields (m : Mode) : Decoder Fields :=
  let names := "version" :: m.names
  match m with
  | .upload => Fields.ofObject names []
  | _ => Fields.of names []

end Mode

namespace Outcome

/-- The mode of an outcome. -/
def mode : Outcome → Mode
  | .uploaded .. => .upload
  | .processed .. => .process
  | .packaged .. => .package
  | .converted .. => .convert
  | .cleared .. => .reset
  | .failed .. => .error

/-- The members of an outcome. -/
def members : Outcome → List (String × Value)
  | .uploaded receipt storeFolder => receipt.members ++ [("storeDir", storeFolder.toJson)]
  | .processed options report log =>
    [("options", options.toJson), ("report", report.toJson)] ++ omitEmpty "log" .text log
  | .packaged parcel => parcel.members
  | .converted receipt options report parcel log =>
    [("upload", receipt.toJson), ("options", options.toJson), ("report", report.toJson),
      ("archive", .fields (parcel.members Parcel.members))] ++ omitEmpty "log" .text log
  | .cleared storeFolder => [("storeDir", storeFolder.toJson)]
  | .failed message payload =>
    omitNone "message" .text message ++ [("error", payload.toJson)]

/-- The outcome of a failure. -/
def ofFailure (f : Failure) : Outcome := .failed (some f.message) (.ofFailure f)

end Outcome

namespace Answer

/-- The version of the form that answers have. -/
def version : String := "0.1.0"

/-- The answer about an outcome. -/
def of (o : Outcome) : Answer := ⟨version, o⟩

/-- An answer as a record. -/
def toJson (a : Answer) : Value :=
  .fields (("mode", .text a.body.mode.name) :: a.members Outcome.members)

/-- The name that stands for the mode. -/
def isMode (m : Option String × Value) : Bool := m.1 == some "mode"

/-- Take the mode out of a value. It must be given once. -/
def splitMode? : Value → Option (Mode × Value)
  | .object members =>
    match members.filter isMode with
    | [(_, .string (some s))] =>
      (Mode.ofName? s).map fun m => (m, .object (members.filter fun m => !isMode m))
    | _ => none
  | .array (.string (some s) :: items) => (Mode.ofName? s).map fun m => (m, .array items)
  | _ => none

/-- Read an answer. -/
def decoder : Decoder Answer := .whole fun levels v => do
  let (mode, v) ← splitMode? v
  let fs ← mode.fields levels v
  Versioned.ofFields? (fun fs => mode.ofFields? fs) fs

end Answer

end QmlExport
