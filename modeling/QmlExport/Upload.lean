import QmlExport.Path
import QmlExport.Failure
import QmlExport.Json.Printer
import QmlExport.Text.LetterCase

/-!
# Uploads

An upload is accepted by its name and its size alone: the name must have the extension of exports,
in any ASCII case, and the size must not exceed the limit. Of a path only the last segment counts
as the name.
-/

namespace QmlExport.Upload

open Json

/-- The extension of design exports. -/
def extension : String := ".qtbridge"

/-- The greatest size that is accepted when nothing else is configured. -/
def defaultLimit : Nat := 10485760

/-- The name of the file at a path; what names no file stands for itself. -/
def baseName (path : String) : String := (Path.fileName? ⟨path⟩).getD path

/-- Whether a name has the extension of exports. -/
def hasExtension (name : String) : Bool :=
  Text.endsWith extension.toList (Text.asciiLower name.toList)

/-- A number in a message. -/
def numberText (n : Nat) : String := String.ofList (Decimal.digitsOf n)

/-- The failure of a file that does not look like an export. -/
def wrongExtension (name : String) : Failure :=
  ⟨.upload, "`" ++ name ++ "` is not a " ++ extension ++ " file"⟩

/-- The failure of a file that is too large. -/
def tooLarge (name : String) (size limit : Nat) : Failure :=
  ⟨.upload, "`" ++ name ++ "` is " ++ numberText size ++ " bytes; the limit is " ++
    numberText limit ++ " bytes"⟩

/-- Check the name and the size of a file. -/
def check (name : String) (size limit : Nat) : Except Failure Unit :=
  if !hasExtension name then .error (wrongExtension name)
  else if limit < size then .error (tooLarge name size limit)
  else .ok ()

/-- What is answered to an upload. -/
structure Receipt where
  fileName : String
  size : Nat
  deriving DecidableEq, Repr

/-- The members of a receipt. -/
def Receipt.members (r : Receipt) : List (String × Value) :=
  [("fileName", .text r.fileName), ("sizeBytes", .nat r.size)]

/-- A receipt as a record. -/
def Receipt.toJson (r : Receipt) : Value := .fields r.members

/-- The names of the fields of a receipt. -/
def Receipt.names : List String := ["fileName", "sizeBytes"]

/-- Read the members of a receipt among the fields of a record. -/
def Receipt.ofFields? (fs : Fields) : Option Receipt := do
  let fileName ← fs.required "fileName" .text
  let size ← fs.required "sizeBytes" .nat
  some ⟨fileName, size⟩

/-- Read a receipt. -/
def Receipt.decoder : Decoder Receipt := .record Receipt.names Receipt.ofFields?

end QmlExport.Upload
