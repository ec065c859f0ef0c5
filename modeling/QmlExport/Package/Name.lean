import QmlExport.Text.Alphanumeric
import QmlExport.Text.Blank
import QmlExport.Text.LetterCase
import QmlExport.Upload

/-!
# Names of packages

A package is named after what was uploaded. `stem` cleans such a name: it drops the extension of
uploads and every character that a file name should not have, and writes an underscore where blanks
stood between kept characters. A name of which nothing is left gives way to one with the time.
-/

namespace QmlExport.Package

/-- Characters that are kept besides letters and digits. -/
def isMark (c : Char) : Bool := c == '-' || c == '_' || c == '.'

/-- Characters that a package name keeps. -/
def isKept (c : Char) : Bool := Text.isAlphanumeric c || isMark c

/-- Characters that a stem neither starts nor ends with. -/
def isEdge (c : Char) : Bool := c == '.' || c == '_'

/-- Drop the extension of uploads, in any ASCII case. -/
def withoutExtension (cs : List Char) : List Char :=
  let ending := Upload.extension.toList
  if Text.endsWith ending (Text.asciiLower cs) then cs.take (cs.length - ending.length) else cs

/-- Keep the characters of a name; `gap` tells that a blank stood since the last kept one, and
`begun` that there is one. -/
def keepFrom (gap begun : Bool) : List Char → List Char
  | [] => []
  | c :: cs =>
    if Text.isBlank c then keepFrom true begun cs
    else if isKept c then
      if gap && begun then '_' :: c :: keepFrom false true cs else c :: keepFrom false true cs
    else keepFrom gap begun cs

/-- Drop edge characters at the end. -/
def dropEdgesAtEnd : List Char → List Char
  | [] => []
  | c :: cs =>
    match dropEdgesAtEnd cs with
    | [] => if isEdge c then [] else [c]
    | d :: ds => c :: d :: ds

/-- The stem of a package named after `base`. -/
def stem (base : String) : List Char :=
  dropEdgesAtEnd
    ((keepFrom false false (withoutExtension (Text.trim base.toList))).dropWhile isEdge)

/-- The extension of packages. -/
def extension : String := "zip"

/-- The name for a package that can be named after nothing, made in this millisecond. -/
def fallbackName (millis : String) : String := "qmlbridge-export-" ++ millis ++ "." ++ extension

/-- The file name of a package that is made in this millisecond. -/
def fileName (millis : String) (base : Option String) : String :=
  match base.map stem with
  | none | some [] => fallbackName millis
  | some (c :: cs) => String.ofList (c :: cs) ++ "." ++ extension

end QmlExport.Package
