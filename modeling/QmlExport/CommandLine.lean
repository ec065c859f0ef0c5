import QmlExport.Design.Options
import QmlExport.Path

/-!
# Command lines

What can be asked for on the command line: a verb with what it works on, and settings that go with
every verb. Switches stand for themselves; a setting takes a value, from the same argument or from
the next one. What goes with every verb may stand before it or behind it.
-/

namespace QmlExport

namespace CommandLine

/-- What can be done. -/
inductive Verb
  | upload
  | process
  | package
  | convert
  | reset
  deriving DecidableEq, Repr

/-- What stands for itself. -/
inductive Switch
  | verbose
  | addIds
  | addUniqueIds
  | addObjectNames
  | downloadFonts
  deriving DecidableEq, Repr

/-- What takes a value. -/
inductive Setting
  | settingsFile
  | storeFolder
  | format
  | output
  /-- The file to work on, which is given without a name. -/
  | file
  deriving DecidableEq, Repr

/-- How answers are printed. -/
inductive Format
  /-- On one line. -/
  | compact
  /-- For a reader. -/
  | pretty
  deriving DecidableEq, Repr

/-- What is asked for. -/
inductive Request
  | upload (file : Path)
  | process (options : Design.Options)
  | package (output : Option Path)
  | convert (file : Path) (options : Design.Options) (output : Option Path)
  | reset
  deriving DecidableEq, Repr

/-- Why a command line asks for nothing that can be done. -/
inductive Fault
  /-- Help is wanted. -/
  | help
  /-- The version is wanted, of the program or of a verb. -/
  | version (of : Option Verb)
  /-- Nothing is given at all. -/
  | nothing
  /-- There is no verb. -/
  | missingVerb
  /-- There is something else in place of a verb. -/
  | unknownVerb
  /-- There is no such switch, setting or place for a file. -/
  | unknownArgument
  /-- A switch is given a value. -/
  | valueOfSwitch
  /-- Something is given twice, or with what it excludes. -/
  | conflict
  /-- A value is missing or cannot be used. -/
  | invalidValue
  /-- There is no file. -/
  | missingFile
  deriving DecidableEq, Repr

namespace Verb

/-- The name of a verb. -/
def name : Verb → String
  | .upload => "upload"
  | .process => "process"
  | .package => "package"
  | .convert => "convert"
  | .reset => "reset"

/-- All verbs. -/
def all : List Verb := [.upload, .process, .package, .convert, .reset]

/-- The verb with a name. -/
def ofName? (s : String) : Option Verb := all.find? fun v => v.name == s

/-- Whether a verb works on a file. -/
def takesFile : Verb → Bool
  | .upload | .convert => true
  | _ => false

/-- Whether a verb generates code. -/
def generates : Verb → Bool
  | .process | .convert => true
  | _ => false

/-- Whether a verb writes a package. -/
def packs : Verb → Bool
  | .package | .convert => true
  | _ => false

end Verb

namespace Format

/-- The format with a name. -/
def ofName? : String → Option Format
  | "json" => some .compact
  | "pretty" => some .pretty
  | _ => none

end Format

end CommandLine

open CommandLine

/-- A command line. -/
structure CommandLine where
  request : Request
  verbose : Bool
  settingsFile : Option Path
  storeFolder : Option Path
  format : Format
  deriving DecidableEq, Repr

end QmlExport
