import QmlExport.Answer.Display
import QmlExport.Command
import QmlExport.CommandLine.Reading

/-!
# The program

Arguments in, text and an exit code out. The code is 0 when what was asked for has been done, and 2
when it has not. Answers go to the output also when they tell of a failure; what is wrong with the
arguments goes to the notes.
-/

namespace QmlExport

open CommandLine

namespace CommandLine.Fault

/-- A fault of the arguments for a reader. -/
def message : Fault → String
  | .help => "help is wanted"
  | .version _ => "the version is wanted"
  | .nothing => "no arguments are given"
  | .missingVerb => "there is no command"
  | .unknownVerb => "there is no such command"
  | .unknownArgument => "there is no such argument"
  | .valueOfSwitch => "a switch takes no value"
  | .conflict => "an argument is given twice, or with one that it excludes"
  | .invalidValue => "a value is missing or cannot be used"
  | .missingFile => "the file is missing"

end CommandLine.Fault

namespace Command

/-- How a program ends: its exit code, its output, and notes that are not part of the output. -/
structure Ending where
  code : Nat
  output : String
  notes : List String
  deriving DecidableEq, Repr

/-- The name of the program. -/
def programName : String := "qmlbridge"

/-- The version of the program. -/
def programVersion : String := "0.1.0"

/-- The line with the version, of the program or of a verb. -/
def versionLine (verb : Option Verb) : String :=
  let name :=
    match verb with
    | some v => programName ++ "-" ++ v.name
    | none => programName
  name ++ " " ++ programVersion ++ "\n"

/-- How to use the program. -/
def usage : String :=
  "Usage: " ++ programName ++ " [OPTIONS] <COMMAND>\n\nCommands:\n" ++
    "  upload FILE   store an export in place of everything else\n" ++
    "  process       generate code from the stored export\n" ++
    "  package       write everything stored into an archive\n" ++
    "  convert FILE  upload, process and package\n" ++
    "  reset         empty the store\n"

/-- The text of an answer. On a terminal the format for readers shows its lines in colour, elsewhere
it keeps the record. -/
def print (terminal : Bool) (f : Format) (a : Answer) : String :=
  match f with
  | .compact => a.toJson.compact ++ "\n"
  | .pretty => (if terminal then a.display true else a.toJson.pretty) ++ "\n"

/-- The exit code of an answer. -/
def exitCode (a : Answer) : Nat :=
  match a.body with
  | .failed .. => 2
  | _ => 0

/-- How a program ends whose arguments ask for nothing that can be done. -/
def endingOf : Fault → Ending
  | .help => ⟨0, usage, []⟩
  | .version verb => ⟨0, versionLine verb, []⟩
  | f => ⟨2, "", ["error: " ++ f.message]⟩

/-- What is noted about the settings when the command line asks for it. -/
def settingsNotes (p : Place) (c : CommandLine) (d : Disk) : List String :=
  match c.verbose, Settings.load d p.surroundings c.settingsFile with
  | true, .ok s =>
    [s.summary c.settingsFile (s.chosenStoreFolder c.storeFolder p.surroundings)]
  | _, _ => []

/-- Run the program with arguments on a disk. -/
def run (p : Place) (terminal : Bool) (args : List String) (d : Disk) : Ending × Disk :=
  match CommandLine.read args with
  | .error f => (endingOf f, d)
  | .ok c =>
    let (a, after) := answer p c d
    (⟨exitCode a, print terminal c.format a, settingsNotes p c d⟩, after)

end Command

end QmlExport
