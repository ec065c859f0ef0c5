import QmlExport.Command

/-!
# What a command can reach

Only a part of a disk matters to a command: the settings file, the store, the file to work on and
the directory for packages. Whoever prepares a disk for a command looks there and nowhere else.
Where the store is follows from the settings, so that the settings file comes first.
-/

namespace QmlExport.Command

/-- A part of a disk. -/
inductive Reach
  /-- The file at a path. -/
  | file (p : Path)
  /-- What the directory at a path holds, but not what is in there. -/
  | names (p : Path)
  /-- Everything below a path. -/
  | tree (p : Path)
  deriving DecidableEq, Repr

/-- Where settings are looked for. -/
def settingsReach (p : Place) (c : CommandLine) : List Reach :=
  match c.settingsFile, Settings.centralPath? p.surroundings with
  | some file, _ => [.file file]
  | none, some file => [.file file]
  | none, none => []

/-- What a request works on, besides the store. -/
def requestReach : CommandLine.Request → List Reach
  | .upload file => [.file file]
  | .process _ => []
  | .package output => [.names (output.getD defaultOutput)]
  | .convert file _ output => [.file file, .names (output.getD defaultOutput)]
  | .reset => []

/-- What a command works on under the settings on the disk. -/
def workReach (p : Place) (c : CommandLine) (d : Disk) : List Reach :=
  match Settings.load d p.surroundings c.settingsFile with
  | .error _ => []
  | .ok s => .tree (s.chosenStoreFolder c.storeFolder p.surroundings) :: requestReach c.request

end QmlExport.Command
