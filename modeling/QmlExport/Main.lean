import QmlExport.Command.Program
import QmlExport.Command.Reach
import QmlExport.Disk.Changes
import Std.Time.DateTime.Timestamp

/-!
# Running the program

The outermost layer: look at what the command can reach, run it on that, and carry the changes over
to the real disk. Nothing is decided here.
-/

namespace QmlExport.Main

open Disk

/-- The variables that the program looks at. -/
def variableNames : List String :=
  ["HOME", "XDG_CONFIG_HOME", "XDG_DATA_HOME", Settings.keyVariable]

/-- The surroundings. -/
def surroundings : IO Settings.Variables :=
  variableNames.filterMapM fun name => do
    let value ← IO.getEnv name
    pure (value.map fun v => (name, v))

/-- The font service cannot be reached from here. -/
def offline : Fonts.Source :=
  let failure : Failure := ⟨.fontDownload, "the font service cannot be reached"⟩
  ⟨.error failure, fun _ => .error failure⟩

/-- Where the program runs. -/
def place : IO Command.Place := do
  let now ← Std.Time.Timestamp.now
  pure ⟨← surroundings, toString now.toMillisecondsSinceUnixEpoch.toInt, fun _ => offline⟩

/-- A disk on which nothing has been looked at yet. -/
def unseen : IO Disk := do
  let here ← IO.currentDir
  pure (.blank "" ((Path.segments ⟨here.toString⟩).filter fun s => !s.isEmpty))

/-- Look at a file or directory. The contents of a file may be left out. -/
def look (d : Disk) (withContents : Bool) (l : Location) : IO Disk := do
  let p := (← IO.currentDir) / d.pathTo l
  if (d.item? l).isSome then pure d
  else if ← p.isDir then pure (d.put l .directory)
  else if !(← p.pathExists) then pure d
  else if withContents then
    try
      let bytes ← IO.FS.readBinFile p
      pure (d.put l (.file bytes.toList))
    catch _ => pure d
  else pure (d.put l (.file []))

/-- Look at the directories on the way to a path. Returns also the location that it names. -/
def lookAlong (d : Disk) (p : Path) : IO (Disk × Option Location) := do
  let stations := d.route p
  let passed := around (stations.headD []) ++ stations.dropLast
  let d ← passed.foldlM (fun d l => look d false l) d
  pure (d, stations.getLast?)

/-- The locations right below a location. -/
def below (d : Disk) (l : Location) : IO (List Location) := do
  let p := (← IO.currentDir) / d.pathTo l
  if ← p.isDir then pure ((← p.readDir).toList.map fun e => l ++ [e.fileName])
  else pure []

/-- Look at everything below a location. -/
partial def lookBelow (d : Disk) (l : Location) : IO Disk := do
  (← below d l).foldlM (fun d l => do lookBelow (← look d true l) l) d

/-- Look at what can be reached. -/
def explore (d : Disk) (r : Command.Reach) : IO Disk := do
  match r with
  | .file p =>
    match ← lookAlong d p with
    | (d, none) => pure d
    | (d, some l) => look d true l
  | .names p =>
    match ← lookAlong d p with
    | (d, none) => pure d
    | (d, some l) => (← below d l).foldlM (fun d l => look d false l) (← look d false l)
  | .tree p =>
    match ← lookAlong d p with
    | (d, none) => pure d
    | (d, some l) => lookBelow (← look d true l) l

/-- Make a change on the real disk. -/
def change (d : Disk) : Change → IO Unit
  | .removeFile l => IO.FS.removeFile (d.pathTo l)
  | .removeDirectory l => IO.FS.removeDir (d.pathTo l)
  | .makeDirectory l => IO.FS.createDirAll (d.pathTo l)
  | .write l contents => IO.FS.writeBinFile (d.pathTo l) ⟨contents.toArray⟩

/-- The disk as far as arguments can reach. -/
def reached (p : Command.Place) (args : List String) : IO Disk := do
  let d ← unseen
  match CommandLine.read args with
  | .error _ => pure d
  | .ok c =>
    let d ← (Command.settingsReach p c).foldlM explore d
    (Command.workReach p c d).foldlM explore d

end QmlExport.Main

open QmlExport in
/-- Run the program. -/
def main (args : List String) : IO UInt32 := do
  let p ← Main.place
  let before ← Main.reached p args
  let output ← IO.getStdout
  let (ending, after) := Command.run p (← output.isTty) args before
  (Disk.changes before after).forM (Main.change after)
  ending.notes.forM IO.eprintln
  output.putStr ending.output
  pure ending.code.toUInt32
