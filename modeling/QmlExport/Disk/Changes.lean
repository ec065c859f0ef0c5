import QmlExport.Disk

/-!
# Changes of a disk

What has to be done to turn one disk into another: first what is gone is taken away, the innermost
first, then what is new is put there, the outermost first.
-/

namespace QmlExport.Disk

open Text

/-- One change of a disk. -/
inductive Change
  | removeFile (l : Location)
  | removeDirectory (l : Location)
  | makeDirectory (l : Location)
  | write (l : Location) (contents : Bytes)
  deriving DecidableEq, Repr

/-- Take something away. -/
def Change.removing : Location × Item → Change
  | (l, .file _) => .removeFile l
  | (l, .directory) => .removeDirectory l

/-- Put something there. -/
def Change.putting : Location × Item → Change
  | (l, .file contents) => .write l contents
  | (l, .directory) => .makeDirectory l

/-- Whether something of the same kind lies at the same location. -/
def keeps (d : Disk) : Location × Item → Bool
  | (l, .file _) => d.items.any fun e => e.1 == l && e.2 != .directory
  | (l, .directory) => d.items.contains (l, .directory)

/-- Items from the outermost to the innermost. -/
def outward (items : List (Location × Item)) : List (Location × Item) :=
  items.mergeSort fun a b => decide (a.1.length ≤ b.1.length)

/-- What turns the first disk into the second one. -/
def changes (old new : Disk) : List Change :=
  (outward (old.items.filter fun e => !new.keeps e)).reverse.map .removing ++
    (outward (new.items.filter fun e => !old.items.contains e)).map .putting

/-- Go one segment further, whether or not something is there. -/
def onward (l : Location) (segment : String) : Location :=
  if segment = "" || segment = "." then l
  else if segment = ".." then l.dropLast
  else l ++ [segment]

/-- The locations that segments lead through from a location on, whether or not something is
there. -/
def stations (l : Location) : List String → List Location
  | [] => [l]
  | s :: ss => l :: stations (onward l s) ss

/-- The locations that a path leads through, and last the one that it names. -/
def route (d : Disk) (p : Path) : List Location :=
  match if isPath p then d.steps? p else none with
  | none => []
  | some (start, segments) => stations start segments

/-- The directories around a location, the outermost first. -/
def around (l : Location) : List Location := (List.range l.length).map fun n => l.take n

/-- The path from the top to a location. -/
def pathTo (d : Disk) (l : Location) : String := d.top ++ "/" ++ Text.join "/" l

end QmlExport.Disk
