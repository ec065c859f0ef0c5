import QmlExport.Path
import QmlExport.Text.Utf8

/-!
# Disks

A disk is a finite table of files and directories. `resolve` follows a path through directories
that exist, so that every other operation is a look-up in the table or a change of it. An operation
that cannot be done tells whether something was missing or something stood in the way.
-/

namespace QmlExport

open Text

namespace Disk

/-- Where something lies: the names of the directories from the top down, and its own. -/
abbrev Location := List String

/-- What lies somewhere. -/
inductive Item
  | file (contents : Bytes)
  | directory
  deriving DecidableEq, Repr

/-- Why an operation cannot be done. -/
inductive Fault
  /-- Nothing is there. -/
  | missing
  /-- Something is there, but not what is needed. -/
  | refused
  deriving DecidableEq, Repr

end Disk

open Disk

/-- A disk: how absolute paths to it begin, where relative ones begin, and what lies on it. -/
structure Disk where
  top : String
  here : Location
  items : List (Location × Item)
  deriving DecidableEq, Repr

namespace Disk

/-- An empty disk. -/
def blank (top : String) (here : Location) : Disk := ⟨top, here, []⟩

/-- What lies at a location. -/
def item? (d : Disk) (l : Location) : Option Item :=
  if l = [] then some .directory else d.items.lookup l

/-- Put an item at a location, in place of what is there. -/
def put (d : Disk) (l : Location) (i : Item) : Disk :=
  { d with items := (l, i) :: d.items.filter fun e => e.1 != l }

/-- Take away what lies at a location. -/
def erase (d : Disk) (l : Location) : Disk :=
  { d with items := d.items.filter fun e => e.1 != l }

/-- Take away what lies at a location and everything below it. -/
def eraseBelow (d : Disk) (l : Location) : Disk :=
  { d with items := d.items.filter fun e => !l.isPrefixOf e.1 }

/-- The greatest number of octets in a name. -/
def nameLimit : Nat := 255

/-- Whether something can have this name. -/
def isName (s : String) : Bool := (Utf8.encode s).length ≤ nameLimit

/-- The greatest number of octets in a path. -/
def pathLimit : Nat := 4095

/-- Whether this can be a path at all. -/
def isPath (p : Path) : Bool :=
  !p.text.toList.contains '\x00' && (Utf8.encode p.text).length ≤ pathLimit

/-- Where a path starts, and the segments that follow. None if it leads off the disk. -/
def steps? (d : Disk) (p : Path) : Option (Location × List String) :=
  let top := d.top.toList
  let cs := p.text.toList
  let rest := cs.drop top.length
  if top.isPrefixOf cs && (rest.head? == some '/' || (cs == top && !top.isEmpty)) then
    some ([], Path.segments ⟨String.ofList rest⟩)
  else if p.isAbsolute then none
  else some (d.here, p.segments)

/-- Go one segment further from a location, which must be a directory. -/
def enter (d : Disk) (l : Location) (segment : String) : Except Fault Location :=
  match d.item? l with
  | none => .error .missing
  | some (.file _) => .error .refused
  | some .directory =>
    if segment = "" || segment = "." then .ok l
    else if segment = ".." then .ok l.dropLast
    else if isName segment then .ok (l ++ [segment])
    else .error .refused

/-- The location that a path leads to, through directories that exist. -/
def resolve (d : Disk) (p : Path) : Except Fault Location :=
  if !isPath p then .error .refused
  else if p.text.isEmpty then .error .missing
  else
    match d.steps? p with
    | none => .error .missing
    | some (start, segments) => segments.foldlM d.enter start

/-- The contents of a file. -/
def read (d : Disk) (p : Path) : Except Fault Bytes := do
  match d.item? (← d.resolve p) with
  | none => .error .missing
  | some .directory => .error .refused
  | some (.file contents) => .ok contents

/-- Whether a path leads to a file. -/
def isFile (d : Disk) (p : Path) : Bool := (d.read p).isOk

/-- Write a file, in place of one that is there. -/
def write (d : Disk) (p : Path) (contents : Bytes) : Except Fault Disk := do
  let l ← d.resolve p
  if d.item? l = some .directory then .error .refused else .ok (d.put l (.file contents))

/-- Whether a path leads to a directory. -/
def isDirectory (d : Disk) (p : Path) : Bool :=
  match d.resolve p with
  | .ok l => d.item? l == some .directory
  | .error _ => false

/-- Make a directory where nothing is. -/
def makeDirectory (d : Disk) (p : Path) : Except Fault Disk := do
  let l ← d.resolve p.withoutSlashes
  if (d.item? l).isSome then .error .refused else .ok (d.put l .directory)

/-- Make the first of some directories, each of which lies in the next one and the last one where
they start. Where the next one is missing it is made before. Each is given by its segments, from the
last to the first. Returns also where the first directory is. -/
def makeFirst (d : Disk) (start : Location) : List (List String) → Except Fault Location × Disk
  | [] => (.ok start, d)
  | segments :: above =>
    let make (d : Disk) (l : Location) : Except Fault Location × Disk :=
      match d.item? l with
      | none => (.ok l, d.put l .directory)
      | some .directory => (.ok l, d)
      | some (.file _) => (.error .refused, d)
    match segments.reverse.foldlM d.enter start with
    | .ok l => make d l
    | .error .refused => (.error .refused, d)
    | .error .missing =>
      match makeFirst d start above with
      | (.error f, d) => (.error f, d)
      | (.ok l, d) =>
        match d.enter l (segments.headD "") with
        | .error f => (.error f, d)
        | .ok l => make d l

/-- Make a directory unless it is there. -/
def ensureDirectory (d : Disk) (p : Path) : Except Fault Unit × Disk :=
  if d.isDirectory p then (.ok (), d)
  else
    match d.makeDirectory p with
    | .ok d => (.ok (), d)
    | .error f => (.error f, d)

/-- Make a directory and all directories on the way to it. If one of them cannot be made, those that
were made before stay. -/
def makeDirectories (d : Disk) (p : Path) : Except Fault Unit × Disk :=
  if p.text.isEmpty then (.ok (), d)
  else
    match d.ensureDirectory p, d.steps? p with
    | (.error .missing, _), some (start, segments) =>
      match d.makeFirst start (Path.above segments) with
      | (.ok _, d) => d.ensureDirectory p
      | (.error f, d) => (.error f, d)
    | r, _ => r

/-- Move a file to where nothing or another file is. -/
def rename (d : Disk) (source target : Path) : Except Fault Disk := do
  let s ← d.resolve source
  let t ← d.resolve target
  match d.item? s, d.item? t with
  | none, _ => .error .missing
  | some .directory, _ => .error .refused
  | _, some .directory => .error .refused
  | some (.file contents), _ => .ok ((d.erase s).put t (.file contents))

/-- Take away a file. -/
def removeFile (d : Disk) (p : Path) : Except Fault Disk := do
  let l ← d.resolve p
  match d.item? l with
  | none => .error .missing
  | some .directory => .error .refused
  | some (.file _) => .ok (d.erase l)

/-- Take away a directory with everything in it. -/
def removeDirectory (d : Disk) (p : Path) : Except Fault Disk := do
  let l ← d.resolve p
  match d.item? l with
  | none => .error .missing
  | some (.file _) => .error .refused
  | some .directory => .ok (d.eraseBelow l)

/-- The path from the top to an item, with a slash behind directories. -/
def label : Location × Item → String
  | (l, .file _) => Text.join "/" l
  | (l, .directory) => Text.join "/" l ++ "/"

/-- Everything on the disk, sorted. -/
def listing (d : Disk) : List String := (d.items.map label).mergeSort fun a b => decide (a ≤ b)

end Disk

end QmlExport
