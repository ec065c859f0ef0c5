import QmlExport.Text.Blank

/-!
# Paths

A path is kept as it was typed, since messages show it that way. `segments` cuts it at its slashes;
`fileName?`, `stem?` and `extension?` look at its last segment, passing over empty segments and
single dots at the end.
-/

namespace QmlExport

open Text

/-- A path as it was typed. -/
structure Path where
  text : String
  deriving DecidableEq, Repr

namespace Path

/-- Whether a path starts at the top. -/
def isAbsolute (p : Path) : Bool := p.text.toList.head? == some '/'

/-- What lies between the slashes. -/
def segments (p : Path) : List String := (pieces (· == '/') p.text.toList).map String.ofList

/-- A path below another one; an absolute path stands for itself. -/
def join (p q : Path) : Path :=
  if q.isAbsolute || p.text.isEmpty then q
  else if endsWith ['/'] p.text.toList then ⟨p.text ++ q.text⟩
  else ⟨p.text ++ "/" ++ q.text⟩

/-- The segments from the last that is neither empty nor a single dot to the first. -/
def reversed (p : Path) : List String :=
  p.segments.reverse.dropWhile fun s => s = "" || s = "."

/-- The path of these segments. -/
def ofSegments (segments : List String) : Path := ⟨Text.join "/" segments⟩

/-- The last segment, if it names something. -/
def fileName? (p : Path) : Option String :=
  match p.reversed with
  | [] => none
  | s :: _ => if s = ".." then none else some s

/-- What is left of segments, given from the last to the first, as they are dropped one by one.
Empty segments and single dots are dropped together with what follows them; a dot stays where it is
the first segment. -/
def remainders : List String → List (List String)
  | [] => []
  | s :: ss =>
    if s = "" || (s = "." && !ss.isEmpty) then remainders ss else (s :: ss) :: remainders ss

/-- The segments of the directories on the way to some segments, from the innermost directory to the
outermost. Each is given from its last segment to its first. -/
def above (segments : List String) : List (List String) := (remainders segments.reverse).tail

/-- The directory that a path leads into; it is empty where that is understood. -/
def parent (p : Path) : Path :=
  match above p.segments with
  | [] => ⟨""⟩
  | ss :: _ => ofSegments ss.reverse

/-- The path without slashes at its end. -/
def withoutSlashes (p : Path) : Path :=
  ⟨String.ofList (p.text.toList.reverse.dropWhile (· == '/')).reverse⟩

/-- A file name cut at its last dot, unless that is its first character: what stands before, and
what stands behind if there is a dot. -/
def cut (name : String) : String × Option String :=
  let cs := name.toList
  let behind := lastPiece (· == '.') cs
  let before := cs.take (cs.length - behind.length - 1)
  if !cs.contains '.' || before.isEmpty then (name, none)
  else (String.ofList before, some (String.ofList behind))

/-- The file name without its extension. -/
def stem? (p : Path) : Option String := p.fileName?.map fun s => (cut s).1

/-- The extension of the file name. -/
def extension? (p : Path) : Option String := p.fileName?.bind fun s => (cut s).2

/-- The path with this extension in place of that of the file name, if it has a file name. A single
dot cannot get an extension: there the old one is taken away with nothing in its place. -/
def withExtension (p : Path) (ext : String) : Path :=
  match p.fileName? with
  | none => p
  | some s =>
    let stem := (cut s).1
    let name := if stem = "." then ".." else stem ++ "." ++ ext
    ofSegments (name :: p.reversed.drop 1).reverse

end Path

end QmlExport
