import QmlExport.Json.Decoder
import QmlExport.Decimal.Numeral

/-!
# Code trees

The generated code is a tree of named files. A directory keeps its entries in the order in which
they came; `insertUnique` never replaces an entry but takes a free name, the wanted one or the
wanted one with the least number behind it.

`files` walks the tree depth first and lists every file with its path; `find?` follows a path down.
-/

namespace QmlExport.Code

open Json

/-- A file with its code, or a directory of named entries. -/
inductive Entry
  | file (code : String)
  | directory (entries : List (String × Entry))
  deriving Inhabited

/-- Named entries in the order of insertion. -/
abbrev Directory := List (String × Entry)

namespace Directory

/-- The names in use. -/
def names (d : Directory) : List String := d.map (·.1)

/-- The entry with a name. -/
def get? (d : Directory) (name : String) : Option Entry := d.lookup name

/-- The directory with a name. -/
def directory? (d : Directory) (name : String) : Option Directory :=
  match get? d name with
  | some (.directory es) => some es
  | _ => none

/-- The code of the file with a name. -/
def file? (d : Directory) (name : String) : Option String :=
  match get? d name with
  | some (.file code) => some code
  | _ => none

/-- Replace the entry with this name where it stands, or add it at the end. -/
def put (d : Directory) (name : String) (e : Entry) : Directory :=
  match d with
  | [] => [(name, e)]
  | f :: fs => if f.1 = name then (name, e) :: fs else f :: put fs name e

/-- A name with a number behind it. -/
def numbered (base : String) (n : Nat) : String := base ++ String.ofList (Decimal.digitsOf n)

/-- A name that is not in use: the wanted one, or the first numbered one. As many numbers as there
are entries suffice, since the wanted name is one of them. -/
def freeName (d : Directory) (base : String) : String :=
  let used := names d
  if used.contains base then
    match (List.range d.length).find? fun i => !used.contains (numbered base (i + 1)) with
    | some i => numbered base (i + 1)
    | none => base
  else base

/-- Put an entry under a free name. -/
def insertUnique (d : Directory) (base : String) (e : Entry) : Directory :=
  put d (freeName d base) e

/-- Follow a path of directory names down to a file. -/
def find? : Directory → List String → Option String
  | _, [] => none
  | d, [name] => file? d name
  | d, name :: path =>
    match directory? d name with
    | some e => find? e path
    | none => none

end Directory

mutual
/-- The files below an entry, each with the path from the entry down. -/
def Entry.files : Entry → List (List String × String)
  | .file code => [([], code)]
  | .directory es => filesOf es

/-- The files of a directory in depth-first order, each with its path. -/
def filesOf : List (String × Entry) → List (List String × String)
  | [] => []
  | (name, e) :: es => (e.files.map fun f => (name :: f.1, f.2)) ++ filesOf es
end

mutual
/-- The number of files below an entry. -/
def Entry.fileCount : Entry → Nat
  | .file _ => 1
  | .directory es => countFiles es

/-- The number of files of a directory. -/
def countFiles : List (String × Entry) → Nat
  | [] => 0
  | (_, e) :: es => e.fileCount + countFiles es
end

mutual
/-- An entry as a record: code as a string, a directory as an object. -/
def Entry.toJson : Entry → Value
  | .file code => .text code
  | .directory es => .object (membersOf es)

/-- The entries of a directory as members. -/
def membersOf : List (String × Entry) → List (Option String × Value)
  | [] => []
  | (name, e) :: es => (some name, e.toJson) :: membersOf es
end

namespace Directory

/-- A directory as a record. -/
def toJson (d : Directory) : Value := .object (membersOf d)

/-- A directory from members: a repeated name keeps its first place and its last entry. -/
def ofMembers (ms : List (String × Entry)) : Directory :=
  ms.foldl (fun d m => put d m.1 m.2) []

end Directory

/-- Read an entry. -/
def Entry.decoder : Decoder Entry
  | _, .string (some s) => some (.file s)
  | levels + 1, .object members =>
    let entries := members.mapM fun (m : Option String × Value) => do
      let name ← m.1
      let e ← decoder levels m.2
      some (name, e)
    entries.map fun ms => .directory (Directory.ofMembers ms)
  | _, _ => none

/-- Read a directory. Whether an entry is a file or a directory shows only when all of it has been
looked at, so each entry is read as a whole. -/
def Directory.decoder : Decoder Directory :=
  (Decoder.entries (Decoder.whole Entry.decoder)).map Directory.ofMembers

end QmlExport.Code
