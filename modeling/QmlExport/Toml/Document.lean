import QmlExport.Toml.Quoted
import QmlExport.Toml.Table

/-!
# TOML documents

A document is a sequence of lines: headers, keys with their values, and comments. A header opens a
table, and the keys behind it belong to that table. Values may span several lines where brackets or
quotes are open.

    text ──line by line──▶ headers and keys ──tables──▶ members of the root
-/

namespace QmlExport.Toml

/-- How deep values may be nested. -/
def nestingLimit : Nat := 80

/-- Drop a comment at the start, up to the end of the line. Fails if something stands in it that may
not. -/
def skipComment? (cs : List Char) : Option (List Char) :=
  match cs with
  | '#' :: cs =>
    let rest := cs.dropWhile isPlain
    if rest.isEmpty || (newline? rest).isSome then some rest else none
  | cs => some cs

/-- Drop blanks, comments and ends of lines. `fuel` bounds the number of lines. -/
def skipLines? : (fuel : Nat) → List Char → Option (List Char)
  | 0, cs => some cs
  | fuel + 1, cs => do
    let cs ← skipComment? (skipSpaces cs)
    match newline? cs with
    | some cs => skipLines? fuel cs
    | none => some cs

/-- Drop everything between values of an array. -/
def skipBetween? (cs : List Char) : Option (List Char) := skipLines? (cs.length + 1) cs

/-- The values of an array behind its opening bracket. `fuel` bounds their number. -/
def items? (value : List Char → Option (Value × List Char)) :
    (fuel : Nat) → List Char → Option (List Value × List Char)
  | 0, _ => none
  | fuel + 1, cs => do
    match ← skipBetween? cs with
    | ']' :: cs => some ([], cs)
    | cs =>
      let (v, cs) ← value cs
      match ← skipBetween? cs with
      | ']' :: cs => some ([v], cs)
      | ',' :: cs =>
        let (vs, rest) ← items? value fuel cs
        some (v :: vs, rest)
      | _ => none

/-- A key with its value, and what follows them and the blanks behind. -/
def pair? (value : List Char → Option (Value × List Char)) (cs : List Char) :
    Option (List String × Value × List Char) := do
  let (path, cs) ← keyPath? (cs.length + 1) cs
  match cs with
  | '=' :: cs =>
    let (v, cs) ← value (skipSpaces cs)
    some (path, v, skipSpaces cs)
  | _ => none

/-- The members of a table in braces, behind a member or the opening brace. `fuel` bounds their
number. -/
def braces? (value : List Char → Option (Value × List Char)) :
    (fuel : Nat) → Members → List Char → Option (Members × List Char)
  | 0, _, _ => none
  | fuel + 1, ms, cs => do
    let (path, v, cs) ← pair? value cs
    let ms ← ms.addAt? .braces path v
    match cs with
    | '}' :: cs => some (ms, cs)
    | ',' :: cs => braces? value fuel ms cs
    | _ => none

/-- A value with at most so many levels, and what follows it. -/
def value? : (levels : Nat) → List Char → Option (Value × List Char)
  | 0, _ => none
  | levels + 1, cs =>
    match cs with
    | [] => none
    | '[' :: cs =>
      (items? (value? levels) (cs.length + 1) cs).map fun (vs, rest) => (.array vs, rest)
    | '{' :: cs =>
      match skipSpaces cs with
      | '}' :: rest => some (.table .braces [], rest)
      | cs => (braces? (value? levels) (cs.length + 1) [] cs).map fun (ms, rest) =>
          (.table .braces ms, rest)
    | c :: rest =>
      if c = '"' || c = '\'' then
        (string? (c :: rest)).map fun (s, rest) => (.string (String.ofList s), rest)
      else
        let (w, rest) := word (c :: rest)
        (Scalar.ofWord? w).map fun s => (.scalar s, rest)

/-- What has been read of a document: the members of the root, and the path of the table that keys
belong to. -/
structure Draft where
  root : Members
  path : List String

/-- The header of a table, behind its opening bracket. -/
def header? (d : Draft) (cs : List Char) : Option (Draft × List Char) := do
  let (path, cs) ← keyPath? (cs.length + 1) cs
  match cs with
  | ']' :: cs =>
    let root ← d.root.within? (Members.openTable? (path.getLastD "")) .header path.dropLast
    some (⟨root, path⟩, cs)
  | _ => none

/-- The header of a table in an array, behind its opening brackets. -/
def itemHeader? (d : Draft) (cs : List Char) : Option (Draft × List Char) := do
  let (path, cs) ← keyPath? (cs.length + 1) cs
  match cs with
  | ']' :: ']' :: cs =>
    let root ← d.root.within? (Members.openItem? (path.getLastD "")) .header path.dropLast
    some (⟨root, path⟩, cs)
  | _ => none

/-- What a line that is neither empty nor a comment says. -/
def statement? (d : Draft) (cs : List Char) : Option (Draft × List Char) :=
  match cs with
  | '[' :: '[' :: cs => itemHeader? d cs
  | '[' :: cs => header? d cs
  | cs => do
    let (path, v, cs) ← pair? (value? nestingLimit) cs
    let root ← d.root.within? (fun o ms => ms.addAt? o path v) .header d.path
    some ({ d with root := root }, cs)

/-- Read line after line. `fuel` bounds their number. -/
def lines? : (fuel : Nat) → Draft → List Char → Option Draft
  | 0, _, _ => none
  | fuel + 1, d, cs => do
    match ← skipBetween? cs with
    | [] => some d
    | cs =>
      let (d, cs) ← statement? d cs
      let cs ← skipComment? (skipSpaces cs)
      match cs, newline? cs with
      | [], _ => some d
      | _, some cs => lines? fuel d cs
      | _, none => none

/-- The members of the root of a document; a byte order mark in front of it is dropped. -/
def parse? (s : String) : Option Members :=
  let cs :=
    match s.toList with
    | '\ufeff' :: cs => cs
    | cs => cs
  (lines? (cs.length + 1) ⟨[], []⟩ cs).map (·.root)

end QmlExport.Toml
