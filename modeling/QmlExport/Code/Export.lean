import QmlExport.Code.Artboard
import QmlExport.Code.Indent
import QmlExport.Code.Tree

/-!
# Exporting a document

An exporter turns documents into code trees: a `Root` directory with one file per artboard and a
`Components` directory with one directory per set of artboards. It walks each artboard once and
gathers imports, code and font families on the way in a `Draft`. The same exporter may be used for
many documents; the families it remembers are always those of the last one.

The pure side of the same job is `body`, `header` and `familiesOf`.
-/

namespace QmlExport.Code

open Design Identifier

/-- The directory of artboards. -/
def rootDirectory : String := "Root"

/-- The directory of sets of artboards. -/
def componentsDirectory : String := "Components"

/-- What has been gathered of an artboard. -/
structure Draft where
  imports : List String
  code : String
  families : List String
  deriving DecidableEq, Repr

namespace Draft

/-- Nothing but the base import, behind families that are known already. -/
def start (families : List String) : Draft := ⟨[baseImport], "", families⟩

/-- Note the imports of a node. -/
def addImports (d : Draft) (statements : List String) : Draft :=
  { d with imports := statements.foldl addNew d.imports }

/-- Note the font family of a node. -/
def addFamilies (d : Draft) (families : List String) : Draft :=
  { d with families := families.foldl addNew d.families }

/-- Write lines. -/
def write (d : Draft) (lines : List String) : Draft := { d with code := d.code ++ codeOf lines }

mutual
/-- Write a node and everything below it. -/
def emit (o : Options) (depth : Nat) (d : Draft) : Node → Draft
  | ⟨name, x, y, w, h, z, children, m⟩ =>
    let node : Node := ⟨name, x, y, w, h, z, children, m⟩
    let opened := ((d.addImports (importsOf node)).addFamilies (familyOf node)).write
      (ownLines o depth node)
    (emitAll o depth opened children).write [closingLine]

/-- Write several nodes, one after the other. -/
def emitAll (o : Options) (depth : Nat) (d : Draft) : List Node → Draft
  | [] => d
  | n :: ns => emitAll o depth (emit o depth d n) ns
end

/-- The text of the file before it is laid out. -/
def text (d : Draft) : String := Text.join "\n" d.imports ++ "\n\n" ++ unwrap d.code

end Draft

/-- An exporter: its options, the formatter that lays out every file, and the font families of the
last document. -/
structure Exporter where
  options : Options
  format : String → String
  families : List String

namespace Exporter

/-- An exporter that lays out files by indentation. -/
def ofOptions (o : Options) : Exporter := ⟨o, reindent, []⟩

/-- Export artboards into the files of one directory. -/
def artboards (e : Exporter) (depth : Nat) (nodes : List Node) : Exporter × Directory :=
  nodes.foldl (fun (e, dir) n =>
      let draft := Draft.emit e.options depth (Draft.start e.families) n
      ({ e with families := draft.families },
        Directory.insertUnique dir (sanitize n.name) (.file (e.format draft.text))))
    (e, [])

/-- Export sets of artboards into directories of one directory. -/
def sets (e : Exporter) (sets : List ArtboardSet) : Exporter × Directory :=
  sets.foldl (fun (e, dir) s =>
      let (e, files) := e.artboards 2 s.artboards
      (e, Directory.insertUnique dir (sanitize s.name) (.directory files)))
    (e, [])

/-- Export a document. -/
def run (e : Exporter) (d : Document) : Exporter × Directory :=
  let e := { e with families := [] }
  let (e, root) := e.artboards 1 d.artboards
  let (e, components) := e.sets d.artboardSets
  (e, Directory.insertUnique
    (Directory.insertUnique [] (sanitize rootDirectory) (.directory root))
    (sanitize componentsDirectory) (.directory components))

end Exporter

/-- The code tree and the font families of a document. -/
def generate (o : Options) (d : Document) : Directory × List String :=
  let (e, tree) := (Exporter.ofOptions o).run d
  (tree, e.families)

end QmlExport.Code
