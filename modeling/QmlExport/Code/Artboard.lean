import QmlExport.Code.Literal
import QmlExport.Code.Marker
import QmlExport.Decimal.Numeral
import QmlExport.Design.Document
import QmlExport.Design.Options
import QmlExport.Identifier

/-!
# The code of an artboard

The code of a node is a block: an opening line with the object type, the node's own lines, the
blocks of its children and a closing line. `body` gives the lines of a whole artboard by recursion
on the tree; they depend on nothing but the options, the node and how deep the file lies.

The text of a file is the imports, an empty line and the body with its markers unwrapped
(`fileText`); a formatter lays it out afterwards.
-/

namespace QmlExport.Code

open Design Identifier

/-- The import that every file starts with. -/
def baseImport : String := "import QtQuick"

/-- The directory of images in a package. -/
def imagesDirectory : String := "Images"

/-- A property line. -/
def property (name value : String) : String := name ++ ": " ++ value

/-- The line that opens a block. -/
def opening (objectType : String) : String := objectType ++ " \x7b"

/-- The line that closes a block. -/
def closingLine : String := "\x7d"

/-- A truth value in code. -/
def boolText (b : Bool) : String := if b then "true" else "false"

/-- Numbers worth a line: zero says no more than nothing. -/
def nonzero? (v : Option Float) : Option Float := v.filter fun x => !(x == 0) && !x.isNaN

/-- The object type of a node: the last part of its type name, or what fits its capability. -/
def objectType (m : Metadata) : String :=
  match m.typeName.filter (!·.isEmpty) with
  | some name => String.ofList (Text.lastPiece (· == '.') name.toList)
  | none =>
    match m.capability with
    | .text _ => "Text"
    | .image _ => "Image"
    | .generic => "Item"

/-- The identifier of a node under the options. -/
def identifier? (o : Options) (m : Metadata) : Option String :=
  match o.idSource with
  | none => none
  | some .chosen => m.qmlId
  | some .unique => m.uuid

/-- The line with the identifier. -/
def idLine (id : String) : String := property "id" (lowerFirst (sanitize id))

/-- The lines that name a node. -/
def nameLines (o : Options) (n : Node) : List String :=
  ((identifier? o n.metadata).map idLine).toList ++
    (if o.addObjectNames then [property "objectName" (quote (sanitize n.name))] else [])

/-- The lines that place a node. -/
def geometryLines (n : Node) : List String :=
  [("x", n.x), ("y", n.y), ("z", n.layerIndex), ("width", n.width), ("height", n.height)].filterMap
    fun (name, v) => (nonzero? v).map fun x => property name (Decimal.codeText x)

/-- A statement that the designer wrote, without the blanks around it. -/
def statement (s : String) : String := String.ofList (Text.trim s.toList)

/-- The lines about visibility, opacity and clipping. -/
def displayLines (m : Metadata) : List String :=
  (m.visible.map fun b => property "visible" (boolText b)).toList ++
    (m.opacity.map fun x => property "opacity" (Decimal.codeText x)).toList ++
    (m.clip.map fun b => property "clip" (boolText b)).toList

/-- The lines of a text node. -/
def textLines (t : TextDetails) : List String :=
  [property "text" (quote t.contents), property "color" (quote t.textColor),
    property "font.family" (quote t.fontFamily),
    property "font.styleName" (quote t.fontDisplayName)] ++
  (t.fontSize.map fun x => property "font.pixelSize" (Decimal.codeText x)).toList ++
  [property "font.features"
    ("\x7b \"kern\": " ++ (if t.kerning.getD false then "1" else "0") ++ " \x7d")] ++
  (t.verticalAlignment.map fun s => property "verticalAlignment" (s.constant .vertical)).toList ++
  (t.horizontalAlignment.map fun s =>
    property "horizontalAlignment" (s.constant .horizontal)).toList ++
  (match t.lineHeight with
    | some x => [property "lineHeight" (Decimal.codeText x),
        property "lineHeightMode" "Text.FixedHeight"]
    | none => [])

/-- The path from a file that lies in so many directories to the top. -/
def upward (depth : Nat) : String := String.join (List.replicate depth "../")

/-- The path from a file to an image. -/
def imageSource (depth : Nat) (a : Asset) : String :=
  upward depth ++ imagesDirectory ++ "/" ++ a.fileName

/-- The lines of what a node shows. -/
def capabilityLines (depth : Nat) (m : Metadata) : List String :=
  match m.capability with
  | .text t => textLines t
  | .image a => [property "source" (quote (imageSource depth a))]
  | .generic => []

/-- Half of a length, for the point that a node turns around. -/
def half (v : Option Float) : String := Decimal.codeText (v.getD 0 / 2)

/-- The lines that turn and mirror a node. -/
def transformLines (n : Node) : List String :=
  match n.metadata.transformation with
  | none => []
  | some t =>
    let flipped := t.flippedHorizontally || t.flippedVertically
    let origin := [property "origin.x" (half n.width), property "origin.y" (half n.height)]
    let rotation :=
      match nonzero? t.rotation with
      | none => []
      | some angle =>
        [opening "Rotation"] ++ origin ++ [property "angle" (Decimal.codeText angle)] ++
          [if flipped then closingLine ++ "," else closingLine]
    let scale :=
      if flipped then
        [opening "Scale"] ++ origin ++
          (if t.flippedHorizontally then [property "xScale" "-1"] else []) ++
          (if t.flippedVertically then [property "yScale" "-1"] else []) ++ [closingLine]
      else []
    if rotation.isEmpty && scale.isEmpty then []
    else ["transform: ["] ++ rotation ++ scale ++ ["]"]

/-- The lines of a node before its children. -/
def ownLines (o : Options) (depth : Nat) (n : Node) : List String :=
  [opening (objectType n.metadata)] ++ nameLines o n ++ geometryLines n ++
    n.metadata.properties.map statement ++ displayLines n.metadata ++
    capabilityLines depth n.metadata ++ transformLines n

mutual
/-- The lines of a node and everything below it, for a file that lies in `depth` directories. -/
def body (o : Options) (depth : Nat) : Node → List String
  | ⟨name, x, y, w, h, z, children, m⟩ =>
    ownLines o depth ⟨name, x, y, w, h, z, children, m⟩ ++ bodies o depth children ++ [closingLine]

/-- The lines of several nodes, one after the other. -/
def bodies (o : Options) (depth : Nat) : List Node → List String
  | [] => []
  | n :: ns => body o depth n ++ bodies o depth ns
end

/-- Add to a list what is not in it yet. -/
def addNew (xs : List String) (x : String) : List String := if xs.contains x then xs else xs ++ [x]

/-- The statements worth importing of a node. -/
def importsOf (n : Node) : List String :=
  (n.metadata.imports.map statement).filter (!·.isEmpty)

/-- The imports of an artboard: the base import and those of all nodes in preorder, each once. -/
def header (artboard : Node) : List String :=
  (artboard.preorder.flatMap importsOf).foldl addNew [baseImport]

/-- End every line with a line feed. -/
def codeOf (lines : List String) : String := String.join (lines.map (· ++ "\n"))

/-- The text of a file before it is laid out. -/
def fileText (imports lines : List String) : String :=
  Text.join "\n" imports ++ "\n\n" ++ unwrap (codeOf lines)

/-- The font family that a node asks for. -/
def familyOf (n : Node) : List String :=
  (n.metadata.text.map (·.fontFamily)).toList.filter (!·.isEmpty)

/-- The font families of a list of nodes, each once, in the order of their first use. -/
def familiesOf (nodes : List Node) : List String := (nodes.flatMap familyOf).foldl addNew []

end QmlExport.Code
