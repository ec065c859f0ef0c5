import QmlExport.Design.Alignment
import QmlExport.Text.Blank

/-!
# Design documents

The tree that a design tool exports: a document holds artboards and sets of artboards, an artboard
is a node, and a node has a place, metadata and children. Everything a tool may leave out is an
`Option`, a text that may be empty or a list that may be empty.

What a node shows is its `Capability`: text details win over an asset, and a node with neither is
generic.
-/

namespace QmlExport.Design

/-- How a node is turned and mirrored. -/
structure Transformation where
  rotation : Option Float
  flippedHorizontally : Bool
  flippedVertically : Bool

/-- What a text node says and in which type. -/
structure TextDetails where
  contents : String
  textColor : String
  fontFamily : String
  fontDisplayName : String
  fontSize : Option Float
  kerning : Option Bool
  lineHeight : Option Float
  verticalAlignment : Option Side
  horizontalAlignment : Option Side

/-- A reference to an image of the archive. -/
structure Asset where
  path : String
  deriving DecidableEq, Repr

/-- The last segment of the path. -/
def Asset.fileName (a : Asset) : String :=
  String.ofList (Text.lastPiece (· == '/') a.path.toList)

/-- What a node carries besides its place. -/
structure Metadata where
  typeName : Option String
  qmlId : Option String
  uuid : Option String
  properties : List String
  imports : List String
  clip : Option Bool
  opacity : Option Float
  visible : Option Bool
  transformation : Option Transformation
  text : Option TextDetails
  asset : Option Asset

/-- Metadata that says nothing. -/
def Metadata.empty : Metadata :=
  ⟨none, none, none, [], [], none, none, none, none, none, none⟩

/-- What a node shows. -/
inductive Capability
  | text (details : TextDetails)
  | image (asset : Asset)
  | generic

/-- What metadata makes of a node. -/
def Metadata.capability (m : Metadata) : Capability :=
  match m.text, m.asset with
  | some t, _ => .text t
  | none, some a => .image a
  | none, none => .generic

/-- A node of the design tree. -/
structure Node where
  name : String
  x : Option Float
  y : Option Float
  width : Option Float
  height : Option Float
  layerIndex : Option Float
  children : List Node
  metadata : Metadata

/-- A named set of artboards. -/
structure ArtboardSet where
  name : String
  artboards : List Node

/-- What the design tool says about the document itself. -/
structure DocumentInfo where
  name : String
  deriving DecidableEq, Repr

/-- A design document. -/
structure Document where
  artboards : List Node
  artboardSets : List ArtboardSet
  info : Option DocumentInfo

mutual
/-- A node and all nodes below it, each before its children. -/
def Node.preorder : Node → List Node
  | ⟨name, x, y, w, h, z, children, m⟩ => ⟨name, x, y, w, h, z, children, m⟩ :: preorderAll children

/-- The nodes of several trees, one tree after the other. -/
def preorderAll : List Node → List Node
  | [] => []
  | n :: ns => n.preorder ++ preorderAll ns
end

/-- All nodes of a document: those of the artboards, then those of the sets in order. -/
def Document.nodes (d : Document) : List Node :=
  preorderAll d.artboards ++ d.artboardSets.flatMap fun s => preorderAll s.artboards

end QmlExport.Design
