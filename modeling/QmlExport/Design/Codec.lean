import QmlExport.Design.Document

/-!
# Design documents as records

Writing a document leaves out what is absent, except for names, contents and the like, which are
always written. Reading accepts any document whose known fields have the right shape, and fills in
what is missing. The visibility of a node has two names, of which only one may be used.
-/

namespace QmlExport.Design

open Json

namespace Transformation

/-- A transformation as a record. -/
def toJson (t : Transformation) : Value :=
  .fields (omitNone "rotation" .float t.rotation ++
    [("flippedHorizontally", .bool t.flippedHorizontally),
      ("flippedVertically", .bool t.flippedVertically)])

/-- Read a transformation. -/
def decoder : Decoder Transformation :=
  .record ["rotation", "flippedHorizontally", "flippedVertically"] fun fs => do
    let rotation ← fs.orElse "rotation" (.optional .float) none
    let horizontally ← fs.orElse "flippedHorizontally" .bool false
    let vertically ← fs.orElse "flippedVertically" .bool false
    some ⟨rotation, horizontally, vertically⟩

end Transformation

namespace TextDetails

/-- Text details as a record. -/
def toJson (t : TextDetails) : Value :=
  .fields ([("contents", .text t.contents), ("textColor", .text t.textColor),
      ("fontFamily", .text t.fontFamily), ("fontDisplayName", .text t.fontDisplayName)] ++
    omitNone "fontSize" .float t.fontSize ++ omitNone "kerning" .bool t.kerning ++
    omitNone "lineHeight" .float t.lineHeight ++
    omitNone "verticalAlignment" Side.toJson t.verticalAlignment ++
    omitNone "horizontalAlignment" Side.toJson t.horizontalAlignment)

/-- Read text details. -/
def decoder : Decoder TextDetails :=
  .record ["contents", "textColor", "fontFamily", "fontDisplayName", "fontSize", "kerning",
    "lineHeight", "verticalAlignment", "horizontalAlignment"] fun fs => do
    let contents ← fs.orElse "contents" .text ""
    let textColor ← fs.orElse "textColor" .text ""
    let fontFamily ← fs.orElse "fontFamily" .text ""
    let fontDisplayName ← fs.orElse "fontDisplayName" .text ""
    let fontSize ← fs.orElse "fontSize" (.optional .float) none
    let kerning ← fs.orElse "kerning" (.optional .bool) none
    let lineHeight ← fs.orElse "lineHeight" (.optional .float) none
    let vertical ← fs.orElse "verticalAlignment" (.optional Side.decoder) none
    let horizontal ← fs.orElse "horizontalAlignment" (.optional Side.decoder) none
    some ⟨contents, textColor, fontFamily, fontDisplayName, fontSize, kerning, lineHeight,
      vertical, horizontal⟩

end TextDetails

namespace Asset

/-- An asset as a record. -/
def toJson (a : Asset) : Value := .fields [("assetPath", .text a.path)]

/-- Read an asset. -/
def decoder : Decoder Asset :=
  .record ["assetPath"] fun fs => do
    let path ← fs.orElse "assetPath" .text ""
    some ⟨path⟩

end Asset

namespace Metadata

/-- Metadata as a record. -/
def toJson (m : Metadata) : Value :=
  .fields (omitNone "typeName" .text m.typeName ++ omitNone "qmlId" .text m.qmlId ++
    omitNone "uuid" .text m.uuid ++ omitEmpty "qmlProperties" .text m.properties ++
    omitEmpty "extraImports" .text m.imports ++ omitNone "clip" .bool m.clip ++
    omitNone "opacity" .float m.opacity ++ omitNone "visible" .bool m.visible ++
    omitNone "transformation" Transformation.toJson m.transformation ++
    omitNone "textDetails" TextDetails.toJson m.text ++ omitNone "assetData" Asset.toJson m.asset)

/-- The names of the fields of metadata. -/
def fieldNames : List String :=
  ["typeName", "qmlId", "uuid", "qmlProperties", "extraImports", "clip", "opacity", "visible",
    "transformation", "textDetails", "assetData"]

/-- Read metadata. -/
def decoder : Decoder Metadata := fun levels v => do
  let fs ← Fields.of fieldNames [("qmlVisible", "visible")] levels v
  let typeName ← fs.orElse "typeName" (.optional .text) none
  let qmlId ← fs.orElse "qmlId" (.optional .text) none
  let uuid ← fs.orElse "uuid" (.optional .text) none
  let properties ← fs.orElse "qmlProperties" (.list .text) []
  let imports ← fs.orElse "extraImports" (.list .text) []
  let clip ← fs.orElse "clip" (.optional .bool) none
  let opacity ← fs.orElse "opacity" (.optional .float) none
  let visible ← fs.orElse "visible" (.optional .bool) none
  let transformation ← fs.orElse "transformation" (.optional Transformation.decoder) none
  let text ← fs.orElse "textDetails" (.optional TextDetails.decoder) none
  let asset ← fs.orElse "assetData" (.optional Asset.decoder) none
  some ⟨typeName, qmlId, uuid, properties, imports, clip, opacity, visible, transformation, text,
    asset⟩

end Metadata

namespace Node

/-- The members of a node around those of its children. -/
def membersWith (name : String) (x y width height layerIndex : Option Float)
    (children : List Value) (m : Metadata) : List (String × Value) :=
  [("name", .text name)] ++ omitNone "x" .float x ++ omitNone "y" .float y ++
    omitNone "width" .float width ++ omitNone "height" .float height ++
    omitNone "layerIndex" .float layerIndex ++ omitEmpty "children" id children ++
    [("metadata", m.toJson)]

mutual
/-- A node as a record. -/
def toJson : Node → Value
  | ⟨name, x, y, width, height, layerIndex, children, m⟩ =>
    .fields (membersWith name x y width height layerIndex (allToJson children) m)

/-- Nodes as records. -/
def allToJson : List Node → List Value
  | [] => []
  | n :: ns => toJson n :: allToJson ns
end

/-- The names of the fields of a node. -/
def fieldNames : List String :=
  ["name", "x", "y", "width", "height", "layerIndex", "children", "metadata"]

/-- Read the fields of a node. `child` reads a child, if there are levels left for a list. -/
def read (child : Option (Value → Option Node)) (fs : Fields) : Option Node := do
  let name ← fs.orElse "name" .text ""
  let x ← fs.orElse "x" (.optional .float) none
  let y ← fs.orElse "y" (.optional .float) none
  let width ← fs.orElse "width" (.optional .float) none
  let height ← fs.orElse "height" (.optional .float) none
  let layerIndex ← fs.orElse "layerIndex" (.optional .float) none
  let children ←
    match fs.given.lookup "children", child with
    | none, _ => some []
    | some (.array items), some f => items.mapM f
    | some _, _ => none
  let metadata ← fs.orElse "metadata" Metadata.decoder .empty
  some ⟨name, x, y, width, height, layerIndex, children, metadata⟩

/-- Read a node. -/
def decoder : Decoder Node
  | 0, _ => none
  | 1, v => (Fields.of fieldNames [] 1 v).bind (read none)
  | l + 2, v => (Fields.of fieldNames [] (l + 2) v).bind (read (some (decoder l)))

end Node

namespace ArtboardSet

/-- A set of artboards as a record. -/
def toJson (s : ArtboardSet) : Value :=
  .fields [("name", .text s.name), ("artboards", .array (s.artboards.map Node.toJson))]

/-- Read a set of artboards. -/
def decoder : Decoder ArtboardSet :=
  .record ["name", "artboards"] fun fs => do
    let name ← fs.orElse "name" .text ""
    let artboards ← fs.orElse "artboards" (.list Node.decoder) []
    some ⟨name, artboards⟩

end ArtboardSet

namespace DocumentInfo

/-- Document information as a record. -/
def toJson (i : DocumentInfo) : Value := .fields [("name", .text i.name)]

/-- Read document information. -/
def decoder : Decoder DocumentInfo :=
  .record ["name"] fun fs => do
    let name ← fs.orElse "name" .text ""
    some ⟨name⟩

end DocumentInfo

namespace Document

/-- A document as a record. -/
def toJson (d : Document) : Value :=
  .fields ([("artboards", .array (d.artboards.map Node.toJson)),
      ("artboardSets", .array (d.artboardSets.map ArtboardSet.toJson))] ++
    omitNone "documentInfo" DocumentInfo.toJson d.info)

/-- Read a document. -/
def decoder : Decoder Document :=
  .record ["artboards", "artboardSets", "documentInfo"] fun fs => do
    let artboards ← fs.orElse "artboards" (.list Node.decoder) []
    let artboardSets ← fs.orElse "artboardSets" (.list ArtboardSet.decoder) []
    let info ← fs.orElse "documentInfo" (.optional DocumentInfo.decoder) none
    some ⟨artboards, artboardSets, info⟩

end Document

end QmlExport.Design
