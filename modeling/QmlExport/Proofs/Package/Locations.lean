import QmlExport.Proofs.Package.Sources

/-!
# Where files lie and what they say of it

How deep a file lies is decided twice. The exporter fixes it for a whole group of artboards before it
writes any code of them, and every source of an image goes up by that number. The package gives the
file its path later on, from the names in the tree, and knows nothing of sources.

    sheet ──leaf of the tree──▶ member of the package     path with k slashes
      └─────body──────────────▶ source of an image        "../" k times, then "Images/" and the name

**The two agree for every node of every artboard, whatever the exporter has exported before**
(`located_run`).
-/

namespace QmlExport

namespace Code

open Design

/-- **The lines of a node stand together in those of its artboard.** -/
theorem ownLines_infix (o : Options) (k : Nat) {n m : Node} {path : List Nat}
    (h : n.at? path = some m) : ownLines o k m <:+: body o k n := by
  induction path generalizing n with
  | nil =>
    obtain rfl : n = m := by simpa [Node.at?] using h
    rw [body_eq, List.append_assoc]
    exact List.infix_append [] _ _
  | cons i path ih =>
    rw [Node.at?] at h
    split at h
    · next child hchild =>
      obtain ⟨front, back, hsplit⟩ := List.append_of_mem (List.mem_of_getElem? hchild)
      have hbelow : body o k child <:+: n.children.flatMap (body o k) := by
        rw [hsplit, List.flatMap_append, List.flatMap_cons, ← List.append_assoc]
        exact List.infix_append _ _ _
      rw [body_eq]
      exact ((ih h).trans hbelow).trans (List.infix_append _ _ _)
    · cases h

end Code

namespace Package

open Code Design Text
open Zip (Member)

/-- The source of an image, and the path of the file that names it in a package of the exporter's
tree. -/
structure Located (e : Exporter) (d : Document) (i : Nat) (s : Sheet) (n : Node) (a : Asset)
    (location source : String) : Prop where
  /-- The file of the `i`-th artboard is the `i`-th one of the tree in the package. -/
  file : ((codeMembers "" (e.run d).2).filter Member.isFile)[i]? = some (.file location
    (Utf8.encode (e.format (fileText (header s.artboard) (body e.options s.depth s.artboard)))))
  /-- The lines of the node are part of it. -/
  lines : ownLines e.options s.depth n <:+: body e.options s.depth s.artboard
  /-- One of them, and nothing else of what the node shows, names the source. -/
  shown : capabilityLines s.depth n.metadata = [property "source" (quote source)]
  /-- The source goes up once for every slash in the path of the file. -/
  path : source = String.join (List.replicate (location.toList.count '/') "../") ++ "Images/" ++
    String.ofList (lastPiece (· == '/') a.path.toList)
  /-- So the directory that it goes down into is the one at the top of the package. -/
  top : resolve location (String.join (List.replicate (location.toList.count '/') "../") ++
    "Images") = "Images"
  /-- There it leads to the file with the name of the asset, if this is the name of a file. -/
  leads : a.fileName ≠ ".." → a.fileName ≠ "." →
    resolve location source = "Images/" ++ a.fileName

/-- **Every source fits the path of its file.** -/
theorem located_run (e : Exporter) (d : Document) {i : Nat} {s : Sheet}
    (hs : d.sheets[i]? = some s) {address : List Nat} {n : Node}
    (hn : s.artboard.at? address = some n) (ht : n.metadata.text = none) {a : Asset}
    (ha : n.metadata.asset = some a) : ∃ location source, Located e d i s n a location source := by
  have htidy := Exporter.tidy_run e d
  have hleaves : List.Forall₂ (Leaf e.options e.format 0) (filesOf (e.run d).2) d.sheets := by
    rw [Exporter.run_eq]
    exact leaves_treeFor d
  obtain ⟨leaf, hleaf, hdepth, hcode⟩ := leaf_of_sheet hleaves hs
  have hpieces : (pieces (· == '/') (leafMember "" leaf).path.toList).length = s.depth + 1 := by
    rw [length_pieces_leafMember htidy (List.mem_of_getElem? hleaf)]
    exact hdepth
  have hcount : (leafMember "" leaf).path.toList.count '/' = s.depth := by
    rw [length_pieces] at hpieces
    exact Nat.succ.inj hpieces
  have hcapability : n.metadata.capability = .image a := by
    rw [Metadata.capability, ht, ha]
  refine ⟨(leafMember "" leaf).path, imageSource s.depth a, ?_, ownLines_infix _ _ hn, ?_, ?_, ?_,
    fun hup hstay => ?_⟩
  · rw [filter_codeMembers "" _ htidy.2, List.getElem?_map, hleaf, Option.map_some, leafMember,
      hcode]
    rfl
  · rw [capabilityLines, hcapability]
  · have hfolder : imagesDirectory ++ "/" = "Images/" := by decide
    rw [hcount, imageSource, ← hfolder, ← String.append_assoc]
    rfl
  · rw [hcount]
    exact (resolve_upward hpieces "Images").trans (by decide)
  · exact resolve_imageSource hpieces hup hstay

/-- A picture. -/
def picture : Node := ⟨"Picture", none, none, none, none, none, [], { Metadata.empty with
  asset := some ⟨"assets/photos/x.png"⟩ }⟩

/-- An artboard with a picture on it. -/
def card : Node := ⟨"Card", none, none, none, none, none, [picture], .empty⟩

/-- A document with this artboard in a set. -/
def framed : Document := ⟨[], [⟨"Cards", [card]⟩], none⟩

/-- Two directories lie above its file, and the source of the picture goes up twice. -/
theorem located_framed : framed.sheets[0]? = some ⟨2, card⟩ ∧ card.at? [0] = some picture ∧
    picture.metadata.text = none ∧ picture.metadata.asset = some ⟨"assets/photos/x.png"⟩ ∧
    Located (.ofOptions .none) framed 0 ⟨2, card⟩ picture ⟨"assets/photos/x.png"⟩
      "Components/Cards/Card.qml" "../../Images/x.png" := by
  have hs : framed.sheets[0]? = some ⟨2, card⟩ := rfl
  have hn : card.at? [0] = some picture := rfl
  have ha : picture.metadata.asset = some ⟨"assets/photos/x.png"⟩ := rfl
  obtain ⟨location, source, h⟩ := located_run (.ofOptions .none) framed hs hn rfl ha
  have hpath : location = "Components/Cards/Card.qml" := by
    have hpaths : (((codeMembers "" ((Exporter.ofOptions .none).run framed).2).filter
        Member.isFile)[0]?).map Member.path = some "Components/Cards/Card.qml" := by
      decide +kernel
    rw [h.file] at hpaths
    exact Option.some.inj hpaths
  have hsource : source = "../../Images/x.png" := by
    rw [h.path, hpath]
    decide +kernel
  exact ⟨hs, hn, rfl, ha, hsource ▸ hpath ▸ h⟩

end Package

end QmlExport
