import QmlExport.Code.Export

/-!
# Font families

The exporter gathers font families while it writes code; they depend on the document alone.
**The families of an export are those of all nodes of the document in order, each once**
(`families_generate`), whatever the options.
-/

namespace QmlExport.Code

open Design Identifier

namespace Draft

mutual
/-- Writing a node notes the families of all nodes below it. -/
theorem families_emit (o : Options) (depth : Nat) (n : Node) (d : Draft) :
    (emit o depth d n).families = (n.preorder.flatMap familyOf).foldl addNew d.families := by
  match n with
  | ⟨name, x, y, w, h, z, children, m⟩ =>
    rw [emit, Node.preorder, List.flatMap_cons, List.foldl_append]
    exact families_emitAll o depth children _

theorem families_emitAll (o : Options) (depth : Nat) (ns : List Node) (d : Draft) :
    (emitAll o depth d ns).families =
      ((preorderAll ns).flatMap familyOf).foldl addNew d.families := by
  match ns with
  | [] => rfl
  | n :: ns =>
    rw [emitAll, preorderAll, List.flatMap_append, List.foldl_append, families_emitAll o depth ns,
      families_emit o depth n]
end

end Draft

namespace Exporter

/-- What an exporter adds to a directory for one artboard. -/
def addArtboard (depth : Nat) (p : Exporter × Directory) (n : Node) : Exporter × Directory :=
  let draft := Draft.emit p.1.options depth (Draft.start p.1.families) n
  ({ p.1 with families := draft.families },
    Directory.insertUnique p.2 (sanitize n.name) (.file (p.1.format draft.text)))

theorem artboards_eq (e : Exporter) (depth : Nat) (nodes : List Node) :
    e.artboards depth nodes = nodes.foldl (addArtboard depth) (e, []) := rfl

/-- What an exporter adds to a directory for one set of artboards. -/
def addSet (p : Exporter × Directory) (s : ArtboardSet) : Exporter × Directory :=
  ((p.1.artboards 2 s.artboards).1,
    Directory.insertUnique p.2 (sanitize s.name) (.directory (p.1.artboards 2 s.artboards).2))

theorem sets_eq (e : Exporter) (sets : List ArtboardSet) :
    e.sets sets = sets.foldl addSet (e, []) := rfl

theorem families_artboards (e : Exporter) (depth : Nat) (nodes : List Node) :
    (e.artboards depth nodes).1.families =
      ((preorderAll nodes).flatMap familyOf).foldl addNew e.families := by
  rw [artboards_eq]
  generalize ([] : Directory) = dir
  induction nodes generalizing e dir with
  | nil => rfl
  | cons n nodes ih =>
    have hn : (addArtboard depth (e, dir) n).1.families =
        (n.preorder.flatMap familyOf).foldl addNew e.families :=
      Draft.families_emit e.options depth n (Draft.start e.families)
    rw [List.foldl_cons, preorderAll, List.flatMap_append, List.foldl_append, ← hn]
    exact ih (addArtboard depth (e, dir) n).1 (addArtboard depth (e, dir) n).2

theorem families_sets (e : Exporter) (sets : List ArtboardSet) :
    (e.sets sets).1.families =
      ((sets.flatMap fun s => preorderAll s.artboards).flatMap familyOf).foldl addNew
        e.families := by
  rw [sets_eq]
  generalize ([] : Directory) = dir
  induction sets generalizing e dir with
  | nil => rfl
  | cons s sets ih =>
    have hs : (addSet (e, dir) s).1.families =
        ((preorderAll s.artboards).flatMap familyOf).foldl addNew e.families :=
      families_artboards e 2 s.artboards
    rw [List.foldl_cons, List.flatMap_cons, List.flatMap_append, List.foldl_append, ← hs]
    exact ih (addSet (e, dir) s).1 (addSet (e, dir) s).2

end Exporter

/-- **The font families of an export are those of the document.** -/
theorem families_generate (o : Options) (d : Document) :
    (generate o d).2 = familiesOf d.nodes := by
  have hsets := Exporter.families_sets
    ((Exporter.ofOptions o).artboards 1 d.artboards).1 d.artboardSets
  have hroot := Exporter.families_artboards (Exporter.ofOptions o) 1 d.artboards
  rw [hroot] at hsets
  rw [familiesOf, Document.nodes, List.flatMap_append, List.foldl_append]
  exact hsets

end QmlExport.Code
