import Mathlib.Data.List.Forall2
import QmlExport.Proofs.Code.Families
import QmlExport.Proofs.Code.Names

/-!
# Sheets

An exporter works its way through a document with a draft for every artboard, and remembers font
families from one artboard to the next. None of that shows in what it writes. A *sheet* is an
artboard with the number of directories that its file lies in, and

    leaves of the tree  ──one for each──▶  sheets of the document

with the code of every leaf a function of its sheet alone (`sheetCode`).

**Whatever an exporter has exported before, it exports a document like a new exporter; the code of a
file is the formatted text of its own artboard; and no other artboard has any influence on it**
(`alone_exports`).
-/

namespace QmlExport

namespace Design

/-- An artboard together with the number of directories that its file lies in. -/
structure Sheet where
  depth : Nat
  artboard : Node

/-- The artboards of a document in order: its own, then those of its sets. -/
def Document.sheets (d : Document) : List Sheet :=
  d.artboards.map (Sheet.mk 1) ++ d.artboardSets.flatMap fun s => s.artboards.map (Sheet.mk 2)

end Design

namespace Code

open Design Identifier

/-! ## First occurrences -/

/-- Adding what is new keeps the first occurrence of everything that was not there before. -/
theorem foldl_addNew (xs acc : List String) :
    xs.foldl addNew acc = acc ++ (xs.filter fun x => !acc.contains x).eraseDups := by
  induction xs generalizing acc with
  | nil => simp
  | cons x xs ih =>
    rw [List.foldl_cons, ih, addNew]
    by_cases hx : acc.contains x
    · rw [if_pos hx, List.filter_cons_of_neg (by simpa using hx)]
    · -- from now on the text counts as known, so later occurrences of it are dropped
      rw [if_neg hx, List.filter_cons_of_pos (by simpa using hx), List.eraseDups_cons,
        List.filter_filter, List.append_assoc, List.singleton_append]
      congr 3
      apply List.filter_congr
      intro y _
      by_cases hy : y = x <;> simp [hy]

theorem foldl_addNew_nil (xs : List String) : xs.foldl addNew [] = xs.eraseDups := by
  rw [foldl_addNew, List.nil_append]
  congr 1
  apply List.filter_eq_self.2
  intro x _
  rfl

/-- The imports of an artboard are the base import and those of its nodes, without repeats. -/
theorem header_eq (artboard : Node) :
    header artboard = (baseImport :: artboard.preorder.flatMap importsOf).eraseDups := by
  rw [← foldl_addNew_nil, List.foldl_cons]
  rfl

/-! ## Drafts -/

theorem codeOf_append (ls ms : List String) : codeOf (ls ++ ms) = codeOf ls ++ codeOf ms := by
  rw [codeOf, codeOf, codeOf, List.map_append, String.join_append]

theorem codeOf_cons (l : String) (ls : List String) :
    codeOf (l :: ls) = l ++ "\n" ++ codeOf ls := by
  simp [codeOf]

theorem bodies_eq_flatMap (o : Options) (depth : Nat) (ns : List Node) :
    bodies o depth ns = ns.flatMap (body o depth) := by
  induction ns with
  | nil => rfl
  | cons n ns ih => rw [bodies, ih, List.flatMap_cons]

/-- The lines of a node, from the first to the last. -/
theorem body_eq (o : Options) (depth : Nat) (n : Node) :
    body o depth n = ownLines o depth n ++ n.children.flatMap (body o depth) ++ [closingLine] := by
  cases n
  rw [body, bodies_eq_flatMap]

namespace Draft

mutual
/-- Writing a node notes the imports of all nodes below it. -/
theorem imports_emit (o : Options) (depth : Nat) (n : Node) (d : Draft) :
    (emit o depth d n).imports = (n.preorder.flatMap importsOf).foldl addNew d.imports := by
  match n with
  | ⟨name, x, y, w, h, z, children, m⟩ =>
    rw [emit, Node.preorder, List.flatMap_cons, List.foldl_append]
    exact imports_emitAll o depth children _

theorem imports_emitAll (o : Options) (depth : Nat) (ns : List Node) (d : Draft) :
    (emitAll o depth d ns).imports =
      ((preorderAll ns).flatMap importsOf).foldl addNew d.imports := by
  match ns with
  | [] => rfl
  | n :: ns =>
    rw [emitAll, preorderAll, List.flatMap_append, List.foldl_append, imports_emitAll o depth ns,
      imports_emit o depth n]
end

mutual
/-- Writing a node adds its lines, whatever stands there already. -/
theorem code_emit (o : Options) (depth : Nat) (n : Node) (d : Draft) :
    (emit o depth d n).code = d.code ++ codeOf (body o depth n) := by
  match n with
  | ⟨name, x, y, w, h, z, children, m⟩ =>
    simp only [emit, body, write, code_emitAll o depth children, codeOf_append,
      String.append_assoc]
    rfl

theorem code_emitAll (o : Options) (depth : Nat) (ns : List Node) (d : Draft) :
    (emitAll o depth d ns).code = d.code ++ codeOf (bodies o depth ns) := by
  match ns with
  | [] => simp [emitAll, bodies, codeOf]
  | n :: ns =>
    rw [emitAll, bodies, code_emitAll o depth ns, code_emit o depth n, codeOf_append,
      String.append_assoc]
end

/-- **What has been gathered of an artboard is its header and its body.** -/
theorem text_emit (o : Options) (depth : Nat) (families : List String) (n : Node) :
    (emit o depth (start families) n).text = fileText (header n) (body o depth n) := by
  rw [text, imports_emit, code_emit]
  simp only [start, String.empty_append]
  rfl

end Draft

/-! ## Trees -/

/-- The code of the file for a sheet. -/
def sheetCode (o : Options) (format : String → String) (s : Sheet) : String :=
  format (fileText (header s.artboard) (body o s.depth s.artboard))

section

variable (o : Options) (format : String → String)

/-- The files for artboards. -/
def filesFor (depth : Nat) (nodes : List Node) : Directory :=
  nodes.foldl (fun dir n =>
    Directory.insertUnique dir (sanitize n.name) (.file (sheetCode o format ⟨depth, n⟩))) []

/-- The directories for sets of artboards. -/
def directoriesFor (sets : List ArtboardSet) : Directory :=
  sets.foldl (fun dir s =>
    Directory.insertUnique dir (sanitize s.name)
      (.directory (filesFor o format 2 s.artboards))) []

/-- The tree for a document. -/
def treeFor (d : Document) : Directory :=
  Directory.insertUnique
    (Directory.insertUnique [] (sanitize rootDirectory)
      (.directory (filesFor o format 1 d.artboards)))
    (sanitize componentsDirectory) (.directory (directoriesFor o format d.artboardSets))

end

namespace Exporter

/-- Exporting artboards changes nothing of an exporter but its families. -/
theorem artboards_eq_filesFor (e : Exporter) (depth : Nat) (nodes : List Node) :
    e.artboards depth nodes =
      ({ e with families := ((preorderAll nodes).flatMap familyOf).foldl addNew e.families },
        filesFor e.options e.format depth nodes) := by
  rw [artboards_eq, filesFor]
  generalize ([] : Directory) = dir
  induction nodes generalizing e dir with
  | nil => rfl
  | cons n nodes ih =>
    have hadd : addArtboard depth (e, dir) n =
        ({ e with families := (n.preorder.flatMap familyOf).foldl addNew e.families },
          Directory.insertUnique dir (sanitize n.name)
            (.file (sheetCode e.options e.format ⟨depth, n⟩))) := by
      simp only [addArtboard, Draft.text_emit, Draft.families_emit]
      rfl
    rw [List.foldl_cons, List.foldl_cons, hadd, ih, preorderAll, List.flatMap_append,
      List.foldl_append]

theorem sets_eq_directoriesFor (e : Exporter) (sets : List ArtboardSet) :
    e.sets sets =
      ({ e with families := ((sets.flatMap fun s => preorderAll s.artboards).flatMap
          familyOf).foldl addNew e.families },
        directoriesFor e.options e.format sets) := by
  rw [sets_eq, directoriesFor]
  generalize ([] : Directory) = dir
  induction sets generalizing e dir with
  | nil => rfl
  | cons s sets ih =>
    rw [List.foldl_cons, List.foldl_cons, addSet, artboards_eq_filesFor, ih, List.flatMap_cons,
      List.flatMap_append, List.foldl_append]

/-- **An export depends on options and formatter alone**, and leaves the families of the document. -/
theorem run_eq (e : Exporter) (d : Document) :
    e.run d = ({ e with families := familiesOf d.nodes }, treeFor e.options e.format d) := by
  simp only [run, artboards_eq_filesFor, sets_eq_directoriesFor, familiesOf, Document.nodes,
    List.flatMap_append, List.foldl_append]
  rfl

end Exporter

theorem generate_eq (o : Options) (d : Document) :
    generate o d = (treeFor o reindent d, familiesOf d.nodes) := by
  rw [generate, Exporter.run_eq]
  rfl

/-! ## Leaves -/

theorem filesOf_append (es fs : List (String × Entry)) :
    filesOf (es ++ fs) = filesOf es ++ filesOf fs := by
  induction es with
  | nil => rfl
  | cons e es ih =>
    rw [List.cons_append, filesOf, filesOf, ih, List.append_assoc]

theorem filesOf_insertUnique_file (d : Directory) (base code : String) :
    filesOf (d.insertUnique base (.file code)) = filesOf d ++ [([d.freeName base], code)] := by
  rw [Directory.insertUnique_eq, filesOf_append]
  rfl

theorem filesOf_insertUnique_directory (d : Directory) (base : String)
    (es : List (String × Entry)) :
    filesOf (d.insertUnique base (.directory es)) =
      filesOf d ++ (filesOf es).map fun leaf => (d.freeName base :: leaf.1, leaf.2) := by
  rw [Directory.insertUnique_eq, filesOf_append, filesOf, Entry.files, filesOf, List.append_nil]

/-- A leaf and its sheet, seen from a directory with so many directories above it: the path is as
long as the sheet says, and the code is that of the sheet. -/
def Leaf (o : Options) (format : String → String) (above : Nat) (leaf : List String × String)
    (s : Sheet) : Prop :=
  leaf.1.length + above = s.depth + 1 ∧ leaf.2 = sheetCode o format s

section

variable {o : Options} {format : String → String}

/-- Leaves of a directory, seen from the directory above. -/
theorem leaves_within {above : Nat} {leaves : List (List String × String)} {sheets : List Sheet}
    (name : String) (h : List.Forall₂ (Leaf o format (above + 1)) leaves sheets) :
    List.Forall₂ (Leaf o format above) (leaves.map fun leaf => (name :: leaf.1, leaf.2))
      sheets := by
  induction h with
  | nil => exact .nil
  | cons hab _ ih =>
    refine .cons ⟨?_, hab.2⟩ ih
    have hlength := hab.1
    rw [List.length_cons]
    omega

theorem leaves_filesFor (depth : Nat) (nodes : List Node) :
    List.Forall₂ (Leaf o format depth) (filesOf (filesFor o format depth nodes))
      (nodes.map (Sheet.mk depth)) := by
  rw [filesFor]
  -- the directory that is built so far is the accumulator, so the invariant is on it
  suffices h : ∀ (dir : Directory) (done : List Sheet),
      List.Forall₂ (Leaf o format depth) (filesOf dir) done →
      List.Forall₂ (Leaf o format depth)
        (filesOf (nodes.foldl (fun dir n => Directory.insertUnique dir (sanitize n.name)
          (.file (sheetCode o format ⟨depth, n⟩))) dir)) (done ++ nodes.map (Sheet.mk depth)) from
    h [] [] .nil
  induction nodes with
  | nil => intro dir done h; simpa using h
  | cons n nodes ih =>
    intro dir done h
    rw [List.foldl_cons, List.map_cons, ← List.singleton_append, ← List.append_assoc]
    apply ih
    rw [filesOf_insertUnique_file]
    exact List.rel_append h (.cons ⟨Nat.add_comm 1 depth, rfl⟩ .nil)

theorem leaves_directoriesFor (sets : List ArtboardSet) :
    List.Forall₂ (Leaf o format 1) (filesOf (directoriesFor o format sets))
      (sets.flatMap fun s => s.artboards.map (Sheet.mk 2)) := by
  rw [directoriesFor]
  suffices h : ∀ (dir : Directory) (done : List Sheet),
      List.Forall₂ (Leaf o format 1) (filesOf dir) done →
      List.Forall₂ (Leaf o format 1)
        (filesOf (sets.foldl (fun dir s => Directory.insertUnique dir (sanitize s.name)
          (.directory (filesFor o format 2 s.artboards))) dir))
        (done ++ sets.flatMap fun s => s.artboards.map (Sheet.mk 2)) from
    h [] [] .nil
  induction sets with
  | nil => intro dir done h; simpa using h
  | cons s sets ih =>
    intro dir done h
    rw [List.foldl_cons, List.flatMap_cons, ← List.append_assoc]
    apply ih
    rw [filesOf_insertUnique_directory]
    exact List.rel_append h (leaves_within _ (leaves_filesFor 2 s.artboards))

/-- **The leaves of a tree are the sheets of the document, in order**, each as deep as its sheet says
and with the code of its sheet. -/
theorem leaves_treeFor (d : Document) :
    List.Forall₂ (Leaf o format 0) (filesOf (treeFor o format d)) d.sheets := by
  rw [treeFor, filesOf_insertUnique_directory, filesOf_insertUnique_directory]
  exact List.rel_append (leaves_within _ (leaves_filesFor 1 d.artboards))
    (leaves_within _ (leaves_directoriesFor d.artboardSets))

/-- Generated code is laid out by `reindent`. -/
theorem leaves_generate (o : Options) (d : Document) :
    List.Forall₂ (Leaf o reindent 0) (filesOf (generate o d).1) d.sheets := by
  rw [generate_eq]
  exact leaves_treeFor d

/-- Every sheet has its leaf. -/
theorem leaf_of_sheet {above : Nat} {leaves : List (List String × String)} {sheets : List Sheet}
    (h : List.Forall₂ (Leaf o format above) leaves sheets) {i : Nat} {s : Sheet}
    (hs : sheets[i]? = some s) : ∃ leaf, leaves[i]? = some leaf ∧ Leaf o format above leaf s := by
  induction h generalizing i with
  | nil => cases hs
  | @cons leaf _ _ _ hleaf _ ih =>
    cases i with
    | zero =>
      cases hs
      exact ⟨leaf, rfl, hleaf⟩
    | succ i => exact ih hs

theorem codes_of_leaves {above : Nat} {leaves : List (List String × String)}
    {sheets : List Sheet} (h : List.Forall₂ (Leaf o format above) leaves sheets) :
    leaves.map Prod.snd = sheets.map (sheetCode o format) := by
  induction h with
  | nil => rfl
  | cons hleaf _ ih => rw [List.map_cons, List.map_cons, ih, hleaf.2]

end

/-! ## Exports one after the other -/

namespace Exporter

/-- The tree of a document, and the families that are remembered when it is written. -/
def result (e : Exporter) (d : Document) : Directory × List String :=
  ((e.run d).2, (e.run d).1.families)

/-- The results for documents that are exported one after the other. -/
def exports (e : Exporter) : List Document → List (Directory × List String)
  | [] => []
  | d :: ds => e.result d :: (e.run d).1.exports ds

/-- An exporter that has not exported anything. -/
def fresh (o : Options) (format : String → String) : Exporter := ⟨o, format, []⟩

/-- What is known of exports that are made one after the other. -/
structure Alone (o : Options) (format : String → String) (ds : List Document)
    (results : List (Directory × List String)) : Prop where
  /-- Every document is exported as if it were the only one. -/
  fresh : results = ds.map (Exporter.fresh o format).result
  /-- Every file has the formatted text of its own artboard: the base import, those of the nodes,
  each once, an empty line, and the body without markers. -/
  codes : ∀ d ∈ ds, List.Forall₂ (fun leaf (s : Sheet) => leaf.2 = format
      (Text.join "\n" (baseImport :: s.artboard.preorder.flatMap importsOf).eraseDups ++ "\n\n" ++
        unwrap (codeOf (Code.body o s.depth s.artboard))))
    (filesOf ((Exporter.fresh o format).result d).1) d.sheets
  /-- The body is a recursion on the node that knows nothing else but the options and how deep the
  file lies. -/
  body : ∀ (depth : Nat) (n : Node), Code.body o depth n =
    [opening (objectType n.metadata)] ++ nameLines o n ++ geometryLines n ++
      n.metadata.properties.map statement ++ displayLines n.metadata ++
      capabilityLines depth n.metadata ++ transformLines n ++
      n.children.flatMap (Code.body o depth) ++ [closingLine]
  /-- A file keeps its code when other artboards are changed. -/
  edits : ∀ d ∈ ds, ∀ (d' : Document) (i : Nat), d'.sheets[i]? = d.sheets[i]? →
    (filesOf ((Exporter.fresh o format).result d').1)[i]?.map Prod.snd =
      (filesOf ((Exporter.fresh o format).result d).1)[i]?.map Prod.snd

theorem result_eq (e : Exporter) (d : Document) :
    e.result d = (treeFor e.options e.format d, familiesOf d.nodes) := by
  rw [result, run_eq]

theorem exports_eq_map (e : Exporter) (ds : List Document) :
    e.exports ds = ds.map (fresh e.options e.format).result := by
  induction ds generalizing e with
  | nil => rfl
  | cons d ds ih =>
    rw [exports, ih, List.map_cons, result_eq, result_eq, run_eq]
    rfl

/-- **Exports do not depend on one another, and files do not depend on other artboards.** -/
theorem alone_exports (e : Exporter) (ds : List Document) :
    Alone e.options e.format ds (e.exports ds) where
  fresh := exports_eq_map e ds
  codes := by
    intro d _
    rw [result_eq]
    refine (leaves_treeFor d).imp ?_
    intro leaf s hleaf
    rw [hleaf.2, sheetCode, header_eq]
    rfl
  body := fun depth n => body_eq e.options depth n
  edits := by
    intro d _ d' i hsame
    rw [result_eq, result_eq, ← List.getElem?_map, ← List.getElem?_map,
      codes_of_leaves (leaves_treeFor d), codes_of_leaves (leaves_treeFor d'), List.getElem?_map,
      List.getElem?_map, fresh, hsame]

end Exporter

end Code

end QmlExport
