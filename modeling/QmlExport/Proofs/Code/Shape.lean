import Mathlib.Algebra.GroupWithZero.Nat
import Mathlib.Data.List.Induction
import QmlExport.Proofs.Code.Names
import QmlExport.Proofs.Code.Sheets

/-!
# The shape of code trees

An exporter adds one entry after the other, each under a free name, so a directory is determined by
the items it is filled with:

    items  ──one for each, in order──▶  entries

with the identifier of the item's name, or the first numbered one that is free (`Free`), for a name.
The invariant of filling is `OnePer`; adding an item keeps it (`OnePer.snoc`), and adding an item
touches nothing that is there already (`KeptAll`).

**A tree has one file for every artboard and one directory for every set, whatever their names are;
and a document with more at the end of its lists has a tree with more at the end of its directories**
(`shaped_run`).
-/

namespace QmlExport

namespace Design

/-- The same set with further artboards at the end. -/
structure ArtboardSet.Extends (s s' : ArtboardSet) : Prop where
  name : s'.name = s.name
  artboards : s.artboards <+: s'.artboards

/-- The same document with further artboards and sets at the end of its lists. -/
structure Document.Extends (d d' : Document) : Prop where
  artboards : d.artboards <+: d'.artboards
  sets : ∃ same added, d'.artboardSets = same ++ added ∧
    List.Forall₂ ArtboardSet.Extends d.artboardSets same

end Design

namespace Code

open Design Identifier

/-! ## Free names -/

namespace Directory

/-- The name that an entry gets: the wanted one if it is not in use, else the wanted one with the
least positive number behind it that is not. -/
inductive Free (used : List String) (wanted : String) : String → Prop
  | plain (unused : wanted ∉ used) : Free used wanted wanted
  | numbered (n : Nat) (taken : wanted ∈ used) (positive : 1 ≤ n)
      (unused : Directory.numbered wanted n ∉ used)
      (least : ∀ m, 1 ≤ m → m < n → Directory.numbered wanted m ∈ used) :
      Free used wanted (Directory.numbered wanted n)

/-- **The free name is the wanted one or the first numbered one.** -/
theorem free_freeName (d : Directory) (base : String) : Free d.names base (d.freeName base) := by
  unfold freeName
  simp only
  split
  · next hused =>
    have htaken : base ∈ d.names := List.contains_iff_mem.1 hused
    obtain ⟨i, hi⟩ := Option.isSome_iff_exists.1 (find?_numbered_isSome htaken)
    rw [hi]
    obtain ⟨hfree, _, hleast⟩ := List.find?_range_eq_some.1 hi
    refine .numbered (i + 1) htaken (Nat.le_add_left 1 i) (by simpa using hfree) ?_
    intro m hm hlt
    -- the search counts from zero and the numbers from one
    obtain ⟨j, rfl⟩ := Nat.exists_eq_add_of_le' hm
    simpa using hleast j (Nat.lt_of_succ_lt_succ hlt)
  · next hfree => exact .plain (by simpa using hfree)

theorem length_congr {d d' : Directory} (h : d.names = d'.names) : d.length = d'.length := by
  simpa [names] using congrArg List.length h

/-- Which name is free depends on the names in use alone. -/
theorem freeName_congr {d d' : Directory} (h : d.names = d'.names) (base : String) :
    d.freeName base = d'.freeName base := by
  unfold freeName
  rw [h, length_congr h]

theorem names_insertUnique (d : Directory) (base : String) (e : Entry) :
    (d.insertUnique base e).names = d.names ++ [d.freeName base] := by
  rw [insertUnique_eq, names, List.map_append]
  rfl

end Directory

/-! ## Filling a directory -/

section

variable {α : Type} {wanted : α → String} {holds : α → Entry → Prop} {items : List α}
  {dir : Directory}

/-- A directory has one entry for each item: in order, under distinct identifiers, each of them free
among the names before it. -/
structure OnePer (wanted : α → String) (holds : α → Entry → Prop) (items : List α)
    (dir : Directory) : Prop where
  size : dir.length = items.length
  distinct : dir.names.Nodup
  identifiers : ∀ name ∈ dir.names, IsIdentifier name
  entry : ∀ i a, items[i]? = some a → ∃ name e, dir[i]? = some (name, e) ∧
    Directory.Free (dir.names.take i) (sanitize (wanted a)) name ∧ holds a e

/-- The empty directory has one entry for each of no items. -/
theorem OnePer.nil : OnePer wanted holds [] [] where
  size := rfl
  distinct := List.nodup_nil
  identifiers := by
    intro name hname
    cases hname
  entry := by
    intro i a ha
    cases ha

/-- **One more item is one more entry at the end.** -/
theorem OnePer.snoc (h : OnePer wanted holds items dir) {a : α} {e : Entry} (he : holds a e) :
    OnePer wanted holds (items ++ [a]) (dir.insertUnique (sanitize (wanted a)) e) where
  size := by rw [Directory.insertUnique_eq, List.length_append, List.length_append, h.size]; rfl
  distinct := Directory.nodup_insertUnique h.distinct _ _
  identifiers := by
    intro name hname
    rw [Directory.names_insertUnique] at hname
    rcases List.mem_append.1 hname with hold | hnew
    · exact h.identifiers name hold
    · obtain rfl := List.mem_singleton.1 hnew
      exact Directory.isIdentifier_freeName (isIdentifier_sanitize _)
  entry := by
    intro i b hb
    have hlength : dir.names.length = items.length := by
      rw [Directory.names, List.length_map, h.size]
    rw [Directory.names_insertUnique, Directory.insertUnique_eq]
    rcases Nat.lt_or_ge i items.length with hi | hi
    · -- the names before an earlier entry are the same as ever
      rw [List.getElem?_append_left hi] at hb
      rw [List.getElem?_append_left (h.size ▸ hi),
        List.take_append_of_le_length (hlength ▸ Nat.le_of_lt hi)]
      exact h.entry i b hb
    · rw [List.getElem?_append_right hi, List.getElem?_singleton] at hb
      split at hb
      · next hlast =>
        cases hb
        have hi : i = items.length := by omega
        rw [List.getElem?_append_right (by rw [h.size]; exact Nat.le_of_eq hi.symm), h.size, hlast,
          List.take_left' (by rw [hlength, hi])]
        exact ⟨_, e, rfl, Directory.free_freeName dir _, he⟩
      · cases hb

end

section

variable {α : Type} (wanted : α → String) (content : α → Entry)

/-- Add an entry for each item, under the identifier made from the name that it wants. -/
def addAll (dir : Directory) (items : List α) : Directory :=
  items.foldl (fun dir a => Directory.insertUnique dir (sanitize (wanted a)) (content a)) dir

theorem addAll_concat (dir : Directory) (items : List α) (a : α) :
    addAll wanted content dir (items ++ [a]) =
      Directory.insertUnique (addAll wanted content dir items) (sanitize (wanted a)) (content a) :=
  List.foldl_concat ..

theorem addAll_append (dir : Directory) (items further : List α) :
    addAll wanted content dir (items ++ further) =
      addAll wanted content (addAll wanted content dir items) further :=
  List.foldl_append ..

/-- **A directory that is filled with items has one entry for each item.** -/
theorem onePer_addAll {holds : α → Entry → Prop} (h : ∀ a, holds a (content a)) (items : List α) :
    OnePer wanted holds items (addAll wanted content [] items) := by
  induction items using List.reverseRecOn with
  | nil => exact .nil
  | append_singleton items a ih =>
    rw [addAll_concat]
    exact ih.snoc (h a)

/-- A numbered name keeps clear of names that look numbered, wherever they stand. -/
example : (addAll id Entry.file [] ["Card", "Card 1", "Card", "1Card"]).names =
    ["Card", "Card1", "Card2", "Card11"] := by decide

/-- Entries are added at the end. -/
theorem exists_addAll_eq_append (dir : Directory) (items : List α) :
    ∃ added, addAll wanted content dir items = dir ++ added := by
  induction items using List.reverseRecOn with
  | nil => exact ⟨[], (List.append_nil dir).symm⟩
  | append_singleton items a ih =>
    obtain ⟨added, hadded⟩ := ih
    rw [addAll_concat, hadded, Directory.insertUnique_eq, List.append_assoc]
    exact ⟨_, rfl⟩

end

section

variable (o : Options) (format : String → String)

theorem filesFor_eq_addAll (depth : Nat) (nodes : List Node) :
    filesFor o format depth nodes =
      addAll Node.name (fun n => .file (sheetCode o format ⟨depth, n⟩)) [] nodes :=
  rfl

theorem directoriesFor_eq_addAll (sets : List ArtboardSet) :
    directoriesFor o format sets =
      addAll ArtboardSet.name (fun s => .directory (filesFor o format 2 s.artboards)) [] sets :=
  rfl

/-- The tree for a document has the two directories and nothing else. -/
theorem treeFor_eq (d : Document) :
    treeFor o format d =
      [("Root", .directory (filesFor o format 1 d.artboards)),
        ("Components", .directory (directoriesFor o format d.artboardSets))] := by
  rfl

theorem names_treeFor (d : Document) : (treeFor o format d).names = ["Root", "Components"] := by
  rw [treeFor_eq]
  rfl

end

/-! ## What is kept -/

mutual
/-- An entry that still has everything it had: a file its code, a directory its entries. -/
inductive Kept : Entry → Entry → Prop
  | file (code : String) : Kept (.file code) (.file code)
  | directory {es fs : List (String × Entry)} : KeptAll es fs → Kept (.directory es) (.directory fs)

/-- A directory that still has all its entries in their places and under their names, with others
behind them. -/
inductive KeptAll : List (String × Entry) → List (String × Entry) → Prop
  | nil (added : List (String × Entry)) : KeptAll [] added
  | cons {name : String} {e f : Entry} {es fs : List (String × Entry)} :
      Kept e f → KeptAll es fs → KeptAll ((name, e) :: es) ((name, f) :: fs)
end

mutual
theorem Kept.refl : (e : Entry) → Kept e e
  | .file code => .file code
  | .directory es => .directory (by simpa using KeptAll.of_append es [])

/-- Entries behind a directory leave it as it is. -/
theorem KeptAll.of_append : (es added : List (String × Entry)) → KeptAll es (es ++ added)
  | [], added => .nil added
  | (_, e) :: es, added => .cons (Kept.refl e) (KeptAll.of_append es added)
end

namespace KeptAll

variable {es fs gs : List (String × Entry)}

theorem append_right (h : KeptAll es fs) (added : List (String × Entry)) :
    KeptAll es (fs ++ added) := by
  induction es generalizing fs with
  | nil => exact .nil _
  | cons e es ih =>
    cases h with
    | cons he hes => exact .cons he (ih hes)

theorem refl (es : List (String × Entry)) : KeptAll es es := by
  simpa using of_append es []

/-- One more entry in the same place. -/
theorem snoc (h : KeptAll es fs) (hlength : es.length = fs.length) {name : String} {e f : Entry}
    (he : Kept e f) : KeptAll (es ++ [(name, e)]) (fs ++ [(name, f)]) := by
  induction es generalizing fs with
  | nil =>
    cases fs with
    | nil => exact .cons he (.nil [])
    | cons => cases hlength
  | cons e es ih =>
    cases h with
    | cons he hes => exact .cons he (ih hes (Nat.succ.inj hlength))

end KeptAll

/-! ## Longer documents -/

section

variable {α : Type} {wanted : α → String} {content : α → Entry} {items items' : List α}

/-- Further items leave the entries that are there. -/
theorem keptAll_addAll_append {es : List (String × Entry)} {dir : Directory}
    (h : KeptAll es (addAll wanted content dir items)) (further : List α) :
    KeptAll es (addAll wanted content dir (items ++ further)) := by
  obtain ⟨added, hadded⟩ :=
    exists_addAll_eq_append wanted content (addAll wanted content dir items) further
  rw [addAll_append, hadded]
  exact h.append_right added

/-- Items that want the same names and keep what they hold fill the same places. -/
theorem keptAll_addAll
    (h : List.Forall₂ (fun a a' => wanted a' = wanted a ∧ Kept (content a) (content a')) items
      items') {dir dir' : Directory} (hnames : dir.names = dir'.names) (hkept : KeptAll dir dir') :
    KeptAll (addAll wanted content dir items) (addAll wanted content dir' items') := by
  induction h generalizing dir dir' with
  | nil => exact hkept
  | @cons a a' _ _ ha _ ih =>
    have hfree := Directory.freeName_congr hnames (sanitize (wanted a))
    rw [addAll, addAll, List.foldl_cons, List.foldl_cons, ha.1]
    apply ih
    · rw [Directory.names_insertUnique, Directory.names_insertUnique, hnames, hfree]
    · rw [Directory.insertUnique_eq, Directory.insertUnique_eq, hfree]
      exact hkept.snoc (Directory.length_congr hnames) ha.2

end

section

variable {o : Options} {format : String → String}

theorem keptAll_filesFor (depth : Nat) {nodes nodes' : List Node} (h : nodes <+: nodes') :
    KeptAll (filesFor o format depth nodes) (filesFor o format depth nodes') := by
  obtain ⟨further, rfl⟩ := h
  exact keptAll_addAll_append (KeptAll.refl _) further

theorem keptAll_directoriesFor {sets same added : List ArtboardSet}
    (h : List.Forall₂ ArtboardSet.Extends sets same) :
    KeptAll (directoriesFor o format sets) (directoriesFor o format (same ++ added)) := by
  refine keptAll_addAll_append (keptAll_addAll ?_ rfl (.nil [])) added
  refine h.imp ?_
  intro s s' hs
  exact ⟨hs.name, .directory (keptAll_filesFor 2 hs.artboards)⟩

/-- **A longer document keeps the tree of the shorter one.** -/
theorem keptAll_treeFor {d d' : Document} (h : d.Extends d') :
    KeptAll (treeFor o format d) (treeFor o format d') := by
  obtain ⟨same, added, hsets, hsame⟩ := h.sets
  rw [treeFor_eq, treeFor_eq, hsets]
  exact .cons (.directory (keptAll_filesFor 1 h.artboards))
    (.cons (.directory (keptAll_directoriesFor hsame)) (.nil []))

end

/-! ## Counting files -/

mutual
theorem length_files : (e : Entry) → e.files.length = e.fileCount
  | .file _ => rfl
  | .directory es => length_filesOf es

/-- Files are counted without listing them. -/
theorem length_filesOf : (es : List (String × Entry)) → (filesOf es).length = countFiles es
  | [] => rfl
  | (_, e) :: es => by
    rw [filesOf, List.length_append, List.length_map, length_files e, length_filesOf es, countFiles]
end

/-- There are as many files as artboards. -/
theorem countFiles_treeFor (o : Options) (format : String → String) (d : Document) :
    countFiles (treeFor o format d) =
      d.artboards.length + (d.artboardSets.map (·.artboards.length)).sum := by
  rw [← length_filesOf, (leaves_treeFor d).length_eq, Document.sheets, List.length_append,
    List.length_map, List.length_flatMap]
  simp only [List.length_map]

/-! ## The shape of a tree -/

/-- A directory with one file for each artboard. -/
def FilePer (o : Options) (format : String → String) (depth : Nat) (nodes : List Node)
    (files : Directory) : Prop :=
  OnePer Node.name (fun n e => e = .file (sheetCode o format ⟨depth, n⟩)) nodes files

/-- What is known of the tree for a document. -/
structure Shaped (e : Exporter) (d : Document) (tree : Directory) : Prop where
  /-- There are two directories. The first has a file for each artboard; the other has a directory
  for each set, and that one a file for each artboard of the set. -/
  directories : ∃ root components : Directory,
    tree = [("Root", .directory root), ("Components", .directory components)] ∧
    FilePer e.options e.format 1 d.artboards root ∧
    OnePer ArtboardSet.name
      (fun s e' => ∃ files, e' = .directory files ∧
        FilePer e.options e.format 2 s.artboards files) d.artboardSets components
  identifiers : ∀ name ∈ tree.names, IsIdentifier name
  /-- The number of files is that of all artboards. -/
  count : countFiles tree = d.artboards.length + (d.artboardSets.map (·.artboards.length)).sum
  /-- A document with more at the end of its lists has the same names and the same code, and others
  behind them. -/
  kept : ∀ d', d.Extends d' → KeptAll tree (e.run d').2

theorem filePer_filesFor (o : Options) (format : String → String) (depth : Nat)
    (nodes : List Node) : FilePer o format depth nodes (filesFor o format depth nodes) := by
  rw [FilePer, filesFor_eq_addAll]
  apply onePer_addAll
  intro n
  rfl

/-- **Every artboard has its file and every set its directory**, in the order of the document and
under names that tell them apart. -/
theorem shaped_run (e : Exporter) (d : Document) : Shaped e d (e.run d).2 := by
  rw [Exporter.run_eq]
  exact {
    directories := by
      refine ⟨_, _, treeFor_eq e.options e.format d, filePer_filesFor .., ?_⟩
      rw [directoriesFor_eq_addAll]
      apply onePer_addAll
      intro s
      exact ⟨_, rfl, filePer_filesFor ..⟩
    identifiers := by
      intro name hname
      rw [names_treeFor] at hname
      rcases List.mem_pair.1 hname with rfl | rfl
      · exact isIdentifier_of_toList rfl rfl rfl
      · exact isIdentifier_of_toList rfl rfl rfl
    count := countFiles_treeFor e.options e.format d
    kept := by
      intro d' h
      rw [Exporter.run_eq]
      exact keptAll_treeFor h }

end Code

end QmlExport
