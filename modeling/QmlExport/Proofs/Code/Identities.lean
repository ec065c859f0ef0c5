import QmlExport.Proofs.Code.Names
import QmlExport.Proofs.Code.Rows

/-!
# Identifiers of objects

When unique identifiers are asked for, every node that has one gets a row `id: …`. What stands there
is made of the letters and digits of the unique identifier:

    unique identifier ──core──▶ letters and digits ──idChars──▶ id

The digits at the front go to the end, the first letter becomes a small one, and a letter is put
where there is none. None of this keeps everything apart, so two unique identifiers may *meet* in one
id. `Meets` says when, by the letters and digits alone, and is characterized by

    objectId u = objectId v ↔ Meets (core u) (core v)      (`objectId_eq_iff`).

**So the ids of a file are pairwise different exactly when no two unique identifiers of its nodes
meet** (`identified_generate`), and different ones may meet (`equal_ids_of_different_uuids`).
-/

namespace QmlExport

namespace Identifier

/-! ## Letters and digits -/

/-- The id that is made of a unique identifier. -/
def objectId (name : String) : String := lowerFirst (sanitize name)

/-- The letters and digits of a name. -/
def core (name : String) : List Char := name.toList.filter Char.isAlphanum

/-- The characters of the id that is made of letters and digits. -/
def idChars (cs : List Char) : List Char :=
  match rotateDigits (withLetter cs) with
  | [] => []
  | d :: ds => d.toLower :: ds

theorem toList_sanitize (name : String) :
    (sanitize name).toList = rotateDigits (withLetter (core name)) := by
  rw [sanitize, String.toList_ofList]
  rfl

theorem toList_objectId (name : String) : (objectId name).toList = idChars (core name) := by
  rw [objectId, lowerFirst, idChars, ← toList_sanitize]
  cases (sanitize name).toList with
  | nil => rfl
  | cons c cs => exact String.toList_ofList

theorem isAlphanum_core (name : String) : ∀ c ∈ core name, c.isAlphanum :=
  fun _ hc => (List.mem_filter.1 hc).2

/-- Among letters and digits, what is no letter is a digit. -/
theorem isDigit_of_not_any {cs : List Char} (hall : ∀ c ∈ cs, c.isAlphanum)
    (hnone : ¬ cs.any Char.isAlpha) : ∀ c ∈ cs, c.isDigit := by
  intro c hc
  have hletter : c.isAlpha = false := by
    rw [← Bool.not_eq_true]
    exact fun h => hnone (List.any_eq_true.2 ⟨c, hc, h⟩)
  simpa [Char.isAlphanum, hletter] using hall c hc

/-- Letters and digits are digits only, or cut at the first letter. -/
theorem digits_or_cut {cs : List Char} (hall : ∀ c ∈ cs, c.isAlphanum) :
    (∀ c ∈ cs, c.isDigit) ∨
      ∃ front c back, cs = front ++ c :: back ∧ (∀ d ∈ front, d.isDigit) ∧ c.isAlpha := by
  by_cases hany : cs.any Char.isAlpha
  · obtain ⟨c, back, hdrop, hc⟩ := exists_dropWhile_isDigit hall hany
    refine .inr ⟨cs.takeWhile Char.isDigit, c, back, ?_, ?_, hc⟩
    · rw [← hdrop, List.takeWhile_append_dropWhile]
    · exact fun d hd => List.all_eq_true.1 List.all_takeWhile d hd
  · exact .inl (isDigit_of_not_any hall hany)

/-- Without a letter, the placeholder stands in for the first character. -/
theorem rotateDigits_withLetter {cs : List Char} (h : ¬ cs.any Char.isAlpha) :
    rotateDigits (withLetter cs) = placeholder :: cs.drop 1 := by
  have hfront : ¬ placeholder.isDigit := by decide
  rw [withLetter, if_neg h, rotateDigits, List.dropWhile_cons_of_neg hfront,
    List.takeWhile_cons_of_neg hfront, List.append_nil]

/-- Digits make an id that starts with the placeholder. -/
theorem idChars_of_digits {cs : List Char} (h : ∀ c ∈ cs, c.isDigit) :
    idChars cs = placeholder :: cs.drop 1 := by
  have hnone : ¬ cs.any Char.isAlpha := by
    intro hany
    obtain ⟨c, hc, hletter⟩ := List.any_eq_true.1 hany
    have hdigit := h c hc
    rw [isDigit_of_isAlpha hletter] at hdigit
    cases hdigit
  rw [idChars, rotateDigits_withLetter hnone]
  rfl

/-- The digits in front of the first letter go to the end. -/
theorem idChars_of_letter {front back : List Char} {c : Char} (hfront : ∀ d ∈ front, d.isDigit)
    (hc : c.isAlpha) : idChars (front ++ c :: back) = c.toLower :: (back ++ front) := by
  have hany : (front ++ c :: back).any Char.isAlpha :=
    List.any_eq_true.2 ⟨c, List.mem_append_right _ List.mem_cons_self, hc⟩
  have hstop : ¬ c.isDigit := by rw [isDigit_of_isAlpha hc]; decide
  rw [idChars, withLetter, if_pos hany, rotateDigits, List.dropWhile_append_of_pos hfront,
    List.takeWhile_append_of_pos hfront, List.dropWhile_cons_of_neg hstop,
    List.takeWhile_cons_of_neg hstop, List.append_nil]
  rfl

/-! ## Meeting -/

/-- Two rows of letters and digits make one id. -/
inductive Meets : List Char → List Char → Prop
  /-- The digits at the end of one stand at the front of the other, and the first letters are the same
  but for their case. -/
  | turned {front moved rest : List Char} {c d : Char} (hc : c.isAlpha) (hd : d.isAlpha)
    (hcase : c.toLower = d.toLower) (hfront : ∀ x ∈ front, x.isDigit)
    (hmoved : ∀ x ∈ moved, x.isDigit) :
    Meets (front ++ c :: (rest ++ moved)) (moved ++ front ++ d :: rest)
  /-- Neither has a letter, and without their first digits they are the same. -/
  | numbers {as bs : List Char} (has : ∀ x ∈ as, x.isDigit) (hbs : ∀ x ∈ bs, x.isDigit)
    (hrest : as.drop 1 = bs.drop 1) : Meets as bs
  /-- One has no letter and the other the placeholder alone, with the digits behind the first one
  around it. -/
  | placed {front back bs : List Char} {c : Char} (hc : c.isAlpha)
    (hcase : c.toLower = placeholder) (hfront : ∀ x ∈ front, x.isDigit)
    (hbs : ∀ x ∈ bs, x.isDigit) (hrest : back ++ front = bs.drop 1) :
    Meets (front ++ c :: back) bs
  | symm {as bs : List Char} (h : Meets as bs) : Meets bs as

theorem Meets.idChars_eq {as bs : List Char} (h : Meets as bs) : idChars as = idChars bs := by
  induction h with
  | turned hc hd hcase hfront hmoved =>
    have hboth := List.forall_mem_append.2 ⟨hmoved, hfront⟩
    rw [idChars_of_letter hfront hc, idChars_of_letter hboth hd, hcase, List.append_assoc]
  | numbers has hbs hrest => rw [idChars_of_digits has, idChars_of_digits hbs, hrest]
  | placed hc hcase hfront hbs hrest =>
    rw [idChars_of_letter hfront hc, idChars_of_digits hbs, hcase, hrest]
  | symm _ ih => exact ih.symm

theorem meets_of_idChars_eq {as bs : List Char} (has : ∀ c ∈ as, c.isAlphanum)
    (hbs : ∀ c ∈ bs, c.isAlphanum) (h : idChars as = idChars bs) : Meets as bs := by
  rcases digits_or_cut has with has | ⟨front, c, back, rfl, hfront, hc⟩ <;>
    rcases digits_or_cut hbs with hbs | ⟨front', d, back', rfl, hfront', hd⟩
  · rw [idChars_of_digits has, idChars_of_digits hbs] at h
    exact .numbers has hbs (List.cons.inj h).2
  · rw [idChars_of_digits has, idChars_of_letter hfront' hd] at h
    exact .symm (.placed hd (List.cons.inj h).1.symm hfront' has (List.cons.inj h).2.symm)
  · rw [idChars_of_letter hfront hc, idChars_of_digits hbs] at h
    exact .placed hc (List.cons.inj h).1 hfront hbs (List.cons.inj h).2
  · rw [idChars_of_letter hfront hc, idChars_of_letter hfront' hd] at h
    obtain ⟨hcase, hrest⟩ := List.cons.inj h
    -- one of the two has more digits at the front, and they end the other one
    rcases List.append_eq_append_iff.1 hrest with ⟨moved, rfl, rfl⟩ | ⟨moved, rfl, rfl⟩
    · rw [List.forall_mem_append] at hfront
      exact .symm (.turned hd hc hcase.symm hfront' hfront.1)
    · rw [List.forall_mem_append] at hfront'
      exact .turned hc hd hcase hfront hfront'.1

/-- **Two unique identifiers make one id exactly when they meet.** -/
theorem objectId_eq_iff (u v : String) : objectId u = objectId v ↔ Meets (core u) (core v) := by
  rw [← String.toList_inj, toList_objectId, toList_objectId]
  exact ⟨meets_of_idChars_eq (isAlphanum_core u) (isAlphanum_core v), Meets.idChars_eq⟩

/-- An id is a small letter with letters and digits behind it. -/
theorem objectId_form (name : String) : ∃ c cs, (objectId name).toList = c :: cs ∧ c.isLower ∧
    ∀ d ∈ cs, d.isAlphanum := by
  obtain ⟨c, cs, hname, hc, hall⟩ := isIdentifier_sanitize name
  refine ⟨c.toLower, cs, ?_, isLower_toLower hc, fun d hd => hall d (List.mem_cons_of_mem _ hd)⟩
  rw [objectId, lowerFirst, hname, String.toList_ofList]

end Identifier

namespace Design

mutual
/-- The nodes of a tree, each before its children, with their addresses. -/
def Node.located (address : List Nat) : Node → List (List Nat × Node)
  | ⟨name, x, y, w, h, z, children, m⟩ =>
    (address, ⟨name, x, y, w, h, z, children, m⟩) :: locatedAll address 0 children

/-- The nodes below a node, its children from the `i`-th on. -/
def locatedAll (address : List Nat) (i : Nat) : List Node → List (List Nat × Node)
  | [] => []
  | n :: ns => n.located (address ++ [i]) ++ locatedAll address (i + 1) ns
end

mutual
theorem map_snd_located (address : List Nat) (n : Node) :
    (n.located address).map Prod.snd = n.preorder := by
  match n with
  | ⟨name, x, y, w, h, z, children, m⟩ =>
    rw [Node.located, Node.preorder, List.map_cons, map_snd_locatedAll address 0 children]

theorem map_snd_locatedAll (address : List Nat) (i : Nat) (ns : List Node) :
    (locatedAll address i ns).map Prod.snd = preorderAll ns := by
  match ns with
  | [] => rfl
  | n :: ns =>
    rw [locatedAll, preorderAll, List.map_append, map_snd_located _ n,
      map_snd_locatedAll address (i + 1) ns]
end

/-- The unique identifiers in a tree, in the order of its nodes. -/
def Node.uuids (n : Node) : List String := n.preorder.filterMap (·.metadata.uuid)

end Design

namespace Code

open Design Identifier Text

/-! ## The rows of ids -/

/-- The text of the row with the id that is made of a unique identifier. -/
def idText (uuid : String) : List Char := "id: ".toList ++ (objectId uuid).toList

/-- The row with the id of a node at an address. -/
def idRow? (e : List Nat × Node) : Option Row :=
  e.2.metadata.uuid.map fun u => ⟨e.1, .property, idText u⟩

/-- The rows with the ids of the nodes of a sheet, one behind the other. -/
def idRows (s : Sheet) : List Row := (s.artboard.located []).filterMap idRow?

theorem map_text_idRows (s : Sheet) : (idRows s).map Row.text = s.artboard.uuids.map idText := by
  rw [idRows, Node.uuids, ← map_snd_located [], List.filterMap_map, List.map_filterMap,
    List.map_filterMap]
  congr 1
  funext e
  rw [Function.comp_apply, idRow?, Option.map_map]
  rfl

/-- Letters and digits are neither blank nor part of a marker. -/
theorem plain_of_isAlphanum {c : Char} (h : c.isAlphanum) : isBlank c = false ∧ c ≠ '(' :=
  of_isAlphanum (P := fun c => isBlank c = false ∧ c ≠ '(') (by decide) h

theorem plain_objectId (u : String) :
    ∀ d ∈ (objectId u).toList, isBlank d = false ∧ d ≠ '(' := by
  obtain ⟨c, cs, hid, hc, hcs⟩ := objectId_form u
  rw [hid]
  exact List.forall_mem_cons.2 ⟨plain_of_isAlphanum (isAlphanum_of_isLower hc),
    fun d hd => plain_of_isAlphanum (hcs d hd)⟩

/-- **A line with an id makes one row.** -/
theorem rowsOfLine_idLine (address : List Nat) (u : String) :
    rowsOfLine address .property (idLine u) = [⟨address, .property, idText u⟩] := by
  have htext : (idLine u).toList = idText u := by
    rw [idLine, property, String.toList_append, String.toList_append]
    rfl
  have hplain := plain_objectId u
  have hmarker : '(' ∉ idText u := by
    intro hmem
    rcases List.mem_append.1 hmem with hmem | hmem
    · exact absurd hmem (by decide)
    · exact (hplain _ hmem).2 rfl
  have hline : '\n' ∉ idText u := by
    intro hmem
    rcases List.mem_append.1 hmem with hmem | hmem
    · exact absurd hmem (by decide)
    · exact absurd (hplain _ hmem).1 (by decide)
  have htrimmed : Trimmed (idText u) := by
    -- only the ends count: the name of the property, and the last character of the id
    obtain ⟨c, cs, hid, _⟩ := objectId_form u
    have hne : (objectId u).toList ≠ [] := by rw [hid]; exact List.cons_ne_nil _ _
    have hlast := (hplain _ (List.getLast_mem hne)).1
    have hends : idText u = ("id: ".toList ++ (objectId u).toList.dropLast) ++
        [(objectId u).toList.getLast hne] := by
      rw [List.append_assoc, List.dropLast_append_getLast, idText]
    exact trimmed_of_ends (by decide) hlast hends
  rw [← htext] at hmarker hline htrimmed
  have hne : (idLine u).toList ≠ [] := by rw [htext]; exact List.cons_ne_nil _ _
  rw [rowsOfLine, spoken_plain hmarker hline htrimmed hne, htext]
  rfl

section

variable {o : Options} (k : Nat)

/-- The id of a node is one of its rows. -/
theorem idRow_sublist_headRows (ho : o.idSource = some .unique) (address : List Nat) (n : Node) :
    (idRow? (address, n)).toList.Sublist (headRows o k address n) := by
  cases hu : n.metadata.uuid with
  | none =>
    rw [idRow?, hu]
    exact List.nil_sublist _
  | some u =>
    have hline : idLine u ∈ propertyLines o k n := by
      simp only [propertyLines, nameLines, identifier?, ho, hu, Option.map_some,
        Option.toList_some, List.mem_append, List.mem_singleton, true_or]
    have hrow : ⟨address, .property, idText u⟩ ∈
        (propertyLines o k n).flatMap (rowsOfLine address .property) := by
      apply List.mem_flatMap_of_mem hline
      rw [rowsOfLine_idLine]
      exact List.mem_singleton_self _
    rw [idRow?, hu]
    exact List.singleton_sublist.2 (List.mem_append_left _ (List.mem_append_right _ hrow))

mutual
/-- **The ids of a tree stand in its rows, in the order of its nodes.** -/
theorem idRows_sublist_rows (ho : o.idSource = some .unique) (n : Node) (address : List Nat) :
    ((n.located address).filterMap idRow?).Sublist (rows o k address n) := by
  match n with
  | ⟨name, x, y, w, h, z, children, m⟩ =>
    -- the row of the node stands before its children, and so does the node
    have hhead := idRow_sublist_headRows k ho address ⟨name, x, y, w, h, z, children, m⟩
    have hbelow := idRows_sublist_rowsBelow ho children address 0
    rw [Node.located, rows, List.filterMap_eq_flatMap_toList, List.flatMap_cons,
      ← List.filterMap_eq_flatMap_toList]
    exact (hhead.append hbelow).trans (List.sublist_append_left _ _)

theorem idRows_sublist_rowsBelow (ho : o.idSource = some .unique) (ns : List Node)
    (address : List Nat) (i : Nat) :
    ((locatedAll address i ns).filterMap idRow?).Sublist (rowsBelow o k address i ns) := by
  match ns with
  | [] => exact List.Sublist.refl _
  | n :: ns =>
    rw [locatedAll, rowsBelow, List.filterMap_append]
    exact (idRows_sublist_rows ho n _).append (idRows_sublist_rowsBelow ho ns address (i + 1))
end

end

/-! ## The ids of a file -/

/-- What is known of the ids in the file of a sheet. -/
structure Identified (o : Options) (s : Sheet) (code : String) : Prop where
  rows : spoken code.toList = (sheetRows o s).map Row.text
  /-- Every node with a unique identifier has its row, and the rows come in the order of the nodes. -/
  lines : (idRows s).Sublist (sheetRows o s)
  /-- What stands there is made of the unique identifiers. -/
  values : (idRows s).map Row.text = s.artboard.uuids.map idText
  /-- The rows are pairwise different if and only if no two unique identifiers meet. -/
  distinct : ((idRows s).map Row.text).Nodup ↔
    s.artboard.uuids.Pairwise fun u v => ¬ Meets (core u) (core v)
  /-- Every id is a small letter with letters and digits behind it. -/
  form : ∀ u ∈ s.artboard.uuids, ∃ c cs, (objectId u).toList = c :: cs ∧ c.isLower ∧
    ∀ d ∈ cs, d.isAlphanum

theorem nodup_idRows (s : Sheet) : ((idRows s).map Row.text).Nodup ↔
    s.artboard.uuids.Pairwise fun u v => ¬ Meets (core u) (core v) := by
  have hsame : ∀ u v, idText u = idText v ↔ Meets (core u) (core v) := by
    intro u v
    rw [← objectId_eq_iff, idText, idText, List.append_cancel_left_eq, String.toList_inj]
  rw [map_text_idRows, List.Nodup, List.pairwise_map]
  simp only [ne_eq, hsame]

theorem identified_sheetCode {o : Options} (ho : o.idSource = some .unique) (s : Sheet) :
    Identified o s (sheetCode o reindent s) where
  rows := spoken_sheetCode o s
  lines := (idRows_sublist_rows s.depth ho s.artboard []).trans (List.sublist_append_right _ _)
  values := map_text_idRows s
  distinct := nodup_idRows s
  form := fun u _ => objectId_form u

/-- **The ids of a file are pairwise different exactly when no two unique identifiers of its nodes
meet**, for every document, when unique identifiers are asked for. -/
theorem identified_generate (o : Options) (ho : o.idSource = some .unique) (d : Document) :
    List.Forall₂ (fun leaf s => Identified o s leaf.2) (filesOf (generate o d).1) d.sheets := by
  refine (leaves_generate o d).imp ?_
  intro leaf s hleaf
  rw [hleaf.2]
  exact identified_sheetCode ho s

/-- The options that ask for unique identifiers and nothing else. -/
def uniqueIds : Options := Options.none.toggleUniqueIds true

/-- A node with a unique identifier and nothing else. -/
def marked (uuid : String) (children : List Node) : Node :=
  ⟨"A", none, none, none, none, none, children, { Metadata.empty with uuid := some uuid }⟩

/-- An artboard with a node inside. -/
def nested (outer inner : String) : Node := marked outer [marked inner []]

theorem identified_nested : uniqueIds.idSource = some .unique ∧
    List.Forall₂ (fun leaf s => Identified uniqueIds s leaf.2)
      (filesOf (generate uniqueIds ⟨[nested "3A-1" "3B-1"], [], none⟩).1)
      (Document.mk [nested "3A-1" "3B-1"] [] none).sheets :=
  ⟨rfl, identified_generate uniqueIds rfl _⟩

/-- Unique identifiers that differ in the first digit only. -/
def alike : Node :=
  nested "10000000-0000-4000-8000-000000000000" "20000000-0000-4000-8000-000000000000"

/-- Without letters, the first digit gives way to the placeholder. -/
theorem map_text_alike : (sheetRows uniqueIds ⟨1, alike⟩).map Row.text =
    ["import QtQuick".toList, "Item \x7b".toList,
      "id: a0000000000040008000000000000000".toList, "Item \x7b".toList,
      "id: a0000000000040008000000000000000".toList, "\x7d".toList, "\x7d".toList] := by
  decide +kernel

/-- Different unique identifiers may make one id. -/
theorem equal_ids_of_different_uuids :
    uniqueIds.idSource = some .unique ∧ alike.uuids.Nodup ∧
      ∃ leaf, filesOf (generate uniqueIds ⟨[alike], [], none⟩).1 = [leaf] ∧
        ¬ ((spoken leaf.2.toList).filter ("id: ".toList.isPrefixOf ·)).Nodup := by
  have hleaves := leaves_generate uniqueIds ⟨[alike], [], none⟩
  obtain ⟨leaf, others, hleaf, hothers, hfiles⟩ := List.forall₂_cons_right_iff.1 hleaves
  rw [List.forall₂_nil_right_iff.1 hothers] at hfiles
  refine ⟨rfl, by decide, leaf, hfiles, ?_⟩
  rw [hleaf.2, spoken_sheetCode, map_text_alike]
  decide

end Code

end QmlExport
