import QmlExport.Proofs.Code.Rows

/-!
# Texts in code

The file of an artboard has four rows for the texts of every text node: what it says, its color, its
font family and its font style. Each value is one literal, whatever it is, and the literal survives
being laid out. Markers are taken off it as off any other code, though. **A literal is read back as
the text of the document, without carriage returns, exactly when there is no marker in that text**
(`textsSaid_generate`).
-/

namespace QmlExport.Code

open Design Text

/-- The texts of a text node with the names of their properties, in the order of the code. -/
def textFields (t : TextDetails) : List (String × String) :=
  [("text", t.contents), ("color", t.textColor), ("font.family", t.fontFamily),
    ("font.styleName", t.fontDisplayName)]

/-- What the rows of a sheet say of a text node. -/
structure TextSaid (o : Options) (s : Sheet) (address : List Nat) (t : TextDetails) : Prop where
  /-- The four texts are rows of the node, one behind the other. -/
  rows : (textFields t).map (fun f => ⟨address, .property, quotedText f.1 f.2⟩) <:+: sheetRows o s
  /-- Behind the name of the property stands one literal, which is read as the text without carriage
  returns if and only if that has no marker. -/
  literals : ∀ f ∈ textFields t, ∃ literal,
    quotedText f.1 f.2 = f.1.toList ++ [':', ' '] ++ literal ∧
      unquote literal = some (kept f.2.toList) ∧
      (unquote literal = some (withoutReturns f.2.toList) ↔ ¬ Marked (withoutReturns f.2.toList))

/-- What the file of a sheet says of texts. -/
structure TextsSaid (o : Options) (s : Sheet) (code : String) : Prop where
  rows : spoken code.toList = (sheetRows o s).map Row.text
  texts : ∀ address n t, s.artboard.at? address = some n → n.metadata.text = some t →
    TextSaid o s address t

/-- The rows of the four texts come one behind the other. -/
theorem rowsOfLines_textFields (t : TextDetails) (address : List Nat) :
    (textFields t).map (fun f => ⟨address, .property, quotedText f.1 f.2⟩) <:+:
      (textLines t).flatMap (rowsOfLine address .property) := by
  have hfields : ∃ others, textLines t =
      (textFields t).map (fun f => property f.1 (quote f.2)) ++ others := by
    simp only [textLines, List.append_assoc]
    exact ⟨_, rfl⟩
  obtain ⟨others, hlines⟩ := hfields
  have hnames : ∀ f ∈ textFields t, IsName f.1.toList := by
    have hall : ∀ name ∈ ["text", "color", "font.family", "font.styleName"],
        IsName name.toList := by decide
    intro f hf
    exact hall f.1 (List.mem_map_of_mem (f := Prod.fst) hf)
  rw [hlines, List.flatMap_append, List.flatMap_map]
  have hrows : (textFields t).flatMap (fun f => rowsOfLine address .property
      (property f.1 (quote f.2))) =
        (textFields t).map fun f => ⟨address, .property, quotedText f.1 f.2⟩ := by
    rw [List.map_eq_flatMap]
    apply List.flatMap_congr
    intro f hf
    exact rowsOfLine_quoted (hnames f hf) address .property f.2
  rw [hrows]
  exact List.infix_append [] _ _

theorem textSaid_of_at? {o : Options} {s : Sheet} {address : List Nat} {n : Node}
    {t : TextDetails} (hn : s.artboard.at? address = some n) (ht : n.metadata.text = some t) :
    TextSaid o s address t where
  rows := by
    have hcapability : capabilityLines s.depth n.metadata = textLines t := by
      rw [capabilityLines, Metadata.capability, ht]
    have hrows := capabilityRows_infix (o := o) hn
    rw [hcapability] at hrows
    exact (rowsOfLines_textFields t address).trans hrows
  literals := by
    intro f _
    refine ⟨_, rfl, unquote_kept _, ?_⟩
    rw [unquote_kept, Option.some_inj]
    exact unmark_eq_self_iff _

/-- **The texts of a document stand in its code**, and are read back unless they have markers. -/
theorem textsSaid_generate (o : Options) (d : Document) :
    List.Forall₂ (fun leaf s => TextsSaid o s leaf.2) (filesOf (generate o d).1) d.sheets := by
  refine (leaves_generate o d).imp ?_
  intro leaf s hleaf
  rw [hleaf.2]
  exact ⟨spoken_sheetCode o s, fun _ _ _ hn ht => textSaid_of_at? hn ht⟩

/-- An artboard that shows a text. -/
def page (contents : String) : Node :=
  ⟨"Page", none, none, none, none, none, [], { Metadata.empty with
    text := some ⟨contents, "", "", "", none, none, none, none, none⟩ }⟩

/-- A document of one artboard that shows a text. -/
def pageOf (contents : String) : Document := ⟨[page contents], [], none⟩

theorem textsSaid_quotes :
    (∀ f ∈ textFields ⟨"\"\\\r\nE", "", "", "", none, none, none, none, none⟩,
      ¬ Marked (withoutReturns f.2.toList)) ∧
    List.Forall₂ (fun leaf s => TextsSaid .none s leaf.2)
      (filesOf (generate .none (pageOf "\"\\\r\nE")).1) (pageOf "\"\\\r\nE").sheets := by
  refine ⟨?_, textsSaid_generate _ _⟩
  intro f hf
  apply not_marked_of_not_mem
  simp only [textFields, List.mem_cons, List.not_mem_nil, or_false] at hf
  rcases hf with rfl | rfl | rfl | rfl <;> decide

/-- The marker of a text is taken off it. -/
theorem map_text_marker : (sheetRows .none ⟨1, page "ENUM(x)"⟩).map Row.text =
    ["import QtQuick".toList, "Text \x7b".toList, "text: \"x\"".toList, "color: \"\"".toList,
      "font.family: \"\"".toList, "font.styleName: \"\"".toList,
      "font.features: \x7b \"kern\": 0 \x7d".toList, "\x7d".toList] := by
  decide +kernel

/-- A text with a marker is not read back from its file. -/
theorem text_with_marker_lost : ∃ leaf, filesOf (generate .none (pageOf "ENUM(x)")).1 = [leaf] ∧
    ∀ l ∈ spoken leaf.2.toList, "text: ".toList <+: l →
      unquote (l.drop "text: ".length) ≠ some (withoutReturns "ENUM(x)".toList) := by
  have hleaves := leaves_generate .none (pageOf "ENUM(x)")
  obtain ⟨leaf, others, hleaf, hothers, hfiles⟩ := List.forall₂_cons_right_iff.1 hleaves
  rw [List.forall₂_nil_right_iff.1 hothers] at hfiles
  refine ⟨leaf, hfiles, ?_⟩
  rw [hleaf.2, spoken_sheetCode, map_text_marker]
  decide

end QmlExport.Code
