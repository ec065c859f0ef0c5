import QmlExport.Design.Codec
import QmlExport.Proofs.Design.Numbers
import QmlExport.Proofs.Json.Decoding
import QmlExport.Proofs.Json.Encoded

/-!
# Design documents are read back

What is written of a document is read as that document with its numbers read again
(`Document.reads`), whenever the reader may enter as many levels as were written.
-/

namespace QmlExport.Design

open Json Decimal
open Json.Fields (yieldsIf_orElse gives_text gives_bool gives_option gives_some gives_same
  gives_texts)

/-! ## Fields -/

/-- A finite number is read from its printed form. -/
theorem reads_float {x : Float} (h : x.isFinite) :
    (Decoder.optional .float).Reads (.float x) (some (reread x)) := by
  obtain ⟨y, hy⟩ := Option.isSome_iff_exists.1 (Numeral.float?_scientific_isSome h)
  have hread : reread x = y := by rw [reread, hy, Option.getD_some]
  rw [Value.float, if_pos h, hread]
  exact Decoder.Reads.optional (fun levels => .always hy (Nat.zero_le levels)) nofun

/-- A number that may be missing. -/
theorem gives_float {v : Option Float} (h : ∀ x ∈ v.toList, x.isFinite) :
    Fields.Gives (.optional .float) none (v.map .float) (v.map reread) :=
  gives_option v fun _ hx => reads_float (h _ (Option.mem_toList.2 hx))

/-! ## Records -/

theorem Side.reads (s : Side) : Side.decoder.Reads s.toJson s :=
  Decoder.reads_choice (by cases s <;> rfl)

theorem Transformation.reads (t : Transformation) (h : ∀ x ∈ t.numbers, x.isFinite) :
    Transformation.decoder.Reads t.toJson (t.mapNumbers reread) := by
  refine Decoder.reads_record (by decide)
    (names_append (names_omitNone ..) (.refl _)) fun levels => ?_
  refine YieldsIf.congr (yieldsIf_orElse (gives_float h) ?_ <|
    yieldsIf_orElse (gives_bool t.flippedHorizontally) ?_ <|
    yieldsIf_orElse (gives_bool t.flippedVertically) ?_ <| .always rfl trivial) ?_
  all_goals simp [List.lookup_append]

theorem TextDetails.reads (t : TextDetails) (h : ∀ x ∈ t.numbers, x.isFinite) :
    TextDetails.decoder.Reads t.toJson (t.mapNumbers reread) := by
  obtain ⟨hsize, hline⟩ := List.forall_mem_append.1 h
  refine Decoder.reads_record (by decide) (names_append (names_append (names_append (names_append
    (names_append (.refl _) (names_omitNone ..)) (names_omitNone ..)) (names_omitNone ..))
    (names_omitNone ..)) (names_omitNone ..)) ?_
  intro levels
  refine YieldsIf.congr (yieldsIf_orElse (gives_text t.contents) ?_ <|
    yieldsIf_orElse (gives_text t.textColor) ?_ <|
    yieldsIf_orElse (gives_text t.fontFamily) ?_ <|
    yieldsIf_orElse (gives_text t.fontDisplayName) ?_ <|
    yieldsIf_orElse (gives_float hsize) ?_ <|
    yieldsIf_orElse (gives_same t.kerning Decoder.reads_bool nofun) ?_ <|
    yieldsIf_orElse (gives_float hline) ?_ <|
    yieldsIf_orElse (gives_same t.verticalAlignment Side.reads nofun) ?_ <|
    yieldsIf_orElse (gives_same t.horizontalAlignment Side.reads nofun) ?_ <|
    .always rfl trivial) ?_
  all_goals simp [List.lookup_append]

theorem Asset.reads (a : Asset) : Asset.decoder.Reads a.toJson a := by
  refine Decoder.reads_record (by decide) (.refl _) ?_
  intro levels
  refine YieldsIf.congr (yieldsIf_orElse (gives_text a.path) ?_ <| .always rfl trivial) ?_
  all_goals simp

theorem Metadata.reads (m : Metadata) (h : ∀ x ∈ m.numbers, x.isFinite) :
    Metadata.decoder.Reads m.toJson (m.mapNumbers reread) := by
  obtain ⟨hrest, htext⟩ := List.forall_mem_append.1 h
  obtain ⟨hopacity, htransformation⟩ := List.forall_mem_append.1 hrest
  have htransformations : ∀ t, m.transformation = some t →
      Transformation.decoder.Reads t.toJson (t.mapNumbers reread) := fun t ht =>
    t.reads fun x hx => htransformation x (List.mem_flatMap.2 ⟨t, Option.mem_toList.2 ht, hx⟩)
  have htexts : ∀ t, m.text = some t → TextDetails.decoder.Reads t.toJson (t.mapNumbers reread) :=
    fun t ht => t.reads fun x hx => htext x (List.mem_flatMap.2 ⟨t, Option.mem_toList.2 ht, hx⟩)
  refine Decoder.reads_fields (by decide : fieldNames.Nodup) (by decide) (names_append
    (names_append (names_append (names_append (names_append (names_append (names_append
    (names_append (names_append (names_append (names_omitNone ..) (names_omitNone ..))
    (names_omitNone ..)) (names_omitEmpty ..)) (names_omitEmpty ..)) (names_omitNone ..))
    (names_omitNone ..)) (names_omitNone ..)) (names_omitNone ..)) (names_omitNone ..))
    (names_omitNone ..)) ?_
  intro levels
  refine YieldsIf.congr (yieldsIf_orElse (gives_same m.typeName Decoder.reads_text nofun) ?_ <|
    yieldsIf_orElse (gives_same m.qmlId Decoder.reads_text nofun) ?_ <|
    yieldsIf_orElse (gives_same m.uuid Decoder.reads_text nofun) ?_ <|
    yieldsIf_orElse (gives_texts m.properties) ?_ <|
    yieldsIf_orElse (gives_texts m.imports) ?_ <|
    yieldsIf_orElse (gives_same m.clip Decoder.reads_bool nofun) ?_ <|
    yieldsIf_orElse (gives_float hopacity) ?_ <|
    yieldsIf_orElse (gives_same m.visible Decoder.reads_bool nofun) ?_ <|
    yieldsIf_orElse (gives_some m.transformation htransformations nofun) ?_ <|
    yieldsIf_orElse (gives_some m.text htexts nofun) ?_ <|
    yieldsIf_orElse (gives_same m.asset Asset.reads nofun) ?_ <| .always rfl trivial) ?_
  all_goals simp [List.lookup_append]

/-! ## Nodes -/

namespace Node

theorem allToJson_eq_map (ns : List Node) : allToJson ns = ns.map toJson := by
  induction ns with
  | nil => rfl
  | cons n ns ih => rw [allToJson, ih, List.map_cons]

/-- How children are read where so many levels are left. -/
def childAt : Nat → Option (Value → Option Node)
  | 0 => none
  | levels + 1 => some (decoder levels)

theorem decoder_succ (levels : Nat) (v : Value) :
    decoder (levels + 1) v = (Fields.of fieldNames [] (levels + 1) v).bind (read (childAt levels)) := by
  cases levels <;> rfl

/-- The children that a value gives. -/
def childrenOf (v : Option Value) (child : Option (Value → Option Node)) : Option (List Node) :=
  match v, child with
  | none, _ => some []
  | some (.array items), some f => items.mapM f
  | some _, _ => none

theorem read_eq (child : Option (Value → Option Node)) (fs : Fields) :
    read child fs = (do
      let name ← fs.orElse "name" .text ""
      let x ← fs.orElse "x" (.optional .float) none
      let y ← fs.orElse "y" (.optional .float) none
      let width ← fs.orElse "width" (.optional .float) none
      let height ← fs.orElse "height" (.optional .float) none
      let layerIndex ← fs.orElse "layerIndex" (.optional .float) none
      let children ← childrenOf (fs.given.lookup "children") child
      let metadata ← fs.orElse "metadata" Metadata.decoder .empty
      some ⟨name, x, y, width, height, layerIndex, children, metadata⟩) := by
  unfold read childrenOf
  generalize fs.given.lookup "children" = v
  rcases v with _ | _ | _ | _ | _ | _ | _ <;> cases child <;> rfl

/-- Children are read if each of them is. -/
theorem yieldsIf_childrenOf (ns : List Node)
    (h : ∀ n ∈ ns, decoder.Reads n.toJson (n.mapNumbers reread)) (levels : Nat) :
    YieldsIf (depthOf (listValue? id (allToJson ns)) ≤ levels)
      (childrenOf (listValue? id (allToJson ns)) (childAt levels)) (mapNumbersOf reread ns) := by
  rw [mapNumbersOf_eq_map, allToJson_eq_map]
  cases ns with
  | nil => exact .always rfl (Nat.zero_le levels)
  | cons n ns =>
    have hlist : listValue? id ((n :: ns).map toJson) = some (.array ((n :: ns).map toJson)) :=
      congrArg (fun vs => some (Value.array vs)) (List.map_id _)
    rw [hlist]
    cases levels with
    | zero => exact ⟨fun hle => absurd hle (Nat.not_succ_le_zero _), fun _ => rfl⟩
    | succ levels =>
      exact (Decoder.mapM_items levels (n :: ns) h).congr Nat.succ_le_succ_iff.symm

/-- The fields of a node are read if all of them are. -/
theorem yieldsIf_read {name : String} {x y width height layerIndex : Option Float}
    {children : List Node} {m : Metadata}
    (hx : ∀ z ∈ x.toList, z.isFinite) (hy : ∀ z ∈ y.toList, z.isFinite)
    (hwidth : ∀ z ∈ width.toList, z.isFinite) (hheight : ∀ z ∈ height.toList, z.isFinite)
    (hlayer : ∀ z ∈ layerIndex.toList, z.isFinite) (hm : ∀ z ∈ m.numbers, z.isFinite)
    (h : ∀ n ∈ children, decoder.Reads n.toJson (n.mapNumbers reread)) (levels : Nat) :
    YieldsIf
      (depth (membersWith name x y width height layerIndex (allToJson children) m) ≤ levels)
      (read (childAt levels)
        ⟨true, levels, membersWith name x y width height layerIndex (allToJson children) m⟩)
      ⟨name, x.map reread, y.map reread, width.map reread, height.map reread,
        layerIndex.map reread, mapNumbersOf reread children, m.mapNumbers reread⟩ := by
  have hmetadata : Fields.Gives Metadata.decoder .empty (some m.toJson) (m.mapNumbers reread) :=
    m.reads hm
  have hchildren := yieldsIf_childrenOf children h levels
  have hlookup : (membersWith name x y width height layerIndex (allToJson children) m).lookup
      "children" = listValue? id (allToJson children) := by
    simp [membersWith, List.lookup_append]
  rw [read_eq]
  refine YieldsIf.congr (yieldsIf_orElse (gives_text name) ?_ <|
    yieldsIf_orElse (gives_float hx) ?_ <| yieldsIf_orElse (gives_float hy) ?_ <|
    yieldsIf_orElse (gives_float hwidth) ?_ <| yieldsIf_orElse (gives_float hheight) ?_ <|
    yieldsIf_orElse (gives_float hlayer) ?_ <|
    YieldsIf.bind (hlookup ▸ hchildren) <|
    yieldsIf_orElse hmetadata ?_ <| .always rfl trivial) ?_
  all_goals simp [membersWith, List.lookup_append]

mutual
/-- **A node is read back.** -/
theorem reads (n : Node) (h : ∀ x ∈ n.numbers, x.isFinite) :
    decoder.Reads n.toJson (n.mapNumbers reread) := by
  match n with
  | ⟨name, x, y, width, height, layerIndex, children, m⟩ =>
    rw [Node.numbers] at h
    simp only [List.forall_mem_append] at h
    obtain ⟨⟨⟨⟨⟨⟨hx, hy⟩, hwidth⟩, hheight⟩, hlayer⟩, hbelow⟩, hm⟩ := h
    intro levels
    -- the node takes one level, and its children are read with the others
    cases levels with
    | zero => exact ⟨fun hle => absurd hle (Nat.not_succ_le_zero _), fun _ => rfl⟩
    | succ levels =>
      have hnames : ((membersWith name x y width height layerIndex (allToJson children) m).map
          (·.1)).Sublist fieldNames :=
        names_append (names_append (names_append (names_append (names_append (names_append
          (names_append (.refl _) (names_omitNone ..)) (names_omitNone ..)) (names_omitNone ..))
          (names_omitNone ..)) (names_omitNone ..)) (names_omitEmpty ..)) (.refl _)
      rw [decoder_succ, toJson, Fields.of_fields (by decide) (fun _ _ => rfl) hnames,
        Option.bind_some, Node.mapNumbers]
      exact (yieldsIf_read hx hy hwidth hheight hlayer hm (reads_below children hbelow)
        levels).congr Nat.succ_le_succ_iff.symm

theorem reads_below (ns : List Node) (h : ∀ x ∈ numbersOf ns, x.isFinite) :
    ∀ n ∈ ns, decoder.Reads n.toJson (n.mapNumbers reread) := by
  match ns with
  | [] => exact fun n hn => absurd hn List.not_mem_nil
  | n :: ns =>
    obtain ⟨hn, hns⟩ := List.forall_mem_append.1 h
    exact List.forall_mem_cons.2 ⟨reads n hn, reads_below ns hns⟩
end

end Node

/-! ## Documents -/

theorem gives_nodes {ns : List Node} (h : ∀ x ∈ numbersOf ns, x.isFinite) :
    Fields.Gives (.list Node.decoder) [] (some (.array (ns.map Node.toJson)))
      (mapNumbersOf reread ns) := by
  rw [mapNumbersOf_eq_map]
  exact Decoder.reads_list (Node.reads_below ns h)

theorem ArtboardSet.reads (s : ArtboardSet) (h : ∀ x ∈ numbersOf s.artboards, x.isFinite) :
    ArtboardSet.decoder.Reads s.toJson (s.mapNumbers reread) := by
  refine Decoder.reads_record (by decide) (.refl _) ?_
  intro levels
  refine YieldsIf.congr (yieldsIf_orElse (gives_text s.name) ?_ <|
    yieldsIf_orElse (gives_nodes h) ?_ <| .always rfl trivial) ?_
  all_goals simp

theorem DocumentInfo.reads (i : DocumentInfo) : DocumentInfo.decoder.Reads i.toJson i := by
  refine Decoder.reads_record (by decide) (.refl _) ?_
  intro levels
  refine YieldsIf.congr (yieldsIf_orElse (gives_text i.name) ?_ <| .always rfl trivial) ?_
  all_goals simp

/-- **A document is read back with its numbers read again.** -/
theorem Document.reads (d : Document) (h : d.Finite) :
    Document.decoder.Reads d.toJson (d.mapNumbers reread) := by
  obtain ⟨hartboards, hsets⟩ := List.forall_mem_append.1 h
  have hset : ∀ s ∈ d.artboardSets, ArtboardSet.decoder.Reads s.toJson (s.mapNumbers reread) :=
    fun s hs => s.reads fun x hx => hsets x (List.mem_flatMap.2 ⟨s, hs, hx⟩)
  have hgives : Fields.Gives (.list ArtboardSet.decoder) []
      (some (.array (d.artboardSets.map ArtboardSet.toJson)))
      (d.artboardSets.map (ArtboardSet.mapNumbers reread)) := Decoder.reads_list hset
  refine Decoder.reads_record (by decide)
    (names_append (.refl _) (names_omitNone ..)) ?_
  intro levels
  refine YieldsIf.congr (yieldsIf_orElse (gives_nodes hartboards) ?_ <|
    yieldsIf_orElse hgives ?_ <|
    yieldsIf_orElse (gives_same d.info DocumentInfo.reads nofun) ?_ <| .always rfl trivial) ?_
  all_goals simp

/-! ## Encoding -/

theorem Transformation.encoded (t : Transformation) : t.toJson.Encoded :=
  encoded_fields (encoded_append (encoded_omitNone _ encoded_float)
    (encoded_cons trivial (encoded_cons trivial encoded_nil)))

theorem TextDetails.encoded (t : TextDetails) : t.toJson.Encoded := by
  refine encoded_fields (encoded_append (encoded_append (encoded_append (encoded_append
    (encoded_append (encoded_cons (encoded_text _) (encoded_cons (encoded_text _)
    (encoded_cons (encoded_text _) (encoded_cons (encoded_text _) encoded_nil)))) ?_) ?_) ?_) ?_) ?_)
  · exact encoded_omitNone _ encoded_float
  · exact encoded_omitNone _ encoded_bool
  · exact encoded_omitNone _ encoded_float
  · exact encoded_omitNone _ fun s => encoded_text s.name
  · exact encoded_omitNone _ fun s => encoded_text s.name

theorem Asset.encoded (a : Asset) : a.toJson.Encoded :=
  encoded_fields (encoded_cons (encoded_text _) encoded_nil)

theorem Metadata.encoded (m : Metadata) : m.toJson.Encoded := by
  refine encoded_fields (encoded_append (encoded_append (encoded_append (encoded_append
    (encoded_append (encoded_append (encoded_append (encoded_append (encoded_append
    (encoded_append ?_ ?_) ?_) ?_) ?_) ?_) ?_) ?_) ?_) ?_) ?_)
  · exact encoded_omitNone _ encoded_text
  · exact encoded_omitNone _ encoded_text
  · exact encoded_omitNone _ encoded_text
  · exact encoded_omitEmpty _ fun t _ => encoded_text t
  · exact encoded_omitEmpty _ fun t _ => encoded_text t
  · exact encoded_omitNone _ encoded_bool
  · exact encoded_omitNone _ encoded_float
  · exact encoded_omitNone _ encoded_bool
  · exact encoded_omitNone _ Transformation.encoded
  · exact encoded_omitNone _ TextDetails.encoded
  · exact encoded_omitNone _ Asset.encoded

mutual
theorem Node.encoded (n : Node) : n.toJson.Encoded := by
  match n with
  | ⟨name, x, y, width, height, layerIndex, children, m⟩ =>
    refine encoded_fields (encoded_append (encoded_append (encoded_append (encoded_append
      (encoded_append (encoded_append (encoded_append
        (encoded_cons (encoded_text name) encoded_nil) ?_) ?_) ?_) ?_) ?_) ?_)
        (encoded_cons m.encoded encoded_nil))
    · exact encoded_omitNone _ encoded_float
    · exact encoded_omitNone _ encoded_float
    · exact encoded_omitNone _ encoded_float
    · exact encoded_omitNone _ encoded_float
    · exact encoded_omitNone _ encoded_float
    · exact encoded_omitEmpty _ (encoded_allToJson children)

theorem encoded_allToJson (ns : List Node) : ∀ v ∈ Node.allToJson ns, v.Encoded := by
  match ns with
  | [] => exact nofun
  | n :: ns => exact List.forall_mem_cons.2 ⟨n.encoded, encoded_allToJson ns⟩
end

theorem ArtboardSet.encoded (s : ArtboardSet) : s.toJson.Encoded :=
  encoded_fields (encoded_cons (encoded_text _)
    (encoded_cons (encoded_array fun n _ => n.encoded) encoded_nil))

theorem DocumentInfo.encoded (i : DocumentInfo) : i.toJson.Encoded :=
  encoded_fields (encoded_cons (encoded_text _) encoded_nil)

/-- **A document is written as what encoders make.** -/
theorem Document.encoded (d : Document) : d.toJson.Encoded :=
  encoded_fields (encoded_append (encoded_cons (encoded_array fun n _ => n.encoded)
    (encoded_cons (encoded_array fun s _ => s.encoded) encoded_nil))
    (encoded_omitNone _ DocumentInfo.encoded))

end QmlExport.Design
