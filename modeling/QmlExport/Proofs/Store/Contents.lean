import QmlExport.Proofs.Catalog
import QmlExport.Proofs.Code.Names
import QmlExport.Proofs.Json.Decoding
import QmlExport.Proofs.Json.Encoded
import QmlExport.Store.Storage

/-!
# Contents are read back

The record of a file is read back as it was written (`FileRecord.reads`): octets go through Base64,
catalogs keep their order, and a code tree comes back entry by entry when no directory uses a name
twice (`Distinct`), which is what insertion under free names guarantees. No content nests deeper
than its code tree, so everything the exporter stores is within the levels of a document.
-/

namespace QmlExport

/-! ## Code trees -/

namespace Code

open Json

mutual
/-- No directory below an entry uses a name twice. -/
def Entry.Distinct : Entry → Prop
  | .file _ => True
  | .directory es => (es.map (·.1)).Nodup ∧ DistinctBelow es

/-- No directory below these entries uses a name twice. -/
def DistinctBelow : List (String × Entry) → Prop
  | [] => True
  | (_, e) :: es => e.Distinct ∧ DistinctBelow es
end

/-- No directory of a tree uses a name twice. -/
def Directory.Distinct (d : Directory) : Prop := (Entry.directory d).Distinct

theorem membersOf_eq_map (es : List (String × Entry)) :
    membersOf es = es.map fun e => (some e.1, e.2.toJson) := by
  induction es with
  | nil => rfl
  | cons e es ih => rw [membersOf, ih, List.map_cons]

theorem Directory.toJson_eq_fields (d : Directory) :
    d.toJson = .fields (d.map fun e => (e.1, e.2.toJson)) := by
  rw [toJson, membersOf_eq_map, Value.fields, List.map_map]
  rfl

theorem Directory.foldl_put (d ms : Directory) (h : (d ++ ms).names.Nodup) :
    ms.foldl (fun d m => put d m.1 m.2) d = d ++ ms := by
  induction ms generalizing d with
  | nil => exact (List.append_nil d).symm
  | cons m ms ih =>
    have hfresh : m.1 ∉ d.names := by
      intro hm
      rw [names, List.map_append, List.nodup_append] at h
      exact h.2.2 m.1 hm m.1 List.mem_cons_self rfl
    rw [List.foldl_cons, put_append m.2 hfresh, ih]
    · rw [List.append_assoc]
      rfl
    · rwa [List.append_assoc]

/-- Members with different names make a directory of just these. -/
theorem Directory.ofMembers_of_nodup {ms : Directory} (h : (ms.map (·.1)).Nodup) :
    ofMembers ms = ms :=
  foldl_put [] ms h

theorem Entry.decoder_object (levels : Nat) (ms : List (Option String × Value)) :
    Entry.decoder levels (.object ms) =
      (Decoder.entries Entry.decoder levels (.object ms)).map
        fun es => .directory (Directory.ofMembers es) := by
  cases levels <;> rfl

mutual
/-- **An entry is read back.** -/
theorem Entry.reads (e : Entry) (h : e.Distinct) : Entry.decoder.Reads e.toJson e := by
  match e with
  | .file code => exact fun levels => .always (by cases levels <;> rfl) (Nat.zero_le _)
  | .directory es =>
    intro levels
    -- the entries are read one by one; putting them into a directory again keeps them in order
    have hentries := Decoder.reads_entries (g := id) (reads_below es h.2) levels
    have hid : es.map (fun e => (e.1, id e.2)) = es := List.map_id _
    rw [hid, ← Directory.toJson_eq_fields] at hentries
    rw [Entry.toJson, Entry.decoder_object]
    have hmap := hentries.map fun es => Entry.directory (Directory.ofMembers es)
    rwa [Directory.ofMembers_of_nodup h.1] at hmap

theorem reads_below (es : List (String × Entry)) (h : DistinctBelow es) :
    ∀ e ∈ es, Entry.decoder.Reads e.2.toJson e.2 := by
  match es with
  | [] => exact fun e he => absurd he List.not_mem_nil
  | (name, e) :: es =>
    intro f hf
    rcases List.mem_cons.1 hf with rfl | hf
    · exact Entry.reads e h.1
    · exact reads_below es h.2 f hf
end

mutual
theorem Entry.encoded (e : Entry) : e.toJson.Encoded := by
  match e with
  | .file code => exact encoded_text code
  | .directory es => exact encoded_membersOf es

theorem encoded_membersOf (es : List (String × Entry)) : EncodedMembers (membersOf es) := by
  match es with
  | [] => exact trivial
  | (name, e) :: es => exact ⟨rfl, e.encoded, encoded_membersOf es⟩
end

/-- **A code tree is read back.** -/
theorem Directory.reads (d : Directory) (h : d.Distinct) :
    Directory.decoder.Reads d.toJson d := by
  have hbelow : ∀ e ∈ d, Entry.decoder.whole.Reads e.2.toJson (id e.2) := fun e he =>
    (reads_below d h.2 e he).whole e.2.encoded.sound
  have hentries := Decoder.reads_entries hbelow
  have hid : d.map (fun e => (e.1, id e.2)) = d := List.map_id _
  rw [hid, ← Directory.toJson_eq_fields] at hentries
  have hmap := hentries.map Directory.ofMembers
  rwa [Directory.ofMembers_of_nodup h.1] at hmap

end Code

/-! ## Records of files -/

namespace Store

open Json Text

theorem reads_blob (bs : Bytes) : blobDecoder.Reads (blobToJson bs) bs :=
  (Decoder.reads_text _).filterMap (Base64.decode?_encode bs)

theorem reads_catalog {α : Type} {d : Decoder α} {f : α → Value} {c : Catalog α}
    (h : ∀ e ∈ c.entries, d.Reads (f e.2) e.2) : (catalogDecoder d).Reads (catalogToJson f c) c := by
  have hentries := (Decoder.reads_entries (g := id) h).map Catalog.ofList
  have hid : c.entries.map (fun e => (e.1, id e.2)) = c.entries := List.map_id _
  rwa [hid, Catalog.ofList_entries] at hentries

theorem reads_files (c : Files) : filesDecoder.Reads (filesToJson c) c :=
  reads_catalog fun e _ => reads_blob e.2

theorem reads_fonts (c : Fonts) :
    (catalogDecoder filesDecoder).Reads (catalogToJson filesToJson c) c :=
  reads_catalog fun e _ => reads_files e.2

namespace Content

/-- A code tree uses no name twice in a directory; nothing is asked of other contents. -/
def Distinct : Content → Prop
  | .code tree => tree.Distinct
  | _ => True

theorem reads_upload (fileName : String) (bytes : Bytes) :
    uploadDecoder.Reads (.fields [("file_name", .text fileName), ("bytes", blobToJson bytes)])
      (.upload fileName bytes) := by
  have hread : Decoder.Reads
      (fun levels v => (Fields.of ["file_name", "bytes"] [] levels v).bind fun fs => do
        let fileName ← fs.required "file_name" .text
        let bytes ← fs.required "bytes" blobDecoder
        some (Content.upload fileName bytes))
      (.fields [("file_name", .text fileName), ("bytes", blobToJson bytes)])
      (.upload fileName bytes) := by
    refine Decoder.reads_record (by decide) (List.Sublist.refl _) ?_
    intro levels
    refine YieldsIf.congr (Fields.yieldsIf_required (Decoder.reads_text fileName) rfl <|
      Fields.yieldsIf_required (reads_blob bytes) rfl <| .always rfl trivial) ?_
    simp
  intro levels
  cases levels with
  | zero => exact hread 0
  | succ levels => exact hread (levels + 1)

/-- A value is read by the decoder of its kind. -/
theorem reads_value (c : Content) (h : c.Distinct) :
    (valueDecoder c.kind).Reads c.valueToJson c := by
  cases c with
  | upload fileName bytes => exact reads_upload fileName bytes
  | files fs => exact (reads_files fs).map Content.files
  | fonts families => exact (reads_fonts families).map Content.fonts
  | code tree => exact (tree.reads h).map Content.code

theorem reads_kind (k : Kind) : Kind.decoder.Reads (.text k.name) k :=
  Decoder.reads_choice (by cases k <;> decide)

/-- **A content is read back.** Its kind stands before its value, so nothing of the value is looked
at before its kind is known. -/
theorem reads (c : Content) (h : c.Distinct) (settled : Bool) :
    (decoder settled).Reads c.toJson c := by
  refine Decoder.reads_fields (by decide : ["kind", "value"].Nodup) (fun _ _ => rfl)
    (List.Sublist.refl _) ?_
  intro levels
  have horder : precedes "value" "kind" [("kind", .text c.kind.name), ("value", c.valueToJson)] =
      false := by
    simp [precedes]
  refine YieldsIf.congr (Fields.yieldsIf_required (p := c.valueToJson.nesting ≤ levels)
    (reads_kind c.kind) rfl ?_) ?_
  · simp only [horder, Bool.false_eq_true, if_false]
    exact reads_value c h levels
  · simp

end Content

/-- **A record of a file is read back.** -/
theorem FileRecord.reads (r : FileRecord) (h : ∀ c, r.content = some c → c.Distinct)
    (settled : Bool) : (FileRecord.decoder settled).Reads r.toJson r := by
  refine Decoder.reads_record (by decide) (List.Sublist.refl _) ?_
  intro levels
  have hdata : (Decoder.optional (Content.decoder settled)).Reads
      (.ofOption Content.toJson r.content) r.content := by
    cases hc : r.content with
    | none => exact Decoder.reads_optional_null _
    | some c => exact (Content.reads c (h c hc) settled).optional (by rintro ⟨⟩)
  refine YieldsIf.congr (Fields.yieldsIf_required (Decoder.reads_text r.name) rfl <|
    YieldsIf.bind (hdata levels) <| .always rfl trivial) ?_
  simp

theorem encoded_files (c : Files) : (filesToJson c).Encoded := by
  apply encoded_fields
  intro m hm
  obtain ⟨e, _, rfl⟩ := List.mem_map.1 hm
  exact encoded_text _

theorem Content.encoded (c : Content) : c.toJson.Encoded := by
  refine encoded_fields (encoded_cons (encoded_text _) (encoded_cons ?_ encoded_nil))
  cases c with
  | upload fileName bytes =>
    exact encoded_fields
      (encoded_cons (encoded_text _) (encoded_cons (encoded_text _) encoded_nil))
  | files fs => exact encoded_files fs
  | fonts families =>
    apply encoded_fields
    intro m hm
    obtain ⟨e, _, rfl⟩ := List.mem_map.1 hm
    exact encoded_files e.2
  | code tree => exact Code.encoded_membersOf tree

theorem FileRecord.encoded (r : FileRecord) : r.toJson.Encoded := by
  refine encoded_fields (encoded_cons (encoded_text _) (encoded_cons ?_ encoded_nil))
  cases r.content with
  | none => exact trivial
  | some c => exact c.encoded

/-! ### Levels -/

theorem nesting_catalog {α : Type} {f : α → Value} {c : Catalog α} {n : Nat}
    (h : ∀ a, (f a).nesting ≤ n) : (catalogToJson f c).nesting ≤ n + 1 := by
  rw [catalogToJson, nesting_fields, Nat.add_le_add_iff_right]
  induction c.entries with
  | nil => exact Nat.zero_le n
  | cons e es ih =>
    rw [List.map_cons, depth_cons, Nat.max_le]
    exact ⟨h e.2, ih⟩

/-- How deep a content nests in its record. -/
theorem FileRecord.nesting_le {r : FileRecord} {n : Nat}
    (h : ∀ c, r.content = some c → c.valueToJson.nesting ≤ n) : r.toJson.nesting ≤ n + 2 := by
  have hdata : (Value.ofOption Content.toJson r.content).nesting ≤ n + 1 := by
    cases hc : r.content with
    | none => exact Nat.zero_le _
    | some c =>
      have hv := h c hc
      show (Value.fields _).nesting ≤ _
      rw [nesting_fields]
      simp only [depth_cons, depth_nil]
      have ht : (Value.text c.kind.name).nesting = 0 := rfl
      omega
  rw [toJson, nesting_fields]
  simp only [depth_cons, depth_nil]
  have ht : (Value.text r.name).nesting = 0 := rfl
  omega

/-- Contents that a record can be read back with: what is no code tree, and trees that are not too
deep. -/
structure Content.Readable (c : Content) : Prop where
  distinct : c.Distinct
  levels : c.valueToJson.nesting + 2 ≤ documentLevels

theorem Content.readable_upload (fileName : String) (bytes : Bytes) :
    (Content.upload fileName bytes).Readable := by
  refine ⟨trivial, ?_⟩
  show 1 + 2 ≤ 127
  decide

theorem Content.readable_files (fs : Files) : (Content.files fs).Readable := by
  refine ⟨trivial, ?_⟩
  have h : (filesToJson fs).nesting ≤ 1 := nesting_catalog fun _ => Nat.le_refl 0
  show (filesToJson fs).nesting + 2 ≤ 127
  omega

theorem Content.readable_fonts (families : Fonts) : (Content.fonts families).Readable := by
  refine ⟨trivial, ?_⟩
  have h : (catalogToJson filesToJson families).nesting ≤ 2 :=
    nesting_catalog fun fs => nesting_catalog fun _ => Nat.le_refl 0
  show (catalogToJson filesToJson families).nesting + 2 ≤ 127
  omega

/-- **What is written of a readable content is read as that content.** -/
theorem FileRecord.decode_written (r : FileRecord) (h : ∀ c, r.content = some c → c.Readable) :
    decode? (Record.decoderIn false .files) (parse (Record.written (.file r))) =
      some (.file r) := by
  have hreads := (FileRecord.reads r (fun c hc => (h c hc).distinct) false).map Record.file
  have hlevels : r.toJson.nesting ≤ documentLevels := by
    have hn := FileRecord.nesting_le (r := r) (n := documentLevels - 2) fun c hc => by
      have := (h c hc).levels
      omega
    exact hn
  rw [Record.written, Record.toJson, parse_compact _ r.encoded.writable]
  exact (hreads documentLevels).some hlevels

end Store

end QmlExport
