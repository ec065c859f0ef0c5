import QmlExport.Proofs.Design.Codec
import QmlExport.Proofs.Store.View

/-!
# Stored documents

The record of a document lies one level around it. So **a document that was put is read again, with
its numbers read from their printed form, when it leaves one of the 127 levels free, and not at all
when it does not** (`readBackDocument_of`).
-/

namespace QmlExport.Store

open Json Design Decimal

theorem MetadataRecord.nesting_toJson (r : MetadataRecord) :
    r.toJson.nesting = r.document.toJson.nesting + 1 := by
  rw [MetadataRecord.toJson, nesting_fields]
  simp [Value.text, Value.nesting]

/-- **The record of a document is read back.** -/
theorem MetadataRecord.reads (r : MetadataRecord) (h : r.document.Finite) :
    MetadataRecord.decoder.Reads r.toJson
      { r with document := r.document.mapNumbers reread } := by
  refine Decoder.reads_record (by decide) (.refl _) ?_
  intro levels
  refine YieldsIf.congr (Fields.yieldsIf_required (Decoder.reads_text r.key) rfl <|
    Fields.yieldsIf_required (Decoder.reads_text r.fileName) rfl <|
    Fields.yieldsIf_required (r.document.reads h) rfl <| .always rfl trivial) ?_
  simp

theorem MetadataRecord.encoded (r : MetadataRecord) : r.toJson.Encoded :=
  encoded_fields (encoded_cons (encoded_text _) (encoded_cons (encoded_text _)
    (encoded_cons r.document.encoded encoded_nil)))

/-- **A document that was put is read back when it leaves a level free for its record.** -/
theorem readBackDocument_of (name : String) {d : Document} (h : d.Finite) :
    readBackDocument (.of name d) =
      if d.toJson.nesting < documentLevels then .ok (some (.of name (d.mapNumbers reread)))
      else .error .ofRecord := by
  have hreads := (MetadataRecord.of name d).reads h documentLevels
  rw [MetadataRecord.nesting_toJson] at hreads
  have hparse : Json.parse (Record.written (.metadata (.of name d))) =
      some (MetadataRecord.of name d).toJson :=
    Json.parse_compact _ (MetadataRecord.of name d).encoded.writable
  rw [readBackDocument_eq, hparse, decode?, Option.bind_some]
  by_cases hlevels : d.toJson.nesting < documentLevels
  · rw [if_pos hlevels, hreads.some hlevels]
    rfl
  · rw [if_neg hlevels, hreads.none hlevels]

end QmlExport.Store
