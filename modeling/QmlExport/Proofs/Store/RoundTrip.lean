import QmlExport.Proofs.Store.Documents
import QmlExport.Proofs.Store.Mirror

/-!
# Records are read back

What is written of a record is read as that record, in its partition and as one of either partition:

    record  ── toJson ─▶  value  ── compact ─▶  text  ── parse, decode ─▶  record

`FileRecord.reads` and `MetadataRecord.reads` give the way through the partition. Read as one of
either partition, a text is looked at as a whole first, which it passes as what encoders make; and a
record of a document is no record of files, since it has no name (`not_fileRecord`).

**A record that was put is the record that is got, on every storage that took it**
(`roundTrip_of_faithful`).
-/

namespace QmlExport

open Disk Text

/-! ## Files that were written -/

namespace Store.Folder

/-- **A record that was written is read**, on whatever disk that was. -/
theorem read_of_write {root : Path} {d d' : Disk} {p : Partition} {key : String} {bs : Bytes}
    (h : Folder.write root d p key bs = (.ok (), d')) :
    Folder.read root d' p key = .ok (some bs) := by
  obtain ⟨d₁, d₂, _, hput, hmove⟩ := of_write h
  obtain ⟨m, hm, hfree, rfl⟩ := write_eq_ok hput
  obtain ⟨s, t, c, hs, ht, hfile, htarget, rfl⟩ := rename_eq_ok hmove
  -- no directory is gone, so the paths still lead to the files that were written
  have hsource : (d₁.put m (.file bs)).resolve (temporaryPath (recordPath root p key)) =
      .ok m := resolve_mono (d := d₁) rfl rfl (directory_put hfree bs) hm
  have hwritten : (d₁.put m (.file bs)).item? m = some (.file bs) := by
    rw [item?_put d₁ (ne_nil_of_item? hfree), if_pos rfl]
  obtain rfl : m = s := Except.ok.inj (hsource.symm.trans hs)
  obtain rfl : bs = c := Item.file.inj (Option.some.inj (hwritten.symm.trans hfile))
  have hresolve : (((d₁.put m (.file bs)).erase m).put t (.file bs)).resolve
      (recordPath root p key) = .ok t :=
    resolve_mono (d := d₁.put m (.file bs)) rfl rfl (directory_move hwritten htarget) ht
  have hmoved : (((d₁.put m (.file bs)).erase m).put t (.file bs)).item? t = some (.file bs) := by
    rw [item?_move hwritten htarget, if_pos rfl]
  unfold Folder.read
  simp only [read_of_resolve hresolve hmoved]

end Store.Folder

namespace Store

open Json Design

section

variable {s t : Storage} {p : Partition} {key : String} {bs : Bytes}

/-- **Octets that were written are read.** -/
theorem run_read_of_write (h : (Storage.write p key bs).run s = (.ok (), t)) :
    (Storage.read p key).run t = (.ok (some bs), t) := by
  cases s with
  | memory m =>
    cases h
    show (Except.ok ((m.put p key bs).get? p key), _) = _
    rw [Memory.get?_put, if_pos ⟨rfl, rfl⟩]
  | folder root d =>
    rw [run_write_eq] at h
    cases hwrite : Folder.write root d p key bs with
    | mk r d' =>
      rw [hwrite] at h
      cases h
      show (Folder.read root d' p key, Storage.folder root d') = _
      rw [Folder.read_of_write hwrite]

end

/-! ## Numbers -/

/-- A number that is read from its printed form as what it is. -/
def ReadsBack (x : Float) : Prop :=
  decode? .float (parse (Utf8.encode (Value.float x).compact)) = some x

/-- Such a number is finite, since others are printed as null. -/
theorem ReadsBack.reread {x : Float} (h : ReadsBack x) :
    x.isFinite ∧ Decimal.reread x = x := by
  unfold ReadsBack at h
  rw [parse_compact _ (encoded_float x).writable, decode?, Option.bind_some, Value.float] at h
  split at h
  · next hfinite =>
    have hread : (Decimal.Numeral.scientific x).float? = some x := h
    exact ⟨hfinite, by rw [Decimal.reread, hread, Option.getD_some]⟩
  · cases h

/-! ## Records -/

/-- What a record needs to be read as what it is: no directory of a code tree uses a name twice, the
numbers of a document are read from their printed form as what they are, and the text is not nested
deeper than readers go. -/
structure Record.Faithful (r : Record) : Prop where
  distinct : ∀ f c, r = .file f → f.content = some c → c.Distinct
  numbers : ∀ m, r = .metadata m → ∀ x ∈ m.document.numbers, ReadsBack x
  levels : r.toJson.nesting ≤ documentLevels

theorem Record.encoded (r : Record) : r.toJson.Encoded := by
  cases r with
  | file f => exact f.encoded
  | metadata m => exact m.encoded

/-- A record of a document with such numbers is read as it is. -/
theorem MetadataRecord.reads_self (m : MetadataRecord)
    (h : ∀ x ∈ m.document.numbers, ReadsBack x) : MetadataRecord.decoder.Reads m.toJson m := by
  have hreads := m.reads fun x hx => (h x hx).reread.1
  have hsame : m.document.mapNumbers Decimal.reread = m.document :=
    Document.mapNumbers_eq_self fun x hx => (h x hx).reread.2
  rwa [hsame] at hreads

/-- **A record is read in its partition**, whether or not it was looked at as a whole before. -/
theorem Record.Faithful.reads {r : Record} (h : r.Faithful) (settled : Bool) :
    (Record.decoderIn settled r.partition).Reads r.toJson r := by
  cases r with
  | file f => exact (f.reads (fun c => h.distinct f c rfl) settled).map Record.file
  | metadata m => exact (m.reads_self (h.numbers m rfl)).map Record.metadata

/-- A record of a document is no record of files: it has no name. -/
theorem not_fileRecord (m : MetadataRecord) (settled : Bool) (levels : Nat) :
    Record.decoderIn settled .files levels m.toJson = none := by
  cases levels <;> rfl

/-- A record of files is no record of a document: it has no key. -/
theorem not_metadataRecord (f : FileRecord) (settled : Bool) (levels : Nat) :
    Record.decoderIn settled .metadata levels f.toJson = none := by
  cases levels <;> rfl

/-- **Read as one of either partition, a record is one of its own.** -/
theorem Record.Faithful.reads_either {r : Record} (h : r.Faithful) :
    Record.decoder.Reads r.toJson r := by
  refine Decoder.Reads.whole ?_ r.encoded.sound
  intro levels
  have hreads := h.reads true levels
  cases r with
  | file f =>
    simp only [Record.partition, Record.toJson] at hreads ⊢
    constructor
    · intro hlevels
      rw [hreads.some hlevels]
    · intro hlevels
      rw [hreads.none hlevels]
      exact not_metadataRecord f true levels
  | metadata m =>
    simp only [Record.partition, Record.toJson, not_fileRecord] at hreads ⊢
    exact hreads

/-! ## Putting and getting -/

/-- What is known of a record that is put and got. -/
structure RoundTrip (r : Record) : Prop where
  /-- A storage that took the record gives it back. -/
  got : ∀ s t, (putRecord r.partition r).run s = (.ok (), t) →
    (getRecord r.partition r.key).run t = (.ok (some r), t)
  /-- Memory takes it, and so does a folder where its file can have its name. -/
  taken : ∀ s records, Shows s records → Takes s.root? r.partition r.key →
    ∃ t, (putRecord r.partition r).run s = (.ok (), t)
  /-- Its text is that record also for whoever does not know the partition. -/
  either : decode? Record.decoder (parse r.written) = some r
  /-- The other partition does not take it, and nothing is changed. -/
  misplaced : ∀ p, p ≠ r.partition → ∀ s, (putRecord p r).run s = (.error (misplaced r p), s)

/-- The record is got that the octets under its key stand for. -/
theorem run_getRecord_of_read {s : Storage} {p : Partition} {key : String} {bs : Bytes} {r : Record}
    (h : (Storage.read p key).run s = (.ok (some bs), s))
    (hbs : decode? (Record.decoderIn false p) (parse bs) = some r) :
    (getRecord p key).run s = (.ok (some r), s) := by
  unfold getRecord
  rw [run_bind_ok h]
  simp only [hbs]
  rfl

/-- **A record that was put is got as it was.** -/
theorem roundTrip_of_faithful (r : Record) (h : r.Faithful) : RoundTrip r where
  got := by
    intro s t hput
    rw [putRecord_partition] at hput
    refine run_getRecord_of_read (run_read_of_write hput) ?_
    rw [Record.written, parse_compact _ r.encoded.writable]
    exact (h.reads false documentLevels).some h.levels
  taken := by
    intro s records hshows hkey
    obtain ⟨t, ht, _⟩ := hshows.write hkey r.written
    exact ⟨t, (putRecord_partition r).symm ▸ ht⟩
  either := by
    rw [Record.written, parse_compact _ r.encoded.writable]
    exact (h.reads_either documentLevels).some h.levels
  misplaced := by
    intro p hp s
    unfold putRecord
    rw [if_pos hp.symm]
    rfl

/-- A code tree in which a directory and a file in it have the same name. -/
def cardTree : FileRecord :=
  ⟨Key.code.name, some (.code
    [("Root", .directory [("Card", .file "Item"), ("Base", .file "Item")]),
      ("Components", .directory [("Card", .directory [("Card", .file "Item")])])])⟩

/-- A document with a number. -/
def cardDocument : MetadataRecord :=
  .of "card.qtbridge" ⟨[⟨"Card", some 0.5, none, none, none, none, [], .empty⟩], [], none⟩

theorem faithful_cardTree : (Record.file cardTree).Faithful where
  distinct := by
    rintro _ _ ⟨⟩ ⟨⟩
    simp [Content.Distinct, Code.Directory.Distinct, Code.Entry.Distinct, Code.DistinctBelow]
  numbers := nofun
  levels := by decide

theorem faithful_cardDocument : (Record.metadata cardDocument).Faithful where
  distinct := nofun
  numbers := by
    rintro _ ⟨⟩ x hx
    obtain rfl : x = 0.5 := List.mem_singleton.1 hx
    unfold ReadsBack
    decide +kernel
  levels := by decide

theorem roundTrip_card : RoundTrip (.file cardTree) ∧ RoundTrip (.metadata cardDocument) :=
  ⟨roundTrip_of_faithful _ faithful_cardTree, roundTrip_of_faithful _ faithful_cardDocument⟩

end Store

end QmlExport
