import QmlExport.Proofs.Package.Build
import QmlExport.Proofs.Run.Accepted

/-!
# Where stored output comes from

After an upload a store knows nothing but the archive. `Knows` says what runs may make of it: the
archive still waits, or it is spent without result, or the store holds the images and the document of
the archive. Every run keeps this (`Knows.outcome`), however many runs there are before it and
whatever came of them, and packaging changes nothing. **So the output of a run that came through
always comes from the archive that was uploaded last** (`yields_of_run`).
-/

namespace QmlExport.Run

open Store Text Json Decimal

/-! ## What a store knows -/

/-- The store holds the document and the images of an archive. -/
structure Holds (name : String) (bytes : Bytes) (files : Files) (d : Design.Document)
    (s : Storage) : Prop where
  unzipped : unzip bytes = .ok files
  found : documentOf files name = .ok d
  document : s.document = .ok (some (.of name (d.mapNumbers reread)))
  images : ∃ c, s.content .images = .ok c ∧ Package.imagesIn c = imagesOf files

/-- What a store knows of an uploaded archive. -/
inductive Knows (name : String) (bytes : Bytes) (s : Storage) : Prop
  | waiting (hd : s.document = .ok none)
    (hu : s.content .uploadedFile = .ok (some (.upload name bytes)))
    (hi : s.content .images = .ok none)
  | spent (hd : s.document = .ok none) (hu : s.content .uploadedFile = .ok none)
  | unreadable {f} (hd : s.document = .error f)
  | held {files d} (h : Holds name bytes files d s)

/-- What comes of a run that came through: code of the document of the archive. -/
structure Yields (o : Design.Options) (name : String) (bytes : Bytes) (files : Files)
    (d : Design.Document) (s : Storage) : Prop extends Holds name bytes files d s where
  code : s.content .code = .ok (some (.code (Code.generate o (d.mapNumbers reread)).1))

section

variable {name : String} {bytes : Bytes} {s t : Storage} {P : Storage → Prop} (hP : Reliable P)
  (hs : P s)

include hP hs

/-- Splitting an archive leaves its images. -/
theorem images_settled (uploadName : String) (files : Files) (d : Design.Document)
    (hi : s.content .images = .ok none) :
    ∃ c, (settled (unpacked s files) uploadName files d).content .images = .ok c ∧
      Package.imagesIn c = imagesOf files := by
  rw [content_settled_images hP (stays_unpacked hP hs files)]
  split
  · next hempty =>
    refine ⟨none, ?_, (Catalog.ext (List.isEmpty_iff.1 hempty)).symm⟩
    rw [content_unpacked_of_ne hP hs files (by decide) (by decide), hi]
  · exact ⟨_, rfl, rfl⟩

/-! ## Runs -/

theorem Knows.prepared (h : Knows name bytes s) {r : Except Failure (Bool × Nat)}
    (hp : Prepares s r t) : Knows name bytes t := by
  cases hp with
  | unread | resumed | imagesUnread | uploadUnread | noUpload | damaged => exact h
  | rejected hd =>
    exact .spent ((document_unpacked hP hs _).trans hd) (content_unpacked_upload hP hs _)
  | @accepted name' bytes' files d hd hu hz hm =>
    -- the upload that is unpacked is the one that waits
    cases h with
    | waiting _ hu' hi =>
      obtain ⟨rfl, rfl⟩ : name' = name ∧ bytes' = bytes := by
        rw [hu] at hu'
        cases hu'
        exact ⟨rfl, rfl⟩
      have hdocument := document_accepted hP (b := .start s) hs hm
      split at hdocument
      · exact .held ⟨hz, hm, hdocument, images_settled hP hs name' files d hi⟩
      · exact .unreadable hdocument
    | spent _ hu' => rw [hu] at hu'; cases hu'
    | unreadable hd' => rw [hd] at hd'; cases hd'
    | held h => cases hd.symm.trans h.document

/-- Generating code for the stored document. -/
theorem Knows.yields (h : Knows name bytes s) (o : Design.Options) {r : MetadataRecord}
    (hd : s.document = .ok (some r)) :
    ∃ files d, Yields o name bytes files d (generated s o r.document) := by
  cases h with
  | waiting hd' => rw [hd] at hd'; cases hd'
  | spent hd' => rw [hd] at hd'; cases hd'
  | unreadable hd' => rw [hd] at hd'; cases hd'
  | @held files d h =>
    obtain rfl : r = .of name (d.mapNumbers reread) := by
      have hsame := hd.symm.trans h.document
      exact Option.some.inj (Except.ok.inj hsame)
    obtain ⟨c, hc, himages⟩ := h.images
    refine ⟨files, d, ⟨h.unzipped, h.found, ?_, c, ?_, himages⟩, ?_⟩
    · rw [document_generated hP hs, hd]
    · rw [content_generated_of_ne hP hs _ _ (by decide) (by decide), hc]
    · exact content_generated_code hP hs o _

end

/-! ## Histories -/

/-- Runs and packages, one after the other, lead from one storage to another. -/
inductive Follows : Storage → Storage → Prop
  | none (s) : Follows s s
  | run {o source r b b' t} (hrun : (start o source).run b = (r, b'))
    (rest : Follows b'.storage t) : Follows b.storage t
  | package {millis level r b b' t} (hbuild : (Package.build millis level).run b = (r, b'))
    (rest : Follows b'.storage t) : Follows b.storage t

section

variable {name : String} {bytes : Bytes} {s t : Storage} {P : Storage → Prop} (hP : Reliable P)

include hP

theorem Yields.fetched {o : Design.Options} {files : Files} {d : Design.Document}
    {families : List String} (hs : P s) (h : Yields o name bytes files d s)
    (hf : Fetches families s t) : Yields o name bytes files d t := by
  have hcontent : ∀ k : Key, k ≠ .fonts → t.content k = s.content k := by
    intro k hk
    exact content_congr (hf.octets hP hs fun h => hk h.2)
  obtain ⟨c, hc, himages⟩ := h.images
  refine ⟨⟨h.unzipped, h.found, ?_, c, ?_, himages⟩, ?_⟩
  · exact (document_congr (hf.octets hP hs (by decide))).trans h.document
  · rw [hcontent _ (by decide), hc]
  · rw [hcontent _ (by decide), h.code]

/-- **What a store knows of an upload it still knows after a run**, and a run that came through has
made code of it. -/
theorem Knows.outcome {o : Design.Options} {source : Option Fonts.Source}
    {r : Except Failure Report} (hs : P s) (h : Knows name bytes s)
    (hout : Outcome o source s r t) :
    Knows name bytes t ∧
      ∀ report, r = .ok report → ∃ files d, Yields o name bytes files d t := by
  cases hout with
  | noSource => exact ⟨h, nofun⟩
  | unprepared _ hp => exact ⟨h.prepared hP hs hp, nofun⟩
  | untransformed _ hp ht => cases ht <;> exact ⟨h.prepared hP hs hp, nofun⟩
  | withoutFonts _ hp ht =>
    cases ht with
    | generated hd =>
      have hprepared := h.prepared hP hs hp
      obtain ⟨files, d, hyields⟩ := hprepared.yields hP (hp.stays hP hs) o hd
      exact ⟨.held hyields.toHolds, fun _ _ => ⟨files, d, hyields⟩⟩
  | withFonts _ _ hp ht hf =>
    cases ht with
    | generated hd =>
      have hprepared := h.prepared hP hs hp
      have ht := hp.stays hP hs
      obtain ⟨files, d, hyields⟩ := hprepared.yields hP ht o hd
      have hfetched := hyields.fetched hP (stays_generated hP ht o _) hf
      exact ⟨.held hfetched.toHolds, fun _ _ => ⟨files, d, hfetched⟩⟩

theorem Knows.follows (hf : Follows s t) (hs : P s) (h : Knows name bytes s) :
    Knows name bytes t ∧ P t := by
  induction hf with
  | none => exact ⟨h, hs⟩
  | run hrun _ ih =>
    obtain ⟨hout, hstays⟩ := outcome_of_run hP hs hrun
    exact ih hstays (h.outcome hP hs hout).1
  | @package millis level _ b b' _ hbuild _ ih =>
    have hsame : b'.storage = b.storage := by
      have hpreserves := Package.preserves_build millis level b
      rwa [hbuild] at hpreserves
    rw [hsame] at ih
    exact ih hs h

/-- **A run that came through has made code of the last upload**, whatever happened since. -/
theorem yields_of_run {o : Design.Options} {source : Option Fonts.Source} {b b' : Bench}
    {report : Report} (hs : P s) (hd : s.document = .ok none)
    (hu : s.content .uploadedFile = .ok (some (.upload name bytes)))
    (hi : s.content .images = .ok none) (hf : Follows s b.storage)
    (hrun : (start o source).run b = (.ok report, b')) :
    ∃ files d, Yields o name bytes files d b'.storage := by
  obtain ⟨hknows, hb⟩ := (Knows.waiting hd hu hi).follows hP hf hs
  exact (hknows.outcome hP hb (outcome_of_run hP hb hrun).1).2 report rfl

/-- A run that came through without downloads leaves no fonts. -/
theorem loaded_of_run {o : Design.Options} {source : Option Fonts.Source} {b b' : Bench}
    {report : Report} (hb : P b.storage) (ho : o.downloadFonts = false)
    (hrun : (start o source).run b = (.ok report, b')) : loaded b'.storage = .ok .empty := by
  cases (outcome_of_run hP hb hrun).1 with
  | withFonts hdownload => rw [ho] at hdownload; cases hdownload
  | withoutFonts _ hp ht =>
    obtain ⟨r, _, hgenerated⟩ := ht.of_ok
    have hfonts := content_generated_fonts hP (hp.stays hP hb) o r.document
    rw [ho] at hfonts
    rw [loaded, hgenerated, hfonts]
    rfl

end

end QmlExport.Run
