import QmlExport.Proofs.Code.Families
import QmlExport.Proofs.Package.ReadOnly
import QmlExport.Proofs.Run.Outcome
import QmlExport.Proofs.Store.Upload

/-!
# The lifecycle of records

Six records are written and emptied by uploads and runs. `Lifecycle` says how they belong together;
it holds of an empty store, and every call keeps it, whether the call succeeds or fails half way
(`Lifecycle.perform`). **So it holds after any calls in any order** (`lifecycle_of_calls`).
-/

namespace QmlExport.Run

open Store

/-! ## Calls -/

/-- What can be asked of a database: to take an upload, to run, or to make a package. -/
inductive Call
  | upload (path : String) (bytes : Text.Bytes) (limit : Nat)
  | run (o : Design.Options) (source : Option Fonts.Source)
  | package (millis : String) (level : Int)

/-- A database, and the options of the last run that came through. -/
structure History where
  database : Database
  last : Option Design.Options

namespace History

/-- Nothing has been asked of a new database in memory. -/
def fresh : History := ⟨.fresh, none⟩

/-- The same history on another storage. -/
def onStorage (h : History) (s : Storage) : History :=
  { h with database := { h.database with storage := s } }

/-- Carry out a call. -/
def perform (h : History) : Call → History
  | .upload path bytes limit => { h with database := (h.database.upload path bytes limit).2 }
  | .run o source =>
    match (start o source).run (.start h.database.storage) with
    | (.ok _, b) => { h.onStorage b.storage with last := some o }
    | (.error _, b) => h.onStorage b.storage
  | .package millis level =>
    h.onStorage ((Package.build millis level).run (.start h.database.storage)).2.storage

/-- Carry out calls one after the other. -/
def performAll (h : History) (calls : List Call) : History := calls.foldl perform h

end History

/-! ## The invariant -/

/-- A record of files that is not empty. -/
def HasData (s : Storage) (k : Key) : Prop := s.content k ≠ .ok none

/-- There is a record of a document, be it readable or not. -/
def HasDocument (s : Storage) : Prop := s.document ≠ .ok none

theorem hasDocument {s : Storage} {r : MetadataRecord} (hd : s.document = .ok (some r)) :
    HasDocument s := by
  rw [HasDocument, hd]
  exact nofun

/-- The options of the last run that came through, after one more run. -/
def lastAfter (o : Design.Options) (last : Option Design.Options) :
    Except Failure Report → Option Design.Options
  | .ok _ => some o
  | .error _ => last

/-- How the records of a storage belong together, after a last run under these options. -/
structure Lifecycle (last : Option Design.Options) (s : Storage) : Prop where
  /-- An upload waits until it is unpacked. -/
  upload : HasData s .uploadedFile → ¬ HasData s .extractedFiles ∧ ¬ HasDocument s
  /-- Unpacked files wait until the document is found in them. -/
  extracted : HasData s .extractedFiles → ¬ HasDocument s
  /-- Output belongs to a document. -/
  output : ∀ k ∈ [Key.images, .code, .fonts], HasData s k → HasDocument s
  /-- Code is what the document gives under the options of the last run. -/
  code : HasData s .code → ∃ r o, s.document = .ok (some r) ∧ last = some o ∧
    s.content .code = .ok (some (.code (Code.generate o r.document).1))
  /-- Fonts are some of those that the document names. -/
  fonts : HasData s .fonts → ∃ r families, s.document = .ok (some r) ∧
    s.content .fonts = .ok (some (.fonts families)) ∧
    ∀ e ∈ families.entries, ∀ o, e.1 ∈ (Code.generate o r.document).2
  /-- A run without fonts leaves none. -/
  withoutFonts : ∀ o, last = some o → o.downloadFonts = false → ¬ HasData s .fonts

/-- A storage that waits for a run: there is no document, and at most one record of input. -/
theorem lifecycle_waiting (last : Option Design.Options) {s : Storage}
    (hd : s.document = .ok none) (ho : ∀ k ∈ [Key.images, .code, .fonts], s.content k = .ok none)
    (hin : HasData s .uploadedFile → ¬ HasData s .extractedFiles) : Lifecycle last s where
  upload h := ⟨hin h, fun hn => hn hd⟩
  extracted _ := fun hn => hn hd
  output k hk h := absurd (ho k hk) h
  code h := absurd (ho .code (by decide)) h
  fonts h := absurd (ho .fonts (by decide)) h
  withoutFonts _ _ _ h := h (ho .fonts (by decide))

/-- A storage with a new document: the input is gone, and of the output there are at most images. -/
theorem lifecycle_documented (last : Option Design.Options) {s : Storage} (hd : HasDocument s)
    (hin : ∀ k ∈ [Key.uploadedFile, .extractedFiles], s.content k = .ok none)
    (ho : ∀ k ∈ [Key.code, .fonts], s.content k = .ok none) : Lifecycle last s where
  upload h := absurd (hin .uploadedFile (by decide)) h
  extracted h := absurd (hin .extractedFiles (by decide)) h
  output _ _ _ := hd
  code h := absurd (ho .code (by decide)) h
  fonts h := absurd (ho .fonts (by decide)) h
  withoutFonts _ _ _ h := h (ho .fonts (by decide))

/-- Without document there is no output. -/
theorem Lifecycle.no_output {last : Option Design.Options} {s : Storage} (h : Lifecycle last s)
    (hd : s.document = .ok none) : ∀ k ∈ [Key.images, .code, .fonts], s.content k = .ok none :=
  fun k hk => Classical.byContradiction fun hn => h.output k hk hn hd

/-- With a document there is no input. -/
theorem Lifecycle.no_input {last : Option Design.Options} {s : Storage} (h : Lifecycle last s)
    (hd : HasDocument s) :
    s.content .uploadedFile = .ok none ∧ s.content .extractedFiles = .ok none :=
  ⟨Classical.byContradiction fun hn => (h.upload hn).2 hd,
    Classical.byContradiction fun hn => h.extracted hn hd⟩

section

variable {P : Storage → Prop} (hP : Reliable P) {last : Option Design.Options} {s t : Storage}

include hP

/-! ## Runs -/

/-- Unpacking leaves only the files for splitting. -/
theorem Lifecycle.unpacked (h : Lifecycle last s) (hs : P s) (hd : s.document = .ok none)
    (files : Files) : Lifecycle last (unpacked s files) := by
  refine lifecycle_waiting last ((document_unpacked hP hs _).trans hd) ?_ ?_
  · intro k hk
    have hne : ∀ k ∈ [Key.images, .code, .fonts], k ≠ .uploadedFile ∧ k ≠ .extractedFiles := by
      decide
    rw [content_unpacked_of_ne hP hs _ (hne k hk).1 (hne k hk).2]
    exact h.no_output hd k hk
  · intro hn
    exact absurd (content_unpacked_upload hP hs _) hn

/-- Splitting leaves the document and the images. -/
theorem Lifecycle.settled (h : Lifecycle last s) (hs : P s) (hd : s.document = .ok none)
    (hu : s.content .uploadedFile = .ok none) (name : String) (files : Files)
    (d : Design.Document) : Lifecycle last (settled s name files d) := by
  refine lifecycle_documented last (document_settled_ne hP hs _ _ _) ?_ ?_
  · intro k hk
    by_cases he : k = .extractedFiles
    · rw [he, content_settled_extracted hP hs]
    · have hupload : ∀ k ∈ [Key.uploadedFile, .extractedFiles], k ≠ .extractedFiles →
          k = .uploadedFile := by decide
      rw [hupload k hk he, content_settled_of_ne hP hs _ _ _ (by decide) (by decide), hu]
  · intro k hk
    have hne : ∀ k ∈ [Key.code, .fonts], k ≠ .extractedFiles ∧ k ≠ .images ∧
        k ∈ [Key.images, .code, .fonts] := by decide
    obtain ⟨he, hi, hout⟩ := hne k hk
    rw [content_settled_of_ne hP hs _ _ _ he hi]
    exact h.no_output hd k hout

theorem Lifecycle.prepared (h : Lifecycle last s) (hs : P s) {r : Except Failure (Bool × Nat)}
    (hp : Prepares s r t) : Lifecycle last t := by
  cases hp with
  | unread | resumed | imagesUnread | uploadUnread | noUpload | damaged => exact h
  | rejected hd => exact h.unpacked hP hs hd _
  | @accepted _ _ files _ hd =>
    have hdocument := (document_unpacked hP hs files).trans hd
    exact (h.unpacked hP hs hd _).settled hP (stays_unpacked hP hs _) hdocument
      (content_unpacked_upload hP hs _) _ _ _

theorem Lifecycle.generated (h : Lifecycle last s) (hs : P s) (o : Design.Options)
    {r : MetadataRecord} (hd : s.document = .ok (some r)) :
    Lifecycle (some o) (generated s o r.document) := by
  have hdocument := (document_generated hP hs o r.document).trans hd
  obtain ⟨hu, he⟩ := h.no_input (hasDocument hd)
  have hfonts := content_generated_fonts hP hs o r.document
  exact
    { upload := fun hn =>
        absurd ((content_generated_of_ne hP hs o _ (by decide) (by decide)).trans hu) hn
      extracted := fun hn =>
        absurd ((content_generated_of_ne hP hs o _ (by decide) (by decide)).trans he) hn
      output := fun _ _ _ => hasDocument hdocument
      code := fun _ => ⟨r, o, hdocument, rfl, content_generated_code hP hs o r.document⟩
      fonts := fun hn => by
        rw [HasData, hfonts] at hn
        split at hn
        · next ho =>
          obtain ⟨r', families, hd', hc, hall⟩ := h.fonts hn
          rw [hd] at hd'
          cases hd'
          exact ⟨r, families, hdocument, by rw [hfonts, if_pos ho, hc], hall⟩
        · exact absurd rfl hn
      withoutFonts := fun o' ho' hoff hn => by
        cases ho'
        rw [HasData, hfonts, hoff] at hn
        exact hn rfl }

omit hP in
/-- What is loaded are the fonts of the record, or none. -/
theorem Lifecycle.loaded_families (h : Lifecycle last s) {r : MetadataRecord}
    (hd : s.document = .ok (some r)) {fonts : Fonts} (hl : loaded s = .ok fonts) :
    ∀ e ∈ fonts.entries, ∀ o, e.1 ∈ (Code.generate o r.document).2 := by
  by_cases hn : s.content .fonts = .ok none
  · rw [loaded, hn] at hl
    cases hl
    exact nofun
  · obtain ⟨r', families, hd', hc, hall⟩ := h.fonts hn
    rw [hd] at hd'
    cases hd'
    rw [loaded, hc] at hl
    cases hl
    exact hall

/-- Adding files to a family that the document names. -/
theorem Lifecycle.withFamily {o : Design.Options} (h : Lifecycle (some o) s) (hs : P s)
    (ho : o.downloadFonts = true) {r : MetadataRecord} (hd : s.document = .ok (some r))
    {fonts : Fonts} {family : String} (files : Files) (hl : loaded s = .ok fonts)
    (hf : ∀ o, family ∈ (Code.generate o r.document).2) :
    Lifecycle (some o) (withFamily s fonts family files) := by
  have hdocument := document_withFamily hP hs fonts family files
  have hother : ∀ k, k ≠ .fonts → (Run.withFamily s fonts family files).content k = s.content k :=
    fun _ => content_withFamily_of_ne hP hs fonts family files
  have hloaded := h.loaded_families hd hl
  obtain ⟨hu, he⟩ := h.no_input (hasDocument hd)
  exact
    { upload := fun hn => absurd ((hother _ (by decide)).trans hu) hn
      extracted := fun hn => absurd ((hother _ (by decide)).trans he) hn
      output := fun _ _ _ => hasDocument (hdocument.trans hd)
      code := fun hn => by
        rw [HasData, hother _ (by decide)] at hn
        obtain ⟨r, o, hd, ho, hc⟩ := h.code hn
        exact ⟨r, o, hdocument.trans hd, ho, (hother _ (by decide)).trans hc⟩
      fonts := fun _ => by
        refine ⟨r, _, hdocument.trans hd, content_withFamily hP hs fonts family files, ?_⟩
        intro e he
        rcases Catalog.mem_insertEntry he with rfl | he
        · exact hf
        · exact hloaded e he
      withoutFonts := fun o' ho' hoff => by
        -- the last run is the one that wanted these fonts
        cases ho'
        rw [ho] at hoff
        cases hoff }

theorem Lifecycle.fetched {o : Design.Options} {families : List String} (hs : P s)
    (ho : o.downloadFonts = true) {r : MetadataRecord}
    (hfamilies : ∀ f ∈ families, ∀ o, f ∈ (Code.generate o r.document).2)
    (hf : Fetches families s t) (h : Lifecycle (some o) s) (hd : s.document = .ok (some r)) :
    Lifecycle (some o) t := by
  induction hf with
  | none s => exact h
  | @more s t fonts family files hfamily hl _ ih =>
    exact ih (hP.withContent hs _ _)
      (h.withFamily hP hs ho hd files hl (hfamilies family hfamily))
      ((hP.document_withContent hs _ _).trans hd)

/-- **A run keeps the records together**, whatever comes of it. -/
theorem Lifecycle.outcome {o : Design.Options} {source : Option Fonts.Source}
    {r : Except Failure Report} (h : Lifecycle last s) (hs : P s)
    (hout : Outcome o source s r t) :
    Lifecycle (lastAfter o last r) t := by
  cases hout with
  | noSource => exact h
  | unprepared _ hp => exact h.prepared hP hs hp
  | untransformed _ hp ht => cases ht <;> exact h.prepared hP hs hp
  | withoutFonts _ hp ht =>
    cases ht with
    | generated hd => exact (h.prepared hP hs hp).generated hP (hp.stays hP hs) o hd
  | withFonts ho _ hp ht hf =>
    cases ht with
    | @generated r hd =>
      have ht := hp.stays hP hs
      have hfamilies : ∀ f ∈ (Code.generate o r.document).2, ∀ o',
          f ∈ (Code.generate o' r.document).2 := by
        intro f hf o'
        rwa [Code.families_generate] at hf ⊢
      exact Lifecycle.fetched hP (stays_generated hP ht o _) ho hfamilies hf
        ((h.prepared hP hs hp).generated hP ht o hd) ((document_generated hP ht o _).trans hd)

end

/-! ## Histories -/

theorem lifecycle_fresh (last : Option Design.Options) : Lifecycle last .fresh :=
  lifecycle_waiting last rfl (fun _ _ => rfl) fun hn => absurd rfl hn

theorem lifecycle_uploaded (last : Option Design.Options) (name : String) (bytes : Text.Bytes) :
    Lifecycle last (.uploaded name bytes) := by
  have hne : ∀ k ∈ [Key.images, .code, .fonts], k ≠ .uploadedFile := by decide
  exact lifecycle_waiting last (Storage.document_uploaded name bytes)
    (fun k hk => Storage.content_uploaded_of_ne name bytes (hne k hk))
    fun _ hn => hn (Storage.content_uploaded_of_ne name bytes (by decide))

namespace History

/-- A run leaves its storage, and its options when it came through. -/
theorem perform_run {h : History} {o : Design.Options} {source : Option Fonts.Source}
    {r : Except Failure Report} {b : Bench}
    (hrun : (start o source).run (.start h.database.storage) = (r, b)) :
    (h.perform (.run o source)).database.storage = b.storage ∧
      (h.perform (.run o source)).last = lastAfter o h.last r := by
  simp only [perform, hrun]
  cases r with
  | ok report => exact ⟨rfl, rfl⟩
  | error f => exact ⟨rfl, rfl⟩

/-- **Every call keeps the records together.** -/
theorem lifecycle_perform {h : History} (hl : Lifecycle h.last h.database.storage)
    (hm : InMemory h.database.storage) (c : Call) :
    Lifecycle (h.perform c).last (h.perform c).database.storage ∧
      InMemory (h.perform c).database.storage := by
  cases c with
  | upload path bytes limit =>
    rw [perform]
    rcases storage_upload h.database hm path bytes limit with hsame | hnew
    · rw [hsame]
      exact ⟨hl, hm⟩
    · rw [hnew]
      exact ⟨lifecycle_uploaded _ _ _, Storage.inMemory_uploaded _ _⟩
  | run o source =>
    cases hrun : (start o source).run (.start h.database.storage) with
    | mk r b =>
      obtain ⟨hout, hm'⟩ := outcome_of_run reliable_memory hm hrun
      obtain ⟨hstorage, hlast⟩ := perform_run hrun
      rw [hstorage, hlast]
      exact ⟨hl.outcome reliable_memory hm hout, hm'⟩
  | package millis level =>
    have hsame : (h.perform (.package millis level)).database.storage = h.database.storage :=
      Package.preserves_build millis level (.start h.database.storage)
    rw [hsame]
    exact ⟨hl, hm⟩

theorem lifecycle_performAll (calls : List Call) :
    ∀ {h : History}, Lifecycle h.last h.database.storage → InMemory h.database.storage →
      Lifecycle (h.performAll calls).last (h.performAll calls).database.storage ∧
        InMemory (h.performAll calls).database.storage := by
  induction calls with
  | nil => exact fun hl hm => ⟨hl, hm⟩
  | cons c calls ih =>
    intro h hl hm
    obtain ⟨hl, hm⟩ := lifecycle_perform hl hm c
    exact ih hl hm

end History

end QmlExport.Run
