import QmlExport.Proofs.Run.Isolation
import QmlExport.Proofs.Run.Provenance
import QmlExport.Proofs.Run.Refetching
import QmlExport.Proofs.Store.Remains

/-!
# Runs that are resumed

A run that came through leaves its storage at rest: the document is there, its code, and no family
that would be changed by going through it again. **On a storage at rest a run comes through, changes
no record and tells the same** (`AtRest.start`), and so does every further one.
-/

namespace QmlExport.Run

open Store Text Upload

/-! ## What a run leaves -/

/-- The storage after a run that has got at the document. -/
def finished (o : Design.Options) (source : Option Fonts.Source) (s : Storage)
    (d : Design.Document) : Storage :=
  match o.downloadFonts, source with
  | true, some source => (Code.generate o d).2.foldl (fetched source) (generated s o d)
  | _, _ => generated s o d

/-- A storage that a run with these options would leave as it is. -/
structure AtRest (o : Design.Options) (source : Option Fonts.Source) (s : Storage)
    (r : MetadataRecord) : Prop where
  document : s.document = .ok (some r)
  code : s.octets .files .code =
    .ok (some (Record.written (.file ⟨Key.code.name, some (.code (Code.generate o r.document).1)⟩)))
  fonts : o.downloadFonts = false →
    s.octets .files .fonts = .ok (some (Record.written (.file ⟨Key.fonts.name, none⟩)))
  families : o.downloadFonts = true → ∀ src, source = some src →
    ∀ family ∈ (Code.generate o r.document).2, Rests src s family

/-- What a report tells of the fonts. -/
inductive FontsTold (o : Design.Options) (source : Option Fonts.Source) (s : Storage)
    (families : List String) : Option FontSummary → Prop
  | unwanted (ho : o.downloadFonts = false) : FontsTold o source s families none
  | wanted {src summary} (ho : o.downloadFonts = true) (hsource : source = some src)
    (h : Tallies ⟨families.length, 0, 0, []⟩ (families.map (fate src s)) summary) :
    FontsTold o source s families (some summary)

/-- What a report tells of the storage that a run leaves. -/
structure Told (o : Design.Options) (source : Option Fonts.Source) (s : Storage)
    (r : MetadataRecord) (report : Report) : Prop where
  images : (s.content .images).map imageCount = .ok report.images
  codeFiles : report.codeFiles = Code.countFiles (Code.generate o r.document).1
  fontFamilies : report.fontFamilies = (Code.generate o r.document).2
  fonts : FontsTold o source s (Code.generate o r.document).2 report.fonts

/-- Two reports tell the same, but for what was resumed, and which of the available families were
downloaded. -/
structure Agrees (first again : Report) : Prop where
  images : again.images = first.images
  codeFiles : again.codeFiles = first.codeFiles
  fontFamilies : again.fontFamilies = first.fontFamilies
  requested : again.fonts.map FontSummary.requested = first.fonts.map FontSummary.requested
  available : again.fonts.map FontSummary.available = first.fonts.map FontSummary.available
  failures : again.fonts.map FontSummary.failures = first.fonts.map FontSummary.failures

section

variable {o : Design.Options} {source : Option Fonts.Source} {s t : Storage} {r : MetadataRecord}
  {first again : Report}

theorem Told.congr (h : Told o source s r first) (hsame : SameRecords s t) :
    Told o source t r first where
  images := hsame.content .images ▸ h.images
  codeFiles := h.codeFiles
  fontFamilies := h.fontFamilies
  fonts := by
    have hfonts := h.fonts
    generalize first.fonts = fonts at hfonts ⊢
    cases hfonts with
    | unwanted ho => exact .unwanted ho
    | @wanted src summary ho hsource htallies =>
      apply FontsTold.wanted ho hsource
      rwa [← List.map_congr_left fun family _ => fate_congr hsame family]

/-- What is told of one storage is always the same. -/
theorem Told.agrees (h : Told o source s r first) (h' : Told o source s r again) :
    Agrees first again := by
  have hfonts := h.fonts
  have hfonts' := h'.fonts
  obtain ⟨hrequested, havailable, hfailures⟩ :
      again.fonts.map FontSummary.requested = first.fonts.map FontSummary.requested ∧
      again.fonts.map FontSummary.available = first.fonts.map FontSummary.available ∧
      again.fonts.map FontSummary.failures = first.fonts.map FontSummary.failures := by
    generalize first.fonts = fonts at hfonts ⊢
    generalize again.fonts = fonts' at hfonts' ⊢
    cases hfonts with
    | unwanted ho =>
      cases hfonts' with
      | unwanted => exact ⟨rfl, rfl, rfl⟩
      | wanted ho' => rw [ho] at ho'; cases ho'
    | wanted ho hsource htallies =>
      cases hfonts' with
      | unwanted ho' => rw [ho] at ho'; cases ho'
      | wanted _ hsource' htallies' =>
        obtain rfl := Option.some.inj (hsource.symm.trans hsource')
        exact ⟨congrArg some (htallies'.requested.trans htallies.requested.symm),
          congrArg some (htallies'.available.trans htallies.available.symm),
          congrArg some (htallies'.failures.trans htallies.failures.symm)⟩
  exact ⟨Except.ok.inj (h'.images.symm.trans h.images), h'.codeFiles.trans h.codeFiles.symm,
    h'.fontFamilies.trans h.fontFamilies.symm, hrequested, havailable, hfailures⟩

variable {P : Storage → Prop} (hP : Reliable P) (hs : P s)

include hP hs

theorem stays_finished (d : Design.Document) : P (finished o source s d) := by
  have hgenerated := stays_generated hP hs o d
  unfold finished
  split
  · exact stays_foldl hP hgenerated _ _
  · exact hgenerated

theorem octets_generated (d : Design.Document) (p : Partition) (k : Key) :
    (generated s o d).octets p k =
      if p = .files ∧ k = .fonts ∧ o.downloadFonts = false then
        .ok (some (Record.written (.file ⟨Key.fonts.name, none⟩)))
      else if p = .files ∧ k = .code then
        .ok (some (Record.written (.file ⟨Key.code.name, some (.code (Code.generate o d).1)⟩)))
      else s.octets p k := by
  have hcoded := octets_withContent hP hs .code (some (.code (Code.generate o d).1)) p k
  unfold generated
  cases o.downloadFonts with
  | true => simpa using hcoded
  | false =>
    have hcleared := octets_withContent hP (hP.withContent hs .code
      (some (.code (Code.generate o d).1))) .fonts none p k
    simpa [hcoded] using hcleared

/-- A run that has got at the document writes the code and the fonts. -/
theorem octets_finished (d : Design.Document) {p : Partition} {k : Key}
    (h : ¬ (p = .files ∧ k = .fonts)) :
    (finished o source s d).octets p k = (generated s o d).octets p k := by
  unfold finished
  split
  · exact (fetches_foldl _ _ _).octets hP (stays_generated hP hs o d) h
  · rfl

theorem document_finished (source : Option Fonts.Source) (o : Design.Options)
    (d : Design.Document) : (finished o source s d).document = s.document := by
  apply document_congr
  refine (octets_finished hP hs d (by decide)).trans ?_
  rw [octets_generated hP hs, if_neg (by simp), if_neg (by simp)]

theorem content_finished_of_ne (source : Option Fonts.Source) (o : Design.Options)
    (d : Design.Document) {k : Key} (hc : k ≠ .code) (hf : k ≠ .fonts) :
    (finished o source s d).content k = s.content k := by
  apply content_congr
  rw [octets_finished hP hs d (hf ·.2), octets_generated hP hs, if_neg (hf ·.2.1),
    if_neg (hc ·.2)]

/-- **A run that has got at the document leaves a storage at rest.** -/
theorem atRest_finished (source : Option Fonts.Source) (o : Design.Options)
    (hd : s.document = .ok (some r)) : AtRest o source (finished o source s r.document) r where
  document := (document_finished hP hs source o r.document).trans hd
  code := by
    refine (octets_finished hP hs r.document (by decide)).trans ?_
    rw [octets_generated hP hs, if_neg (by simp), if_pos ⟨rfl, rfl⟩]
  fonts := by
    intro ho
    unfold finished
    rw [ho]
    exact (octets_generated hP hs _ _ _).trans (if_pos ⟨rfl, rfl, ho⟩)
  families := by
    rintro ho src rfl
    unfold finished
    rw [ho]
    exact rests_foldl hP (stays_generated hP hs o r.document) src _

/-- A storage at rest is left as it is. -/
theorem AtRest.sameRecords (h : AtRest o source s r) :
    SameRecords (finished o source s r.document) s := by
  have hstays := stays_generated hP hs o r.document
  have hgenerated : SameRecords (generated s o r.document) s := by
    intro p k
    rw [octets_generated hP hs]
    split
    · next hfonts =>
      obtain ⟨rfl, rfl, ho⟩ := hfonts
      exact (h.fonts ho).symm
    · split
      · next hcode =>
        obtain ⟨rfl, rfl⟩ := hcode
        exact h.code.symm
      · rfl
  unfold finished
  split
  · next src ho =>
    apply SameRecords.trans (sameRecords_foldl hP hstays _) hgenerated
    intro family hfamily
    exact (h.families ho src rfl family hfamily).congr hP hs hstays hgenerated.symm
  · exact hgenerated

/-! ## Runs -/

theorem ends_transform (o : Design.Options) (hd : s.document = .ok (some r)) :
    Ends (transform o) s (.ok (Code.countFiles (Code.generate o r.document).1,
      (Code.generate o r.document).2)) (generated s o r.document) := by
  obtain ⟨q, t, htransforms, hends⟩ := transforms_transform hP hs o
  cases htransforms with
  | unread hd' => rw [hd] at hd'; cases hd'
  | missing hd' => rw [hd] at hd'; cases hd'
  | generated hd' =>
    rw [hd] at hd'
    cases hd'
    exact hends

omit hs in
/-- What is done behind the document, and told of it. -/
theorem ends_finished {resumed : Bool} {images : Nat} (ht : P t)
    (hprepare : Ends prepare s (.ok (resumed, images)) t) (hd : t.document = .ok (some r))
    (himages : (t.content .images).map imageCount = .ok images)
    (hsource : o.downloadFonts = true → source ≠ none) :
    ∃ report, Ends (start o source) s (.ok report) (finished o source t r.document) ∧
      report.resumed = resumed ∧ Told o source (finished o source t r.document) r report := by
  have htransform := ends_transform hP ht o hd
  have hkept : ((finished o source t r.document).content .images).map imageCount = .ok images := by
    rwa [content_finished_of_ne hP ht source o r.document (by decide) (by decide)]
  have hchecked : ¬ (o.downloadFonts && source.isNone) = true := by
    intro h
    rw [Bool.and_eq_true, Option.isNone_iff_eq_none] at h
    exact hsource h.1 h.2
  have hbegun : ∀ {fonts u}, Ends (fontsIfWanted o source (Code.generate o r.document).2)
      (generated t o r.document) (.ok fonts) u → Ends (start o source) s
        (.ok ⟨resumed, images, Code.countFiles (Code.generate o r.document).1,
          (Code.generate o r.document).2, fonts⟩) u := by
    intro fonts u hfonts
    apply ends_start
    rw [steps_eq, if_neg hchecked]
    exact .bind hprepare (.bind htransform (.bind hfonts (ends_done _ _)))
  cases ho : o.downloadFonts with
  | false =>
    have hfinished : finished o source t r.document = generated t o r.document := by
      unfold finished
      rw [ho]
    rw [hfinished] at hkept ⊢
    exact ⟨_, hbegun (ends_fontsIfWanted_off ho _ _ _), rfl, hkept, rfl, rfl, .unwanted ho⟩
  | true =>
    cases source with
    | none => exact absurd rfl (hsource ho)
    | some source =>
      have hstays := stays_generated hP ht o r.document
      have hfinished : finished o (some source) t r.document =
          (Code.generate o r.document).2.foldl (fetched source) (generated t o r.document) := by
        unfold finished
        rw [ho]
      rw [hfinished] at hkept ⊢
      have hfonts := ends_processFonts hP source (Code.generate o r.document).2 hstays
      refine ⟨_, hbegun (ends_fontsIfWanted_on ho hfonts), rfl, hkept, rfl, rfl, .wanted ho rfl ?_⟩
      -- the fates are told as they are at the end
      rw [List.map_congr_left fun family _ => fate_foldl hP hstays source _ family]
      exact tallies_countedAll hP hstays source _ _

/-- The images that are counted are those that are stored. -/
theorem images_prepared {resumed : Bool} {images : Nat} (h : Prepares s (.ok (resumed, images)) t)
    (hi : s.document = .ok none → s.content .images = .ok none) :
    (t.content .images).map imageCount = .ok images := by
  cases h with
  | resumed _ hc => rw [hc]; rfl
  | accepted hd =>
    obtain ⟨c, hc, himages⟩ := images_settled hP hs _ _ _ (hi hd)
    rw [hc, ← himages]
    rcases c with _ | _ | _ | _ | _ <;> rfl

omit hP hs in
/-- A run that came through had the fonts it needs, and has got at the document. -/
theorem Outcome.of_ok {report : Report} (h : Outcome o source s (.ok report) t) :
    (o.downloadFonts = true → source ≠ none) ∧
      ∃ p u r, Prepares s (.ok p) u ∧ u.document = .ok (some r) := by
  cases h with
  | withoutFonts ho hp ht =>
    obtain ⟨r, hd, _⟩ := ht.of_ok
    have hsource : o.downloadFonts = true → source ≠ none := by
      intro ho'
      rw [ho] at ho'
      cases ho'
    exact ⟨hsource, _, _, r, hp, hd⟩
  | withFonts _ hsource hp ht =>
    obtain ⟨r, hd, _⟩ := ht.of_ok
    exact ⟨fun _ => hsource, _, _, r, hp, hd⟩

omit hs in
/-- **A run that came through leaves a storage at rest, and tells of it.** -/
theorem atRest_of_run {b b' : Bench} {report : Report} (hb : P b.storage)
    (hi : b.storage.document = .ok none → b.storage.content .images = .ok none)
    (hrun : (start o source).run b = (.ok report, b')) :
    (o.downloadFonts = true → source ≠ none) ∧ P b'.storage ∧
      ∃ r, AtRest o source b'.storage r ∧ Told o source b'.storage r report := by
  obtain ⟨hout, hstays⟩ := outcome_of_run hP hb hrun
  obtain ⟨hsource, ⟨resumed, images⟩, t, r, hprepares, hd⟩ := hout.of_ok
  have ht := hprepares.stays hP hb
  obtain ⟨told, hends, _, htold⟩ := ends_finished hP ht (ends_of_prepares hP hb hprepares) hd
    (images_prepared hP hb hprepares hi) hsource
  obtain ⟨c, hc, hstorage⟩ := hends b rfl
  obtain ⟨hreport, rfl⟩ := Prod.mk.inj (hc.symm.trans hrun)
  cases hreport
  exact ⟨hsource, hstays, r, hstorage ▸ atRest_finished hP ht source o hd, hstorage ▸ htold⟩

/-- **On a storage at rest a run comes through, changes no record and tells the same.** -/
theorem AtRest.start (h : AtRest o source s r) (htold : Told o source s r first)
    (hsource : o.downloadFonts = true → source ≠ none) :
    ∃ again t, Ends (start o source) s (.ok again) t ∧ again.resumed = true ∧ Agrees first again ∧
      P t ∧ SameRecords t s ∧ AtRest o source t r ∧ Told o source t r first := by
  obtain ⟨c, hc, himages⟩ : ∃ c, s.content .images = .ok c ∧ imageCount c = first.images := by
    have himages := htold.images
    cases hc : s.content .images with
    | error f => rw [hc] at himages; cases himages
    | ok c => rw [hc] at himages; exact ⟨c, rfl, Except.ok.inj himages⟩
  obtain ⟨again, hends, hresumed, htold'⟩ := ends_finished hP hs
    (ends_of_prepares hP hs (.resumed h.document hc)) h.document (by rw [hc]; rfl) hsource
  have hsame := h.sameRecords hP hs
  have htold := htold.congr hsame.symm
  exact ⟨again, _, hends, hresumed, htold.agrees htold', stays_finished hP hs _, hsame,
    atRest_finished hP hs source o h.document, htold⟩

end

/-! ## Further runs -/

/-- The storage after so many further runs. -/
def storageAfter (o : Design.Options) (source : Option Fonts.Source) : Nat → Storage → Storage
  | 0, s => s
  | n + 1, s => storageAfter o source n ((start o source).run (.start s)).2.storage

section

variable {P : Storage → Prop} (hP : Reliable P) {o : Design.Options}
  {source : Option Fonts.Source} {s : Storage} {r : MetadataRecord} {first : Report}

include hP

theorem AtRest.after (hs : P s) (h : AtRest o source s r) (htold : Told o source s r first)
    (hsource : o.downloadFonts = true → source ≠ none) (n : Nat) :
    P (storageAfter o source n s) ∧ SameRecords (storageAfter o source n s) s ∧
      AtRest o source (storageAfter o source n s) r ∧
      Told o source (storageAfter o source n s) r first := by
  induction n generalizing s with
  | zero => exact ⟨hs, .refl s, h, htold⟩
  | succ n ih =>
    obtain ⟨again, t, hends, _, _, ht, hsame, hrest, htold⟩ := h.start hP hs htold hsource
    obtain ⟨b, hrun, rfl⟩ := hends (.start s) rfl
    obtain ⟨hafter, hsame', hrest', htold'⟩ := ih ht hrest htold
    have hnext : storageAfter o source (n + 1) s = storageAfter o source n b.storage := by
      show storageAfter o source n ((Run.start o source).run (.start s)).2.storage = _
      rw [hrun]
    rw [hnext]
    exact ⟨hafter, hsame'.trans hsame, hrest', htold'⟩

end

/-- A source of fonts that has none. -/
def emptySource : Fonts.Source := ⟨.ok ⟨[]⟩, fun url => .error (Fonts.notFound url)⟩

end QmlExport.Run
