import QmlExport.Proofs.Run.Ends

/-!
# Getting at the document

`Prepares` lists the ways in which a run gets at the document, or does not: from the store, where an
earlier run has left it, or else from the uploaded archive. **On a reliable storage one of them is
taken** (`prepares_prepare`), **and only one is open** (`Prepares.unique`).
-/

namespace QmlExport.Run

open Store Upload

/-- The storage after the uploaded archive was unpacked. -/
def unpacked (s : Storage) (files : Files) : Storage :=
  (s.withContent .extractedFiles (some (.files files))).withContent .uploadedFile none

/-- The storage after the images were stored, if there are any. -/
def withImages (s : Storage) (images : Files) : Storage :=
  if images.isEmpty then s else s.withContent .images (some (.files images))

/-- The storage after the unpacked files were split into images and a document. -/
def settled (s : Storage) (uploadName : String) (files : Files) (d : Design.Document) : Storage :=
  ((withImages s (imagesOf files)).withDocument (.of uploadName d)).withContent .extractedFiles none

/-- The number of images that a record holds. -/
def imageCount : Option Content → Nat
  | some (.files images) => images.size
  | _ => 0

/-- The ways in which a run gets at the document, or does not. -/
inductive Prepares (s : Storage) : Except Failure (Bool × Nat) → Storage → Prop
  | unread {f} (hd : s.document = .error f) : Prepares s (.error f) s
  | resumed {r c} (hd : s.document = .ok (some r)) (hi : s.content .images = .ok c) :
    Prepares s (.ok (true, imageCount c)) s
  | imagesUnread {r f} (hd : s.document = .ok (some r)) (hi : s.content .images = .error f) :
    Prepares s (.error f) s
  | uploadUnread {f} (hd : s.document = .ok none) (hu : s.content .uploadedFile = .error f) :
    Prepares s (.error f) s
  | noUpload {c} (hd : s.document = .ok none) (hu : s.content .uploadedFile = .ok c)
    (hc : ∀ name bytes, c ≠ some (.upload name bytes)) : Prepares s (.error noUpload) s
  | damaged {name bytes f} (hd : s.document = .ok none)
    (hu : s.content .uploadedFile = .ok (some (.upload name bytes)))
    (hz : unzip bytes = .error f) : Prepares s (.error f) s
  | rejected {name bytes files f} (hd : s.document = .ok none)
    (hu : s.content .uploadedFile = .ok (some (.upload name bytes)))
    (hz : unzip bytes = .ok files) (hm : documentOf files name = .error f) :
    Prepares s (.error f) (unpacked s files)
  | accepted {name bytes files d} (hd : s.document = .ok none)
    (hu : s.content .uploadedFile = .ok (some (.upload name bytes)))
    (hz : unzip bytes = .ok files) (hm : documentOf files name = .ok d) :
    Prepares s (.ok (false, (imagesOf files).size)) (settled (unpacked s files) name files d)

/-- Only one of the ways is open. -/
theorem Prepares.unique {s t t' : Storage} {r r' : Except Failure (Bool × Nat)}
    (h : Prepares s r t) (h' : Prepares s r' t') : r = r' ∧ t = t' := by
  cases h <;> cases h' <;> grind

section

variable {P : Storage → Prop} (hP : Reliable P) {s : Storage} (hs : P s)

include hP hs

theorem stays_unpacked (files : Files) : P (unpacked s files) :=
  hP.withContent (hP.withContent hs _ _) _ _

theorem stays_withImages (images : Files) : P (withImages s images) := by
  unfold withImages
  split
  · exact hs
  · exact hP.withContent hs _ _

theorem stays_settled (name : String) (files : Files) (d : Design.Document) :
    P (settled s name files d) :=
  hP.withContent (hP.withDocument (stays_withImages hP hs _) _) _ _

theorem Prepares.stays {t : Storage} {r : Except Failure (Bool × Nat)} (hp : Prepares s r t) :
    P t := by
  cases hp with
  | unread | resumed | imagesUnread | uploadUnread | noUpload | damaged => exact hs
  | rejected => exact stays_unpacked hP hs _
  | accepted => exact stays_settled hP (stays_unpacked hP hs _) _ _ _

/-- What unpacking leaves for splitting. -/
theorem content_unpacked (files : Files) :
    (unpacked s files).content .extractedFiles = .ok (some (.files files)) := by
  rw [unpacked, hP.content_withContent (hP.withContent hs _ _), if_neg (by decide),
    hP.content_withContent hs, if_pos rfl]
  exact readBack_eq _ fun c hc => by cases hc; exact Content.readable_files files

/-- What is left when the upload is spent. -/
theorem content_unpacked_upload (files : Files) :
    (unpacked s files).content .uploadedFile = .ok none := by
  rw [unpacked, hP.content_withContent (hP.withContent hs _ _), if_pos rfl]
  exact readBack_eq _ nofun

theorem document_unpacked (files : Files) :
    (unpacked s files).document = s.document := by
  rw [unpacked, hP.document_withContent (hP.withContent hs _ _), hP.document_withContent hs]

theorem document_settled (name : String) (files : Files) (d : Design.Document) :
    (settled s name files d).document = readBackDocument (.of name d) := by
  have hi := stays_withImages hP hs (imagesOf files)
  rw [settled, hP.document_withContent (hP.withDocument hi _), hP.document_withDocument hi]

/-- What was split off is found again, be it readable or not. -/
theorem document_settled_ne (name : String) (files : Files) (d : Design.Document) :
    (settled s name files d).document ≠ .ok none := by
  rw [document_settled hP hs, readBackDocument_eq]
  split <;> exact nofun

theorem content_unpacked_of_ne (files : Files) {k : Key} (hu : k ≠ .uploadedFile)
    (he : k ≠ .extractedFiles) : (unpacked s files).content k = s.content k := by
  rw [unpacked, hP.content_withContent (hP.withContent hs _ _), if_neg hu,
    hP.content_withContent hs, if_neg he]

theorem content_withImages_of_ne (images : Files) {k : Key} (hi : k ≠ .images) :
    (withImages s images).content k = s.content k := by
  unfold withImages
  split
  · rfl
  · rw [hP.content_withContent hs, if_neg hi]

theorem content_settled_extracted (name : String) (files : Files) (d : Design.Document) :
    (settled s name files d).content .extractedFiles = .ok none := by
  have hi := stays_withImages hP hs (imagesOf files)
  rw [settled, hP.content_withContent (hP.withDocument hi _), if_pos rfl]
  exact readBack_eq _ nofun

theorem content_settled_of_ne (name : String) (files : Files) (d : Design.Document) {k : Key}
    (he : k ≠ .extractedFiles) (hi : k ≠ .images) :
    (settled s name files d).content k = s.content k := by
  have hstays := stays_withImages hP hs (imagesOf files)
  rw [settled, hP.content_withContent (hP.withDocument hstays _), if_neg he,
    hP.content_withDocument hstays, content_withImages_of_ne hP hs _ hi]

/-- What splitting leaves of images: those it found, and what was there if it found none. -/
theorem content_settled_images (name : String) (files : Files) (d : Design.Document) :
    (settled s name files d).content .images =
      if (imagesOf files).isEmpty then s.content .images
      else .ok (some (.files (imagesOf files))) := by
  have hstays := stays_withImages hP hs (imagesOf files)
  rw [settled, hP.content_withContent (hP.withDocument hstays _), if_neg (by decide),
    hP.content_withDocument hstays, withImages]
  split
  · rfl
  · rw [hP.content_withContent hs, if_pos rfl]
    exact readBack_eq _ fun c hc => by cases hc; exact Content.readable_files _

theorem ends_extract {name : String} {bytes : Text.Bytes} {files : Files}
    (hu : s.content .uploadedFile = .ok (some (.upload name bytes)))
    (hz : unzip bytes = .ok files) : Ends extract s (.ok name) (unpacked s files) := by
  refine .bind (.enter _ _) (.bind (.progress _ _) (.bind (.say _ _) (.bind (.getContent hu) ?_)))
  refine .bind (.ofExcept hz) (.bind (.onStorage (hP.run_putContent hs _ _)) ?_)
  refine .bind (.onStorage (hP.run_putContent (hP.withContent hs _ _) _ _)) ?_
  exact .bind (.progress _ _) (.bind (.say _ _) (.pure _ _))

omit hP hs in
theorem ends_extract_damaged {name : String} {bytes : Text.Bytes} {f : Failure}
    (hu : s.content .uploadedFile = .ok (some (.upload name bytes)))
    (hz : unzip bytes = .error f) : Ends extract s (.error f) s := by
  refine .bind (.enter _ _) (.bind (.progress _ _) (.bind (.say _ _) (.bind (.getContent hu) ?_)))
  exact .fail (.ofExcept hz)

omit hP hs in
theorem ends_extract_noUpload {c : Option Content} (hu : s.content .uploadedFile = .ok c)
    (hc : ∀ name bytes, c ≠ some (.upload name bytes)) : Ends extract s (.error noUpload) s := by
  refine .bind (.enter _ _) (.bind (.progress _ _) (.bind (.say _ _) (.bind (.getContent hu) ?_)))
  rcases c with _ | ⟨name, bytes⟩ | _ | _ | _
  case some.upload => exact absurd rfl (hc name bytes)
  all_goals exact .throw _ _

omit hP hs in
theorem ends_extract_unread {f : Failure} (hu : s.content .uploadedFile = .error f) :
    Ends extract s (.error f) s :=
  .bind (.enter _ _) (.bind (.progress _ _) (.bind (.say _ _) (.fail (.getContent hu))))

/-- The part of splitting behind the images. -/
theorem ends_split_document (name : String) (d : Design.Document) (count : Nat) :
    Ends (do
      Job.onStorage (putDocument (.of name d))
      Job.onStorage (putContent Key.extractedFiles.name none)
      Job.progress 40
      Job.say "Loading metadata succeeded."
      Pure.pure count) s (.ok count)
      ((s.withDocument (.of name d)).withContent .extractedFiles none) := by
  refine .bind (.onStorage (hP.run_putDocument hs rfl)) ?_
  refine .bind (.onStorage (hP.run_putContent (hP.withDocument hs _) _ _)) ?_
  exact .bind (.progress _ _) (.bind (.say _ _) (.pure _ _))

theorem ends_split {name : String} {files : Files} {d : Design.Document}
    (he : s.content .extractedFiles = .ok (some (.files files)))
    (hm : documentOf files name = .ok d) :
    Ends (split name) s (.ok (imagesOf files).size) (settled s name files d) := by
  refine .bind (.enter _ _) (.bind (.progress _ _) (.bind (.getContent he) ?_))
  refine .bind (.ofExcept hm) ?_
  unfold settled withImages
  by_cases hi : (imagesOf files).isEmpty
  · simp only [hi, if_true]
    exact ends_split_document hP hs name d _
  · simp only [hi]
    exact .bind (.onStorage (hP.run_putContent hs _ _))
      (ends_split_document hP (hP.withContent hs _ _) name d _)

omit hP hs in
theorem ends_split_rejected {name : String} {files : Files} {f : Failure}
    (he : s.content .extractedFiles = .ok (some (.files files)))
    (hm : documentOf files name = .error f) : Ends (split name) s (.error f) s :=
  .bind (.enter _ _) (.bind (.progress _ _) (.bind (.getContent he) (.fail (.ofExcept hm))))

omit hP hs in
theorem ends_storedImages {r : Except Failure (Option Content)} (hi : s.content .images = r) :
    Ends storedImages s (r.map imageCount) s := by
  cases r with
  | error f => exact .fail (.getContent hi)
  | ok c =>
    refine .bind (.getContent hi) ?_
    rcases c with _ | _ | _ | _ | _ <;> exact .pure _ _

omit hP hs in
/-- An earlier run has left the document in the store. -/
theorem prepares_resuming {r : MetadataRecord} (hd : s.document = .ok (some r)) :
    ∃ r t, Prepares s r t ∧ Ends prepare s r t := by
  have hstored := ends_storedImages (s := s) rfl
  cases hi : s.content .images with
  | error f =>
    rw [hi] at hstored
    exact ⟨_, _, .imagesUnread hd hi,
      .bind (.getDocument hd) (.bind (.say _ _) (.fail hstored))⟩
  | ok c =>
    rw [hi] at hstored
    exact ⟨_, _, .resumed hd hi,
      .bind (.getDocument hd) (.bind (.say _ _) (.bind hstored (.pure _ _)))⟩

/-- The upload is still there to be unpacked. -/
theorem prepares_unpacking {name : String} {bytes : Text.Bytes} (hd : s.document = .ok none)
    (hu : s.content .uploadedFile = .ok (some (.upload name bytes))) :
    ∃ r t, Prepares s r t ∧ Ends prepare s r t := by
  cases hz : unzip bytes with
  | error f =>
    exact ⟨_, _, .damaged hd hu hz,
      .bind (.getDocument hd) (.fail (ends_extract_damaged hu hz))⟩
  | ok files =>
    have hextract := ends_extract hP hs hu hz
    have hcontent := content_unpacked hP hs files
    cases hm : documentOf files name with
    | error f =>
      -- the upload is spent by now, so the storage that is left is not the one of the start
      exact ⟨_, _, .rejected hd hu hz hm, .bind (.getDocument hd) (.bind hextract
        (.fail (ends_split_rejected hcontent hm)))⟩
    | ok d =>
      exact ⟨_, _, .accepted hd hu hz hm, .bind (.getDocument hd) (.bind hextract
        (.bind (ends_split hP (stays_unpacked hP hs files) hcontent hm) (.pure _ _)))⟩

/-- **Getting at the document ends in one of its ways.** -/
theorem prepares_prepare :
    ∃ r t, Prepares s r t ∧ Ends prepare s r t := by
  cases hd : s.document with
  | error f => exact ⟨_, _, .unread hd, .fail (.getDocument hd)⟩
  | ok document =>
    cases document with
    | some r => exact prepares_resuming hd
    | none =>
      cases hu : s.content .uploadedFile with
      | error f =>
        exact ⟨_, _, .uploadUnread hd hu,
          .bind (.getDocument hd) (.fail (ends_extract_unread hu))⟩
      | ok c =>
        by_cases hc : ∃ name bytes, c = some (.upload name bytes)
        · obtain ⟨name, bytes, rfl⟩ := hc
          exact prepares_unpacking hP hs hd hu
        · -- nothing is stored under the key of the upload, or something that is no upload
          have hc' : ∀ name bytes, c ≠ some (.upload name bytes) := by
            intro name bytes h
            exact hc ⟨name, bytes, h⟩
          exact ⟨_, _, .noUpload hd hu hc',
            .bind (.getDocument hd) (.fail (ends_extract_noUpload hu hc'))⟩

/-- The way that is open is the one that is taken. -/
theorem ends_of_prepares {t : Storage} {p : Except Failure (Bool × Nat)} (h : Prepares s p t) :
    Ends prepare s p t := by
  obtain ⟨p', t', hprepares, hends⟩ := prepares_prepare hP hs
  obtain ⟨rfl, rfl⟩ := hprepares.unique h
  exact hends

end

end QmlExport.Run
