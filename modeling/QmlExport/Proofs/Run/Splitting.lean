import QmlExport.Proofs.Catalog
import QmlExport.Proofs.Run.Classification
import QmlExport.Proofs.Run.Preparation
import QmlExport.Proofs.Text.Octets

/-!
# What is split off

Of images with one name the one with the greatest path is kept (`get?_imagesOf_iff`). The document is
the one with the least path among those that are named like the upload, and without such a document
the one with the least path of all (`documentOf_eq_ok_iff`). Paths are compared by their octets.

    a/x.png         lost: there is a greater path to an `x.png`
    b\x.png         the image `x.png`
    a.metadata      not the document, although its path is the least one
    c/Home.metadata the document of `home.qtbridge`

These entries decide what a split stores (`splitOff_of_run`). **All other entries have no effect**
(`split_congr`).
-/

namespace QmlExport.Run

open Store Text

/-! ## Entries that count -/

/-- The entry with the greatest path to this final segment. -/
structure Greatest (files : Files) (name path : String) (bs : Bytes) : Prop where
  entry : files.get? path = some bs
  segment : FinalSegment path name
  greatest : ∀ other, (files.get? other).isSome → FinalSegment other name →
    Utf8.encode other ≤ Utf8.encode path

/-- The entry with the least path of those wanted. -/
structure Least (files : Files) (Wanted : String → Prop) (path : String) (bs : Bytes) : Prop where
  entry : files.get? path = some bs
  wanted : Wanted path
  least : ∀ other, (files.get? other).isSome → Wanted other → Utf8.encode path ≤ Utf8.encode other

/-- A path to a document that is named like the upload, but for the case of letters. -/
def LikeUpload (uploadName path : String) : Prop :=
  ∃ name, FinalSegment path name ∧
    sameIgnoringCase name.toList (expectedDocument uploadName).toList

/-- A path to a document. -/
def ToDocument (path : String) : Prop :=
  ∃ name, FinalSegment path name ∧ ¬ ImageNamed name ∧ DocumentNamed name

/-- The entry with the document of an upload. -/
inductive Chosen (files : Files) (uploadName path : String) (bs : Bytes) : Prop
  | likeUpload (h : Least files (LikeUpload uploadName) path bs)
  | first (hnone : ∀ other, (files.get? other).isSome → ¬ LikeUpload uploadName other)
    (h : Least files ToDocument path bs)

/-- The path of an entry that counts: of an image that is kept, or of the document. -/
def Decisive (files : Files) (uploadName path : String) : Prop :=
  (∃ name bs, ImageNamed name ∧ Greatest files name path bs) ∨ ∃ bs, Chosen files uploadName path bs

section

variable {files : Files} {name path other uploadName : String} {bs : Bytes}

theorem eq_of_encode_le (h : Utf8.encode path ≤ Utf8.encode other)
    (h' : Utf8.encode other ≤ Utf8.encode path) : path = other :=
  String.le_antisymm (Utf8.encode_le_iff.1 h) (Utf8.encode_le_iff.1 h')

/-- The greatest entry is the last one in the order of the catalog. -/
theorem greatest_iff : Greatest files name path bs ↔
    ∃ front back, files.entries = front ++ (path, bs) :: back ∧ entryFileName path = name ∧
      ∀ e ∈ back, entryFileName e.1 ≠ name := by
  constructor
  · rintro ⟨hentry, hsegment, hgreatest⟩
    obtain ⟨front, back, hentries⟩ := List.append_of_mem (Catalog.mem_of_get? hentry)
    refine ⟨front, back, hentries, finalSegment_iff.1 hsegment, fun e he heq => ?_⟩
    have hmem : (e.1, e.2) ∈ files.entries := by simp [hentries, he]
    have hle := hgreatest e.1 (Catalog.isSome_get?_iff.2 ⟨_, hmem⟩) (finalSegment_iff.2 heq)
    exact String.not_lt.2 (Utf8.encode_le_iff.1 hle) (Catalog.gt_of_entries_eq hentries e he)
  · rintro ⟨front, back, hentries, hsegment, hback⟩
    refine ⟨Catalog.get?_eq_some_iff.2 (by simp [hentries]), finalSegment_iff.2 hsegment, ?_⟩
    intro other hother hsame
    rw [Utf8.encode_le_iff]
    rcases Catalog.place_of_entries_eq hentries hother with ⟨hlt, _⟩ | rfl | ⟨_, _, hmem⟩
    · exact String.not_lt.1 (String.lt_asymm hlt)
    · exact String.le_refl _
    · exact absurd (finalSegment_iff.1 hsame) (hback (other, _) hmem)

/-- The least entry is the first one in the order of the catalog. -/
theorem least_iff {Wanted : String → Prop} : Least files Wanted path bs ↔
    ∃ front back, files.entries = front ++ (path, bs) :: back ∧ Wanted path ∧
      ∀ e ∈ front, ¬ Wanted e.1 := by
  constructor
  · rintro ⟨hentry, hwanted, hleast⟩
    obtain ⟨front, back, hentries⟩ := List.append_of_mem (Catalog.mem_of_get? hentry)
    refine ⟨front, back, hentries, hwanted, fun e he hother => ?_⟩
    have hmem : (e.1, e.2) ∈ files.entries := by simp [hentries, he]
    have hle := hleast e.1 (Catalog.isSome_get?_iff.2 ⟨_, hmem⟩) hother
    exact String.not_lt.2 (Utf8.encode_le_iff.1 hle) (Catalog.lt_of_entries_eq hentries e he)
  · rintro ⟨front, back, hentries, hwanted, hfront⟩
    refine ⟨Catalog.get?_eq_some_iff.2 (by simp [hentries]), hwanted, ?_⟩
    intro other hother hsame
    rw [Utf8.encode_le_iff]
    rcases Catalog.place_of_entries_eq hentries hother with ⟨_, _, hmem⟩ | rfl | ⟨hlt, _⟩
    · exact absurd hsame (hfront _ hmem)
    · exact String.le_refl _
    · exact String.not_lt.1 (String.lt_asymm hlt)

/-! ## Names of one kind -/

/-- The entries with names of one kind, by their names. -/
def pickedBy (p : String → Bool) (es : List (String × Bytes)) : List (String × Bytes) :=
  es.filterMap fun e => if p (entryFileName e.1) then some (entryFileName e.1, e.2) else none

section

variable {p : String → Bool} {es front back : List (String × Bytes)}

theorem picked_iff {bytes : Bytes} :
    (if p (entryFileName path) then some (entryFileName path, bytes) else none) = some (name, bs) ↔
      p name ∧ entryFileName path = name ∧ bytes = bs := by
  constructor
  · intro h
    split at h
    · next hname =>
      obtain ⟨rfl, rfl⟩ := Prod.mk.inj (Option.some.inj h)
      exact ⟨hname, rfl, rfl⟩
    · cases h
  · rintro ⟨hname, rfl, rfl⟩
    exact if_pos hname

theorem mem_pickedBy : (name, bs) ∈ pickedBy p es ↔
    p name ∧ ∃ path, entryFileName path = name ∧ (path, bs) ∈ es := by
  simp only [pickedBy, List.mem_filterMap, Prod.exists, picked_iff]
  constructor
  · rintro ⟨path, bytes, hmem, hname, hsegment, rfl⟩
    exact ⟨hname, path, hsegment, hmem⟩
  · rintro ⟨hname, path, hsegment, hmem⟩
    exact ⟨path, bs, hmem, hname, hsegment, rfl⟩

/-- What is picked before and behind an entry is picked of those before and behind it. -/
theorem pickedBy_eq_append_cons_iff : pickedBy p es = front ++ (name, bs) :: back ↔
    ∃ before path after, es = before ++ (path, bs) :: after ∧ p name ∧ entryFileName path = name ∧
      pickedBy p before = front ∧ pickedBy p after = back := by
  constructor
  · intro h
    obtain ⟨before, rest, rfl, hfront, hrest⟩ := List.filterMap_eq_append_iff.1 h
    obtain ⟨between, ⟨path, bytes⟩, after, rfl, hnone, hpicked, hback⟩ :=
      List.filterMap_eq_cons_iff.1 hrest
    obtain ⟨hname, hsegment, rfl⟩ := picked_iff.1 hpicked
    have hbetween := List.filterMap_eq_nil_iff.2 hnone
    refine ⟨before ++ between, path, after, by simp, hname, hsegment, ?_, hback⟩
    rw [pickedBy, List.filterMap_append, hbetween, List.append_nil, hfront]
  · rintro ⟨before, path, after, rfl, hname, hsegment, rfl, rfl⟩
    rw [pickedBy, List.filterMap_append]
    exact congrArg _ (List.filterMap_cons_some (picked_iff.2 ⟨hname, hsegment, rfl⟩))

end

/-! ## Images -/

theorem FinalSegment.isImage_iff (h : FinalSegment path name) : isImage name ↔ ImageNamed name :=
  Run.isImage_iff (finalSegment_iff.1 h ▸ single_entryFileName path)

theorem imagesOf_eq (files : Files) : imagesOf files = .ofList (pickedBy isImage files.entries) :=
  rfl

/-- **An image is stored under its name, with the octets of the greatest path to this name.** -/
theorem get?_imagesOf_iff : (imagesOf files).get? name = some bs ↔
    ImageNamed name ∧ ∃ path, Greatest files name path bs := by
  simp only [imagesOf_eq, Catalog.get?_ofList_iff, pickedBy_eq_append_cons_iff, greatest_iff]
  constructor
  · rintro ⟨_, _, ⟨before, path, after, hentries, himage, hsegment, _, rfl⟩, hlast⟩
    refine ⟨(finalSegment_iff.2 hsegment).isImage_iff.1 himage, path, before, after, hentries,
      hsegment, ?_⟩
    rintro ⟨other, bytes⟩ hother hsame
    exact hlast _ (mem_pickedBy.2 ⟨himage, other, hsame, hother⟩) rfl
  · rintro ⟨hnamed, path, before, after, hentries, hsegment, hlast⟩
    have himage := (finalSegment_iff.2 hsegment).isImage_iff.2 hnamed
    refine ⟨_, _, ⟨before, path, after, hentries, himage, hsegment, rfl, rfl⟩, ?_⟩
    rintro ⟨other, bytes⟩ hmem rfl
    obtain ⟨_, path', hsame, hother⟩ := mem_pickedBy.1 hmem
    exact hlast _ hother hsame

/-! ## The document -/

/-- Whether a name is that of a document and not that of an image. -/
def isDocumentOnly (name : String) : Bool := !isImage name && isDocument name

theorem documentsOf_eq (files : Files) : documentsOf files = pickedBy isDocumentOnly files.entries :=
  rfl

theorem FinalSegment.isDocumentOnly_iff (h : FinalSegment path name) :
    isDocumentOnly name ↔ ¬ ImageNamed name ∧ DocumentNamed name := by
  rw [isDocumentOnly, Bool.and_eq_true, Bool.not_eq_true', ← Bool.not_eq_true, h.isImage_iff,
    isDocument_iff]

theorem toDocument_iff : ToDocument path ↔ isDocumentOnly (entryFileName path) := by
  rw [(finalSegment_entryFileName path).isDocumentOnly_iff]
  constructor
  · rintro ⟨name, hsegment, hnamed⟩
    rwa [finalSegment_iff.1 hsegment]
  · exact fun hnamed => ⟨_, finalSegment_entryFileName path, hnamed⟩

/-- The first document with a property of its name has the least path to such a document. -/
theorem find?_documentsOf_iff {p : String → Bool} {Wanted : String → Prop}
    (hp : ∀ path, Wanted path ↔ ToDocument path ∧ p (entryFileName path)) :
    (documentsOf files).find? (fun e => p e.1) = some (name, bs) ↔
      ∃ path, entryFileName path = name ∧ Least files Wanted path bs := by
  simp only [documentsOf_eq, List.find?_eq_some_iff_append, pickedBy_eq_append_cons_iff, least_iff]
  constructor
  · rintro ⟨hname, _, _, ⟨before, path, after, hentries, hdocument, rfl, rfl, _⟩, hfirst⟩
    have hwanted := (hp path).2 ⟨toDocument_iff.2 hdocument, hname⟩
    refine ⟨path, rfl, before, after, hentries, hwanted, ?_⟩
    rintro ⟨other, bytes⟩ hother hwanted'
    obtain ⟨hdocument', hname'⟩ := (hp other).1 hwanted'
    have hnot := hfirst _ (mem_pickedBy.2 ⟨toDocument_iff.1 hdocument', other, rfl, hother⟩)
    rw [hname'] at hnot
    cases hnot
  · rintro ⟨path, rfl, before, after, hentries, hwanted, hfirst⟩
    obtain ⟨hdocument, hname⟩ := (hp path).1 hwanted
    refine ⟨hname, _, _, ⟨before, path, after, hentries, toDocument_iff.1 hdocument, rfl, rfl, rfl⟩,
      ?_⟩
    rintro ⟨other, bytes⟩ hmem
    obtain ⟨hpicked, path', rfl, hother⟩ := mem_pickedBy.1 hmem
    simpa using fun hname' => hfirst _ hother ((hp path').2 ⟨toDocument_iff.2 hpicked, hname'⟩)

/-- Whether a name is the one that the document of an upload should have, in any case. -/
def isExpected (uploadName name : String) : Bool :=
  sameIgnoringCase name.toList (expectedDocument uploadName).toList

/-- What is named like the upload is a document. -/
theorem likeUpload_iff : LikeUpload uploadName path ↔
    ToDocument path ∧ isExpected uploadName (entryFileName path) := by
  constructor
  · rintro ⟨name, hsegment, hlike⟩
    have hdocument := documentNamed_of_expected hlike
    rw [finalSegment_iff.1 hsegment]
    exact ⟨⟨name, hsegment, hdocument.not_imageNamed, hdocument⟩, hlike⟩
  · exact fun ⟨_, hlike⟩ => ⟨_, finalSegment_entryFileName path, hlike⟩

/-- No document is named like the upload. -/
theorem find?_isExpected_eq_none_iff :
    (documentsOf files).find? (fun e => isExpected uploadName e.1) = none ↔
      ∀ other, (files.get? other).isSome → ¬ LikeUpload uploadName other := by
  rw [List.find?_eq_none, documentsOf_eq]
  constructor
  · intro h other hother hlike
    obtain ⟨bytes, hmem⟩ := Catalog.isSome_get?_iff.1 hother
    obtain ⟨hdocument, hsame⟩ := likeUpload_iff.1 hlike
    exact h _ (mem_pickedBy.2 ⟨toDocument_iff.1 hdocument, other, rfl, hmem⟩) hsame
  · rintro h ⟨name, bytes⟩ hmem hsame
    obtain ⟨_, path, rfl, hother⟩ := mem_pickedBy.1 hmem
    exact h path (Catalog.isSome_get?_iff.2 ⟨_, hother⟩) ⟨_, finalSegment_entryFileName path, hsame⟩

/-- The first of all documents has the least path. -/
theorem head?_documentsOf_iff : (documentsOf files).head? = some (name, bs) ↔
    ∃ path, entryFileName path = name ∧ Least files ToDocument path bs := by
  have hhead : (documentsOf files).head? = (documentsOf files).find? fun _ => true := by
    cases documentsOf files <;> rfl
  rw [hhead]
  exact find?_documentsOf_iff (p := fun _ => true) fun _ => (and_iff_left rfl).symm

/-- Without a document of the expected name the first one is taken. -/
theorem pickDocument_eq (documents : List (String × Bytes)) (uploadName : String) :
    pickDocument documents uploadName =
      (documents.find? fun e => isExpected uploadName e.1).or documents.head? := by
  unfold pickDocument isExpected
  dsimp only
  split
  · next hfound => rw [hfound, Option.some_or]
  · next hnone => rw [hnone, Option.none_or]

theorem pickDocument_iff : pickDocument (documentsOf files) uploadName = some (name, bs) ↔
    ∃ path, entryFileName path = name ∧ Chosen files uploadName path bs := by
  rw [pickDocument_eq, Option.or_eq_some_iff, find?_documentsOf_iff fun _ => likeUpload_iff,
    find?_isExpected_eq_none_iff, head?_documentsOf_iff]
  constructor
  · rintro (⟨path, hsegment, h⟩ | ⟨hnone, path, hsegment, h⟩)
    · exact ⟨path, hsegment, .likeUpload h⟩
    · exact ⟨path, hsegment, .first hnone h⟩
  · rintro ⟨path, hsegment, h | ⟨hnone, h⟩⟩
    · exact .inl ⟨path, hsegment, h⟩
    · exact .inr ⟨hnone, path, hsegment, h⟩

/-- **The document is read from the entry that is chosen.** -/
theorem documentOf_eq_ok_iff {d : Design.Document} : documentOf files uploadName = .ok d ↔
    ∃ path bs, Chosen files uploadName path bs ∧
      Json.decode? Design.Document.decoder (Json.parse bs) = some d := by
  unfold documentOf
  constructor
  · intro h
    split at h
    · cases h
    · next name bs hpicked =>
      obtain ⟨path, _, hchosen⟩ := pickDocument_iff.1 hpicked
      split at h
      · cases h
      · next d' hread => exact ⟨path, bs, hchosen, Except.ok.inj h ▸ hread⟩
  · rintro ⟨path, bs, hchosen, hread⟩
    rw [pickDocument_iff.2 ⟨path, rfl, hchosen⟩]
    simp only [hread]

/-! ## What does not count -/

/-- Of the paths to an image there is a greatest one. -/
theorem exists_greatest (hentry : files.get? path = some bs) (hsegment : FinalSegment path name)
    (hnamed : ImageNamed name) : ∃ path bs, Greatest files name path bs := by
  have hpicked := mem_pickedBy.2 ⟨hsegment.isImage_iff.2 hnamed, path, finalSegment_iff.1 hsegment,
    Catalog.mem_of_get? hentry⟩
  cases hget : (imagesOf files).get? name with
  | some bytes =>
    obtain ⟨_, path, hgreatest⟩ := get?_imagesOf_iff.1 hget
    exact ⟨path, bytes, hgreatest⟩
  | none =>
    rw [imagesOf_eq, Catalog.get?_eq_none_iff, Catalog.mem_names_ofList] at hget
    exact absurd (List.mem_map_of_mem (f := Prod.fst) hpicked) hget

/-- Where there is a document, one is chosen. -/
theorem exists_chosen (hentry : files.get? path = some bs) (hdocument : ToDocument path)
    (uploadName : String) : ∃ path bs, Chosen files uploadName path bs := by
  have hpicked := mem_pickedBy.2 ⟨toDocument_iff.1 hdocument, path, rfl, Catalog.mem_of_get? hentry⟩
  cases hpick : pickDocument (documentsOf files) uploadName with
  | some found =>
    obtain ⟨path, _, hchosen⟩ := pickDocument_iff.1 hpick
    exact ⟨path, _, hchosen⟩
  | none =>
    rw [pickDocument_eq, Option.or_eq_none_iff, List.head?_eq_none_iff, documentsOf_eq] at hpick
    rw [hpick.2] at hpicked
    cases hpicked

theorem Chosen.entry (h : Chosen files uploadName path bs) : files.get? path = some bs := by
  cases h with
  | likeUpload h => exact h.entry
  | first _ h => exact h.entry

theorem Chosen.toDocument (h : Chosen files uploadName path bs) : ToDocument path := by
  cases h with
  | likeUpload h => exact (likeUpload_iff.1 h.wanted).1
  | first _ h => exact h.wanted

/-- The least entries of two catalogs that both have them are the same. -/
theorem Least.path_eq {Wanted : String → Prop} {first second : Files} {bytes : Bytes}
    (h : Least first Wanted path bs) (h' : Least second Wanted other bytes)
    (hentry : second.get? path = some bs) (hentry' : first.get? other = some bytes) :
    other = path := by
  apply eq_of_encode_le
  · exact h'.least path (by rw [hentry]; rfl) h.wanted
  · exact h.least other (by rw [hentry']; rfl) h'.wanted

section

variable {first second : Files}
  (h : ∀ path, Decisive first uploadName path ∨ Decisive second uploadName path →
    first.get? path = second.get? path)

include h

/-- Where the entries that count are the same, the same images are kept. -/
theorem Greatest.congr (hnamed : ImageNamed name) (hgreatest : Greatest first name path bs) :
    Greatest second name path bs := by
  have hentry := (h path (.inl (.inl ⟨name, bs, hnamed, hgreatest⟩))).symm.trans hgreatest.entry
  obtain ⟨path', bytes, hgreatest'⟩ := exists_greatest hentry hgreatest.segment hnamed
  have hentry' := (h path' (.inr (.inl ⟨name, bytes, hnamed, hgreatest'⟩))).trans hgreatest'.entry
  obtain rfl : path' = path := by
    apply eq_of_encode_le
    · exact hgreatest.greatest path' (by rw [hentry']; rfl) hgreatest'.segment
    · exact hgreatest'.greatest path (by rw [hentry]; rfl) hgreatest.segment
  obtain rfl : bytes = bs := Option.some.inj (hgreatest'.entry.symm.trans hentry)
  exact hgreatest'

/-- Where the entries that count are the same, the same document is chosen. -/
theorem Chosen.congr (hchosen : Chosen first uploadName path bs) :
    Chosen second uploadName path bs := by
  have hentry := (h path (.inl (.inr ⟨bs, hchosen⟩))).symm.trans hchosen.entry
  obtain ⟨path', bytes, hchosen'⟩ := exists_chosen hentry hchosen.toDocument uploadName
  have hentry' := (h path' (.inr (.inr ⟨bytes, hchosen'⟩))).trans hchosen'.entry
  have hsome : (second.get? path).isSome := by rw [hentry]; rfl
  have hsome' : (first.get? path').isSome := by rw [hentry']; rfl
  suffices heq : path' = path by
    subst heq
    obtain rfl : bytes = bs := Option.some.inj (hchosen'.entry.symm.trans hentry)
    exact hchosen'
  -- one name cannot be like the upload for one catalog and unlike it for the other
  cases hchosen with
  | likeUpload hleast =>
    cases hchosen' with
    | likeUpload hleast' => exact hleast.path_eq hleast' hentry hentry'
    | first hnone' _ => exact absurd hleast.wanted (hnone' path hsome)
  | first hnone hleast =>
    cases hchosen' with
    | likeUpload hleast' => exact absurd hleast'.wanted (hnone path' hsome')
    | first _ hleast' => exact hleast.path_eq hleast' hentry hentry'

/-- Where the entries that count are the same, the images are. -/
theorem imagesOf_congr : imagesOf first = imagesOf second := by
  apply Catalog.ext_get?
  intro name
  ext bs
  simp only [get?_imagesOf_iff]
  have hback : ∀ path, Decisive second uploadName path ∨ Decisive first uploadName path →
      second.get? path = first.get? path := fun path hpath => (h path hpath.symm).symm
  constructor
  · exact fun ⟨hnamed, path, hgreatest⟩ => ⟨hnamed, path, hgreatest.congr h hnamed⟩
  · exact fun ⟨hnamed, path, hgreatest⟩ => ⟨hnamed, path, hgreatest.congr hback hnamed⟩

theorem documentOf_congr {d : Design.Document} (hd : documentOf first uploadName = .ok d) :
    documentOf second uploadName = .ok d := by
  obtain ⟨path, bs, hchosen, hread⟩ := documentOf_eq_ok_iff.1 hd
  exact documentOf_eq_ok_iff.2 ⟨path, bs, hchosen.congr h, hread⟩

end

end

/-! ## What a split stores -/

/-- What a split of these files leaves of a storage. -/
structure SplitOff (files : Files) (uploadName : String) (count : Nat) (s t : Storage) : Prop where
  /-- The images are stored under their names; without any, what was stored stays. -/
  images : ∃ images : Files,
    (∀ name bs, images.get? name = some bs ↔
      ImageNamed name ∧ ∃ path, Greatest files name path bs) ∧
    count = images.size ∧
    t.content .images =
      if images.isEmpty then s.content .images else .ok (some (.files images))
  /-- The document is read from the entry that is chosen, and is stored for the upload. -/
  document : ∃ path bs d, Chosen files uploadName path bs ∧
    Json.decode? Design.Document.decoder (Json.parse bs) = some d ∧
    t.octets .metadata .metadata = .ok (some (Record.written (.metadata (.of uploadName d))))
  /-- The files are spent. -/
  spent : t.content .extractedFiles = .ok none
  /-- No other record changes. -/
  rest : ∀ p k, (p = .files → k ≠ .images ∧ k ≠ .extractedFiles) →
    (p = .metadata → k ≠ .metadata) → t.octets p k = s.octets p k

section

variable {P : Storage → Prop} (hP : Reliable P)

include hP

/-- The records that splitting leaves. -/
theorem octets_settled {s : Storage} (hs : P s) (uploadName : String) (files : Files)
    (d : Design.Document) (p : Partition) (k : Key) :
    (settled s uploadName files d).octets p k =
      if p = .files ∧ k = .extractedFiles then
        .ok (some (Record.written (.file ⟨Key.extractedFiles.name, none⟩)))
      else if p = .metadata ∧ k = .metadata then
        .ok (some (Record.written (.metadata (.of uploadName d))))
      else if p = .files ∧ k = .images ∧ (imagesOf files).isEmpty = false then
        .ok (some (Record.written (.file ⟨Key.images.name, some (.files (imagesOf files))⟩)))
      else s.octets p k := by
  have hstays := stays_withImages hP hs (imagesOf files)
  have himages : (withImages s (imagesOf files)).octets p k =
      if p = .files ∧ k = .images ∧ (imagesOf files).isEmpty = false then
        .ok (some (Record.written (.file ⟨Key.images.name, some (.files (imagesOf files))⟩)))
      else s.octets p k := by
    unfold withImages
    split
    · next hempty => simp [hempty]
    · next hsome => simp [octets_withContent hP hs, hsome]
  rw [settled, octets_withContent hP (hP.withDocument hstays _), Storage.withDocument,
    hP.octets hstays, himages]

variable {b b' : Bench} {files : Files} {uploadName : String} {count : Nat} (hb : P b.storage)
  (he : b.storage.content .extractedFiles = .ok (some (.files files)))
  (hrun : (split uploadName).run b = (.ok count, b'))

include hb he hrun

/-- A split that came through has found a document. -/
theorem settled_of_split : ∃ d, documentOf files uploadName = .ok d ∧
    count = (imagesOf files).size ∧ b'.storage = settled b.storage uploadName files d := by
  cases hm : documentOf files uploadName with
  | error f =>
    have hends := (ends_split_rejected he hm).result rfl
    rw [hrun] at hends
    cases hends
  | ok d =>
    obtain ⟨c, hc, hstorage⟩ := ends_split hP hb he hm b rfl
    obtain ⟨hcount, rfl⟩ := Prod.mk.inj (hrun.symm.trans hc)
    exact ⟨d, rfl, Except.ok.inj hcount, hstorage⟩

/-- **A split stores the entries that count**, and leaves all other records alone. -/
theorem splitOff_of_run : SplitOff files uploadName count b.storage b'.storage := by
  obtain ⟨d, hm, hcount, hstorage⟩ := settled_of_split hP hb he hrun
  obtain ⟨path, bs, hchosen, hread⟩ := documentOf_eq_ok_iff.1 hm
  have hoctets := octets_settled hP hb uploadName files d
  rw [hstorage]
  refine ⟨⟨imagesOf files, fun name bs => get?_imagesOf_iff, hcount,
    content_settled_images hP hb uploadName files d⟩, ⟨path, bs, d, hchosen, hread, ?_⟩,
    content_settled_extracted hP hb uploadName files d, ?_⟩
  · rw [hoctets, if_neg (by decide), if_pos ⟨rfl, rfl⟩]
  · intro p k hfiles hmetadata
    rw [hoctets, if_neg fun h => (hfiles h.1).2 h.2, if_neg fun h => hmetadata h.1 h.2,
      if_neg fun h => (hfiles h.1).1 h.2.1]

/-- **All other entries have no effect.** -/
theorem split_congr {c : Bench} {other : Files} (hc : P c.storage)
    (hec : c.storage.content .extractedFiles = .ok (some (.files other)))
    (hsame : ∀ p k, ¬ (p = .files ∧ k = .extractedFiles) →
      b.storage.octets p k = c.storage.octets p k)
    (hdecisive : ∀ path, Decisive files uploadName path ∨ Decisive other uploadName path →
      files.get? path = other.get? path) :
    ∃ c', (split uploadName).run c = (.ok count, c') ∧ SameRecords b'.storage c'.storage := by
  obtain ⟨d, hm, rfl, hstorage⟩ := settled_of_split hP hb he hrun
  have himages := imagesOf_congr hdecisive
  obtain ⟨c', hcrun, hc'⟩ := ends_split hP hc hec (documentOf_congr hdecisive hm) c rfl
  refine ⟨c', himages ▸ hcrun, ?_⟩
  intro p k
  rw [hstorage, hc', octets_settled hP hb, octets_settled hP hc, himages]
  by_cases hextracted : p = .files ∧ k = .extractedFiles
  · rw [if_pos hextracted, if_pos hextracted]
  · rw [hsame p k hextracted]

end

end QmlExport.Run
