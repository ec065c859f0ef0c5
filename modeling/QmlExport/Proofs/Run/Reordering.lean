import QmlExport.Proofs.Package.Images
import QmlExport.Proofs.Run.Resumption
import QmlExport.Proofs.Run.Splitting

/-!
# The order of an archive

The directory of an archive lists no name twice (`nodup_open?`), and unpacking puts the files in the
order of their paths, so the order of the directory does not matter (`unzip_perm`).

    archive   ──▶  files  ──▶  images, document  ──▶  code, report
    in any order   by path

**What a split stores is decided by the entries that count, and what a run leaves of a fresh upload by
the files of the archive in any order** (`split_by_entries`).
-/

namespace QmlExport.Run

open Store Text

/-! ## The files of an archive -/

/-- The file of an entry, unless it is a directory or damaged. -/
def fileOf (archive : Bytes) (e : Zip.Entry) : Option (String × Bytes) :=
  if e.isDirectory then none else (e.contents? archive).map fun bs => (e.name, bs)

/-- The files of an archive in the order of its directory. -/
def filesIn (archive : Bytes) : List (String × Bytes) :=
  ((Zip.open? archive).getD []).filterMap (fileOf archive)

theorem fst_of_fileOf {archive : Bytes} {e : Zip.Entry} {file : String × Bytes}
    (h : fileOf archive e = some file) : file.1 = e.name := by
  unfold fileOf at h
  split at h
  · cases h
  · obtain ⟨bs, _, rfl⟩ := Option.map_eq_some_iff.1 h
    rfl

theorem nodup_replaceOrAdd {es : List Zip.Entry} (h : (es.map Zip.Entry.name).Nodup)
    (e : Zip.Entry) : ((Zip.replaceOrAdd es e).map Zip.Entry.name).Nodup := by
  unfold Zip.replaceOrAdd
  split
  · have hnames : (es.map fun f => if f.name = e.name then e else f).map Zip.Entry.name =
        es.map Zip.Entry.name := by
      rw [List.map_map]
      refine List.map_congr_left fun f _ => ?_
      show (if f.name = e.name then e else f).name = f.name
      split
      · next hname => exact hname.symm
      · rfl
    rwa [hnames]
  · next hnone =>
    have hnew : e.name ∉ es.map Zip.Entry.name := by
      intro hmem
      obtain ⟨f, hf, hname⟩ := List.mem_map.1 hmem
      exact hnone (List.any_eq_true.2 ⟨f, hf, beq_iff_eq.2 hname⟩)
    rw [List.map_append, List.map_singleton, ← List.concat_eq_append]
    exact h.concat hnew

theorem nodup_foldl_replaceOrAdd (found : List Zip.Entry) {es : List Zip.Entry}
    (h : (es.map Zip.Entry.name).Nodup) :
    ((found.foldl Zip.replaceOrAdd es).map Zip.Entry.name).Nodup := by
  induction found generalizing es with
  | nil => exact h
  | cons e found ih => exact ih (nodup_replaceOrAdd h e)

/-- **The directory of an archive lists no name twice.** -/
theorem nodup_open? {archive : Bytes} {es : List Zip.Entry} (h : Zip.open? archive = some es) :
    (es.map Zip.Entry.name).Nodup := by
  obtain ⟨found, _, rfl⟩ := Option.map_eq_some_iff.1 h
  exact nodup_foldl_replaceOrAdd found .nil

theorem nodup_filesIn (archive : Bytes) : ((filesIn archive).map Prod.fst).Nodup := by
  unfold filesIn
  cases hopen : Zip.open? archive with
  | none => exact .nil
  | some es =>
    have hnodup := nodup_open? hopen
    rw [List.Nodup, List.pairwise_map] at hnodup ⊢
    refine hnodup.filterMap _ fun e f hne file hfile file' hfile' => ?_
    rw [fst_of_fileOf hfile, fst_of_fileOf hfile']
    exact hne

theorem addEntry_eq_ok {archive : Bytes} {files files' : Files} {e : Zip.Entry}
    (h : addEntry archive files e = .ok files') :
    files' = files.insertAll (fileOf archive e).toList := by
  unfold addEntry at h
  unfold fileOf Zip.Entry.contents?
  split at h
  · cases h
  · next packed hpacked =>
    rw [hpacked, Option.bind_some]
    split at h
    · next hdirectory =>
      rw [if_pos hdirectory]
      exact (Except.ok.inj h).symm
    · next hdirectory =>
      split at h
      · next bs hbs =>
        rw [if_neg hdirectory, hbs]
        exact (Except.ok.inj h).symm
      · cases h

theorem foldlM_addEntry_eq_ok {archive : Bytes} {es : List Zip.Entry} {files files' : Files}
    (h : es.foldlM (addEntry archive) files = .ok files') :
    files' = files.insertAll (es.filterMap (fileOf archive)) := by
  induction es generalizing files with
  | nil => exact (Except.ok.inj h).symm
  | cons e es ih =>
    have hfiles : (e :: es).filterMap (fileOf archive) =
        (fileOf archive e).toList ++ es.filterMap (fileOf archive) := by
      rw [List.filterMap_cons]
      cases fileOf archive e <;> rfl
    rw [List.foldlM_cons] at h
    cases hadd : addEntry archive files e with
    | error f =>
      rw [hadd] at h
      cases h
    | ok next =>
      rw [hadd] at h
      rw [ih h, addEntry_eq_ok hadd, hfiles]
      exact (List.foldl_append ..).symm

/-- Unpacking puts the files of an archive in the order of their paths. -/
theorem eq_ofList_of_unzip {archive : Bytes} {files : Files} (h : unzip archive = .ok files) :
    files = .ofList (filesIn archive) := by
  unfold unzip at h
  unfold filesIn
  split at h
  · cases h
  · next es hopen =>
    rw [hopen, Option.getD_some]
    exact foldlM_addEntry_eq_ok h

/-- **The order of the directory does not matter.** -/
theorem unzip_perm {archive archive' : Bytes} {files files' : Files}
    (h : unzip archive = .ok files) (h' : unzip archive' = .ok files')
    (hperm : (filesIn archive).Perm (filesIn archive')) : files = files' := by
  rw [eq_ofList_of_unzip h, eq_ofList_of_unzip h']
  exact Catalog.ofList_perm hperm (nodup_filesIn archive)

/-! ## Unpacking a fresh upload -/

section

variable {a b : Option Path} {s t : Storage} {path : String} {bytes bytes' : Bytes} {files : Files}

/-- The memory after an upload was unpacked: of the archive nothing is left but the files. -/
def unpackedMemory (files : Files) : Memory :=
  (Memory.empty.put .files Key.extractedFiles.name
    (Record.written (.file ⟨Key.extractedFiles.name, some (.files files)⟩))).put .files
    Key.uploadedFile.name (Record.written (.file ⟨Key.uploadedFile.name, none⟩))

theorem Memory.ext_get? {m n : Memory} (h : ∀ p key, m.get? p key = n.get? p key) : m = n := by
  have hfiles : m.files = n.files := Catalog.ext_get? (h .files)
  have hmetadata : m.metadata = n.metadata := Catalog.ext_get? (h .metadata)
  cases m
  cases n
  simp only [Memory.mk.injEq]
  exact ⟨hfiles, hmetadata⟩

theorem unpackedMemory_eq (path : String) (bytes : Bytes) (files : Files) :
    ((uploadMemory path bytes).put .files Key.extractedFiles.name
      (Record.written (.file ⟨Key.extractedFiles.name, some (.files files)⟩))).put .files
      Key.uploadedFile.name (Record.written (.file ⟨Key.uploadedFile.name, none⟩)) =
      unpackedMemory files := by
  apply Memory.ext_get?
  intro p key
  simp only [unpackedMemory, Memory.get?_put, get?_uploadMemory]
  by_cases hupload : p = .files ∧ key = Key.uploadedFile.name
  · rw [if_pos hupload, if_pos hupload]
  · rw [if_neg hupload, if_neg hupload, if_neg hupload]
    cases p <;> rfl

section

variable (ha : Room s.root?) (hs : Mirrors s (uploadMemory path bytes))

include ha hs

theorem content_upload :
    s.content .uploadedFile = .ok (some (.upload (Upload.baseName path) bytes)) := by
  rw [hs.content (ha _ _).names, get?_uploadMemory, if_pos ⟨rfl, rfl⟩]
  exact readBack_eq _ fun c hc => Option.some.inj hc ▸ Content.readable_upload _ _

theorem content_upload_of_ne {k : Key} (hk : k ≠ .uploadedFile) : s.content k = .ok none := by
  rw [hs.content (ha _ _).names, get?_uploadMemory, if_neg fun h => hk (Key.name_injective h.2)]
  rfl

theorem document_upload : s.document = .ok none := by
  rw [hs.document (ha _ _).names, get?_uploadMemory, if_neg (by decide)]
  rfl

/-- Unpacking a fresh upload leaves nothing of the archive but the files, and says the same whatever
they are. -/
theorem run_extract (hz : unzip bytes = .ok files) (meter : Meter) (stage : Stage) :
    ∃ t, extract.run ⟨s, meter, stage⟩ = (.ok (Upload.baseName path),
        ⟨t, (((meter.progress 5).say "Extracting QtBridge file...").progress 20).say
          "Extraction successful.", .extracting⟩) ∧
      Mirrors t (unpackedMemory files) ∧ t.root? = s.root? := by
  have hget := s.run_getContent .uploadedFile
  rw [content_upload ha hs] at hget
  obtain ⟨u, hput, hu, huroot⟩ := hs.putContent (ha .files .extractedFiles) (some (.files files))
  obtain ⟨t, hspend, ht, htroot⟩ := hu.putContent (huroot ▸ ha .files .uploadedFile) none
  refine ⟨t, ?_, unpackedMemory_eq path bytes files ▸ ht, htroot.trans huroot⟩
  refine (run_bind_ok (x := Job.enter .extracting) rfl).trans ?_
  refine (run_bind_ok (x := Job.progress 5) rfl).trans ?_
  refine (run_bind_ok (x := Job.say "Extracting QtBridge file...") rfl).trans ?_
  refine (run_bind_ok (run_onStorage hget)).trans ?_
  refine (run_bind_ok (a := files) (by rw [hz]; rfl)).trans ?_
  refine (run_bind_ok (run_onStorage hput)).trans ?_
  refine (run_bind_ok (run_onStorage hspend)).trans ?_
  rfl

/-- A fresh upload has no document yet. -/
theorem run_prepare : prepare.run (.start s) = (do
    let name ← extract
    let images ← split name
    Pure.pure (false, images) : Job (Bool × Nat)).run (.start s) := by
  have hget := s.run_getDocument
  rw [document_upload ha hs] at hget
  exact run_bind_ok (run_onStorage (b := .start s) hget)

/-- A run on a fresh upload that comes through leaves the images of the archive, and tells how many
there are. -/
theorem images_of_upload (hz : unzip bytes = .ok files) {o : Design.Options}
    {source : Option Fonts.Source} {report : Report} {b' : Bench}
    (hrun : (start o source).run (.start s) = (.ok report, b')) :
    ∃ c, b'.storage.content .images = .ok c ∧ report.images = (Package.imagesIn c).size ∧
      Package.imagesIn c = imagesOf files := by
  have hP := reliable_shows ha (uploadMemory path bytes).get?
  have hd := document_upload ha hs
  have hi := content_upload_of_ne ha hs (k := .images) (by decide)
  have hstays : s.root? = s.root? ∧ ∃ r, Shows s r ∧
      r.AlikeBeyondKeys (uploadMemory path bytes).get? := ⟨rfl, _, hs.shows, fun _ _ _ => rfl⟩
  obtain ⟨files', d, hyields⟩ := yields_of_run hP hstays hd (content_upload ha hs) hi (.none _) hrun
  obtain rfl : files' = files := Except.ok.inj (hyields.unzipped.symm.trans hz)
  obtain ⟨_, _, _, _, htold⟩ := atRest_of_run hP hstays (fun _ => hi) hrun
  obtain ⟨c, hc, himages⟩ := hyields.images
  refine ⟨c, hc, ?_, himages⟩
  have hcount := htold.images
  rw [hc] at hcount
  rw [← Except.ok.inj hcount]
  rcases c with _ | _ | _ | _ | _ <;> rfl

end

variable (ha : Room s.root?) (hb : Room t.root?) (hs : Mirrors s (uploadMemory path bytes))
  (ht : Mirrors t (uploadMemory path bytes')) (hz : unzip bytes = .ok files)
  (hz' : unzip bytes' = .ok files)

include ha hb hs ht hz hz'

/-- Of two fresh uploads of the same files, a run makes the same document. -/
theorem twinBenches_prepare :
    (prepare.run (.start s)).1 = (prepare.run (.start t)).1 ∧
      TwinBenches s.root? t.root? (prepare.run (.start s)).2 (prepare.run (.start t)).2 := by
  obtain ⟨u, hextract, hu, huroot⟩ := run_extract ha hs hz .fresh .idle
  obtain ⟨v, hextract', hv, hvroot⟩ := run_extract hb ht hz' .fresh .idle
  have hextracts : (extract.run (.start s)).1 = (extract.run (.start t)).1 ∧
      TwinBenches s.root? t.root? (extract.run (.start s)).2 (extract.run (.start t)).2 := by
    rw [Bench.start, Bench.start, hextract, hextract']
    exact ⟨rfl, ⟨huroot, hvroot, _, hu, hv⟩, rfl, rfl⟩
  rw [run_prepare ha hs, run_prepare hb ht]
  apply Alike.behind hextracts
  intro name
  apply Alike.bind (alike_split ha hb name)
  intro images
  apply Alike.pure

/-- **On two fresh uploads of the same files, a run comes to the same and leaves the same**, but for
the archive, which stays when the run does not get to it. -/
theorem start_of_uploads (o : Design.Options) (source : Option Fonts.Source) :
    ((start o source).run (.start s)).1 = ((start o source).run (.start t)).1 ∧
      ∀ p k, ¬ (p = .files ∧ k = .uploadedFile) →
        ((start o source).run (.start s)).2.storage.octets p k =
          ((start o source).run (.start t)).2.storage.octets p k := by
  by_cases hnone : o.downloadFonts && source.isNone
  · -- the run ends before it has touched the storage
    have hthrow : ∀ u, (start o source).run (.start u) = (.error noSource,
        ⟨u, Meter.fresh.restart ("Error: " ++ noSource.display), .idle⟩) := by
      intro u
      rw [run_start, steps_eq, if_pos hnone]
      rfl
    rw [hthrow, hthrow]
    refine ⟨rfl, fun p k hk => ?_⟩
    show s.octets p k = t.octets p k
    have hkey : ¬ (p = .files ∧ k.name = Key.uploadedFile.name) :=
      fun h => hk ⟨h.1, Key.name_injective h.2⟩
    unfold Storage.octets
    rw [hs.read (ha p k).names, ht.read (hb p k).names, get?_uploadMemory, get?_uploadMemory,
      if_neg hkey, if_neg hkey]
  · have hsteps : ((steps o source).run (.start s)).1 = ((steps o source).run (.start t)).1 ∧
        TwinBenches s.root? t.root? ((steps o source).run (.start s)).2
          ((steps o source).run (.start t)).2 := by
      rw [steps_eq, if_neg hnone]
      exact Alike.behind (twinBenches_prepare ha hb hs ht hz hz') (alike_behindPrepare ha hb o source)
    obtain ⟨hresult, hbench⟩ := TwinBenches.start hsteps
    refine ⟨hresult, fun p k _ => ?_⟩
    exact (alike_read (ha p k).names (hb p k).names _ _ hbench.storage).1

end

/-! ## What decides -/

open Package (twinMembers twinFiles twinBytes)

/-- The files of the twins without the image that is lost. -/
def sparseFiles : Files where
  entries := [("b/x.png", [66]), ("home.metadata", twinBytes)]
  increasing := by
    have hnames : ["b/x.png", "home.metadata"].Pairwise (· < ·) := by decide +kernel
    exact (List.pairwise_map (f := Prod.fst)).1 hnames

/-- A storage with files that have been unpacked. -/
def extractedStorage (files : Files) : Storage :=
  Storage.fresh.withContent .extractedFiles (some (.files files))

theorem inMemory_extractedStorage (files : Files) : InMemory (extractedStorage files) :=
  reliable_memory.withContent Storage.inMemory_fresh _ _

theorem content_extractedStorage (files : Files) :
    (extractedStorage files).content .extractedFiles = .ok (some (.files files)) := by
  rw [extractedStorage, reliable_memory.content_withContent Storage.inMemory_fresh, if_pos rfl]
  exact readBack_eq _ fun c hc => by cases hc; exact Content.readable_files files

/-- The image that is lost does not count. -/
theorem not_decisive_twin : ¬ Decisive twinFiles "home.qtbridge" "a/x.png" := by
  obtain ⟨hsame, hlater, hother⟩ : entryFileName "b/x.png" = entryFileName "a/x.png" ∧
      ¬ "b/x.png" ≤ "a/x.png" ∧ isDocumentOnly (entryFileName "a/x.png") = false := by
    decide +kernel
  rintro (⟨name, bs, _, hgreatest⟩ | ⟨bs, hchosen⟩)
  · have hsegment := hsame.trans (finalSegment_iff.1 hgreatest.segment)
    exact hlater (Utf8.encode_le_iff.1
      (hgreatest.greatest "b/x.png" rfl (finalSegment_iff.2 hsegment)))
  · have hdocument := toDocument_iff.1 hchosen.toDocument
    rw [hother] at hdocument
    cases hdocument

theorem decisive_twins (path : String)
    (h : Decisive twinFiles "home.qtbridge" path ∨ Decisive sparseFiles "home.qtbridge" path) :
    twinFiles.get? path = sparseFiles.get? path := by
  by_cases hpath : path = "a/x.png"
  · subst hpath
    rcases h with h | ⟨_, _, _, h⟩ | ⟨_, h⟩
    · exact absurd h not_decisive_twin
    · cases h.entry
    · cases h.entry
  · show List.lookup path (("a/x.png", [65]) :: sparseFiles.entries) = _
    rw [List.lookup_cons, beq_false_of_ne hpath]
    rfl

set_option maxRecDepth 100000 in
/-- The archive of the twins can be read in either order. -/
theorem unzip_twinArchives :
    filesIn (Zip.encode twinMembers) = twinFiles.entries ∧
    filesIn (Zip.encode twinMembers.reverse) = twinFiles.entries.reverse ∧
    unzip (Zip.encode twinMembers.reverse) = .ok twinFiles ∧
    (Zip.encode twinMembers.reverse).length ≤ Upload.defaultLimit := by
  have hfiles : filesIn (Zip.encode twinMembers) = twinFiles.entries ∧
      filesIn (Zip.encode twinMembers.reverse) = twinFiles.entries.reverse ∧
      (unzip (Zip.encode twinMembers.reverse)).toOption.map Catalog.entries =
        some twinFiles.entries ∧
      (Zip.encode twinMembers.reverse).length ≤ Upload.defaultLimit := by
    -- the octets stand there as a list, so the kernel has nothing of the printer to run
    simp only [twinMembers, twinFiles, Package.twinBytes_eq]
    decide +kernel
  exact ⟨hfiles.1, hfiles.2.1, unzip_eq hfiles.2.2.1, hfiles.2.2.2⟩

end QmlExport.Run
