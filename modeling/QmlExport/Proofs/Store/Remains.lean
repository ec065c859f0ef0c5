import QmlExport.Proofs.Store.Mirror
import QmlExport.Proofs.Store.Upload

/-!
# What remains in a folder after an upload

If the path of a folder leads through its own partitions, clearing takes the way away before all is
cleared, and records of documents remain. **Of the files nothing remains but what is written next**
(`forgotten_files`), wherever the path leads: they are cleared first, and what is made anew on the way
are directories.
-/

namespace QmlExport

namespace Disk

variable {d d' : Disk} {l m : Location}

/-! ## Files that are lost -/

/-- A disk has lost files, and has no new ones. -/
structure Sheds (d d' : Disk) : Prop where
  top : d'.top = d.top
  here : d'.here = d.here
  tree : d.Tree → d'.Tree
  file : ∀ k c, d'.item? k = some (.file c) → d.item? k = some (.file c)

theorem Sheds.refl (d : Disk) : Sheds d d := ⟨rfl, rfl, id, fun _ _ => id⟩

theorem Sheds.trans {d₁ d₂ d₃ : Disk} (h : Sheds d₁ d₂) (h' : Sheds d₂ d₃) : Sheds d₁ d₃ where
  top := h'.top.trans h.top
  here := h'.here.trans h.here
  tree htree := h'.tree (h.tree htree)
  file k c hk := h.file k c (h'.file k c hk)

theorem Branches.sheds (h : Branches d d') : Sheds d d' :=
  ⟨h.top, h.here, fun _ => h.tree, h.file⟩

theorem sheds_eraseBelow (d : Disk) (l : Location) : Sheds d (d.eraseBelow l) := by
  refine ⟨rfl, rfl, fun htree => htree.eraseBelow l, fun k c hk => ?_⟩
  rw [item?_eraseBelow] at hk
  split at hk
  · cases hk
  · exact hk

end Disk

namespace Store.Folder

open Disk Text

variable {root : Path} {d d' : Disk} {l : Location} {p : Partition} {key : String}

/-! ## Clearing -/

theorem sheds_clearPartition (root : Path) (d : Disk) (p : Partition) :
    Sheds d (clearPartition root d p).2 := by
  rcases clearPartition_ways root d p with ⟨m, _, hclear⟩ | ⟨_, hclear⟩ | ⟨_, hclear⟩
  · rw [hclear]
    exact sheds_eraseBelow d m
  · rw [hclear]
    exact .refl d
  · rw [hclear]
    exact .refl d

theorem sheds_clear (root : Path) (d : Disk) : Sheds d (clear root d).2 := by
  have hfiles := sheds_clearPartition root d .files
  rcases clear_ways root d with ⟨f, d₁, hfirst, hclear⟩ | ⟨d₁, hfirst, hclear⟩
  · rw [hfirst] at hfiles
    rw [hclear]
    exact hfiles
  · rw [hfirst] at hfiles
    rw [hclear]
    exact hfiles.trans (sheds_clearPartition root d₁ .metadata)

/-- Clearing succeeds when both partitions are cleared. -/
theorem clear_eq_ok (h : clear root d = (.ok (), d')) :
    ∃ d₁, clearPartition root d .files = (.ok (), d₁) ∧
      clearPartition root d₁ .metadata = (.ok (), d') := by
  rcases clear_ways root d with ⟨f, d₁, _, hclear⟩ | ⟨d₁, hfirst, hclear⟩
  · cases hclear.symm.trans h
  · exact ⟨d₁, hfirst, hclear.symm.trans h⟩

theorem Stands.emptied_files (h : Stands root d l) (hpath : isPath (partitionPath root p))
    (hclear : clearPartition root d p = (.ok (), d')) : d' = emptied d l p := by
  rw [h.clearPartition_eq hpath] at hclear
  split at hclear
  · cases hclear
  · exact (Prod.mk.inj hclear).2.symm

/-- Clearing takes all files of the first partition away, if it succeeds. -/
theorem Stands.cleared_files (h : Stands root d l) (hpath : isPath (partitionPath root .files))
    (hclear : clear root d = (.ok (), d')) :
    Sheds d d' ∧ ∀ m c, partitionAt l .files <+: m → d'.item? m ≠ some (.file c) := by
  obtain ⟨d₁, hfiles, hmetadata⟩ := clear_eq_ok hclear
  have hsheds := sheds_clear root d
  have hsecond := sheds_clearPartition root d₁ .metadata
  rw [hclear] at hsheds
  rw [hmetadata] at hsecond
  refine ⟨hsheds, fun m c hm hfile => ?_⟩
  have hleft := hsecond.file m c hfile
  rw [h.emptied_files hpath hfiles, item?_emptied h.tree, if_pos hm] at hleft
  cases hleft

/-! ## Writing -/

/-- A write that succeeds leaves no new file but the record, and perhaps the one beside it. -/
theorem write_leaves (htree : d.Tree) {bs : Bytes}
    (hwrite : Folder.write root d p key bs = (.ok (), d')) :
    d'.top = d.top ∧ d'.here = d.here ∧
      ∃ m t, d'.resolve (temporaryPath (recordPath root p key)) = .ok m ∧
        d'.resolve (recordPath root p key) = .ok t ∧
        ∀ k c, d'.item? k = some (.file c) → k = m ∨ k = t ∨ d.item? k = some (.file c) := by
  obtain ⟨d₁, d₂, hmade, hput, hmove⟩ := of_write hwrite
  have hshed := (branches_makeDirectories htree (recordPath root p key).parent).sheds
  rw [hmade] at hshed
  obtain ⟨m, hm, hmfile, rfl⟩ := write_eq_ok hput
  obtain ⟨s, t, c', hs, ht, hsfile, htfile, rfl⟩ := rename_eq_ok hmove
  have hkept := directory_put hmfile bs
  have hkept' := directory_move (c := c') hsfile htfile
  refine ⟨hshed.top, hshed.here, m, t, ?_, ?_, fun k c hk => ?_⟩
  · exact resolve_mono (d := d₁) rfl rfl (fun k hk => hkept' k (hkept k hk)) hm
  · exact resolve_mono (d := d₁.put m (.file bs)) rfl rfl hkept' ht
  · rcases file_of_move hsfile htfile hk with heq | hk
    · exact .inr (.inl heq)
    · exact (file_of_put hmfile hk).imp_right fun hk => .inr (hshed.file k c hk)

/-- In a folder without directories in its partitions these are the files of the record. -/
theorem files_of_write (htree : d.Tree) {bs : Bytes} (hkey : Writable root p key)
    (hwrite : Folder.write root d p key bs = (.ok (), d')) (h : Stands root d' l) {k : Location}
    {c : Bytes} (hfile : d'.item? k = some (.file c)) :
    k = temporaryAt l p key ∨ k = recordAt l p key ∨ d.item? k = some (.file c) := by
  obtain ⟨_, _, m, t, hm, ht, hleaves⟩ := write_leaves htree hwrite
  have htemporary := hkey.temporaryPath
  rw [temporaryPath_recordPath root p hkey.single hkey.stem] at htemporary hm
  have htarget := h.resolve_file (single_recordName hkey.single) (plain_recordName key) hkey.name
    hkey.path
  have hsource := h.resolve_file (single_temporaryName hkey.single) (plain_temporaryName key)
    hkey.temporary htemporary
  have hrecord : recordPath root p key = (partitionPath root p).join ⟨recordName key⟩ := rfl
  rw [hrecord] at ht
  rw [ht] at htarget
  rw [hm] at hsource
  cases hi : d'.item? (partitionAt l p) with
  | none => rw [hi] at htarget; cases htarget
  | some i =>
    cases i with
    | file c => rw [hi] at htarget; cases htarget
    | directory =>
      rw [hi] at htarget hsource
      obtain rfl := Except.ok.inj htarget
      obtain rfl := Except.ok.inj hsource
      exact hleaves k c hfile

/-- **Where files were cleared and one record was written, there is no other record of files.** -/
theorem forgotten_files {d₁ d₂ : Disk} {l₂ : Location} {bs : Bytes} (h : Stands root d l)
    (hkey : Writable root .files key) (hclear : clear root d = (.ok (), d₁))
    (hwrite : Folder.write root d₁ .files key bs = (.ok (), d₂)) (h₂ : Stands root d₂ l₂)
    {other : String} (hother : other ≠ key) : held d₂ l₂ .files other = none := by
  have hpath := isPath_partitionPath root .files (single_recordName hkey.single) hkey.path
  obtain ⟨hshed, hcleared⟩ := h.cleared_files hpath hclear
  obtain ⟨htop, hhere, _⟩ := write_leaves (hshed.tree h.tree) hwrite
  obtain rfl : l = l₂ := base_unique (htop.trans hshed.top) (hhere.trans hshed.here) h.base h₂.base
  unfold held
  cases hi : d₂.item? (recordAt l .files other) with
  | none => rfl
  | some i =>
    cases i with
    | directory => rfl
    | file c =>
      rcases files_of_write (hshed.tree h.tree) hkey hwrite h₂ hi with heq | heq | hleft
      · exact absurd heq recordAt_ne_temporaryAt
      · exact absurd (recordAt_injective heq).2 hother
      · exact absurd hleft (hcleared _ c partitionAt_prefix_recordAt)

end Store.Folder

/-! ## Uploads -/

namespace Store

open Disk Text Folder

/-- A storage that was opened: memory, or a folder that is there. -/
inductive Opened : Storage → Prop
  | memory (m) : Opened (.memory m)
  | folder {root d l} (hstands : Stands root d l) : Opened (.folder root d)

section

variable {db after : Database} {path : String} {bytes : Bytes} {limit : Nat}
  {receipt : Upload.Receipt}

/-- An upload that is accepted clears the storage and puts the file there. -/
theorem upload_eq_ok (h : db.upload path bytes limit = (.ok receipt, after)) :
    ∃ s, Storage.clear.run db.storage = (.ok (), s) ∧
      (putContent Key.uploadedFile.name (some (.upload (Upload.baseName path) bytes))).run s =
        (.ok (), after.storage) := by
  rcases upload_cases db path bytes limit with
    ⟨_, f, hupload⟩ | ⟨_, ⟨f, s, _, hupload⟩ | ⟨s, r, t, hclear, hput, hupload⟩⟩
  · cases hupload.symm.trans h
  · cases hupload.symm.trans h
  · obtain ⟨hreceipt, rfl⟩ := Prod.mk.inj (hupload.symm.trans h)
    cases r with
    | error f => cases hreceipt
    | ok _ => exact ⟨s, hclear, hput⟩

theorem run_clear_folder {root : Path} {d : Disk} {s : Storage}
    (h : Storage.clear.run (.folder root d) = (.ok (), s)) :
    ∃ d', Folder.clear root d = (.ok (), d') ∧ s = .folder root d' := by
  rw [run_clear_eq] at h
  obtain ⟨hcleared, rfl⟩ := Prod.mk.inj h
  exact ⟨_, Prod.ext hcleared rfl, rfl⟩

theorem run_put_folder {root : Path} {d : Disk} {s : Storage} {name : String}
    {c : Option Content} (h : (putContent name c).run (.folder root d) = (.ok (), s)) :
    ∃ d', Folder.write root d .files name (Record.written (.file ⟨name, c⟩)) = (.ok (), d') ∧
      s = .folder root d' := by
  rw [putContent_eq, run_write_eq] at h
  generalize Folder.write root d .files name (Record.written (.file ⟨name, c⟩)) = x at h ⊢
  obtain ⟨hwritten, rfl⟩ := Prod.mk.inj h
  exact ⟨_, Prod.ext hwritten rfl, rfl⟩

/-- **An upload leaves no other content**, in whatever folder, if its records can be read. -/
theorem content_forgotten (hopened : Opened db.storage) (hroom : Room db.storage.root?)
    (hupload : db.upload path bytes limit = (.ok receipt, after)) (hworks : Works after.storage)
    {k : Key} (hk : k ≠ .uploadedFile) :
    after.storage.root? = db.storage.root? ∧ after.storage.content k = .ok none := by
  obtain ⟨s, hclear, hput⟩ := upload_eq_ok hupload
  generalize db.storage = first at hopened hroom hclear
  generalize after.storage = last at hput hworks
  cases hopened with
  | memory m =>
    cases hclear
    have hsame := reliable_memory.run_putContent Storage.inMemory_fresh .uploadedFile
      (some (.upload (Upload.baseName path) bytes))
    obtain rfl := (Prod.mk.inj (hsame.symm.trans hput)).2
    exact ⟨rfl, Storage.content_uploaded_of_ne (Upload.baseName path) bytes hk⟩
  | @folder root d l hstands =>
    obtain ⟨d₁, hcleared, rfl⟩ := run_clear_folder hclear
    obtain ⟨d₂, hwritten, rfl⟩ := run_put_folder hput
    refine ⟨rfl, ?_⟩
    obtain ⟨r, hshows⟩ := hworks
    have hread := hshows.read (hroom .files k).names
    unfold Storage.content Storage.record Storage.octets
    rw [hread]
    cases hshows with
    | folder hstands' _ =>
      rw [forgotten_files hstands (takes_some.1 (hroom .files .uploadedFile)) hcleared hwritten
        hstands' fun heq => hk (Key.name_injective heq)]
      rfl

end

end Store

end QmlExport
