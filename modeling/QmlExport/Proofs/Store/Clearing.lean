import QmlExport.Proofs.Store.Remains

/-!
# Folders that were cleared

Clearing a folder takes directories away and puts nothing in their place. A disk that `Shrinks` leads
a path to where it led before, or the path ends where something is missing; so what was gone stays
gone. **Where clearing succeeds no record can be read**, wherever the path of the folder leads
(`read_cleared`): be it that the folder itself is gone with its partitions.

Whatever is done in a folder, paths begin where they did, and everything lies in a directory
(`continues_write`, `sheds_clear`).
-/

namespace QmlExport

namespace Disk

variable {d d' : Disk} {l m : Location} {p : Path}

/-! ## Disks on which paths begin as before -/

/-- Paths begin where they did, and everything lies in a directory if it did. -/
structure Continues (d d' : Disk) : Prop where
  top : d'.top = d.top
  here : d'.here = d.here
  tree : d.Tree → d'.Tree

theorem Continues.trans {d₁ d₂ d₃ : Disk} (h : Continues d₁ d₂) (h' : Continues d₂ d₃) :
    Continues d₁ d₃ :=
  ⟨h'.top.trans h.top, h'.here.trans h.here, fun htree => h'.tree (h.tree htree)⟩

theorem Sheds.continues (h : Sheds d d') : Continues d d' := ⟨h.top, h.here, h.tree⟩

/-- Where a path leads there is a directory around. -/
theorem directory_of_resolve (htree : d.Tree) (h : d.resolve p = .ok m)
    (hm : d.item? m ≠ some .directory) : d.item? m.dropLast = some .directory := by
  cases hi : d.item? m with
  | none => exact resolve_parent htree h hi
  | some i => exact htree m (ne_nil_of_item? hm) (by rw [hi]; exact nofun)

theorem continues_write {bs : Text.Bytes} (h : d.write p bs = .ok d') : Continues d d' := by
  obtain ⟨m, hm, hfile, rfl⟩ := write_eq_ok h
  refine ⟨rfl, rfl, fun htree => ?_⟩
  exact (grows_put htree (directory_of_resolve htree hm hfile) hfile).tree

theorem continues_rename {source target : Path} (h : d.rename source target = .ok d') :
    Continues d d' := by
  obtain ⟨s, t, c, _, ht, hs, hfile, rfl⟩ := rename_eq_ok h
  refine ⟨rfl, rfl, fun htree => ?_⟩
  have hne : s ≠ [] := ne_nil_of_item? (by rw [hs]; exact nofun)
  have herase := htree.erase hne (by rw [hs]; exact nofun)
  refine herase.put (ne_nil_of_item? hfile) ?_ ?_
  · have hparent := directory_of_resolve htree ht hfile
    rw [item?_erase d hne, if_neg, hparent]
    intro heq
    rw [heq, hs] at hparent
    cases hparent
  · intro hdirectory
    rw [item?_erase d hne] at hdirectory
    split at hdirectory
    · cases hdirectory
    · exact absurd hdirectory hfile

/-! ## Disks that shrink -/

/-- Things were taken away, and nothing was put in their place. -/
structure Shrinks (d d' : Disk) : Prop where
  top : d'.top = d.top
  here : d'.here = d.here
  item : ∀ m, d'.item? m = d.item? m ∨ d'.item? m = none

theorem Shrinks.refl (d : Disk) : Shrinks d d := ⟨rfl, rfl, fun _ => .inl rfl⟩

theorem shrinks_eraseBelow (d : Disk) (l : Location) : Shrinks d (d.eraseBelow l) := by
  refine ⟨rfl, rfl, fun m => ?_⟩
  rw [item?_eraseBelow]
  split
  · exact .inr rfl
  · exact .inl rfl

/-- A way leads where it led, or something is missing on it. -/
theorem Shrinks.follow (h : Shrinks d d') (segments : List String) (l : Location) :
    segments.foldlM d'.enter l = segments.foldlM d.enter l ∨
      segments.foldlM d'.enter l = .error .missing := by
  induction segments generalizing l with
  | nil => exact .inl rfl
  | cons s segments ih =>
    rw [List.foldlM_cons, List.foldlM_cons]
    rcases h.item l with hsame | hnone
    · rw [enter_congr hsame]
      cases d.enter l s with
      | error f => exact .inl rfl
      | ok k => exact ih k
    · rw [enter_of_none hnone]
      exact .inr rfl

/-- Nothing is where the path leads, or something is missing on the way. -/
def Gone (d : Disk) (p : Path) : Prop :=
  ∃ start segments, d.steps? p = some (start, segments) ∧
    (segments.foldlM d.enter start = .error .missing ∨
      ∃ l, segments.foldlM d.enter start = .ok l ∧ d.item? l = none)

/-- **What is gone stays gone** while things are taken away. -/
theorem Gone.shrinks (hgone : Gone d p) (h : Shrinks d d') : Gone d' p := by
  obtain ⟨start, segments, hs, hway⟩ := hgone
  refine ⟨start, segments, (steps?_congr h.top h.here p).trans hs, ?_⟩
  rcases h.follow segments start with hsame | hmissing
  · rw [hsame]
    refine hway.imp_right ?_
    rintro ⟨l, hl, hnone⟩
    exact ⟨l, hl, (h.item l).elim (fun heq => heq.trans hnone) id⟩
  · exact .inl hmissing

/-- An empty segment at the end makes no difference to what is gone. -/
theorem gone_lead {start : Location} {segments lead : List String}
    (hlead : segments = lead ∨ segments = lead ++ [""])
    (hway : segments.foldlM d.enter start = .error .missing ∨
      ∃ l, segments.foldlM d.enter start = .ok l ∧ d.item? l = none) :
    lead.foldlM d.enter start = .error .missing ∨
      ∃ l, lead.foldlM d.enter start = .ok l ∧ d.item? l = none := by
  rcases hlead with rfl | rfl
  · exact hway
  · cases hf : lead.foldlM d.enter start with
    | error f =>
      rw [List.foldlM_append, hf] at hway
      rcases hway with hmissing | ⟨l, hl, _⟩
      · exact .inl hmissing
      · cases hl
    | ok k =>
      right
      rcases hway with hmissing | ⟨l, hl, hnone⟩
      · rw [List.foldlM_append, hf] at hmissing
        refine ⟨k, rfl, ?_⟩
        cases hk : d.item? k with
        | none => rfl
        | some i =>
          have hstay : d.enter k "" = .error .missing := by
            rw [← hmissing]
            exact (bind_pure _).symm
          cases i with
          | file c => cases (enter_of_file hk "").symm.trans hstay
          | directory => cases (enter_empty hk).symm.trans hstay
      · exact ⟨l, (follow_lead (.inr rfl) hl).symm ▸ hf.symm ▸ rfl, hnone⟩

/-- **Below what is gone nothing is found.** -/
theorem Gone.resolve_join {q : Path} (hgone : Gone d p) (hb : d.Based) (hp : p.text ≠ "")
    (hq : q.isAbsolute = false) (hne : q.text ≠ "") (hpath : isPath (p.join q)) :
    d.resolve (p.join q) = .error .missing := by
  obtain ⟨start, segments, hs, hway⟩ := hgone
  obtain ⟨lead, hjoin, hlead⟩ := steps?_join hb hp hq hne hs
  rw [resolve_of_steps hpath (Path.join_ne_empty p hq hne) hjoin, List.foldlM_append]
  rcases gone_lead hlead hway with hmissing | ⟨l, hl, hnone⟩
  · rw [hmissing]
    rfl
  · obtain ⟨s, rest, hsegments⟩ := List.exists_cons_of_ne_nil (segments_ne_nil q)
    rw [hl, hsegments]
    show (s :: rest).foldlM d.enter l = _
    rw [List.foldlM_cons, enter_of_none hnone]
    rfl

end Disk

namespace Store.Folder

open Disk Text

/-- Where a folder may be: paths to it begin on the disk. -/
structure Placed (root : Path) (d : Disk) : Prop where
  based : d.Based
  tree : d.Tree
  begins : root.text ≠ "" → (d.steps? root).isSome

section

variable {root : Path} {d d' : Disk} {l : Location} {p : Partition} {key : String}

theorem Placed.continues (h : Placed root d) (hd : Continues d d') : Placed root d' where
  based := h.based.congr hd.top
  tree := hd.tree h.tree
  begins := by
    rw [steps?_congr hd.top hd.here]
    exact h.begins

/-- A folder that stands somewhere is placed there. -/
theorem Stands.placed (h : Stands root d l) : Placed root d where
  based := h.based
  tree := h.tree
  begins := by
    intro hne
    have hbase := h.base
    unfold Disk.base at hbase
    rw [if_neg (by simpa using hne)] at hbase
    obtain ⟨_, _, _, _, hs, _⟩ := resolve_eq_ok hbase
    rw [hs]
    rfl

/-- The way to a partition ends with its name. -/
theorem Placed.steps?_partitionPath (h : Placed root d) (p : Partition) :
    ∃ start lead, d.steps? (partitionPath root p) = some (start, lead ++ [p.name]) := by
  have hsingle := single_partition p
  have hrelative := Path.isAbsolute_eq_false hsingle
  have hne := (plain_partition p).nonempty
  by_cases hroot : root.text = ""
  · have hjoin : partitionPath root p = ⟨p.name⟩ := by
      unfold partitionPath Path.join
      rw [hrelative, hroot]
      rfl
    exact ⟨d.here, [], by rw [hjoin, steps?_relative h.based hrelative hne, hsingle.segments]; rfl⟩
  · obtain ⟨⟨start, segments⟩, hs⟩ := Option.isSome_iff_exists.1 (h.begins hroot)
    obtain ⟨lead, hjoin, _⟩ := steps?_join h.based hroot hrelative hne hs
    exact ⟨start, lead, by rw [partitionPath, hjoin, hsingle.segments]⟩

/-! ## Clearing -/

theorem shrinks_clearPartition (root : Path) (d : Disk) (p : Partition) :
    Shrinks d (clearPartition root d p).2 := by
  rcases clearPartition_ways root d p with ⟨m, _, hclear⟩ | ⟨_, hclear⟩ | ⟨_, hclear⟩
  · rw [hclear]
    exact shrinks_eraseBelow d m
  · rw [hclear]
    exact .refl d
  · rw [hclear]
    exact .refl d

/-- The way to a partition does not end at the top. -/
theorem ne_nil_of_follow_partition {start m : Location} {lead : List String}
    (hway : (lead ++ [p.name]).foldlM d.enter start = .ok m) : m ≠ [] := by
  obtain ⟨k, _, hlast⟩ := follow_concat.1 hway
  rw [enter_plain (enter_eq_ok hlast).1 (plain_partition p)] at hlast
  split at hlast
  · exact Except.ok.inj hlast ▸ by simp
  · cases hlast

/-- When a directory is taken away, the way to it leads to nothing, or not even so far: what it led
through may be gone too. -/
theorem missing_of_eraseBelow {start m : Location} {segments : List String}
    (hway : segments.foldlM d.enter start = .ok m) (hne : m ≠ []) :
    segments.foldlM (d.eraseBelow m).enter start = .error .missing ∨
      ∃ l, segments.foldlM (d.eraseBelow m).enter start = .ok l ∧
        (d.eraseBelow m).item? l = none := by
  have hnone : (d.eraseBelow m).item? m = none := by
    rw [item?_eraseBelow, if_pos ⟨hne, List.prefix_refl m⟩]
  rcases (shrinks_eraseBelow d m).follow segments start with hsame | hmissing
  · exact .inr ⟨m, hsame.trans hway, hnone⟩
  · exact .inl hmissing

/-- A partition that was cleared is gone. -/
theorem Placed.gone_partition (h : Placed root d) (hpath : isPath (partitionPath root p))
    (hclear : clearPartition root d p = (.ok (), d')) : Gone d' (partitionPath root p) := by
  obtain ⟨start, lead, hs⟩ := h.steps?_partitionPath p
  have hresolve := resolve_of_steps hpath (bare_partitionPath root p).nonempty hs
  rcases clearPartition_ways root d p with ⟨m, hm, hways⟩ | ⟨hmissing, hways⟩ | ⟨_, hways⟩
  · cases hways.symm.trans hclear
    rw [hresolve] at hm
    exact ⟨start, _, hs, missing_of_eraseBelow hm (ne_nil_of_follow_partition hm)⟩
  · cases hways.symm.trans hclear
    unfold Missing at hmissing
    rw [hresolve] at hmissing
    exact ⟨start, _, hs, hmissing⟩
  · cases hways.symm.trans hclear

/-- No record is found in a partition that is gone. -/
theorem read_of_gone (hb : d.Based) (hgone : Gone d (partitionPath root p))
    (hsingle : Path.Single key) (hpath : isPath (recordPath root p key)) :
    Folder.read root d p key = .ok none := by
  have hresolve := hgone.resolve_join hb (bare_partitionPath root p).nonempty
    (Path.isAbsolute_eq_false (single_recordName hsingle)) (plain_recordName key).nonempty hpath
  have hread : d.read (recordPath root p key) = .error .missing := by
    unfold Disk.read
    rw [show recordPath root p key = (partitionPath root p).join ⟨recordName key⟩ from rfl,
      hresolve]
    rfl
  unfold Folder.read
  simp only [hread]

/-- **Where clearing succeeded no record is found.** -/
theorem Placed.read_cleared (h : Placed root d) (hclear : clear root d = (.ok (), d'))
    (hsingle : Path.Single key) (hpath : isPath (recordPath root p key)) :
    Folder.read root d' p key = .ok none := by
  obtain ⟨d₁, hfiles, hmetadata⟩ := clear_eq_ok hclear
  have hfirst := (sheds_clearPartition root d .files).continues
  have hsecond := (sheds_clearPartition root d₁ .metadata).continues
  have hshrinks := shrinks_clearPartition root d₁ .metadata
  rw [hfiles] at hfirst
  rw [hmetadata] at hsecond hshrinks
  have hname := single_recordName hsingle
  have hpartition := isPath_partitionPath root p hname hpath
  have hgone : Gone d' (partitionPath root p) := by
    cases p with
    | files => exact (h.gone_partition hpartition hfiles).shrinks hshrinks
    | metadata => exact (h.continues hfirst).gone_partition hpartition hmetadata
  exact read_of_gone (h.continues (hfirst.trans hsecond)).based hgone hsingle hpath

/-! ## Writing -/

/-- Whether or not a write succeeds, paths begin where they did. -/
theorem continues_write (htree : d.Tree) (root : Path) (p : Partition) (key : String)
    (bs : Bytes) : Continues d (Folder.write root d p key bs).2 := by
  have hmakes := (branches_makeDirectories htree (recordPath root p key).parent).sheds.continues
  have hwrote := wrote_write root d p key bs
  generalize Folder.write root d p key bs = x at hwrote
  cases hwrote with
  | unmade hmade | unwritten hmade =>
    rw [hmade] at hmakes
    exact hmakes
  | unmoved hmade hput =>
    rw [hmade] at hmakes
    exact hmakes.trans (Disk.continues_write hput)
  | moved hmade hput hmove =>
    rw [hmade] at hmakes
    exact (hmakes.trans (Disk.continues_write hput)).trans (continues_rename hmove)

/-! ## When clearing succeeds -/

/-- Nothing stands in the way of clearing: the partitions are directories, or they are not there. -/
structure Clearable (root : Path) (d : Disk) : Prop where
  files : d.removeDirectory (partitionPath root .files) ≠ .error .refused
  metadata : (clearPartition root d .files).2.removeDirectory (partitionPath root .metadata) ≠
    .error .refused

/-- A partition is cleared unless it cannot be taken away. -/
theorem clearPartition_cases (root : Path) (d : Disk) (p : Partition) :
    (d.removeDirectory (partitionPath root p) ≠ .error .refused ∧
      (clearPartition root d p).1 = .ok ()) ∨
    (d.removeDirectory (partitionPath root p) = .error .refused ∧
      (clearPartition root d p).1 = .error (failedTo "clear" (partitionPath root p))) := by
  unfold clearPartition
  simp only
  cases d.removeDirectory (partitionPath root p) with
  | ok d' => exact .inl ⟨nofun, rfl⟩
  | error f =>
    cases f with
    | missing => exact .inl ⟨nofun, rfl⟩
    | refused => exact .inr ⟨rfl, rfl⟩

/-- Clearing succeeds where nothing stands in the way, and tells of the partition otherwise. -/
theorem clear_cases (root : Path) (d : Disk) :
    (Clearable root d ∧ (clear root d).1 = .ok ()) ∨
    (¬ Clearable root d ∧ ∃ p, (clear root d).1 =
      .error (failedTo "clear" (partitionPath root p))) := by
  unfold clear
  rcases clearPartition_cases root d .files with ⟨hfiles, hok⟩ | ⟨hfiles, herror⟩
  · cases hfirst : clearPartition root d .files with
    | mk r d₁ =>
      rw [hfirst] at hok
      obtain rfl : r = .ok () := hok
      have hsecond : (clearPartition root d .files).2 = d₁ := congrArg Prod.snd hfirst
      rcases clearPartition_cases root d₁ .metadata with ⟨hmetadata, hok⟩ | ⟨hmetadata, herror⟩
      · exact .inl ⟨⟨hfiles, by rwa [hsecond]⟩, hok⟩
      · refine .inr ⟨fun h => h.metadata ?_, .metadata, herror⟩
        rwa [hsecond]
  · cases hfirst : clearPartition root d .files with
    | mk r d₁ =>
      rw [hfirst] at herror
      obtain rfl : r = _ := herror
      exact .inr ⟨fun h => h.files hfiles, .files, rfl⟩

end

end Store.Folder

/-! ## Storages -/

namespace Store

open Disk Text Folder

/-- A storage that was opened stays one on which paths begin. -/
inductive Storage.Placed : Storage → Prop
  | memory (m) : Placed (.memory m)
  | folder {root d} (h : Folder.Placed root d) : Placed (.folder root d)

/-- Nothing stands in the way of clearing; in memory nothing ever does. -/
def Storage.Clearable : Storage → Prop
  | .memory _ => True
  | .folder root d => Folder.Clearable root d

/-- A key that names a file in a folder, be it on the disk or not: it has no slash, and the system
accepts the path. -/
structure Askable (root? : Option Path) (p : Partition) (key : String) : Prop where
  single : root? ≠ none → Path.Single key
  path : ∀ root, root? = some root → isPath (recordPath root p key)

section

variable {s t : Storage} {p : Partition} {key : String}

theorem Opened.placed (h : Opened s) : s.Placed := by
  cases h with
  | memory m => exact .memory m
  | folder hstands => exact .folder hstands.placed

namespace Storage

theorem Placed.clear (h : s.Placed) : (Storage.clear.run s).2.Placed := by
  cases h with
  | memory m => exact .memory .empty
  | @folder root d h =>
    rw [run_clear_eq]
    exact .folder (h.continues (sheds_clear root d).continues)

theorem Placed.write (h : s.Placed) (p : Partition) (key : String) (bs : Bytes) :
    ((Storage.write p key bs).run s).2.Placed := by
  cases h with
  | memory m => exact .memory _
  | @folder root d h =>
    rw [run_write_eq]
    exact .folder (h.continues (Folder.continues_write h.tree root p key bs))

theorem Placed.putRecord (h : s.Placed) (p : Partition) (r : Record) :
    ((putRecord p r).run s).2.Placed := by
  unfold Store.putRecord
  split
  · exact h
  · exact h.write p r.key r.written

/-- Clearing succeeds where nothing stands in the way, and is a failure of the database otherwise. -/
theorem clear_cases (s : Storage) :
    (s.Clearable ∧ (Storage.clear.run s).1 = .ok ()) ∨
    (¬ s.Clearable ∧ ∃ f, (Storage.clear.run s).1 = .error f ∧ f.category = .database) := by
  cases s with
  | memory m => exact .inl ⟨trivial, rfl⟩
  | folder root d =>
    rw [run_clear_eq]
    refine (Folder.clear_cases root d).imp_right ?_
    rintro ⟨hnot, p, herror⟩
    exact ⟨hnot, _, herror, rfl⟩

/-- **Where clearing succeeded no record is found**, in memory and in whatever folder. -/
theorem Placed.read_cleared (h : s.Placed) (hclear : Storage.clear.run s = (.ok (), t))
    (hkey : Askable s.root? p key) : (Storage.read p key).run t = (.ok none, t) := by
  cases h with
  | memory m =>
    cases hclear
    cases p <;> rfl
  | @folder root d h =>
    obtain ⟨d', hcleared, rfl⟩ := run_clear_folder hclear
    have hread := h.read_cleared hcleared (hkey.single nofun) (hkey.path root rfl)
    show (Folder.read root d' p key, Storage.folder root d') = _
    rw [hread]

end Storage

end

end Store

end QmlExport
