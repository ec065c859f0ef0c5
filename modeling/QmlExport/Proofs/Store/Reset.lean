import QmlExport.Proofs.Disk.Depth
import QmlExport.Proofs.Store.Versions

/-!
# Resetting a folder

A reset does not look at the version. The partitions and the version file are taken away (`wiped`),
what is left is `Vacant`, and it is opened as a folder without version:

    d  ──clear──▶  cleared  ──removeFile──▶  wiped  ──openAt──▶  renewed

Where the folder is not there nothing is found to be taken away, and it is made. After a reset the
folder `Serves` as a store, and **what is done to it later keeps it so** (`Serves.performAll`).

A reset asks that the path of the folder is `Straight`. By `folder/Files/..` the first partition is
taken away together with the way to the rest (`not_reset_through_files`).
-/

namespace QmlExport.Store.Folder

open Disk Text

section

variable {root : Path} {d d' e : Disk} {l m : Location} {p : Partition} {key : String} {bs : Bytes}

/-! ## Clearing -/

theorem Clearable.room (h : Clearable root d) (p : Partition) : isPath (partitionPath root p) := by
  cases p with
  | files => exact isPath_of_removeDirectory h.files
  | metadata => exact isPath_of_removeDirectory h.metadata

theorem Stands.clearPartition_emptied (h : Stands root d l)
    (hremove : d.removeDirectory (partitionPath root p) ≠ .error .refused) :
    clearPartition root d p = (.ok (), emptied d l p) := by
  rcases clearPartition_cases root d p with ⟨_, hok⟩ | ⟨hrefused, _⟩
  · rw [h.clearPartition_eq (isPath_of_removeDirectory hremove)] at hok ⊢
    split at hok
    · cases hok
    · rfl
  · exact absurd hrefused hremove

theorem beside_cleared (htree : d.Tree) : Beside l d (cleared d l) :=
  (beside_emptied htree).trans (beside_emptied (tree_emptied htree))

theorem tree_cleared (htree : d.Tree) : (cleared d l).Tree := tree_emptied (tree_emptied htree)

/-- **Where the path of a folder does not depend on its partitions, clearing takes them away.** -/
theorem Stands.clear_eq (h : Stands root d l) (hsteady : Steady root d l)
    (hclearable : Clearable root d) : clear root d = (.ok (), cleared d l) := by
  have hfiles := h.clearPartition_emptied hclearable.files
  have hmetadata := hclearable.metadata
  rw [hfiles] at hmetadata
  have hstands := h.beside hsteady (beside_emptied (p := .files) h.tree) (tree_emptied h.tree)
  unfold clear
  rw [hfiles]
  exact hstands.clearPartition_emptied hmetadata

/-- The path of a folder leads there also on other disks with the directories outside its
partitions. -/
theorem Steady.mono (hsteady : Steady root d l) (htree : d.Tree) (htop : d'.top = d.top)
    (hhere : d'.here = d.here)
    (hd : ∀ m, (∀ p, ¬ partitionAt l p <+: m) → d.item? m = some .directory →
      d'.item? m = some .directory) : Steady root d' l := by
  have hbeside : Beside l d (cleared d l) := beside_cleared htree
  intro e he
  -- without the partitions the path leads there, and all directories on the way are there still
  refine base_congr (he.top.trans (htop.trans hbeside.top.symm))
    (he.here.trans (hhere.trans hbeside.here.symm)) (fun _ _ _ => follow_mono fun m hm => ?_)
    (hsteady _ hbeside)
  have hout : ∀ p, ¬ partitionAt l p <+: m := by
    intro p hp
    rw [item?_cleared htree hp] at hm
    cases hm
  rw [hbeside.item m hout] at hm
  rw [he.item m hout]
  exact hd m hout hm

/-! ## Resetting -/

/-- What is left of a disk when a folder is about to be opened anew: its records and its version
are taken away. -/
def wiped (root : Path) (d : Disk) : Disk :=
  match (clear root d).2.removeFile (versionPath root) with
  | .ok d' => d'
  | .error _ => (clear root d).2

/-- Nothing stands in the way of the partitions of a folder and of its version file. -/
structure Wipeable (root : Path) (d : Disk) : Prop extends Clearable root d where
  unstamping : (clear root d).2.removeFile (versionPath root) ≠ .error .refused

/-- The operations of resetting a folder succeed: it can be wiped, and then it can be opened. -/
structure Resettable (root : Path) (d : Disk) : Prop extends Wipeable root d where
  opening : Openable root (wiped root d)

theorem Wipeable.resetAt_eq (h : Wipeable root d) :
    resetAt root d = openAt root (wiped root d) := by
  have hunstamping := h.unstamping
  obtain ⟨_, hok⟩ | ⟨hnot, _⟩ := clear_cases root d
  · unfold resetAt wiped
    cases hclear : clear root d with
    | mk r d₁ =>
      rw [hclear] at hok hunstamping
      obtain rfl : r = .ok () := hok
      simp only
      cases hremove : d₁.removeFile (versionPath root) with
      | ok d₂ => rfl
      | error f =>
        cases f with
        | missing => rfl
        | refused => exact absurd hremove hunstamping
  · exact absurd h.toClearable hnot

theorem continues_wiped (root : Path) (d : Disk) : Continues d (wiped root d) := by
  have hclear := (sheds_clear root d).continues
  unfold wiped
  split
  · next d' hremove =>
    obtain ⟨m, c, _, hfile, rfl⟩ := removeFile_eq_ok hremove
    have hne : (clear root d).2.item? m ≠ some .directory := by
      rw [hfile]
      exact nofun
    exact ⟨hclear.top, hclear.here, fun htree =>
      (hclear.tree htree).erase (ne_nil_of_item? hne) hne⟩
  · exact hclear

/-- A folder that was emptied: it has no records and no version, and nothing is lost of what lies
elsewhere. -/
structure Vacant (root : Path) (d e : Disk) (l : Location) : Prop extends Stands root e l where
  steady : Steady root e l
  partition : ∀ p, e.item? (partitionAt l p) = none
  unstamped : e.item? (l ++ ["version"]) = none
  file : ∀ m c, (∀ p, ¬ partitionAt l p <+: m) → m ≠ l ++ ["version"] →
    (e.item? m = some (.file c) ↔ d.item? m = some (.file c))

/-- What is wiped of a folder that stands: the partitions, and the version file if there is one. -/
theorem Stands.item?_wiped (h : Stands root d l) (hsteady : Steady root d l)
    (hwipe : Wipeable root d) :
    d.item? (l ++ ["version"]) ≠ some .directory ∧
      ∀ m, (wiped root d).item? m =
        if m = l ++ ["version"] then none else (cleared d l).item? m := by
  have hbeside : Beside l d (cleared d l) := beside_cleared h.tree
  have hcleared := h.beside hsteady hbeside (tree_cleared h.tree)
  have hresolve := hcleared.resolve_versionPath (isPath_of_removeFile hwipe.unstamping)
  have hunstamping := hwipe.unstamping
  unfold wiped
  rw [← hbeside.item _ version_outside]
  rw [h.clear_eq hsteady hwipe.toClearable] at hunstamping ⊢
  unfold removeFile at hunstamping ⊢
  simp only [hresolve, bind, Except.bind] at hunstamping ⊢
  cases hi : (cleared d l).item? (l ++ ["version"]) with
  | none =>
    refine ⟨nofun, fun m => ?_⟩
    show (cleared d l).item? m = _
    split
    · next heq => rw [heq, hi]
    · rfl
  | some i =>
    rw [hi] at hunstamping
    cases i with
    | directory => exact absurd rfl hunstamping
    | file c => exact ⟨nofun, item?_erase _ (by simp)⟩

/-- A folder that stands is vacant when it is wiped. -/
theorem Stands.vacant (h : Stands root d l) (hsteady : Steady root d l)
    (hwipe : Wipeable root d) : Vacant root d (wiped root d) l := by
  obtain ⟨hfile, hitem⟩ := h.item?_wiped hsteady hwipe
  have hcontinues := continues_wiped root d
  have hkeeps : ∀ m, (∀ p, ¬ partitionAt l p <+: m) → m ≠ l ++ ["version"] →
      (wiped root d).item? m = d.item? m := by
    intro m hout hm
    rw [hitem, if_neg hm, (beside_cleared h.tree).item m hout]
  have hsteady' : Steady root (wiped root d) l := by
    refine hsteady.mono h.tree hcontinues.top hcontinues.here fun m hout hm => ?_
    rw [hkeeps m hout, hm]
    rintro rfl
    exact hfile hm
  exact {
    based := h.based.congr hcontinues.top
    tree := hcontinues.tree h.tree
    base := hsteady' _ (.refl l _)
    directory := by
      rw [hkeeps l (above_outside (List.prefix_refl l)) (ne_of_length (by simp)), h.directory]
    steady := hsteady'
    partition := fun p => by
      rw [hitem, item?_cleared h.tree (List.prefix_refl _), ite_self]
    unstamped := by rw [hitem, if_pos rfl]
    file := fun m c hout hm => by rw [hkeeps m hout hm] }

/-- Where no folder is nothing is found below its path. -/
theorem Placed.resolve_missing (h : Placed root d) (he : Stands root e l) (htop : e.top = d.top)
    (hhere : e.here = d.here) (hd : d.item? l ≠ some .directory) {q : Path}
    (hq : q.isAbsolute = false) (hne : q.text ≠ "") : ∀ m, d.resolve (root.join q) ≠ .ok m := by
  intro m hm
  obtain ⟨k, hk⟩ := h.stands_of_resolve_join hq hne hm
  obtain rfl : k = l := base_unique htop hhere hk.base he.base
  exact hd hk.directory

theorem clearPartition_missing (hmiss : ∀ m, d.resolve (partitionPath root p) ≠ .ok m)
    (hremove : d.removeDirectory (partitionPath root p) ≠ .error .refused) :
    clearPartition root d p = (.ok (), d) := by
  rcases clearPartition_ways root d p with ⟨m, hm, _⟩ | ⟨_, hclear⟩ | ⟨hrefused, _⟩
  · exact absurd hm (hmiss m)
  · exact hclear
  · exact absurd hrefused hremove

/-- Where nothing is found nothing is wiped. -/
theorem Wipeable.wiped_of_missing (h : Wipeable root d)
    (hmiss : ∀ q : Path, q.isAbsolute = false → q.text ≠ "" →
      ∀ m, d.resolve (root.join q) ≠ .ok m) : wiped root d = d := by
  have hpartition : ∀ p m, d.resolve (partitionPath root p) ≠ .ok m := fun p =>
    hmiss ⟨p.name⟩ (Path.isAbsolute_eq_false (single_partition p)) (plain_partition p).nonempty
  have hfiles := clearPartition_missing (hpartition .files) h.files
  have hmetadata := h.metadata
  rw [hfiles] at hmetadata
  have hclear : clear root d = (.ok (), d) := by
    unfold clear
    rw [hfiles]
    exact clearPartition_missing (hpartition .metadata) hmetadata
  unfold wiped
  rw [hclear]
  split
  · next d' hremove =>
    obtain ⟨m, _, hm, _⟩ := removeFile_eq_ok hremove
    exact absurd hm (hmiss ⟨"version"⟩ rfl (by decide) m)
  · rfl

/-- A folder that was not there is made, and it is vacant. -/
theorem Stands.vacant_made (he : Stands root (withWay d root) l)
    (hmade : d.makeDirectories root = (.ok (), withWay d root)) (hb : d.Based) (htree : d.Tree)
    (hup : ".." ∉ root.segments) (hd : d.item? l ≠ some .directory) :
    Vacant root d (withWay d root) l := by
  have hway : Branches d (withWay d root) := branches_makeDirectories htree root
  have hnone : ∀ s, (withWay d root).item? (l ++ [s]) = none := by
    intro s
    have hbelow : d.item? (l ++ [s]) = none :=
      htree.item?_below hd (List.prefix_append _ _) (ne_of_length (by simp))
    rw [← hbelow]
    have hbase := he.base
    unfold Disk.base at hbase
    split at hbase
    · next hempty =>
      -- the folder where relative paths begin is there, or it would not stand
      have hsame : withWay d root = d := by
        unfold withWay makeDirectories
        rw [if_pos hempty]
      rw [hsame]
    · exact Disk.item?_made hb htree hup hmade hbase (by simp)
  exact {
    toStands := he
    steady := steady_of_plain he.base hup
    partition := fun p => hnone p.name
    unstamped := hnone "version"
    file := fun m c _ _ => ⟨hway.file m c, hway.stays m _⟩ }

/-- A vacant folder can be opened. -/
theorem Vacant.openable (hv : Vacant root d e l) (hpath : isPath (versionPath root)) :
    Openable root e := by
  have hresolve := hv.resolve_versionPath hpath
  have hway : withWay e root = e := congrArg Prod.snd hv.makeDirectories_root
  refine ⟨congrArg Prod.fst hv.makeDirectories_root, ?_, fun _ => ?_⟩
  · rw [hway, read_of_none hresolve hv.unstamped]
    exact nofun
  · rw [hway]
    exact ⟨stamped e l, write_of_resolve hresolve (by rw [hv.unstamped]; exact nofun) _⟩

/-- **A folder is vacant before it gets its version**, be it that it was there or not. -/
theorem Resettable.vacant (h : Resettable root d) (hb : d.Based) (htree : d.Tree)
    (hroot : Straight root d) : ∃ l, Vacant root d (withWay (wiped root d) root) l := by
  have hcontinues := continues_wiped root d
  have hway := branches_makeDirectories (hcontinues.tree htree) root
  obtain ⟨l, he, _, _⟩ := h.opening.stands (hb.congr hcontinues.top) (hcontinues.tree htree)
  have htop : (withWay (wiped root d) root).top = d.top := hway.top.trans hcontinues.top
  have hhere : (withWay (wiped root d) root).here = d.here := hway.here.trans hcontinues.here
  refine ⟨l, ?_⟩
  by_cases hd : d.item? l = some .directory
  · obtain ⟨hstands, hsteady⟩ := hroot.stands htree he htop hhere hd
    have hvacant := hstands.vacant hsteady h.toWipeable
    have hsame : withWay (wiped root d) root = wiped root d :=
      congrArg Prod.snd hvacant.makeDirectories_root
    rwa [hsame]
  · have hplaced : Placed root d :=
      he.placed.continues ⟨htop.symm, hhere.symm, fun _ => htree⟩
    have hwiped : wiped root d = d :=
      h.wiped_of_missing fun q hq hne => hplaced.resolve_missing he htop hhere hd hq hne
    have hmade := h.opening.makeDirectories_eq
    rw [hwiped] at he hmade htop hhere ⊢
    refine he.vacant_made hmade hb htree ?_ hd
    -- a path that is not plain leads to a directory
    rcases hroot with hup | ⟨k, hk, _⟩
    · exact hup
    · obtain rfl : k = l := base_unique htop hhere hk.base he.base
      exact absurd hk.directory hd

/-- The disk with a folder that was reset: without records, and with this version. -/
def renewed (root : Path) (d : Disk) (l : Location) : Disk :=
  stamped (withWay (wiped root d) root) l

theorem Vacant.item?_renewed (hv : Vacant root d (withWay (wiped root d) root) l) (p : Partition) :
    (renewed root d l).item? (partitionAt l p) = none := by
  rw [renewed, item?_stamped, if_neg, hv.partition p]
  intro heq
  exact version_outside (l := l) p (by rw [heq])

section

variable (h : Resettable root d) (hv : Vacant root d (withWay (wiped root d) root) l)

include h hv

/-- A reset succeeds. -/
theorem Resettable.resetAt_renewed :
    resetAt root d = (.ok (.folder root (renewed root d l)), renewed root d l) := by
  have hresolve := hv.resolve_versionPath (isPath_of_removeFile h.unstamping)
  rcases openAt_cases h.opening.makeDirectories_eq hresolve (by rw [hv.unstamped]; exact nofun)
    with ⟨_, hopen⟩ | ⟨bs, hbs, _⟩
  · rw [h.resetAt_eq, hopen]
    rfl
  · rw [hv.unstamped] at hbs
    cases hbs

/-- After a reset the folder serves as a store. -/
theorem Resettable.serves_renewed : Serves root (renewed root d l) l := by
  have hfile : (withWay (wiped root d) root).item? (l ++ ["version"]) ≠ some .directory := by
    rw [hv.unstamped]
    exact nofun
  have hgrows := hv.grows_stamped hfile
  exact {
    toStands := hv.toStands.stamped hfile
    current := ⟨isPath_of_removeFile h.unstamping, Utf8.encode version, version,
      by rw [renewed, item?_stamped, if_pos rfl], by decide +kernel, by decide +kernel⟩
    steady := hv.steady.mono hv.tree hgrows.top hgrows.here fun m _ hm => hgrows.keeps m hm
    room := h.room
    partition := fun p c => by
      rw [hv.item?_renewed p]
      exact nofun }

end

/-- A partition without its directory is gone. -/
theorem Stands.gone_partition (h : Stands root d l) (hpath : isPath (partitionPath root p))
    (hnone : d.item? (partitionAt l p) = none) : Gone d (partitionPath root p) := by
  obtain ⟨start, lead, hs⟩ := h.placed.steps?_partitionPath p
  have hresolve := h.resolve_partitionPath hpath
  rw [resolve_of_steps hpath (bare_partitionPath root p).nonempty hs] at hresolve
  exact ⟨start, _, hs, .inr ⟨_, hresolve, hnone⟩⟩

/-! ## What may be done later -/

/-- What may be done to a folder. -/
inductive Use
  | openAt
  | resetAt
  | clear
  | write (p : Partition) (key : String) (bs : Bytes)

/-- The disk after a folder was used, whether that succeeded or not. -/
def Use.perform (root : Path) (d : Disk) : Use → Disk
  | .openAt => (Folder.openAt root d).2
  | .resetAt => (Folder.resetAt root d).2
  | .clear => (Folder.clear root d).2
  | .write p key bs => (Folder.write root d p key bs).2

/-- The files of what is written can have their names. -/
def Use.Sound : Use → Prop
  | .write _ key _ => Storable key
  | _ => True

theorem Serves.write (h : Serves root d l) (hkey : Storable key) (p : Partition) (bs : Bytes) :
    Serves root (Folder.write root d p key bs).2 l := by
  have hready : Ready root d l := ⟨h.toStands, h.current⟩
  obtain ⟨hrewrites, hready'⟩ := hready.write hkey p bs
  exact {
    toStands := hready'.toStands
    current := hready'.current
    steady := h.steady.mono h.tree hrewrites.top hrewrites.here fun m _ hm => hrewrites.keeps m hm
    room := h.room
    partition := by
      intro q c hfile
      rcases hrewrites.file _ _ hfile with hold | ⟨heq | heq, _⟩
      · exact h.partition q c hold
      · exact recordAt_ne_partitionAt heq.symm
      · exact temporaryAt_ne_partitionAt heq.symm }

/-- A folder that serves can be reset, and then it serves again. -/
theorem Serves.resetAt (h : Serves root d l) : Serves root (Folder.resetAt root d).2 l := by
  have hclear := Folder.clear_eq h
  have hwipe : Wipeable root d := by
    refine ⟨?_, ?_⟩
    · rcases clear_cases root d with ⟨hclearable, _⟩ | ⟨_, p, herror⟩
      · exact hclearable
      · rw [hclear] at herror
        cases herror
    · obtain ⟨bs, _, hfile, _⟩ := h.cleared.current.version
      rw [hclear]
      unfold removeFile
      rw [h.cleared.resolve_versionPath h.current.path]
      simp only [bind, Except.bind, hfile]
      exact nofun
  have hv := h.toStands.vacant h.steady hwipe
  have hreset : Resettable root d := ⟨hwipe, hv.openable h.current.path⟩
  have hway : withWay (wiped root d) root = wiped root d :=
    congrArg Prod.snd hv.makeDirectories_root
  rw [← hway] at hv
  rw [hreset.resetAt_renewed hv]
  exact hreset.serves_renewed hv

/-- **Whatever is done to a folder, it goes on to serve as a store.** -/
theorem Serves.perform (h : Serves root d l) {u : Use} (hu : u.Sound) :
    Serves root (u.perform root d) l := by
  cases u with
  | openAt =>
    have hready : Ready root d l := ⟨h.toStands, h.current⟩
    show Serves root (Folder.openAt root d).2 l
    rw [hready.openAt]
    exact h
  | resetAt => exact h.resetAt
  | clear =>
    show Serves root (Folder.clear root d).2 l
    rw [Folder.clear_eq h]
    exact h.cleared
  | write p key bs => exact h.write hu p bs

theorem Serves.performAll (h : Serves root d l) {us : List Use} (hus : ∀ u ∈ us, u.Sound) :
    Serves root (us.foldl (Use.perform root) d) l := by
  induction us generalizing d with
  | nil => exact h
  | cons u us ih =>
    exact ih (h.perform (hus u List.mem_cons_self)) fun v hv => hus v (List.mem_cons_of_mem u hv)

/-- **What a reset does to a folder** at `l`, and what follows. -/
structure Resets (root : Path) (d d' : Disk) (l : Location) : Prop where
  result : resetAt root d = (.ok (.folder root d'), d')
  stands : Stands root d' l
  /-- No record is left under any key. -/
  empty : ∀ p key, Path.Single key → isPath (recordPath root p key) →
    Folder.read root d' p key = .ok none
  /-- Of the files elsewhere none is changed or lost, and none is added. -/
  spares : ∀ m c, (∀ p, ¬ partitionAt l p <+: m) → m ≠ l ++ ["version"] →
    (d'.item? m = some (.file c) ↔ d.item? m = some (.file c))
  stamps : d'.item? (l ++ ["version"]) = some (.file (Utf8.encode version))
  /-- The folder can be opened whenever, and nothing is changed by it. -/
  later : ∀ us : List Use, (∀ u ∈ us, u.Sound) →
    openAt root (us.foldl (Use.perform root) d') =
      (.ok (.folder root (us.foldl (Use.perform root) d')), us.foldl (Use.perform root) d')

theorem Resettable.resets (h : Resettable root d)
    (hv : Vacant root d (withWay (wiped root d) root) l) :
    Resets root d (renewed root d l) l := by
  have hserves := h.serves_renewed hv
  exact {
    result := h.resetAt_renewed hv
    stands := hserves.toStands
    empty := fun p key hkey hpath =>
      read_of_gone hserves.based (hserves.gone_partition (hserves.room p) (hv.item?_renewed p))
        hkey hpath
    spares := fun m c hout hm => by
      rw [renewed, item?_stamped, if_neg hm]
      exact hv.file m c hout hm
    stamps := by rw [renewed, item?_stamped, if_pos rfl]
    later := fun us hus => by
      have hlater := hserves.performAll hus
      exact openAt_eq hlater.toStands hlater.current }

/-- **A folder is opened if it is of this version or of none, and is reset whatever it is.** Opening
changes no file and a reset none but its own. After a reset there are no records, and the folder can
be opened from then on. -/
theorem opens_and_resets (root : Path) (d : Disk) (hb : d.Based) (htree : d.Tree) :
    (Openable root d → ∃ l, Opens root d l) ∧
    (Straight root d → Resettable root d → ∃ d' l, Resets root d d' l) := by
  refine ⟨fun h => h.opens hb htree, fun hroot h => ?_⟩
  obtain ⟨l, hv⟩ := h.vacant hb htree hroot
  exact ⟨renewed root d l, l, h.resets hv⟩

end

/-! ## A folder of another version -/

/-- A disk with a folder of another version: it has a record in each partition, and a file that is
not its own. -/
def otherStore : Disk :=
  ((((((Disk.blank "" []).put ["store"] .directory
    |>.put ["store", "version"] (.file (Utf8.encode "99")))
    |>.put ["store", "Files"] .directory)
    |>.put ["store", "Files", "A.json"] (.file [0]))
    |>.put ["store", "Metadata"] .directory)
    |>.put ["store", "Metadata", "Metadata.json"] (.file [0]))
    |>.put ["store", "notes.txt"] (.file [1])

theorem tree_otherStore : otherStore.Tree := tree_of_items (by decide +kernel)

theorem openable_otherStore : Openable ⟨"store"⟩ otherStore :=
  ⟨by decide +kernel, by decide +kernel, fun h => absurd h (by decide +kernel)⟩

theorem resettable_otherStore : Resettable ⟨"store"⟩ otherStore where
  files := by decide +kernel
  metadata := by decide +kernel
  unstamping := by decide +kernel
  opening := ⟨by decide +kernel, by decide +kernel, fun _ => ⟨_, rfl⟩⟩

theorem other_version_reset :
    (∃ l, Opens ⟨"store"⟩ otherStore l) ∧ ∃ d' l, Resets ⟨"store"⟩ otherStore d' l :=
  have hboth := opens_and_resets ⟨"store"⟩ otherStore (.inl rfl) tree_otherStore
  ⟨hboth.1 openable_otherStore, hboth.2 (.inl (by decide)) resettable_otherStore⟩

/-- A path of the same folder that leads through its own files. -/
def throughFiles : Path := ⟨"store/Files/.."⟩

/-- **By a path through its own files a folder of another version is not reset**, although all
operations succeed: its version stays, and so do the records of documents. -/
theorem not_reset_through_files :
    Resettable throughFiles otherStore ∧
      (resetAt throughFiles otherStore).1.map (fun _ => ()) =
        .error (otherVersion throughFiles "99") ∧
      Folder.read throughFiles (resetAt throughFiles otherStore).2 .metadata "Metadata" =
        .ok (some [0]) := by
  have hreset : Resettable throughFiles otherStore := {
    files := by decide +kernel
    metadata := by decide +kernel
    unstamping := by decide +kernel
    opening := ⟨by decide +kernel, by decide +kernel, fun h => absurd h (by decide +kernel)⟩ }
  exact ⟨hreset, by decide +kernel, by decide +kernel⟩

end QmlExport.Store.Folder
