import QmlExport.Proofs.Disk.Making
import QmlExport.Proofs.Store.Folder

/-!
# Opening and clearing a folder

Nothing that happens to records touches the disk outside the directories of the partitions
(`Beside`). A folder is `Steady` if its path leads to the same place whatever happens inside them;
a path without steps up is (`steady_of_plain`), but `folder/Files/..` is not.

**Clearing a steady folder takes away all records** (`clear_eq`), and a folder of this version can be
opened again at any time (`openAt_eq`).
-/

namespace QmlExport.Store.Folder

open Disk Text

/-! ## Outside the partitions -/

/-- Two disks that differ in nothing but what lies in the partitions of a folder. -/
structure Beside (l : Location) (d d' : Disk) : Prop where
  top : d'.top = d.top
  here : d'.here = d.here
  item : ∀ m, (∀ p, ¬ partitionAt l p <+: m) → d'.item? m = d.item? m

/-- The path of a folder leads there whatever happens in its partitions. -/
def Steady (root : Path) (d : Disk) (l : Location) : Prop :=
  ∀ d', Beside l d d' → d'.base root = .ok l

section

variable {root : Path} {d d' : Disk} {l m : Location} {p : Partition} {key : String}

theorem Beside.refl (l : Location) (d : Disk) : Beside l d d := ⟨rfl, rfl, fun _ _ => rfl⟩

theorem Beside.trans {d₁ d₂ d₃ : Disk} (h : Beside l d₁ d₂) (h' : Beside l d₂ d₃) :
    Beside l d₁ d₃ where
  top := h'.top.trans h.top
  here := h'.here.trans h.here
  item m hm := (h'.item m hm).trans (h.item m hm)

theorem Steady.beside (hs : Steady root d l) (h : Beside l d d') : Steady root d' l :=
  fun _ h' => hs _ (h.trans h')

/-- What lies above the partitions is not in them. -/
theorem above_outside (hm : m <+: l) (p : Partition) : ¬ partitionAt l p <+: m := by
  intro h
  have hle := (h.trans hm).length_le
  rw [partitionAt, List.length_append, List.length_singleton] at hle
  omega

/-- **A path without steps up is steady.** -/
theorem steady_of_plain (hbase : d.base root = .ok l) (hup : ".." ∉ root.segments) :
    Steady root d l := by
  intro d' h
  refine base_congr h.top h.here (fun start segments hs hfollow => ?_) hbase
  have hsegments : ".." ∉ segments :=
    fun hmem => hup (mem_segments_of_steps? hs hmem (by decide))
  exact follow_congr hsegments (fun k hk => h.item k (above_outside hk)) hfollow

/-- A folder stands where its path leads whatever happens in its partitions. -/
theorem Stands.beside (h : Stands root d l) (hsteady : Steady root d l) (hbeside : Beside l d d')
    (htree : d'.Tree) : Stands root d' l where
  based := h.based.congr hbeside.top
  tree := htree
  base := hsteady d' hbeside
  directory := (hbeside.item l (above_outside (List.prefix_refl l))).trans h.directory

/-! ## Folders that serve as a store -/

/-- The records of a folder are written in the way of this version. -/
structure Current (root : Path) (d : Disk) (l : Location) : Prop where
  path : isPath (versionPath root)
  version : ∃ bs s, d.item? (l ++ ["version"]) = some (.file bs) ∧ Utf8.text? bs = some s ∧
    String.ofList (trim s.toList) = version

theorem version_outside (p : Partition) :
    ¬ partitionAt l p <+: l ++ ["version"] := by
  intro h
  obtain ⟨_, hname⟩ := List.append_inj' (List.IsPrefix.eq_of_length h (by simp)) rfl
  revert hname
  cases p <;> decide

theorem Current.beside (h : Current root d l) (hbeside : Beside l d d') : Current root d' l where
  path := h.path
  version := by
    rw [hbeside.item _ version_outside]
    exact h.version

/-- A folder that serves as a store, whatever lies in its partitions. -/
structure Serves (root : Path) (d : Disk) (l : Location) : Prop extends Stands root d l where
  current : Current root d l
  steady : Steady root d l
  room : ∀ p, isPath (partitionPath root p)
  partition : ∀ p c, d.item? (partitionAt l p) ≠ some (.file c)

/-- What happens in the partitions leaves a folder one that serves. -/
theorem Serves.beside (h : Serves root d l) (hbeside : Beside l d d') (htree : d'.Tree)
    (hpartition : ∀ p c, d'.item? (partitionAt l p) ≠ some (.file c)) : Serves root d' l where
  toStands := h.toStands.beside h.steady hbeside htree
  current := h.current.beside hbeside
  steady := h.steady.beside hbeside
  room := h.room
  partition := hpartition

theorem partitionAt_prefix_recordAt : partitionAt l p <+: recordAt l p key :=
  List.prefix_append _ _

theorem partitionAt_prefix_temporaryAt : partitionAt l p <+: temporaryAt l p key :=
  List.prefix_append _ _

/-- A write stays in its partition. -/
theorem beside_written (bs : Bytes) : Beside l d (written d l p key bs) where
  top := by
    unfold written staged made
    split <;> rfl
  here := by
    unfold written staged made
    split <;> rfl
  item m hm := by
    rw [item?_written, if_neg, if_neg, if_neg]
    · rintro rfl
      exact hm p (List.prefix_refl _)
    · rintro rfl
      exact hm p partitionAt_prefix_temporaryAt
    · rintro rfl
      exact hm p partitionAt_prefix_recordAt

theorem Serves.written (h : Serves root d l) (hflat : Flat d l) (p : Partition) (key : String)
    (bs : Bytes) : Serves root (written d l p key bs) l := by
  obtain ⟨hstands, hflat⟩ := stands_written h.toStands hflat p key bs
  exact h.beside (beside_written bs) hstands.tree hflat.partition

/-! ## Clearing -/

/-- The disk without the directory of a partition and what lies in it. -/
def emptied (d : Disk) (l : Location) (p : Partition) : Disk :=
  if d.item? (partitionAt l p) = none then d else d.eraseBelow (partitionAt l p)

theorem item?_emptied (htree : d.Tree) (m : Location) :
    (emptied d l p).item? m = if partitionAt l p <+: m then none else d.item? m := by
  unfold emptied
  split
  · next hnone =>
    split
    · next hm =>
      by_cases heq : partitionAt l p = m
      · rw [← heq, hnone]
      · exact htree.item?_below (by rw [hnone]; exact nofun) hm heq
    · rfl
  · have hbelow : (m ≠ [] ∧ partitionAt l p <+: m) ↔ partitionAt l p <+: m := by
      refine and_iff_right_of_imp ?_
      rintro hm rfl
      exact partitionAt_ne_nil (List.prefix_nil.1 hm)
    rw [item?_eraseBelow]
    simp only [hbelow]

theorem tree_emptied (htree : d.Tree) : (emptied d l p).Tree := by
  unfold emptied
  split
  · exact htree
  · exact htree.eraseBelow _

theorem beside_emptied (htree : d.Tree) : Beside l d (emptied d l p) where
  top := by unfold emptied; split <;> rfl
  here := by unfold emptied; split <;> rfl
  item m hm := by rw [item?_emptied htree, if_neg (hm p)]

theorem Serves.emptied (h : Serves root d l) (p : Partition) : Serves root (emptied d l p) l := by
  refine h.beside (beside_emptied h.tree) (tree_emptied h.tree) fun q c => ?_
  rw [item?_emptied h.tree]
  split
  · exact nofun
  · exact h.partition q c

/-- The ways in which a partition is cleared: its directory is taken away, or there is none, or it
cannot be taken away. -/
theorem clearPartition_ways (root : Path) (d : Disk) (p : Partition) :
    (∃ m, d.resolve (partitionPath root p) = .ok m ∧
      clearPartition root d p = (.ok (), d.eraseBelow m)) ∨
    (d.Missing (partitionPath root p) ∧ clearPartition root d p = (.ok (), d)) ∨
    (d.removeDirectory (partitionPath root p) = .error .refused ∧
      clearPartition root d p = (.error (failedTo "clear" (partitionPath root p)), d)) := by
  unfold clearPartition
  simp only
  rcases removeDirectory_cases d (partitionPath root p) with
    ⟨m, hm, _, hremove⟩ | ⟨hmissing, hremove⟩ | ⟨_, hremove⟩
  · rw [hremove]
    exact .inl ⟨m, hm, rfl⟩
  · rw [hremove]
    exact .inr (.inl ⟨hmissing, rfl⟩)
  · rw [hremove]
    exact .inr (.inr ⟨rfl, rfl⟩)

/-- The partitions are cleared one after the other, the second one if the first one was cleared. -/
theorem clear_ways (root : Path) (d : Disk) :
    (∃ f d₁, clearPartition root d .files = (.error f, d₁) ∧ clear root d = (.error f, d₁)) ∨
    ∃ d₁, clearPartition root d .files = (.ok (), d₁) ∧
      clear root d = clearPartition root d₁ .metadata := by
  unfold clear
  cases clearPartition root d .files with
  | mk r d₁ =>
    cases r with
    | error f => exact .inl ⟨f, d₁, rfl, rfl⟩
    | ok _ => exact .inr ⟨d₁, rfl, rfl⟩

/-- Clearing a partition empties it, unless a file stands there. -/
theorem Stands.clearPartition_eq (h : Stands root d l) (hpath : isPath (partitionPath root p)) :
    clearPartition root d p =
      match d.item? (partitionAt l p) with
      | some (.file _) => (.error (failedTo "clear" (partitionPath root p)), d)
      | _ => (.ok (), Folder.emptied d l p) := by
  have hresolve := h.resolve_partitionPath hpath
  unfold clearPartition removeDirectory Folder.emptied
  simp only [hresolve, bind, Except.bind]
  cases d.item? (partitionAt l p) with
  | none => rfl
  | some i => cases i <;> rfl

theorem clearPartition_eq (h : Serves root d l) (p : Partition) :
    clearPartition root d p = (.ok (), Folder.emptied d l p) := by
  rw [h.toStands.clearPartition_eq (h.room p)]
  split
  · next c hfile => exact absurd hfile (h.partition p c)
  · rfl

/-- The disk without the directories of the partitions. -/
def cleared (d : Disk) (l : Location) : Disk :=
  Folder.emptied (Folder.emptied d l .files) l .metadata

/-- **Clearing takes away the partitions with everything in them.** -/
theorem clear_eq (h : Serves root d l) : clear root d = (.ok (), cleared d l) := by
  unfold clear
  rw [clearPartition_eq h]
  exact clearPartition_eq (h.emptied .files) .metadata

theorem Serves.cleared (h : Serves root d l) : Serves root (cleared d l) l :=
  (h.emptied .files).emptied .metadata

/-- Nothing is left where a partition was. -/
theorem item?_cleared (htree : d.Tree) (hm : partitionAt l p <+: m) :
    (Folder.cleared d l).item? m = none := by
  unfold Folder.cleared
  rw [item?_emptied (tree_emptied htree), item?_emptied htree]
  cases p with
  | files => rw [if_pos hm, ite_self]
  | metadata => rw [if_pos hm]

theorem flat_cleared (htree : d.Tree) : Flat (Folder.cleared d l) l where
  partition p c := by
    rw [item?_cleared htree (List.prefix_refl _)]
    exact nofun
  inner p s _ := by
    rw [item?_cleared htree (List.prefix_append _ _)]
    exact nofun

/-- **No record is left.** -/
theorem held_cleared (htree : d.Tree) (p : Partition) (key : String) :
    held (Folder.cleared d l) l p key = none := by
  unfold held
  rw [item?_cleared htree partitionAt_prefix_recordAt]

/-! ## Opening -/

/-- A directory that is there is not made again. -/
theorem Stands.makeDirectories_root (h : Stands root d l) :
    d.makeDirectories root = (.ok (), d) := by
  unfold makeDirectories
  cases hempty : root.text.isEmpty with
  | true => rfl
  | false =>
    have hbase := h.base
    unfold Disk.base at hbase
    rw [hempty, if_neg Bool.false_ne_true] at hbase
    have hensure : d.ensureDirectory root = (.ok (), d) := by
      have hdirectory : d.isDirectory root = true := by
        unfold isDirectory
        simp only [hbase, h.directory, beq_self_eq_true]
      unfold ensureDirectory
      rw [hdirectory, if_pos rfl]
    rw [hensure]
    rfl

theorem Stands.resolve_versionPath (h : Stands root d l) (hpath : isPath (versionPath root)) :
    d.resolve (versionPath root) = .ok (l ++ ["version"]) := by
  have hsingle : Path.Single "version" := by decide
  have hjoin := resolve_join h.based h.base (Path.isAbsolute_eq_false hsingle)
    (q := ⟨"version"⟩) (by decide)
  unfold versionPath at hpath ⊢
  rw [hjoin, if_pos hpath, hsingle.segments, List.foldlM_cons, enter_plain h.directory
    (plain_of_length (by decide)), if_pos (by decide +kernel)]
  rfl

/-- **A folder of this version can be opened again**, and nothing is changed by it. -/
theorem openAt_eq (h : Stands root d l) (hcurrent : Current root d l) :
    openAt root d = (.ok (.folder root d), d) := by
  obtain ⟨bs, s, hfile, htext, hversion⟩ := hcurrent.version
  have hread : d.read (versionPath root) = .ok bs :=
    read_of_resolve (h.resolve_versionPath hcurrent.path) hfile
  unfold openAt
  rw [h.makeDirectories_root]
  simp only [hread, htext, hversion, if_true]

/-- The text of a path below a root begins with that of the root. -/
theorem isPath_root {q : Path} (hq : q.isAbsolute = false) (h : isPath (root.join q)) :
    isPath root := by
  refine isPath_of_prefix ?_ h
  rw [Path.toList_join root hq]
  unfold Path.front Path.below
  split
  · next hempty =>
    have hnil : root.text.toList = [] := by simpa using hempty
    rw [hnil]
    exact List.nil_prefix
  · split
    · exact List.prefix_append _ _
    · rw [List.append_assoc]
      exact List.prefix_append _ _

/-- A folder whose version file can be reached stands there. -/
theorem stands_of_resolve (hb : d.Based) (htree : d.Tree)
    (hroot : root.text ≠ "" → isPath root →
      ∃ l, d.resolve root = .ok l ∧ d.item? l = some .directory)
    (h : d.resolve (versionPath root) = .ok m) :
    ∃ l, Stands root d l ∧ m = l ++ ["version"] := by
  have hsingle : Path.Single "version" := by decide
  have hrelative := Path.isAbsolute_eq_false hsingle
  obtain ⟨hpath, _⟩ := resolve_eq_ok h
  have hbase : ∃ l, d.base root = .ok l := by
    unfold base
    split
    · exact ⟨_, rfl⟩
    · next hne =>
      obtain ⟨l, hl, _⟩ := hroot (by simpa using hne) (isPath_root hrelative hpath)
      exact ⟨l, hl⟩
  obtain ⟨l, hbase⟩ := hbase
  have hjoin := resolve_join hb hbase hrelative (q := ⟨"version"⟩) (by decide)
  unfold versionPath at h hpath
  rw [hjoin, if_pos hpath, hsingle.segments] at h
  rw [← List.nil_append ["version"], follow_concat] at h
  obtain ⟨_, hk, henter⟩ := h
  cases hk
  obtain ⟨hdirectory, _⟩ := enter_eq_ok henter
  refine ⟨l, ⟨hb, htree, hbase, hdirectory⟩, ?_⟩
  rw [enter_plain hdirectory (plain_of_length (by decide)), if_pos (by decide +kernel)] at henter
  exact (Except.ok.inj henter).symm

/-- **An opened folder stands on the disk**, and it is of this version. -/
theorem stands_of_openAt {s : Storage} (hb : d.Based) (htree : d.Tree)
    (h : openAt root d = (.ok s, d')) :
    s = .folder root d' ∧ ∃ l, Stands root d' l ∧ Current root d' l := by
  unfold openAt at h
  have hgrows := (branches_makeDirectories htree root).toGrows
  cases hmade : d.makeDirectories root with
  | mk r d₁ =>
    rw [hmade] at h hgrows
    cases r with
    | error f => cases h
    | ok _ =>
      have hroot : root.text ≠ "" → isPath root →
          ∃ l, d₁.resolve root = .ok l ∧ d₁.item? l = some .directory :=
        fun hne hpath => resolve_made hb htree hpath hne hmade
      have hb := hgrows.based hb
      simp only at h
      split at h
      · next bs hread =>
        -- the version was there
        split at h
        · cases h
        · next text htext =>
          split at h
          · next hversion =>
            cases h
            obtain ⟨m, hr, hfile⟩ := read_eq_ok hread
            obtain ⟨l, hstands, rfl⟩ := stands_of_resolve hb hgrows.tree hroot hr
            exact ⟨rfl, l, hstands, (resolve_eq_ok hr).1, bs, text, hfile, htext, hversion⟩
          · cases h
      · split at h
        · next d₂ hwrite =>
          cases h
          obtain ⟨m, hr, hm, rfl⟩ := write_eq_ok hwrite
          obtain ⟨l, hstands, rfl⟩ := stands_of_resolve hb hgrows.tree hroot hr
          have hparent : d₁.item? (l ++ ["version"]).dropLast = some .directory := by
            rw [List.dropLast_concat]
            exact hstands.directory
          have hput := grows_put hgrows.tree (i := .file (Utf8.encode version)) hparent hm
          refine ⟨rfl, l, hstands.mono hput.top hput.here hput.tree hput.keeps,
            (resolve_eq_ok hr).1, Utf8.encode version, version, ?_, by decide +kernel, by decide +kernel⟩
          rw [item?_put _ (by simp), if_pos rfl]
        · cases h
      · cases h

end

end QmlExport.Store.Folder
