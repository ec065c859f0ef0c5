import QmlExport.Proofs.Disk.Paths
import QmlExport.Store.Storage

/-!
# Folders on a disk

A folder stands at a location of the disk (`Stands`), with a directory for each partition. The record
under a key is the file `recordAt`; it is written as `temporaryAt` first and then moved:

    folder/Files/KEY.json.tmp  ──rename──▶  folder/Files/KEY.json

No name of the one kind is a name of the other (`temporaryName_ne_recordName`), and different keys
have different files (`recordAt_injective`). So **a write changes the record under its key and no
other** (`write_eq`, `held_written`), and a record that is being written is not seen before it has its
name (`held_staged`).
-/

namespace QmlExport.Store

open Disk Text

namespace Folder

/-! ## Names -/

/-- The name of the file of a record. -/
def recordName (key : String) : String := key ++ ".json"

/-- The name of the file that a record is written to first. The name before the extension is the
key, and the whole name where the key is empty. -/
def temporaryName (key : String) : String :=
  (if key = "" then ".json" else key) ++ "." ++ "json.tmp"

/-- A key names a file below a partition: the system accepts the path. -/
structure Nameable (root : Path) (p : Partition) (key : String) : Prop where
  single : Path.Single key
  name : isName (recordName key)
  path : isPath (recordPath root p key)

/-- Also the file that its record is written to first can have its name. A single dot cannot: with
the extension in place of its own, its file name would lead up. -/
structure Writable (root : Path) (p : Partition) (key : String) : Prop extends
    Nameable root p key where
  stem : key ≠ "."
  temporary : isName (temporaryName key)
  temporaryPath : isPath (temporaryPath (recordPath root p key))

instance (root : Path) (p : Partition) (key : String) : Decidable (Nameable root p key) :=
  decidable_of_iff
    (Path.Single key ∧ isName (recordName key) ∧ isPath (recordPath root p key))
    ⟨fun ⟨h₁, h₂, h₃⟩ => ⟨h₁, h₂, h₃⟩, fun h => ⟨h.single, h.name, h.path⟩⟩

instance (root : Path) (p : Partition) (key : String) : Decidable (Writable root p key) :=
  decidable_of_iff
    (Nameable root p key ∧ key ≠ "." ∧ isName (temporaryName key) ∧
      isPath (temporaryPath (recordPath root p key)))
    ⟨fun ⟨h₁, h₂, h₃, h₄⟩ => ⟨h₁, h₂, h₃, h₄⟩,
      fun h => ⟨h.toNameable, h.stem, h.temporary, h.temporaryPath⟩⟩

theorem single_recordName {key : String} (h : Path.Single key) : Path.Single (recordName key) := by
  unfold Path.Single recordName at *
  rw [String.toList_append, List.mem_append, not_or]
  exact ⟨h, by decide⟩

theorem plain_of_length {s : String} (h : 2 < s.toList.length) : Plain s := by
  refine ⟨?_, ?_, ?_⟩
  · rintro rfl
    exact absurd h (by decide)
  · rintro rfl
    exact absurd h (by decide)
  · rintro rfl
    exact absurd h (by decide)

theorem plain_recordName (key : String) : Plain (recordName key) := by
  apply plain_of_length
  rw [recordName, String.toList_append, List.length_append]
  exact Nat.lt_of_lt_of_le (by decide) (Nat.le_add_left _ _)

theorem single_temporaryName {key : String} (h : Path.Single key) :
    Path.Single (temporaryName key) := by
  have hstem : '/' ∉ (if key = "" then ".json" else key).toList := by
    split
    · decide
    · exact h
  unfold Path.Single temporaryName
  rw [String.toList_append, String.toList_append, List.mem_append, List.mem_append, not_or, not_or]
  exact ⟨⟨hstem, by decide⟩, by decide⟩

theorem plain_temporaryName (key : String) : Plain (temporaryName key) := by
  apply plain_of_length
  rw [temporaryName, String.toList_append, List.length_append]
  exact Nat.lt_of_lt_of_le (by decide) (Nat.le_add_left _ _)

theorem recordName_injective {j k : String} (h : recordName j = recordName k) : j = k := by
  rw [← String.toList_inj] at h ⊢
  simp only [recordName, String.toList_append] at h
  exact (List.append_inj' h rfl).1

/-- **No record is kept where another one is written first.** -/
theorem temporaryName_ne_recordName (j k : String) : temporaryName j ≠ recordName k := by
  intro h
  rw [← String.toList_inj] at h
  have hlast := congrArg List.getLast? h
  simp only [temporaryName, recordName, String.toList_append] at hlast
  rw [List.getLast?_append_of_ne_nil _ (by decide), List.getLast?_append_of_ne_nil _ (by decide)]
    at hlast
  exact absurd hlast (by decide)

theorem single_partition (p : Partition) : Path.Single p.name := by cases p <;> decide

theorem plain_partition (p : Partition) : Plain p.name := by
  cases p <;> exact plain_of_length (by decide)

theorem Partition.name_injective {p q : Partition} (h : p.name = q.name) : p = q := by
  revert h
  cases p <;> cases q <;> decide

/-- What stands before the extension in the file name of a record. -/
theorem cut_recordName (key : String) :
    (Path.cut (recordName key)).1 = if key = "" then ".json" else key := by
  have hchars : (recordName key).toList = key.toList ++ '.' :: "json".toList := by
    simp [recordName]
  rw [Path.cut_append hchars (by decide)]
  by_cases hkey : key = ""
  · subst hkey
    rfl
  · rw [if_neg hkey, if_neg (by simpa using hkey)]
    exact String.ofList_toList

/-! ## Paths -/

section

variable (root : Path) (p : Partition) {key : String}

theorem bare_partitionPath : (partitionPath root p).Bare :=
  (single_partition p).bare_join root (plain_partition p).nonempty

theorem parent_recordPath (h : Path.Single key) :
    (recordPath root p key).parent = partitionPath root p :=
  Path.parent_join root (single_partition p) (single_recordName h) (plain_partition p)
    (plain_recordName key)

/-- **The path that a record is written to first** lies beside the path of the record. -/
theorem temporaryPath_recordPath (h : Path.Single key) (hstem : key ≠ ".") :
    temporaryPath (recordPath root p key) = (partitionPath root p).join ⟨temporaryName key⟩ := by
  have hdot : (if key = "" then ".json" else key) ≠ "." := by
    split
    · decide
    · exact hstem
  show ((partitionPath root p).join ⟨recordName key⟩).withExtension "json.tmp" = _
  rw [(bare_partitionPath root p).withExtension_join (single_recordName h) (plain_recordName key),
    cut_recordName, if_neg hdot]
  exact (bare_partitionPath root p).ofSegments_append (single_temporaryName h)

/-- Of a path that the system accepts it accepts the directories. -/
theorem isPath_of_prefix {q r : Path} (h : q.text.toList <+: r.text.toList) (hr : isPath r) :
    isPath q := by
  obtain ⟨rest, hrest⟩ := h
  unfold isPath at *
  rw [← hrest] at hr
  have hlength : (Utf8.encode r.text).length =
      (Utf8.encode q.text).length + (rest.flatMap Utf8.encodeChar).length := by
    unfold Utf8.encode
    rw [← hrest, List.flatMap_append, List.length_append]
  simp only [Bool.and_eq_true, Bool.not_eq_true', decide_eq_true_eq] at hr ⊢
  refine ⟨?_, by omega⟩
  have hnul := hr.1
  rw [← Bool.not_eq_true, List.contains_iff_mem] at hnul ⊢
  exact fun hmem => hnul (List.mem_append_left _ hmem)

theorem isPath_partitionPath {s : String} (hs : Path.Single s)
    (h : isPath ((partitionPath root p).join ⟨s⟩)) : isPath (partitionPath root p) := by
  refine isPath_of_prefix ?_ h
  rw [Path.toList_join _ (Path.isAbsolute_eq_false hs), (bare_partitionPath root p).front,
    List.append_assoc]
  exact List.prefix_append _ _

end

/-! ## Locations -/

/-- Where the directory of a partition lies. -/
def partitionAt (l : Location) (p : Partition) : Location := l ++ [p.name]

/-- Where the file of a record lies. -/
def recordAt (l : Location) (p : Partition) (key : String) : Location :=
  partitionAt l p ++ [recordName key]

/-- Where the file lies that a record is written to first. -/
def temporaryAt (l : Location) (p : Partition) (key : String) : Location :=
  partitionAt l p ++ [temporaryName key]

section

variable {l : Location} {p q : Partition} {j k : String}

theorem partitionAt_ne_nil : partitionAt l p ≠ [] := by simp [partitionAt]

theorem recordAt_ne_nil : recordAt l p k ≠ [] := by simp [recordAt]

theorem temporaryAt_ne_nil : temporaryAt l p k ≠ [] := by simp [temporaryAt]

theorem partitionAt_injective (h : partitionAt l p = partitionAt l q) : p = q := by
  have hname := (List.append_inj' h rfl).2
  exact Partition.name_injective (List.cons.inj hname).1

/-- Different keys have different files, and so have different partitions. -/
theorem recordAt_injective (h : recordAt l p j = recordAt l q k) : p = q ∧ j = k := by
  obtain ⟨hpartition, hname⟩ := List.append_inj' h rfl
  exact ⟨partitionAt_injective hpartition, recordName_injective (List.cons.inj hname).1⟩

theorem recordAt_ne_temporaryAt : recordAt l q j ≠ temporaryAt l p k := by
  intro h
  obtain ⟨_, hname⟩ := List.append_inj' h rfl
  exact temporaryName_ne_recordName k j (List.cons.inj hname).1.symm

theorem ne_of_length {m n : Location} (h : m.length ≠ n.length) : m ≠ n :=
  fun heq => h (congrArg List.length heq)

theorem recordAt_ne_partitionAt : recordAt l q j ≠ partitionAt l p :=
  ne_of_length (by simp [recordAt, partitionAt])

theorem temporaryAt_ne_partitionAt : temporaryAt l q j ≠ partitionAt l p :=
  ne_of_length (by simp [temporaryAt, partitionAt])

end

/-- A folder stands at a location of a disk: there is a directory, and the path of the folder leads
there. -/
structure Stands (root : Path) (d : Disk) (l : Location) : Prop where
  based : d.Based
  tree : d.Tree
  base : d.base root = .ok l
  directory : d.item? l = some .directory

/-- The names of files of a partition. -/
inductive FileName : String → Prop
  | record (key) : FileName (recordName key)
  | temporary (key) : FileName (temporaryName key)

theorem FileName.plain {s : String} (h : FileName s) : Plain s := by
  cases h with
  | record key => exact plain_recordName key
  | temporary key => exact plain_temporaryName key

/-- No file stands where the directory of a partition belongs, and no directory where a file of a
partition belongs. -/
structure Flat (d : Disk) (l : Location) : Prop where
  partition : ∀ p c, d.item? (partitionAt l p) ≠ some (.file c)
  inner : ∀ p s, FileName s → d.item? (partitionAt l p ++ [s]) ≠ some .directory

section

variable {root : Path} {d d' : Disk} {l : Location} {p : Partition} {key : String}

/-- A folder still stands where none of the directories is gone. -/
theorem Stands.mono (h : Stands root d l) (htop : d'.top = d.top) (hhere : d'.here = d.here)
    (htree : d'.Tree) (hd : ∀ k, d.item? k = some .directory → d'.item? k = some .directory) :
    Stands root d' l where
  based := h.based.congr htop
  tree := htree
  base := base_congr htop hhere (fun _ _ _ => follow_mono hd) h.base
  directory := hd l h.directory

section

variable (h : Stands root d l)

include h

theorem Stands.resolve_partitionPath (hpath : isPath (partitionPath root p)) :
    d.resolve (partitionPath root p) = .ok (partitionAt l p) := by
  have hsingle := single_partition p
  have hjoin := resolve_join h.based h.base (Path.isAbsolute_eq_false hsingle)
    (q := ⟨p.name⟩) (plain_partition p).nonempty
  have hname : isName p.name = true := by cases p <;> decide
  unfold partitionPath at hpath ⊢
  rw [hjoin, if_pos hpath, hsingle.segments, List.foldlM_cons, enter_plain h.directory
    (plain_partition p), if_pos hname]
  rfl

/-- A file of a partition is found where its directory is. -/
theorem Stands.resolve_file {s : String} (hsingle : Path.Single s) (hplain : Plain s)
    (hname : isName s) (hpath : isPath ((partitionPath root p).join ⟨s⟩)) :
    d.resolve ((partitionPath root p).join ⟨s⟩) =
      match d.item? (partitionAt l p) with
      | none => .error .missing
      | some (.file _) => .error .refused
      | some .directory => .ok (partitionAt l p ++ [s]) := by
  have hpair : (partitionPath root p).join ⟨s⟩ = root.join ⟨p.name ++ "/" ++ s⟩ :=
    Path.join_join root (single_partition p) (plain_partition p).nonempty hsingle
  have habsolute := Path.isAbsolute_pair (single_partition p) (plain_partition p).nonempty s
  have hjoin := resolve_join h.based h.base habsolute (by simp)
  have hdirectory : isName p.name = true := by cases p <;> decide
  rw [hpair] at hpath ⊢
  rw [hjoin, if_pos hpath, Path.segments_pair (single_partition p) hsingle, List.foldlM_cons,
    enter_plain h.directory (plain_partition p), if_pos hdirectory]
  show d.enter (partitionAt l p) s >>= (fun m => [].foldlM d.enter m) = _
  cases hi : d.item? (partitionAt l p) with
  | none =>
    rw [enter_of_none hi]
    rfl
  | some i =>
    cases i with
    | file c =>
      rw [enter_of_file hi]
      rfl
    | directory =>
      rw [enter_plain hi hplain, if_pos hname]
      rfl

/-! ## Reading -/

/-- The record under a key. -/
def held (d : Disk) (l : Location) (p : Partition) (key : String) : Option Bytes :=
  match d.item? (recordAt l p key) with
  | some (.file bs) => some bs
  | _ => none

theorem Stands.read_file (hflat : Flat d l) {s : String} (hs : FileName s)
    (hsingle : Path.Single s) (hname : isName s) (hpath : isPath ((partitionPath root p).join ⟨s⟩)) :
    d.read ((partitionPath root p).join ⟨s⟩) =
      match d.item? (partitionAt l p ++ [s]) with
      | some (.file bs) => .ok bs
      | _ => .error .missing := by
  unfold Disk.read
  rw [h.resolve_file hsingle hs.plain hname hpath]
  cases hpartition : d.item? (partitionAt l p) with
  | none =>
    -- nothing lies below a directory that is not there
    have hnone : d.item? (partitionAt l p ++ [s]) = none :=
      h.tree.item?_below (by rw [hpartition]; exact nofun) (List.prefix_append _ _)
        (ne_of_length (by simp))
    rw [hnone]
    rfl
  | some i =>
    cases i with
    | file c => exact absurd hpartition (hflat.partition p c)
    | directory =>
      simp only [bind, Except.bind]
      cases hfile : d.item? (partitionAt l p ++ [s]) with
      | none => rfl
      | some i =>
        cases i with
        | file bs => rfl
        | directory => exact absurd hfile (hflat.inner p s hs)

/-- **Reading gives the record under the key.** -/
theorem Stands.read_eq (hflat : Flat d l) (hkey : Nameable root p key) :
    Folder.read root d p key = .ok (held d l p key) := by
  have hread := h.read_file hflat (.record key) (single_recordName hkey.single) hkey.name hkey.path
  have hrecord : recordPath root p key = (partitionPath root p).join ⟨recordName key⟩ := rfl
  unfold Folder.read held recordAt
  simp only [hrecord, hread]
  cases d.item? (partitionAt l p ++ [recordName key]) with
  | none => rfl
  | some i => cases i <;> rfl

end

/-! ## Writing -/

/-- The ways in which a write may end: the directory cannot be made, or the file cannot be written
under its temporary name, or it cannot be moved to its place, or all of it is done. -/
inductive Wrote (root : Path) (d : Disk) (p : Partition) (key : String) (bs : Bytes) :
    Except Failure Unit × Disk → Prop
  | unmade {e f d₁} (hmade : d.makeDirectories (recordPath root p key).parent = (.error e, d₁)) :
      Wrote root d p key bs (.error f, d₁)
  | unwritten {f d₁} (hmade : d.makeDirectories (recordPath root p key).parent = (.ok (), d₁)) :
      Wrote root d p key bs (.error f, d₁)
  | unmoved {f d₁ d₂} (hmade : d.makeDirectories (recordPath root p key).parent = (.ok (), d₁))
      (hput : d₁.write (temporaryPath (recordPath root p key)) bs = .ok d₂) :
      Wrote root d p key bs (.error f, d₂)
  | moved {d₁ d₂ d₃} (hmade : d.makeDirectories (recordPath root p key).parent = (.ok (), d₁))
      (hput : d₁.write (temporaryPath (recordPath root p key)) bs = .ok d₂)
      (hmove : d₂.rename (temporaryPath (recordPath root p key)) (recordPath root p key) = .ok d₃) :
      Wrote root d p key bs (.ok (), d₃)

theorem wrote_write (root : Path) (d : Disk) (p : Partition) (key : String) (bs : Bytes) :
    Wrote root d p key bs (Folder.write root d p key bs) := by
  unfold Folder.write
  dsimp only
  cases hmade : d.makeDirectories (recordPath root p key).parent with
  | mk r d₁ =>
    cases r with
    | error e => exact .unmade hmade
    | ok _ =>
      dsimp only
      cases hput : d₁.write (temporaryPath (recordPath root p key)) bs with
      | error e => exact .unwritten hmade
      | ok d₂ =>
        dsimp only
        cases hmove : d₂.rename (temporaryPath (recordPath root p key)) (recordPath root p key) with
        | error e => exact .unmoved hmade hput
        | ok d₃ => exact .moved hmade hput hmove

/-- What was done by a write that succeeded. -/
theorem of_write {bs : Bytes} (h : Folder.write root d p key bs = (.ok (), d')) :
    ∃ d₁ d₂, d.makeDirectories (recordPath root p key).parent = (.ok (), d₁) ∧
      d₁.write (temporaryPath (recordPath root p key)) bs = .ok d₂ ∧
      d₂.rename (temporaryPath (recordPath root p key)) (recordPath root p key) = .ok d' := by
  have hwrote := wrote_write root d p key bs
  rw [h] at hwrote
  cases hwrote with
  | moved hmade hput hmove => exact ⟨_, _, hmade, hput, hmove⟩

/-- The disk with a directory for a partition. -/
def made (d : Disk) (l : Location) (p : Partition) : Disk :=
  if d.item? (partitionAt l p) = some .directory then d
  else d.put (partitionAt l p) .directory

/-- The disk while a record is being written: the file is there, but under its temporary name. -/
def staged (d : Disk) (l : Location) (p : Partition) (key : String) (bs : Bytes) : Disk :=
  (made d l p).put (temporaryAt l p key) (.file bs)

/-- The disk after a record was written. -/
def written (d : Disk) (l : Location) (p : Partition) (key : String) (bs : Bytes) : Disk :=
  ((staged d l p key bs).erase (temporaryAt l p key)).put (recordAt l p key) (.file bs)

theorem item?_made (m : Location) :
    (made d l p).item? m = if m = partitionAt l p then some .directory else d.item? m := by
  unfold made
  split
  · next hdirectory =>
    split
    · next hm => rw [hm, hdirectory]
    · rfl
  · exact item?_put d partitionAt_ne_nil _ m

theorem directory_made : (made d l p).item? (partitionAt l p) = some .directory := by
  rw [item?_made, if_pos rfl]

theorem item?_staged (bs : Bytes) (m : Location) :
    (staged d l p key bs).item? m =
      if m = temporaryAt l p key then some (.file bs)
      else if m = partitionAt l p then some .directory else d.item? m := by
  rw [staged, item?_put _ temporaryAt_ne_nil, item?_made]

/-- What a write changes: the file of the record, the file beside it, and the directory. -/
theorem item?_written (bs : Bytes) (m : Location) :
    (written d l p key bs).item? m =
      if m = recordAt l p key then some (.file bs)
      else if m = temporaryAt l p key then none
      else if m = partitionAt l p then some .directory else d.item? m := by
  rw [written, item?_put _ recordAt_ne_nil, item?_erase _ temporaryAt_ne_nil, item?_staged]
  split
  · rfl
  · split
    · rfl
    · rfl

section

variable (h : Stands root d l) (hflat : Flat d l)

include h hflat

theorem stands_made (p : Partition) : Stands root (made d l p) l ∧ Flat (made d l p) l := by
  have hkeep : ∀ k, d.item? k = some .directory → (made d l p).item? k = some .directory := by
    intro k hk
    rw [item?_made]
    split
    · rfl
    · exact hk
  have htop : (made d l p).top = d.top ∧ (made d l p).here = d.here := by
    unfold made
    split <;> exact ⟨rfl, rfl⟩
  have htree : (made d l p).Tree := by
    unfold made
    split
    · exact h.tree
    · refine h.tree.put partitionAt_ne_nil ?_ fun _ => rfl
      rw [partitionAt, List.dropLast_concat]
      exact h.directory
  refine ⟨h.mono htop.1 htop.2 htree hkeep, ?_, ?_⟩
  · intro q c
    rw [item?_made]
    split
    · exact nofun
    · exact hflat.partition q c
  · intro q s hs
    rw [item?_made, if_neg (ne_of_length (by simp [partitionAt]))]
    exact hflat.inner q s hs

/-- A file more in the directory of a partition. -/
theorem stands_put (hdirectory : d.item? (partitionAt l p) = some .directory) {s : String}
    (hs : FileName s) (bs : Bytes) :
    Stands root (d.put (partitionAt l p ++ [s]) (.file bs)) l ∧
      Flat (d.put (partitionAt l p ++ [s]) (.file bs)) l := by
  have hfile : d.item? (partitionAt l p ++ [s]) ≠ some .directory := hflat.inner p s hs
  have hput := item?_put d (l := partitionAt l p ++ [s]) (by simp) (.file bs)
  have hkeep : ∀ k, d.item? k = some .directory →
      (d.put (partitionAt l p ++ [s]) (.file bs)).item? k = some .directory := by
    intro k hk
    rw [hput, if_neg, hk]
    rintro rfl
    exact hfile hk
  have htree : (d.put (partitionAt l p ++ [s]) (.file bs)).Tree := by
    refine h.tree.put (by simp) ?_ fun hd => absurd hd hfile
    rw [List.dropLast_concat, hdirectory]
  refine ⟨h.mono rfl rfl htree hkeep, ?_, ?_⟩
  · intro q c
    rw [hput, if_neg (ne_of_length (by simp [partitionAt]))]
    exact hflat.partition q c
  · intro q t ht
    rw [hput]
    split
    · exact nofun
    · exact hflat.inner q t ht

/-- A file less in the directory of a partition. -/
theorem stands_erase (p : Partition) {s : String} (hs : FileName s) :
    Stands root (d.erase (partitionAt l p ++ [s])) l ∧
      Flat (d.erase (partitionAt l p ++ [s])) l := by
  have hfile : d.item? (partitionAt l p ++ [s]) ≠ some .directory := hflat.inner p s hs
  have herase := item?_erase d (l := partitionAt l p ++ [s]) (by simp)
  have hkeep : ∀ k, d.item? k = some .directory →
      (d.erase (partitionAt l p ++ [s])).item? k = some .directory := by
    intro k hk
    rw [herase, if_neg, hk]
    rintro rfl
    exact hfile hk
  refine ⟨h.mono rfl rfl (h.tree.erase (by simp) hfile) hkeep, ?_, ?_⟩
  · intro q c
    rw [herase, if_neg (ne_of_length (by simp [partitionAt]))]
    exact hflat.partition q c
  · intro q t ht
    rw [herase]
    split
    · exact nofun
    · exact hflat.inner q t ht

theorem stands_staged (p : Partition) (key : String) (bs : Bytes) :
    Stands root (staged d l p key bs) l ∧ Flat (staged d l p key bs) l := by
  obtain ⟨hmade, hmadeFlat⟩ := stands_made h hflat p
  exact stands_put hmade hmadeFlat directory_made (.temporary key) bs

theorem stands_written (p : Partition) (key : String) (bs : Bytes) :
    Stands root (written d l p key bs) l ∧ Flat (written d l p key bs) l := by
  obtain ⟨hstaged, hstagedFlat⟩ := stands_staged h hflat p key bs
  obtain ⟨hmoved, hmovedFlat⟩ := stands_erase hstaged hstagedFlat p (.temporary key)
  refine stands_put hmoved hmovedFlat ?_ (.record key) bs
  rw [item?_erase _ (by simp), if_neg (ne_of_length (by simp)), item?_staged,
    if_neg temporaryAt_ne_partitionAt.symm, if_pos rfl]

/-- The directory of a partition is made unless it is there. -/
theorem makeDirectories_partition (hpath : isPath (partitionPath root p)) :
    d.makeDirectories (partitionPath root p) = (.ok (), made d l p) := by
  have hbare := bare_partitionPath root p
  have hresolve := h.resolve_partitionPath hpath
  have hempty : (partitionPath root p).text.isEmpty = false := by simpa using hbare.nonempty
  have hensure : d.ensureDirectory (partitionPath root p) = (.ok (), made d l p) := by
    have hisDirectory : d.isDirectory (partitionPath root p) =
        (d.item? (partitionAt l p) == some .directory) := by
      unfold isDirectory
      rw [hresolve]
    unfold ensureDirectory made
    rw [hisDirectory]
    cases hi : d.item? (partitionAt l p) with
    | none =>
      have hmake : d.makeDirectory (partitionPath root p) =
          .ok (d.put (partitionAt l p) .directory) := by
        unfold makeDirectory
        rw [hbare.withoutSlashes, hresolve]
        simp only [bind, Except.bind, hi]
        rfl
      rw [hmake]
      rfl
    | some i =>
      cases i with
      | file c => exact absurd hi (hflat.partition p c)
      | directory => rfl
  unfold makeDirectories
  rw [hempty, hensure]
  rfl

/-- Writing under the temporary name. -/
theorem write_temporary (hkey : Writable root p key) (bs : Bytes) :
    (made d l p).write (temporaryPath (recordPath root p key)) bs = .ok (staged d l p key bs) := by
  obtain ⟨hmade, hmadeFlat⟩ := stands_made h hflat p
  have hpath := hkey.temporaryPath
  rw [temporaryPath_recordPath root p hkey.single hkey.stem] at hpath ⊢
  have hresolve := hmade.resolve_file (single_temporaryName hkey.single)
    (plain_temporaryName key) hkey.temporary hpath
  rw [directory_made] at hresolve
  have hfile : (made d l p).item? (temporaryAt l p key) ≠ some .directory :=
    hmadeFlat.inner p _ (.temporary key)
  unfold Disk.write
  rw [hresolve]
  exact if_neg hfile

/-- Moving the file to its place. -/
theorem rename_temporary (hkey : Writable root p key) (bs : Bytes) :
    (staged d l p key bs).rename (temporaryPath (recordPath root p key)) (recordPath root p key) =
      .ok (written d l p key bs) := by
  obtain ⟨hstaged, hstagedFlat⟩ := stands_staged h hflat p key bs
  have hdirectory : (staged d l p key bs).item? (partitionAt l p) = some .directory := by
    rw [item?_staged, if_neg temporaryAt_ne_partitionAt.symm, if_pos rfl]
  have hpath := hkey.temporaryPath
  rw [temporaryPath_recordPath root p hkey.single hkey.stem] at hpath ⊢
  have hsource := hstaged.resolve_file (single_temporaryName hkey.single)
    (plain_temporaryName key) hkey.temporary hpath
  have htarget := hstaged.resolve_file (single_recordName hkey.single)
    (plain_recordName key) hkey.name hkey.path
  rw [hdirectory] at hsource htarget
  have hrecord : recordPath root p key = (partitionPath root p).join ⟨recordName key⟩ := rfl
  have hfile : (staged d l p key bs).item? (partitionAt l p ++ [temporaryName key]) =
      some (.file bs) := by
    rw [item?_staged]
    exact if_pos rfl
  unfold rename
  rw [hsource, hrecord, htarget]
  simp only [bind, Except.bind, hfile]
  cases hi : (staged d l p key bs).item? (partitionAt l p ++ [recordName key]) with
  | none => rfl
  | some i =>
    cases i with
    | file c => rfl
    | directory => exact absurd hi (hstagedFlat.inner p _ (.record key))

/-- **Writing puts the record under its key.** -/
theorem write_eq (hkey : Writable root p key) (bs : Bytes) :
    Folder.write root d p key bs = (.ok (), written d l p key bs) := by
  have hpartition := isPath_partitionPath root p (single_recordName hkey.single) hkey.path
  unfold Folder.write
  simp only [parent_recordPath root p hkey.single, makeDirectories_partition h hflat hpartition,
    write_temporary h hflat hkey, rename_temporary h hflat hkey]
  rfl

end

/-- **A write changes the record under its key and no other.** -/
theorem held_written (bs : Bytes) (q : Partition) (j : String) :
    held (written d l p key bs) l q j = if q = p ∧ j = key then some bs else held d l q j := by
  unfold held
  rw [item?_written]
  by_cases hsame : recordAt l q j = recordAt l p key
  · rw [if_pos hsame, if_pos (recordAt_injective hsame)]
  · have hother : ¬ (q = p ∧ j = key) := by
      rintro ⟨rfl, rfl⟩
      exact hsame rfl
    rw [if_neg hsame, if_neg recordAt_ne_temporaryAt, if_neg recordAt_ne_partitionAt,
      if_neg hother]

/-- A record that is being written is not there before it has its name. -/
theorem held_staged (bs : Bytes) (q : Partition) (j : String) :
    held (staged d l p key bs) l q j = held d l q j := by
  unfold held
  rw [item?_staged, if_neg recordAt_ne_temporaryAt, if_neg recordAt_ne_partitionAt]

end

end Folder

end QmlExport.Store
