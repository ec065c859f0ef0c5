import QmlExport.Proofs.Store.Clearing

/-!
# Folders that are opened again

A folder that was opened is `Ready`: it stands on the disk in this version, and opening it again
changes nothing (`Ready.openAt`). A write keeps it ready, whether it succeeds or stops half way: it
touches no file but that of the record and the one beside it (`Rewrites`). Clearing may take away
the way to the folder itself; **but a folder that was cleared and written to is ready again**
(`Ready.refilled`), since the write makes the way anew, and the version file was never touched.
-/

namespace QmlExport

namespace Disk

/-- A path leads where it led, or something is missing on the way. -/
theorem Shrinks.resolve {d d' : Disk} (h : Shrinks d d') (p : Path) :
    d'.resolve p = d.resolve p ∨ d'.resolve p = .error .missing := by
  unfold Disk.resolve
  rw [steps?_congr h.top h.here]
  split
  · exact .inl rfl
  · split
    · exact .inl rfl
    · split
      · exact .inl rfl
      · next start segments _ => exact h.follow segments start

end Disk

namespace Store.Folder

open Disk Text

section

variable {root : Path} {d d' d₁ d₂ : Disk} {l m : Location} {p q : Partition} {key other : String}
  {bs x : Bytes}

/-! ## Files that are written -/

/-- A key whose files can have their names. -/
structure Storable (key : String) : Prop where
  single : Path.Single key
  stem : key ≠ "."
  name : isName (recordName key)
  temporary : isName (temporaryName key)

/-- The keys of a run are such keys. -/
theorem storable_key (k : Key) : Storable k.name := by
  cases k <;> exact ⟨by decide, by decide, by decide +kernel, by decide +kernel⟩

/-- Nothing was done but to make directories and to write the file of a record, with these octets,
or the file beside it. -/
structure Rewrites (l : Location) (p : Partition) (key : String) (bs : Bytes) (d d' : Disk) : Prop
    extends Grows d d' where
  stays : ∀ m c, m ≠ recordAt l p key → m ≠ temporaryAt l p key →
    d.item? m = some (.file c) → d'.item? m = some (.file c)
  file : ∀ m c, d'.item? m = some (.file c) → d.item? m = some (.file c) ∨
    (m = recordAt l p key ∨ m = temporaryAt l p key) ∧ c = bs

theorem rewrites_of_branches (h : Branches d d') : Rewrites l p key bs d d' :=
  ⟨h.toGrows, fun m c _ _ => h.stays m (.file c), fun m c hm => .inl (h.file m c hm)⟩

theorem Rewrites.trans (h : Rewrites l p key bs d d₁) (h' : Rewrites l p key bs d₁ d₂) :
    Rewrites l p key bs d d₂ where
  toGrows := h.toGrows.trans h'.toGrows
  stays m c hr ht hm := h'.stays m c hr ht (h.stays m c hr ht hm)
  file m c hm := (h'.file m c hm).elim (h.file m c) .inr

theorem Rewrites.stands (h : Rewrites l p key bs d d') (hstands : Stands root d l) :
    Stands root d' l :=
  hstands.mono h.top h.here h.tree h.keeps

/-- A path to a file of a partition leads into its directory. -/
theorem Stands.of_resolve_file (h : Stands root d l) {s : String} (hsingle : Path.Single s)
    (hplain : Plain s) (hname : isName s)
    (hr : d.resolve ((partitionPath root p).join ⟨s⟩) = .ok m) :
    d.item? (partitionAt l p) = some .directory ∧ m = partitionAt l p ++ [s] := by
  rw [h.resolve_file hsingle hplain hname (resolve_eq_ok hr).1] at hr
  split at hr
  · cases hr
  · cases hr
  · next hdirectory => exact ⟨hdirectory, (Except.ok.inj hr).symm⟩

/-- Writing under the temporary name. -/
theorem Stands.rewrites_temporary (h : Stands root d l) (hkey : Storable key)
    (hput : d.write (temporaryPath (recordPath root p key)) bs = .ok d') :
    Rewrites l p key bs d d' ∧ d'.item? (temporaryAt l p key) = some (.file bs) := by
  obtain ⟨m, hm, hfile, rfl⟩ := write_eq_ok hput
  rw [temporaryPath_recordPath root p hkey.single hkey.stem] at hm
  obtain ⟨hdirectory, rfl⟩ := h.of_resolve_file (single_temporaryName hkey.single)
    (plain_temporaryName key) hkey.temporary hm
  have hitem := item?_put d (temporaryAt_ne_nil (l := l) (p := p) (k := key)) (.file bs)
  have hparent : d.item? (temporaryAt l p key).dropLast = some .directory := by
    rw [temporaryAt, List.dropLast_concat, hdirectory]
  refine ⟨⟨grows_put h.tree hparent hfile, fun k c _ ht hk => ?_, fun k c hk => ?_⟩, ?_⟩
  · exact (hitem k).trans ((if_neg ht).trans hk)
  · replace hk := (hitem k).symm.trans hk
    split at hk
    · next heq =>
      cases hk
      exact .inr ⟨.inr heq, rfl⟩
    · exact .inl hk
  · exact (hitem _).trans (if_pos rfl)

/-- Moving the file to its place. -/
theorem Stands.rewrites_rename (h : Stands root d l) (hkey : Storable key)
    (hfile : d.item? (temporaryAt l p key) = some (.file bs))
    (hmove : d.rename (temporaryPath (recordPath root p key)) (recordPath root p key) = .ok d') :
    Rewrites l p key bs d d' := by
  have htree := (continues_rename hmove).tree h.tree
  obtain ⟨s, t, c, hs, ht, hsfile, htfile, rfl⟩ := rename_eq_ok hmove
  rw [temporaryPath_recordPath root p hkey.single hkey.stem] at hs
  obtain ⟨_, rfl⟩ := h.of_resolve_file (single_temporaryName hkey.single)
    (plain_temporaryName key) hkey.temporary hs
  obtain ⟨_, rfl⟩ := h.of_resolve_file (single_recordName hkey.single) (plain_recordName key)
    hkey.name ht
  obtain rfl : c = bs := by
    have hsame := hsfile.symm.trans hfile
    cases hsame
    rfl
  have hitem := item?_move hsfile htfile
  refine ⟨⟨rfl, rfl, htree, directory_move hsfile htfile⟩, fun k b hr ht hk => ?_, fun k b hk => ?_⟩
  · exact (hitem k).trans ((if_neg hr).trans ((if_neg ht).trans hk))
  · replace hk := (hitem k).symm.trans hk
    split at hk
    · next heq =>
      cases hk
      exact .inr ⟨.inl heq, rfl⟩
    · split at hk
      · cases hk
      · exact .inl hk

/-- **A write does no more**, whatever comes of it, where the folder stands once the directory is
made; and there it still stands. -/
theorem rewrites_write (htree : d.Tree) (hkey : Storable key) (bs : Bytes)
    (h : Stands root (d.makeDirectories (recordPath root p key).parent).2 l) :
    Rewrites l p key bs d (Folder.write root d p key bs).2 ∧
      Stands root (Folder.write root d p key bs).2 l := by
  have hmakes : Rewrites l p key bs d (d.makeDirectories (recordPath root p key).parent).2 :=
    rewrites_of_branches (branches_makeDirectories htree _)
  have hwrote := wrote_write root d p key bs
  generalize Folder.write root d p key bs = x at hwrote
  cases hwrote with
  | unmade hmade | unwritten hmade =>
    rw [hmade] at h hmakes
    exact ⟨hmakes, h⟩
  | unmoved hmade hput =>
    rw [hmade] at h hmakes
    obtain ⟨hstaged, _⟩ := h.rewrites_temporary hkey hput
    exact ⟨hmakes.trans hstaged, hstaged.stands h⟩
  | moved hmade hput hmove =>
    rw [hmade] at h hmakes
    obtain ⟨hstaged, hfile⟩ := h.rewrites_temporary hkey hput
    have hmoved := (hstaged.stands h).rewrites_rename hkey hfile hmove
    exact ⟨(hmakes.trans hstaged).trans hmoved, hmoved.stands (hstaged.stands h)⟩

/-! ## Reading -/

/-- A record is read where its file is, if the system accepts the path. -/
theorem Stands.read_iff (h : Stands root d l) (hkey : Storable key) :
    Folder.read root d p key = .ok (some x) ↔
      isPath (recordPath root p key) ∧ d.item? (recordAt l p key) = some (.file x) := by
  have hsingle := single_recordName hkey.single
  unfold Folder.read
  constructor
  · intro hread
    dsimp only at hread
    split at hread
    · next bs hbs =>
      cases hread
      obtain ⟨m, hm, hfile⟩ := read_eq_ok hbs
      obtain ⟨_, rfl⟩ := h.of_resolve_file hsingle (plain_recordName key) hkey.name hm
      exact ⟨(resolve_eq_ok hm).1, hfile⟩
    · cases hread
    · cases hread
  · rintro ⟨hpath, hfile⟩
    have hdirectory : d.item? (partitionAt l p) = some .directory := by
      have hparent := h.tree (recordAt l p key) recordAt_ne_nil (by rw [hfile]; exact nofun)
      rwa [recordAt, List.dropLast_concat] at hparent
    have hresolve := h.resolve_file hsingle (plain_recordName key) hkey.name hpath
    rw [hdirectory] at hresolve
    have hread : d.read (recordPath root p key) = .ok x := read_of_resolve hresolve hfile
    simp only [hread]

/-- What is read after a write was there before, or has been written. -/
theorem Rewrites.read (h : Rewrites l p key bs d d') (hstands : Stands root d l)
    (hother : Storable other) (hread : Folder.read root d' q other = .ok (some x)) :
    Folder.read root d q other = .ok (some x) ∨ (q = p ∧ other = key) ∧ x = bs := by
  obtain ⟨hpath, hfile⟩ := ((h.stands hstands).read_iff hother).1 hread
  rcases h.file _ _ hfile with hold | ⟨hat, rfl⟩
  · exact .inl ((hstands.read_iff hother).2 ⟨hpath, hold⟩)
  · rcases hat with heq | heq
    · exact .inr ⟨recordAt_injective heq, rfl⟩
    · exact absurd heq recordAt_ne_temporaryAt

/-- Other records are read as before. -/
theorem Rewrites.read_stays (h : Rewrites l p key bs d d') (hstands : Stands root d l)
    (hother : Storable other) (hne : ¬ (q = p ∧ other = key))
    (hread : Folder.read root d q other = .ok (some x)) :
    Folder.read root d' q other = .ok (some x) := by
  obtain ⟨hpath, hfile⟩ := (hstands.read_iff hother).1 hread
  refine ((h.stands hstands).read_iff hother).2 ⟨hpath, h.stays _ _ ?_ ?_ hfile⟩
  · exact fun heq => hne (recordAt_injective heq)
  · exact recordAt_ne_temporaryAt

/-! ## Folders that are ready -/

/-- A folder of this version stands there. -/
structure Ready (root : Path) (d : Disk) (l : Location) : Prop extends Stands root d l where
  current : Current root d l

/-- **A folder that is ready can be opened again**, and nothing is changed by it. -/
theorem Ready.openAt (h : Ready root d l) : Folder.openAt root d = (.ok (.folder root d), d) :=
  openAt_eq h.toStands h.current

/-- The version file is none of the files of a record. -/
theorem Rewrites.current (h : Rewrites l p key bs d d') (hcurrent : Current root d l) :
    Current root d' l where
  path := hcurrent.path
  version := by
    obtain ⟨bs, s, hfile, hversion⟩ := hcurrent.version
    refine ⟨bs, s, h.stays _ _ ?_ ?_ hfile, hversion⟩
    · exact ne_of_length (by simp [recordAt, partitionAt])
    · exact ne_of_length (by simp [temporaryAt, partitionAt])

/-- **A write keeps a folder ready**, whatever comes of it. -/
theorem Ready.write (h : Ready root d l) (hkey : Storable key) (p : Partition) (bs : Bytes) :
    Rewrites l p key bs d (Folder.write root d p key bs).2 ∧
      Ready root (Folder.write root d p key bs).2 l := by
  have hmakes := branches_makeDirectories h.tree (recordPath root p key).parent
  obtain ⟨hrewrites, hstands⟩ := rewrites_write h.tree hkey bs
    (h.mono hmakes.top hmakes.here hmakes.tree hmakes.keeps)
  exact ⟨hrewrites, hstands, hrewrites.current h.current⟩

/-! ## Clearing -/

/-- Clearing a partition touches nothing outside it, also when other things are gone. -/
theorem Stands.item?_clearPartition (h : Stands root d l) (hshrinks : Shrinks d d₁)
    (hm : ¬ partitionAt l p <+: m) : (clearPartition root d₁ p).2.item? m = d₁.item? m := by
  rcases clearPartition_ways root d₁ p with ⟨k, hk, hclear⟩ | ⟨_, hclear⟩ | ⟨_, hclear⟩
  · obtain rfl : partitionAt l p = k := by
      have hpath := (resolve_eq_ok hk).1
      rcases hshrinks.resolve (partitionPath root p) with hsame | hmissing
      · rw [hk, h.resolve_partitionPath hpath] at hsame
        exact (Except.ok.inj hsame).symm
      · rw [hk] at hmissing
        cases hmissing
    rw [hclear]
    show (d₁.eraseBelow (partitionAt l p)).item? m = _
    rw [item?_eraseBelow, if_neg fun hbelow => hm hbelow.2]
  · rw [hclear]
  · rw [hclear]

/-- **Clearing stays in the partitions**, wherever the path of the folder leads. -/
theorem Stands.beside_clear (h : Stands root d l) : Beside l d (clear root d).2 := by
  have hcontinues := (sheds_clear root d).continues
  refine ⟨hcontinues.top, hcontinues.here, fun m hm => ?_⟩
  have hfirst := h.item?_clearPartition (.refl d) (hm .files)
  have hshrinks := shrinks_clearPartition root d .files
  rcases clear_ways root d with ⟨f, d₁, hfiles, hclear⟩ | ⟨d₁, hfiles, hclear⟩
  · rw [hfiles] at hfirst
    rw [hclear]
    exact hfirst
  · rw [hfiles] at hfirst hshrinks
    rw [hclear]
    exact (h.item?_clearPartition hshrinks (hm .metadata)).trans hfirst

/-- Where a path below a root leads somewhere, there the root stands. -/
theorem Placed.stands_of_resolve_join (h : Placed root d) {r : Path} (hr : r.isAbsolute = false)
    (hne : r.text ≠ "") (hresolve : d.resolve (root.join r) = .ok m) : ∃ l, Stands root d l := by
  obtain ⟨s, rest, hsegments⟩ := List.exists_cons_of_ne_nil (segments_ne_nil r)
  obtain ⟨hpath, _, origin, way, hsteps, hfollow⟩ := resolve_eq_ok hresolve
  -- from where the segments behind the root are followed there is a directory
  have hdirectory : ∀ k, r.segments.foldlM d.enter k = .ok m → d.item? k = some .directory := by
    intro k hk
    rw [hsegments, List.foldlM_cons] at hk
    cases he : d.enter k s with
    | error f => rw [he] at hk; cases hk
    | ok j => exact (enter_eq_ok he).1
  have hbase : ∃ l, d.base root = .ok l := by
    unfold base
    split
    · exact ⟨_, rfl⟩
    · next hempty =>
      have htext : root.text ≠ "" := by simpa using hempty
      obtain ⟨⟨start, segments⟩, hs⟩ := Option.isSome_iff_exists.1 (h.begins htext)
      obtain ⟨lead, hjoin, hlead⟩ := steps?_join h.based htext hr hne hs
      obtain ⟨rfl, rfl⟩ := Prod.mk.inj (Option.some.inj (hjoin.symm.trans hsteps))
      rw [List.foldlM_append] at hfollow
      cases hk : lead.foldlM d.enter start with
      | error f => rw [hk] at hfollow; cases hfollow
      | ok k =>
        rw [hk] at hfollow
        refine ⟨k, ?_⟩
        rw [resolve_of_steps (isPath_root hr hpath) htext hs]
        rcases hlead with rfl | rfl
        · exact hk
        · exact follow_concat.2 ⟨k, hk, enter_empty (hdirectory k hfollow)⟩
  obtain ⟨l, hbase⟩ := hbase
  refine ⟨l, h.based, h.tree, hbase, hdirectory l ?_⟩
  rw [resolve_join h.based hbase hr hne, if_pos hpath] at hresolve
  exact hresolve

/-- Where a write succeeds the folder stands once the directory is made. -/
theorem Placed.stands_of_write (h : Placed root d) (hkey : Storable key)
    (hwrite : Folder.write root d p key bs = (.ok (), d')) :
    ∃ l, Stands root (d.makeDirectories (recordPath root p key).parent).2 l := by
  have hmakes := (branches_makeDirectories h.tree (recordPath root p key).parent).sheds
  obtain ⟨d₁, d₂, hmade, hput, _⟩ := of_write hwrite
  rw [hmade] at hmakes ⊢
  obtain ⟨m, hm, _⟩ := write_eq_ok hput
  have hpair : (partitionPath root p).join ⟨temporaryName key⟩ =
      root.join ⟨p.name ++ "/" ++ temporaryName key⟩ :=
    Path.join_join root (single_partition p) (plain_partition p).nonempty
      (single_temporaryName hkey.single)
  rw [temporaryPath_recordPath root p hkey.single hkey.stem, hpair] at hm
  exact (h.continues hmakes.continues).stands_of_resolve_join
    (Path.isAbsolute_pair (single_partition p) (plain_partition p).nonempty _) (by simp) hm

/-- **A folder that was cleared and written to is ready again**, wherever its path leads. -/
theorem Ready.refilled (h : Ready root d l) (hkey : Storable key)
    (hwrite : Folder.write root (clear root d).2 p key bs = (.ok (), d')) :
    Ready root d' l := by
  have hbeside := h.beside_clear
  have hplaced := h.placed.continues (sheds_clear root d).continues
  have hmakes := branches_makeDirectories hplaced.tree (recordPath root p key).parent
  obtain ⟨k, hstands⟩ := hplaced.stands_of_write hkey hwrite
  obtain rfl : l = k := base_unique (hmakes.top.trans hbeside.top) (hmakes.here.trans hbeside.here)
    h.base hstands.base
  have hwritten := rewrites_write hplaced.tree hkey bs hstands
  rw [hwrite] at hwritten
  exact ⟨hwritten.2, hwritten.1.current (h.current.beside hbeside)⟩

/-- Where the path of the folder does not depend on the partitions, **nothing but what was written
can be read then**. -/
theorem Ready.read_refilled (h : Ready root d l) (hsteady : Steady root d l) (hkey : Storable key)
    (hclear : clear root d = (.ok (), d₁))
    (hwrite : Folder.write root d₁ p key bs = (.ok (), d')) (hother : Storable other)
    (hread : Folder.read root d' q other = .ok (some x)) : (q = p ∧ other = key) ∧ x = bs := by
  have hbeside := h.beside_clear
  have hplaced := h.placed.continues (sheds_clear root d).continues
  rw [hclear] at hbeside hplaced
  have hready : Ready root d₁ l :=
    ⟨h.toStands.beside hsteady hbeside hplaced.tree, h.current.beside hbeside⟩
  obtain ⟨hrewrites, hready'⟩ := hready.write hkey p bs
  rw [hwrite] at hrewrites hready'
  rcases hrewrites.read hready.toStands hother hread with hold | hnew
  · have hpath := ((hready'.toStands.read_iff hother).1 hread).1
    rw [h.placed.read_cleared hclear hother.single hpath] at hold
    cases hold
  · exact hnew

end

end Store.Folder

end QmlExport
