import QmlExport.Proofs.Store.Reopening

/-!
# What opening does to a folder

Opening makes the directories on the way to a folder and looks at its version file. **It succeeds if
there is none, which is then written, or if it tells this version** (`Openable.opens`). No file is
changed by it, and a folder of another version is left as it is: where there is a version file the
folder is there, so no directory is made, unless its path leads through one that is missing and back.
A path that does not is `Straight`.
-/

namespace QmlExport.Store.Folder

open Disk Text

variable {root : Path} {d e : Disk} {l m : Location} {bs : Bytes}

/-! ## Straight paths -/

/-- The path of a folder leads straight there: it has no steps up, or it leads to a directory
already, whatever happens in the partitions. -/
def Straight (root : Path) (d : Disk) : Prop :=
  ".." ∉ root.segments ∨ ∃ l, Stands root d l ∧ Steady root d l

/-- A folder with a plain path stands wherever its directory is there. -/
theorem Stands.of_plain (h : Stands root e l) (hup : ".." ∉ root.segments) (htop : e.top = d.top)
    (hhere : e.here = d.here) (htree : d.Tree) (hd : d.item? l = some .directory) :
    Stands root d l where
  based := h.based.congr htop.symm
  tree := htree
  base := by
    refine base_congr htop.symm hhere.symm (fun start segments hs hfollow => ?_) h.base
    have hsegments : ".." ∉ segments :=
      fun hmem => hup (mem_segments_of_steps? hs hmem (by decide))
    refine follow_congr hsegments (fun k hk => ?_) hfollow
    rw [htree.above hd hk, h.tree.above h.directory hk]
  directory := hd

/-- Where the directory of a folder was there, a straight path led to it. -/
theorem Straight.stands (h : Straight root d) (htree : d.Tree) (he : Stands root e l)
    (htop : e.top = d.top) (hhere : e.here = d.here) (hd : d.item? l = some .directory) :
    Stands root d l ∧ Steady root d l := by
  rcases h with hup | ⟨k, hstands, hsteady⟩
  · have hstands := he.of_plain hup htop hhere htree hd
    exact ⟨hstands, steady_of_plain hstands.base hup⟩
  · obtain rfl : k = l := base_unique htop hhere hstands.base he.base
    exact ⟨hstands, hsteady⟩

/-! ## Opening -/

/-- The version that is told by a file: its text without the blanks around it. -/
def stamp? (bs : Bytes) : Option String :=
  (Utf8.text? bs).map fun s => String.ofList (trim s.toList)

/-- The failure of a folder whose version file tells something else. -/
def refusal (root : Path) (bs : Bytes) : Failure :=
  match stamp? bs with
  | some found => otherVersion root found
  | none => failed

/-- The disk with the version of a folder written to its file. -/
def stamped (d : Disk) (l : Location) : Disk :=
  d.put (l ++ ["version"]) (.file (Utf8.encode version))

/-- The disk on which the directories on the way to a folder are made. -/
def withWay (d : Disk) (root : Path) : Disk := (d.makeDirectories root).2

/-- The operations of opening a folder succeed: the directories on the way can be made, the version
file can be read or is not there, and then it can be written. -/
structure Openable (root : Path) (d : Disk) : Prop where
  making : (d.makeDirectories root).1 = .ok ()
  reading : (withWay d root).read (versionPath root) ≠ .error .refused
  writing : (withWay d root).read (versionPath root) = .error .missing →
    ∃ d', (withWay d root).write (versionPath root) (Utf8.encode version) = .ok d'

theorem Openable.makeDirectories_eq (h : Openable root d) :
    d.makeDirectories root = (.ok (), withWay d root) := Prod.ext h.making rfl

/-- The folder stands where its version file is found. -/
theorem Openable.stands (h : Openable root d) (hb : d.Based) (htree : d.Tree) :
    ∃ l, Stands root (withWay d root) l ∧
      (withWay d root).resolve (versionPath root) = .ok (l ++ ["version"]) ∧
      (withWay d root).item? (l ++ ["version"]) ≠ some .directory := by
  have hgrows : Grows d (withWay d root) := (branches_makeDirectories htree root).toGrows
  obtain ⟨m, hm, hfile⟩ : ∃ m, (withWay d root).resolve (versionPath root) = .ok m ∧
      (withWay d root).item? m ≠ some .directory := by
    cases hread : (withWay d root).read (versionPath root) with
    | ok bs =>
      obtain ⟨m, hm, hfile⟩ := read_eq_ok hread
      exact ⟨m, hm, by rw [hfile]; exact nofun⟩
    | error f =>
      cases f with
      | missing =>
        obtain ⟨d', hwrite⟩ := h.writing hread
        obtain ⟨m, hm, hfile, _⟩ := write_eq_ok hwrite
        exact ⟨m, hm, hfile⟩
      | refused => exact absurd hread h.reading
  obtain ⟨l, hstands, rfl⟩ := stands_of_resolve (hgrows.based hb) hgrows.tree
    (fun hne hpath => resolve_made hb htree hpath hne h.makeDirectories_eq) hm
  exact ⟨l, hstands, hm, hfile⟩

/-- What opening does depends on the version file. -/
theorem openAt_cases (hmade : d.makeDirectories root = (.ok (), e))
    (hr : e.resolve (versionPath root) = .ok (l ++ ["version"]))
    (hfile : e.item? (l ++ ["version"]) ≠ some .directory) :
    (e.item? (l ++ ["version"]) = none ∧
      openAt root d = (.ok (.folder root (stamped e l)), stamped e l)) ∨
    ∃ bs, e.item? (l ++ ["version"]) = some (.file bs) ∧
      (stamp? bs = some version ∧ openAt root d = (.ok (.folder root e), e) ∨
        stamp? bs ≠ some version ∧ openAt root d = (.error (refusal root bs), e)) := by
  unfold openAt
  rw [hmade]
  cases hi : e.item? (l ++ ["version"]) with
  | none =>
    have hread := read_of_none hr hi
    have hwrite : e.write (versionPath root) (Utf8.encode version) = .ok (stamped e l) :=
      write_of_resolve hr hfile _
    refine .inl ⟨rfl, ?_⟩
    simp only [hread, hwrite]
  | some i =>
    cases i with
    | directory => exact absurd hi hfile
    | file bs =>
      right
      have hread := read_of_resolve hr hi
      refine ⟨bs, rfl, ?_⟩
      simp only [hread]
      cases htext : Utf8.text? bs with
      | none =>
        have hstamp : stamp? bs = none := by rw [stamp?, htext]; rfl
        exact .inr ⟨by rw [hstamp]; exact nofun, by rw [refusal, hstamp]⟩
      | some s =>
        have hstamp : stamp? bs = some (String.ofList (trim s.toList)) := by rw [stamp?, htext]; rfl
        by_cases hversion : String.ofList (trim s.toList) = version
        · exact .inl ⟨by rw [hstamp, hversion], by simp only [hversion, if_true]⟩
        · exact .inr ⟨by rw [hstamp]; simpa using hversion,
            by simp only [hversion, if_false, refusal, hstamp]⟩

/-- **What opening does to a folder** whose version file is looked for below `l`. -/
structure Opens (root : Path) (d : Disk) (l : Location) : Prop where
  stands : Stands root (openAt root d).2 l
  /-- It succeeds if there is no version file, or if that tells this version, and only then. -/
  succeeds : (∃ s, (openAt root d).1 = .ok s) ↔ d.item? (l ++ ["version"]) = none ∨
    ∃ bs, d.item? (l ++ ["version"]) = some (.file bs) ∧ stamp? bs = some version
  /-- No file is changed. -/
  keeps : ∀ m c, d.item? m = some (.file c) → (openAt root d).2.item? m = some (.file c)
  /-- No file is added but the version file. -/
  adds : ∀ m c, (openAt root d).2.item? m = some (.file c) →
    d.item? m = some (.file c) ∨ m = l ++ ["version"] ∧ d.item? m = none
  stamps : d.item? (l ++ ["version"]) = none →
    (openAt root d).2.item? (l ++ ["version"]) = some (.file (Utf8.encode version))
  /-- In a folder of another version nothing is changed at all. -/
  refuses : Straight root d → ∀ bs, d.item? (l ++ ["version"]) = some (.file bs) →
    stamp? bs ≠ some version → openAt root d = (.error (refusal root bs), d)

theorem item?_stamped (m : Location) :
    (stamped d l).item? m =
      if m = l ++ ["version"] then some (.file (Utf8.encode version)) else d.item? m :=
  item?_put d (by simp) _ m

theorem Stands.grows_stamped (h : Stands root d l)
    (hfile : d.item? (l ++ ["version"]) ≠ some .directory) : Grows d (stamped d l) := by
  refine grows_put h.tree ?_ hfile
  rw [List.dropLast_concat]
  exact h.directory

theorem Stands.stamped (h : Stands root d l)
    (hfile : d.item? (l ++ ["version"]) ≠ some .directory) : Stands root (stamped d l) l :=
  have hgrows := h.grows_stamped hfile
  h.mono hgrows.top hgrows.here hgrows.tree hgrows.keeps

/-- In a folder with a version file no directory is to be made, if its path leads straight there. -/
theorem Straight.withWay_eq (hroot : Straight root d) (htree : d.Tree)
    (hway : Branches d (withWay d root)) (hstands : Stands root (withWay d root) l)
    (hthere : d.item? (l ++ ["version"]) ≠ none) : withWay d root = d := by
  have hd : d.item? l = some .directory := by
    have hparent := htree _ (by simp) hthere
    rwa [List.dropLast_concat] at hparent
  have hmade := (hroot.stands htree hstands hway.top hway.here hd).1.makeDirectories_root
  exact congrArg Prod.snd hmade

/-- A folder without a version file is opened, and gets the directories on the way and that file. -/
theorem opens_of_unstamped (hway : Branches d e) (hstands : Stands root e l)
    (hnone : e.item? (l ++ ["version"]) = none)
    (hopen : openAt root d = (.ok (.folder root (stamped e l)), stamped e l)) : Opens root d l := by
  have hfile : e.item? (l ++ ["version"]) ≠ some .directory := by
    rw [hnone]
    exact nofun
  have hwas : d.item? (l ++ ["version"]) = none := by rw [← hway.item?_eq hfile, hnone]
  exact {
    stands := by
      rw [hopen]
      exact hstands.stamped hfile
    succeeds := by
      rw [hopen]
      exact ⟨fun _ => .inl hwas, fun _ => ⟨_, rfl⟩⟩
    keeps := by
      intro m c hm
      rw [hopen, item?_stamped, if_neg, hway.stays m _ hm]
      rintro rfl
      rw [hwas] at hm
      cases hm
    adds := by
      intro m c hm
      rw [hopen, item?_stamped] at hm
      split at hm
      · next heq => exact .inr ⟨heq, heq ▸ hwas⟩
      · exact .inl (hway.file m c hm)
    stamps := fun _ => by rw [hopen, item?_stamped, if_pos rfl]
    refuses := fun _ bs hbs => by
      rw [hwas] at hbs
      cases hbs }

/-- A folder with a version file is opened or refused by what the file tells. No more than the
directories on the way is made, and none where the folder is there. -/
theorem opens_of_stamped (hway : Branches d e) (hstands : Stands root e l)
    (hhere : Straight root d → e = d) (hbs : e.item? (l ++ ["version"]) = some (.file bs))
    (hcases : stamp? bs = some version ∧ openAt root d = (.ok (.folder root e), e) ∨
      stamp? bs ≠ some version ∧ openAt root d = (.error (refusal root bs), e)) :
    Opens root d l := by
  have hwas : d.item? (l ++ ["version"]) = some (.file bs) := hway.file _ bs hbs
  have hdisk : (openAt root d).2 = e := by
    rcases hcases with ⟨_, hopen⟩ | ⟨_, hopen⟩ <;> rw [hopen]
  exact {
    stands := by
      rw [hdisk]
      exact hstands
    succeeds := by
      rcases hcases with ⟨hstamp, hopen⟩ | ⟨hstamp, hopen⟩
      · rw [hopen]
        exact ⟨fun _ => .inr ⟨bs, hwas, hstamp⟩, fun _ => ⟨_, rfl⟩⟩
      · rw [hopen]
        refine ⟨fun ⟨s, hs⟩ => (by cases hs), ?_⟩
        rintro (hnone | ⟨bs', hbs', hstamp'⟩)
        · rw [hnone] at hwas
          cases hwas
        · cases hwas.symm.trans hbs'
          exact absurd hstamp' hstamp
    keeps := by
      rw [hdisk]
      exact fun m c => hway.stays m (.file c)
    adds := by
      rw [hdisk]
      exact fun m c hm => .inl (hway.file m c hm)
    stamps := fun hnone => by
      rw [hnone] at hwas
      cases hwas
    refuses := fun hroot bs' hbs' hstamp' => by
      cases hwas.symm.trans hbs'
      rcases hcases with ⟨hstamp, _⟩ | ⟨_, hopen⟩
      · exact absurd hstamp hstamp'
      · rw [hopen, hhere hroot] }

/-- **Opening a folder** changes no file, and does nothing in a folder of another version. -/
theorem Openable.opens (h : Openable root d) (hb : d.Based) (htree : d.Tree) :
    ∃ l, Opens root d l := by
  obtain ⟨l, hstands, hresolve, hfile⟩ := h.stands hb htree
  have hway : Branches d (withWay d root) := branches_makeDirectories htree root
  refine ⟨l, ?_⟩
  rcases openAt_cases h.makeDirectories_eq hresolve hfile with ⟨hnone, hopen⟩ | ⟨bs, hbs, hcases⟩
  · exact opens_of_unstamped hway hstands hnone hopen
  · have hthere : d.item? (l ++ ["version"]) ≠ none := by
      rw [hway.file _ bs hbs]
      exact nofun
    exact opens_of_stamped hway hstands (fun hroot => hroot.withWay_eq htree hway hstands hthere)
      hbs hcases

end QmlExport.Store.Folder
