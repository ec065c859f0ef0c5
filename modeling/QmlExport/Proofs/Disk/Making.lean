import QmlExport.Proofs.Disk.Paths

/-!
# Making directories

A disk `Grows` when directories and files are added: every directory stays one, and everything lies
in a directory as before; it `Branches` when these are directories alone. Making the directories of
a path does no more than that (`branches_makeDirectories`), and **where it succeeds, the path leads
to a directory** (`resolve_made`), be it written with slashes at its end or not.
-/

namespace QmlExport

open Text

namespace Path

/-! ## Slashes at the end -/

/-- Slashes at the end of a path are empty segments. -/
theorem pieces_slashes (cs : List Char) (n : Nat) :
    pieces (· == '/') (cs ++ List.replicate n '/') =
      pieces (· == '/') cs ++ List.replicate n [] := by
  induction n generalizing cs with
  | zero => simp
  | succ n ih =>
    have hrest : pieces (· == '/') (List.replicate n '/') = List.replicate (n + 1) [] := ih []
    rw [List.replicate_succ, pieces_append rfl, hrest]

theorem toList_withoutSlashes (p : Path) :
    ∃ n, p.text.toList = p.withoutSlashes.text.toList ++ List.replicate n '/' := by
  have hslashes : ∃ n, p.text.toList.reverse.takeWhile (· == '/') = List.replicate n '/' := by
    refine ⟨_, List.eq_replicate_of_mem fun c hc => ?_⟩
    simpa using List.all_eq_true.1 List.all_takeWhile c hc
  obtain ⟨n, hn⟩ := hslashes
  have hsplit := List.takeWhile_append_dropWhile (p := (· == '/')) (l := p.text.toList.reverse)
  rw [hn] at hsplit
  refine ⟨n, ?_⟩
  rw [withoutSlashes, String.toList_ofList, ← List.reverse_inj]
  simp [hsplit]

end Path

namespace Disk

section

variable {d d' : Disk} {k l m : Location} {p : Path} {s : String}

/-- On a tree, something new lies in a directory. -/
theorem enter_parent (htree : d.Tree) (h : d.enter k s = .ok m) (hnone : d.item? m = none) :
    d.item? m.dropLast = some .directory := by
  obtain ⟨hk, ⟨_, rfl⟩ | ⟨_, rfl⟩ | ⟨_, rfl⟩⟩ := enter_cases h
  · rw [hk] at hnone
    cases hnone
  · by_cases hnil : k = []
    · subst hnil
      cases hnone
    · rw [htree k hnil (by simp [hk])] at hnone
      cases hnone
  · rwa [List.dropLast_concat]

theorem follow_parent (htree : d.Tree) {segments : List String} (hne : segments ≠ [])
    (h : segments.foldlM d.enter k = .ok m) (hnone : d.item? m = none) :
    d.item? m.dropLast = some .directory := by
  obtain ⟨before, s, rfl⟩ : ∃ before s, segments = before ++ [s] :=
    ⟨_, _, (List.dropLast_append_getLast hne).symm⟩
  obtain ⟨j, _, hlast⟩ := follow_concat.1 h
  exact enter_parent htree hlast hnone

/-- Directories and files were added. -/
structure Grows (d d' : Disk) : Prop where
  top : d'.top = d.top
  here : d'.here = d.here
  tree : d'.Tree
  keeps : ∀ k, d.item? k = some .directory → d'.item? k = some .directory

theorem Grows.refl (htree : d.Tree) : Grows d d := ⟨rfl, rfl, htree, fun _ => id⟩

theorem Grows.trans {d₁ d₂ d₃ : Disk} (h : Grows d₁ d₂) (h' : Grows d₂ d₃) : Grows d₁ d₃ where
  top := h'.top.trans h.top
  here := h'.here.trans h.here
  tree := h'.tree
  keeps k hk := h'.keeps k (h.keeps k hk)

theorem Grows.based (h : Grows d d') (hb : d.Based) : d'.Based := hb.congr h.top

/-- A path leads to the same place where no directory is gone. -/
theorem resolve_mono (htop : d'.top = d.top) (hhere : d'.here = d.here)
    (hd : ∀ k, d.item? k = some .directory → d'.item? k = some .directory)
    (hp : d.resolve p = .ok l) : d'.resolve p = .ok l :=
  resolve_congr htop hhere (fun _ _ _ => follow_mono hd) hp

theorem Grows.resolve (h : Grows d d') (hp : d.resolve p = .ok l) : d'.resolve p = .ok l :=
  resolve_mono h.top h.here h.keeps hp

/-- Something is put where no directory was, into a directory. -/
theorem grows_put (htree : d.Tree) {i : Item} (hparent : d.item? m.dropLast = some .directory)
    (hm : d.item? m ≠ some .directory) : Grows d (d.put m i) := by
  have hne := ne_nil_of_item? hm
  refine ⟨rfl, rfl, htree.put hne hparent fun h => absurd h hm, fun k hk => ?_⟩
  rw [item?_put d hne, if_neg, hk]
  rintro rfl
  exact hm hk

/-- Directories were added. -/
structure Branches (d d' : Disk) : Prop extends Grows d d' where
  file : ∀ k c, d'.item? k = some (.file c) → d.item? k = some (.file c)
  stays : ∀ k i, d.item? k = some i → d'.item? k = some i

theorem Branches.refl (htree : d.Tree) : Branches d d :=
  ⟨.refl htree, fun _ _ => id, fun _ _ => id⟩

theorem Branches.trans {d₁ d₂ d₃ : Disk} (h : Branches d₁ d₂) (h' : Branches d₂ d₃) :
    Branches d₁ d₃ where
  toGrows := h.toGrows.trans h'.toGrows
  file k c hk := h.file k c (h'.file k c hk)
  stays k i hk := h'.stays k i (h.stays k i hk)

/-- Where no directory was made there is what there was. -/
theorem Branches.item?_eq (h : Branches d d') (hm : d'.item? m ≠ some .directory) :
    d'.item? m = d.item? m := by
  cases hi : d'.item? m with
  | none =>
    cases hold : d.item? m with
    | none => rfl
    | some i => rw [h.stays m i hold] at hi; cases hi
  | some i =>
    cases i with
    | file c => exact (h.file m c hi).symm
    | directory => exact absurd hi hm

theorem branches_put (htree : d.Tree) (hparent : d.item? m.dropLast = some .directory)
    (hm : d.item? m = none) : Branches d (d.put m .directory) := by
  have hne : m ≠ [] := by
    rintro rfl
    cases hm
  refine ⟨grows_put htree hparent (by simp [hm]), fun k c hk => ?_, fun k i hk => ?_⟩
  · rw [item?_put d hne] at hk
    split at hk
    · cases hk
    · exact hk
  · rw [item?_put d hne, if_neg, hk]
    rintro rfl
    rw [hm] at hk
    cases hk

theorem segments_ne_nil (p : Path) : p.segments ≠ [] := by
  simp [Path.segments, pieces_ne_nil]

theorem steps?_ne_nil {start : Location} {segments : List String}
    (h : d.steps? p = some (start, segments)) : segments ≠ [] := by
  rcases steps?_eq_some h with ⟨rest, _, _, _, rfl⟩ | ⟨_, _, rfl⟩
  · apply segments_ne_nil
  · apply segments_ne_nil

theorem resolve_parent (htree : d.Tree) (h : d.resolve p = .ok m) (hnone : d.item? m = none) :
    d.item? m.dropLast = some .directory := by
  obtain ⟨_, _, start, segments, hs, hfollow⟩ := resolve_eq_ok h
  exact follow_parent htree (steps?_ne_nil hs) hfollow hnone

/-! ## Making one directory -/

theorem makeDirectory_eq_ok (h : d.makeDirectory p = .ok d') :
    ∃ l, d.resolve p.withoutSlashes = .ok l ∧ d.item? l = none ∧ d' = d.put l .directory := by
  unfold makeDirectory at h
  cases hr : d.resolve p.withoutSlashes with
  | error f => rw [hr] at h; cases h
  | ok l =>
    rw [hr] at h
    simp only [bind, Except.bind] at h
    split at h
    · cases h
    · next hnone =>
      exact ⟨l, rfl, by simpa using hnone, (Except.ok.inj h).symm⟩

theorem branches_makeDirectory (htree : d.Tree) (h : d.makeDirectory p = .ok d') : Branches d d' := by
  obtain ⟨l, hr, hnone, rfl⟩ := makeDirectory_eq_ok h
  exact branches_put htree (resolve_parent htree hr hnone) hnone

theorem branches_ensureDirectory (htree : d.Tree) (p : Path) : Branches d (d.ensureDirectory p).2 := by
  unfold ensureDirectory
  split
  · exact .refl htree
  · split
    · next h => exact branches_makeDirectory htree h
    · exact .refl htree

/-- Empty segments lead nowhere else. -/
theorem follow_empty (hl : d.item? l = some .directory) (n : Nat) :
    (List.replicate n "").foldlM d.enter l = .ok l := by
  induction n with
  | zero => rfl
  | succ n ih =>
    rw [List.replicate_succ, List.foldlM_cons, enter_empty hl]
    exact ih

/-- A path to a directory leads there also with slashes at its end. -/
theorem resolve_withoutSlashes (hb : d.Based) (hpath : isPath p)
    (hr : d.resolve p.withoutSlashes = .ok l) (hl : d.item? l = some .directory) :
    d.resolve p = .ok l := by
  obtain ⟨n, hn⟩ := p.toList_withoutSlashes
  obtain ⟨_, hne, start, segments, hs, hfollow⟩ := resolve_eq_ok hr
  have hchars : p.withoutSlashes.text.toList ≠ [] := by simpa using hne
  have hsteps : d.steps? p = some (start, segments ++ List.replicate n "") := by
    rcases steps?_eq_some hs with ⟨rest, hrest, htop, rfl, rfl⟩ | ⟨hrelative, rfl, rfl⟩
    · rw [htop, List.append_assoc] at hn
      have hbehind : d.Behind (rest ++ List.replicate n '/') := by
        rcases hrest with hhead | ⟨rfl, hne⟩
        · left
          cases rest with
          | nil => cases hhead
          | cons c rest => simpa using hhead
        · cases n with
          | zero => exact .inr ⟨rfl, hne⟩
          | succ n => exact .inl rfl
      rw [steps?_top hbehind hn]
      simp [Path.segments, Path.pieces_slashes]
    · have habsolute : p.isAbsolute = false := by
        unfold Path.isAbsolute at hrelative ⊢
        rw [hn, List.head?_append_of_ne_nil _ hchars]
        exact hrelative
      have hpne : p.text ≠ "" := by
        intro hempty
        rw [hempty] at hn
        exact hchars (List.append_eq_nil_iff.1 hn.symm).1
      rw [steps?_relative hb habsolute hpne]
      simp [Path.segments, hn, Path.pieces_slashes]
  have hpne : p.text ≠ "" := by
    intro hempty
    rw [hempty] at hn
    exact hchars (List.append_eq_nil_iff.1 hn.symm).1
  rw [resolve_of_steps hpath hpne hsteps, List.foldlM_append, hfollow]
  exact follow_empty hl n

/-- Where a directory was made the path leads, and nothing else was changed. -/
theorem ensured_eq_ok (hb : d.Based) (htree : d.Tree) (hpath : isPath p)
    (h : d.ensureDirectory p = (.ok (), d')) :
    ∃ l, d'.resolve p = .ok l ∧ d'.item? l = some .directory ∧
      ∀ m, m ≠ l → d'.item? m = d.item? m := by
  unfold ensureDirectory at h
  split at h
  · next hdirectory =>
    cases h
    unfold isDirectory at hdirectory
    split at hdirectory
    · next l hl => exact ⟨l, hl, by simpa using hdirectory, fun _ _ => rfl⟩
    · cases hdirectory
  · split at h
    · next d₁ hmake =>
      cases h
      have hgrows := branches_makeDirectory htree hmake
      obtain ⟨l, hr, hnone, rfl⟩ := makeDirectory_eq_ok hmake
      have hne : l ≠ [] := by
        rintro rfl
        cases hnone
      have hl : (d.put l .directory).item? l = some .directory := by
        rw [item?_put d hne, if_pos rfl]
      exact ⟨l, resolve_withoutSlashes (hgrows.based hb) hpath (hgrows.resolve hr) hl, hl,
        fun m hm => by rw [item?_put d hne, if_neg hm]⟩
    · cases h

/-! ## Making the directories of a path -/

/-- Make a directory at a location, unless it is there. -/
def makeAt (d : Disk) (l : Location) : Except Fault Location × Disk :=
  match d.item? l with
  | none => (.ok l, d.put l .directory)
  | some .directory => (.ok l, d)
  | some (.file _) => (.error .refused, d)

theorem makeAt_eq_ok (h : (d.makeAt l).1 = .ok k) : k = l := by
  unfold makeAt at h
  split at h <;> cases h <;> rfl

theorem item?_makeAt (hm : m ≠ l) : (d.makeAt l).2.item? m = d.item? m := by
  unfold makeAt
  split
  · next hnone =>
    have hne : l ≠ [] := by
      rintro rfl
      cases hnone
    rw [item?_put d hne, if_neg hm]
  · rfl
  · rfl

/-- What is made lies where a segment leads from a directory. -/
theorem branches_makeAt (htree : d.Tree)
    (hparent : d.item? l = none → d.item? l.dropLast = some .directory) :
    Branches d (d.makeAt l).2 := by
  unfold makeAt
  split
  · next hnone => exact branches_put htree (hparent hnone) hnone
  · exact .refl htree
  · exact .refl htree

/-- The ways in which the first of some directories is made: its segments may lead somewhere, and it
is made there; or the others are made before, and it is made in the next one. It may fail before the
others are made or after. -/
theorem makeFirst_cases (d : Disk) (start : Location) (segments : List String)
    (above : List (List String)) :
    (∃ l, segments.reverse.foldlM d.enter start = .ok l ∧
      d.makeFirst start (segments :: above) = d.makeAt l) ∨
    (∃ f, d.makeFirst start (segments :: above) = (.error f, d)) ∨
    (∃ f, d.makeFirst start (segments :: above) = (.error f, (d.makeFirst start above).2)) ∨
    ∃ k l, (d.makeFirst start above).1 = .ok k ∧
      (d.makeFirst start above).2.enter k (segments.headD "") = .ok l ∧
      d.makeFirst start (segments :: above) = (d.makeFirst start above).2.makeAt l := by
  rw [makeFirst]
  simp only
  cases segments.reverse.foldlM d.enter start with
  | ok l => exact .inl ⟨l, rfl, rfl⟩
  | error f =>
    right
    cases f with
    | refused => exact .inl ⟨_, rfl⟩
    | missing =>
      right
      cases d.makeFirst start above with
      | mk r d₁ =>
        cases r with
        | error f => exact .inl ⟨f, rfl⟩
        | ok k =>
          simp only
          cases he : d₁.enter k (segments.headD "") with
          | error f => exact .inl ⟨f, rfl⟩
          | ok l => exact .inr ⟨k, l, rfl, he, rfl⟩

theorem branches_makeFirst (start : Location) (above : List (List String))
    (hne : ∀ segments ∈ above, segments ≠ []) :
    ∀ {d : Disk}, d.Tree → Branches d (d.makeFirst start above).2 := by
  induction above with
  | nil => exact fun htree => .refl htree
  | cons segments above ih =>
    intro d htree
    have hreverse : segments.reverse ≠ [] := by
      simpa using hne segments List.mem_cons_self
    have habove := ih (fun segments h => hne segments (List.mem_cons_of_mem _ h)) htree
    rcases makeFirst_cases d start segments above with
      ⟨l, hf, hmake⟩ | ⟨f, hfail⟩ | ⟨f, hfail⟩ | ⟨k, l, _, he, hmake⟩
    · rw [hmake]
      exact branches_makeAt htree (follow_parent htree hreverse hf)
    · rw [hfail]
      exact .refl htree
    · rw [hfail]
      exact habove
    · rw [hmake]
      exact habove.trans (branches_makeAt habove.tree (enter_parent habove.tree he))

theorem ne_nil_of_mem_remainders (ss : List String) :
    ∀ segments ∈ Path.remainders ss, segments ≠ [] := by
  induction ss with
  | nil => exact nofun
  | cons s ss ih =>
    rw [Path.remainders]
    split
    · exact ih
    · intro segments h
      rcases List.mem_cons.1 h with rfl | h
      · exact List.cons_ne_nil _ _
      · exact ih segments h

/-- The ways in which the directories of a path are made: it may be there, or its last directory is
made, or before that those on the way to it. -/
theorem makeDirectories_cases (d : Disk) (p : Path) :
    (p.text = "" ∧ d.makeDirectories p = (.ok (), d)) ∨
    d.makeDirectories p = d.ensureDirectory p ∨
    ∃ start above d₁, (∀ segments ∈ above, segments ≠ []) ∧ (d.makeFirst start above).2 = d₁ ∧
      (d.makeDirectories p = d₁.ensureDirectory p ∨
        ∃ f, d.makeDirectories p = (.error f, d₁)) := by
  unfold makeDirectories
  split
  · next hempty => exact .inl ⟨by simpa using hempty, rfl⟩
  · right
    split
    · next start segments _ _ =>
      right
      refine ⟨start, Path.above segments, _, fun ss hss => ?_, rfl, ?_⟩
      · exact ne_nil_of_mem_remainders _ ss (List.mem_of_mem_tail hss)
      · cases d.makeFirst start (Path.above segments) with
        | mk r d₁ =>
          cases r with
          | ok l => exact .inl rfl
          | error f => exact .inr ⟨f, rfl⟩
    · exact .inl rfl

theorem branches_makeDirectories (htree : d.Tree) (p : Path) : Branches d (d.makeDirectories p).2 := by
  rcases makeDirectories_cases d p with ⟨_, h⟩ | h | ⟨start, above, d₁, habove, hfirst, h⟩
  · rw [h]
    exact .refl htree
  · rw [h]
    exact branches_ensureDirectory htree p
  · have hgrows := branches_makeFirst start above habove htree
    rw [hfirst] at hgrows
    rcases h with h | ⟨f, h⟩
    · rw [h]
      exact hgrows.trans (branches_ensureDirectory hgrows.tree p)
    · rw [h]
      exact hgrows

/-- **Where the directories of a path were made, the path leads to a directory.** -/
theorem resolve_made (hb : d.Based) (htree : d.Tree) (hpath : isPath p) (hne : p.text ≠ "")
    (h : d.makeDirectories p = (.ok (), d')) :
    ∃ l, d'.resolve p = .ok l ∧ d'.item? l = some .directory := by
  rcases makeDirectories_cases d p with ⟨hempty, _⟩ | hmade | ⟨start, above, d₁, habove, hfirst, hmade⟩
  · exact absurd hempty hne
  · rw [hmade] at h
    obtain ⟨l, hl, hdirectory, _⟩ := ensured_eq_ok hb htree hpath h
    exact ⟨l, hl, hdirectory⟩
  · have hgrows := branches_makeFirst start above habove htree
    rw [hfirst] at hgrows
    rcases hmade with hmade | ⟨f, hmade⟩
    · rw [hmade] at h
      obtain ⟨l, hl, hdirectory, _⟩ := ensured_eq_ok (hgrows.based hb) hgrows.tree hpath h
      exact ⟨l, hl, hdirectory⟩
    · rw [hmade] at h
      cases h

/-! ## Files -/

theorem read_of_resolve {bs : Bytes} (h : d.resolve p = .ok l)
    (hfile : d.item? l = some (.file bs)) : d.read p = .ok bs := by
  unfold Disk.read
  rw [h]
  simp only [bind, Except.bind, hfile]

theorem read_eq_ok {bs : Bytes} (h : d.read p = .ok bs) :
    ∃ m, d.resolve p = .ok m ∧ d.item? m = some (.file bs) := by
  unfold Disk.read at h
  cases hr : d.resolve p with
  | error f => rw [hr] at h; cases h
  | ok m =>
    rw [hr] at h
    simp only [bind, Except.bind] at h
    split at h
    · cases h
    · cases h
    · next hfile => exact ⟨m, rfl, Except.ok.inj h ▸ hfile⟩

theorem read_of_none (h : d.resolve p = .ok l) (hnone : d.item? l = none) :
    d.read p = .error .missing := by
  unfold Disk.read
  rw [h]
  simp only [bind, Except.bind, hnone]

theorem write_of_resolve (h : d.resolve p = .ok l) (hl : d.item? l ≠ some .directory)
    (bs : Bytes) : d.write p bs = .ok (d.put l (.file bs)) := by
  unfold Disk.write
  rw [h]
  exact if_neg hl

theorem write_eq_ok {bs : Bytes} (h : d.write p bs = .ok d') :
    ∃ m, d.resolve p = .ok m ∧ d.item? m ≠ some .directory ∧ d' = d.put m (.file bs) := by
  unfold Disk.write at h
  cases hr : d.resolve p with
  | error f => rw [hr] at h; cases h
  | ok m =>
    rw [hr] at h
    simp only [bind, Except.bind] at h
    split at h
    · cases h
    · next hm => exact ⟨m, rfl, hm, (Except.ok.inj h).symm⟩

/-- What is no path is refused. -/
theorem resolve_refused (hnot : ¬ isPath p) : d.resolve p = .error .refused := by
  unfold resolve
  rw [if_pos (by simpa using hnot)]

theorem isPath_of_removeDirectory (h : d.removeDirectory p ≠ .error .refused) :
    isPath p := by
  apply Classical.byContradiction
  intro hnot
  refine h ?_
  unfold removeDirectory
  rw [resolve_refused hnot]
  rfl

/-- Nothing is found at a path. -/
def Missing (d : Disk) (p : Path) : Prop :=
  d.resolve p = .error .missing ∨ ∃ l, d.resolve p = .ok l ∧ d.item? l = none

/-- The ways in which a directory is taken away: it is found and goes with everything in it, or
nothing is found, or what is found is no directory. -/
theorem removeDirectory_cases (d : Disk) (p : Path) :
    (∃ l, d.resolve p = .ok l ∧ d.item? l = some .directory ∧
      d.removeDirectory p = .ok (d.eraseBelow l)) ∨
    (d.Missing p ∧ d.removeDirectory p = .error .missing) ∨
    ((d.resolve p = .error .refused ∨ ∃ l c, d.resolve p = .ok l ∧ d.item? l = some (.file c)) ∧
      d.removeDirectory p = .error .refused) := by
  unfold removeDirectory
  cases hr : d.resolve p with
  | error f =>
    right
    cases f with
    | missing => exact .inl ⟨.inl hr, rfl⟩
    | refused => exact .inr ⟨.inl rfl, rfl⟩
  | ok l =>
    simp only [bind, Except.bind]
    cases hi : d.item? l with
    | none => exact .inr (.inl ⟨.inr ⟨l, hr, hi⟩, rfl⟩)
    | some i =>
      cases i with
      | file c => exact .inr (.inr ⟨.inr ⟨l, c, rfl, hi⟩, rfl⟩)
      | directory => exact .inl ⟨l, rfl, hi, rfl⟩

theorem isPath_of_removeFile (h : d.removeFile p ≠ .error .refused) : isPath p := by
  apply Classical.byContradiction
  intro hnot
  refine h ?_
  unfold removeFile
  rw [resolve_refused hnot]
  rfl

theorem removeFile_eq_ok (h : d.removeFile p = .ok d') :
    ∃ m c, d.resolve p = .ok m ∧ d.item? m = some (.file c) ∧ d' = d.erase m := by
  unfold removeFile at h
  cases hr : d.resolve p with
  | error f => rw [hr] at h; cases h
  | ok m =>
    rw [hr] at h
    simp only [bind, Except.bind] at h
    split at h
    · cases h
    · cases h
    · next c hfile => exact ⟨m, c, rfl, hfile, (Except.ok.inj h).symm⟩

theorem rename_eq_ok {source target : Path} (h : d.rename source target = .ok d') :
    ∃ s t c, d.resolve source = .ok s ∧ d.resolve target = .ok t ∧
      d.item? s = some (.file c) ∧ d.item? t ≠ some .directory ∧
      d' = (d.erase s).put t (.file c) := by
  unfold rename at h
  cases hs : d.resolve source with
  | error f => rw [hs] at h; cases h
  | ok s =>
    cases ht : d.resolve target with
    | error f => rw [hs, ht] at h; cases h
    | ok t =>
      rw [hs, ht] at h
      simp only [bind, Except.bind] at h
      split at h
      · cases h
      · cases h
      · cases h
      · next c hfile hdirectory =>
        exact ⟨s, t, c, rfl, rfl, hfile, hdirectory, (Except.ok.inj h).symm⟩

/-! ## Files that are put and moved -/

variable {t : Location} {bs c c' : Bytes}

theorem directory_put (hm : d.item? m ≠ some .directory) (bs : Bytes) :
    ∀ k, d.item? k = some .directory → (d.put m (.file bs)).item? k = some .directory := by
  intro k hk
  rw [item?_put d (ne_nil_of_item? hm), if_neg, hk]
  rintro rfl
  exact hm hk

theorem file_of_put (hm : d.item? m ≠ some .directory)
    (h : (d.put m (.file bs)).item? k = some (.file c)) : k = m ∨ d.item? k = some (.file c) := by
  rw [item?_put d (ne_nil_of_item? hm)] at h
  split at h
  · next heq => exact .inl heq
  · exact .inr h

theorem item?_move (hm : d.item? m = some (.file c)) (ht : d.item? t ≠ some .directory)
    (k : Location) : ((d.erase m).put t (.file c)).item? k =
      if k = t then some (.file c) else if k = m then none else d.item? k := by
  have hne : m ≠ [] := ne_nil_of_item? (by rw [hm]; exact nofun)
  rw [item?_put _ (ne_nil_of_item? ht), item?_erase d hne]

theorem directory_move (hm : d.item? m = some (.file c)) (ht : d.item? t ≠ some .directory) :
    ∀ k, d.item? k = some .directory →
      ((d.erase m).put t (.file c)).item? k = some .directory := by
  intro k hk
  rw [item?_move hm ht, if_neg, if_neg, hk]
  · rintro rfl
    rw [hm] at hk
    cases hk
  · rintro rfl
    exact ht hk

theorem file_of_move (hm : d.item? m = some (.file c)) (ht : d.item? t ≠ some .directory)
    (h : ((d.erase m).put t (.file c)).item? k = some (.file c')) :
    k = t ∨ d.item? k = some (.file c') := by
  rw [item?_move hm ht] at h
  split at h
  · next heq => exact .inl heq
  · split at h
    · cases h
    · exact .inr h

end

end Disk

end QmlExport
