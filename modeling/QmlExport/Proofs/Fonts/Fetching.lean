import Mathlib.Data.List.Forall2
import QmlExport.Proofs.Catalog
import QmlExport.Proofs.Run.Refetching
import QmlExport.Proofs.Run.Sparing

/-!
# Fetching one family

`Unavailable` lists what can be in the way of a fetch: the index, the family, one of the variants, or
the record of the fonts. **If any of it is, the fetch fails as a download and nothing is written; and
if nothing is, the fetch comes through and writes the record of the fonts, with the files of the
variants over those that the family had** (`fetch_all_or_nothing`).

    item      regular ──▶ RobotoRegular.ttf    400 ──▶ RobotoRegular.ttf    700 ──▶ RobotoBold.ttf
    stored    RobotoBold.ttf, RobotoLight.ttf
    then      RobotoRegular.ttf of 400, RobotoBold.ttf of 700, RobotoLight.ttf as it was
-/

namespace QmlExport.Fonts

open Store Text Run

/-! ## Downloads -/

/-- The first family in an index with exactly this name. -/
def First (index : Index) (family : String) (item : Family) : Prop :=
  ∃ before behind, index.families = before ++ item :: behind ∧ item.name = family ∧
    ∀ other ∈ before, other.name ≠ family

theorem find?_eq_some_iff {index : Index} {family : String} {item : Family} :
    index.find? family = some item ↔ First index family item := by
  rw [Index.find?, List.find?_eq_some_iff_append]
  constructor
  · rintro ⟨hname, before, behind, hsplit, hbefore⟩
    exact ⟨before, behind, hsplit, by simpa using hname, fun f hf => by simpa using hbefore f hf⟩
  · rintro ⟨before, behind, hsplit, hname, hbefore⟩
    exact ⟨by simpa using hname, before, behind, hsplit, fun f hf => by simpa using hbefore f hf⟩

theorem find?_eq_none_iff {index : Index} {family : String} :
    index.find? family = none ↔ ∀ item ∈ index.families, item.name ≠ family := by
  rw [Index.find?, List.find?_eq_none]
  simp

theorem First.unique {index : Index} {family : String} {item other : Family}
    (h : First index family item) (h' : First index family other) : item = other :=
  Option.some.inj ((find?_eq_some_iff.2 h).symm.trans (find?_eq_some_iff.2 h'))

/-- The name of the file of a variant. -/
def Family.nameOf (item : Family) (v : String × String) : String := fileName item.name v.1 v.2

/-- The names of the files of a family. -/
def Family.names (item : Family) : List String := item.variants.map item.nameOf

/-- Download the file of a variant. -/
def downloadFile (source : Source) (item : Family) (v : String × String) :
    Except Failure (String × Bytes) :=
  (source.download v.2).map fun bytes => (item.nameOf v, bytes)

theorem downloadFile_eq_ok {source : Source} {item : Family} {v : String × String}
    {e : String × Bytes} (h : downloadFile source item v = .ok e) :
    source.download v.2 = .ok e.2 ∧ e.1 = item.nameOf v := by
  unfold downloadFile at h
  cases hdown : source.download v.2 with
  | error f => rw [hdown] at h; cases h
  | ok bytes =>
    rw [hdown] at h
    rw [← Except.ok.inj h]
    exact ⟨rfl, rfl⟩

theorem downloadVariants_eq (source : Source) (item : Family) :
    downloadVariants source item = item.variants.mapM (downloadFile source item) := rfl

/-- A step for each member of a list: either all come through, or one fails. -/
theorem mapM_cases {α β ε : Type} (f : α → Except ε β) (as : List α) :
    match as.mapM f with
    | .ok bs => List.Forall₂ (fun a b => f a = .ok b) as bs
    | .error e => ∃ a ∈ as, f a = .error e := by
  induction as with
  | nil => exact .nil
  | cons a as ih =>
    rw [List.mapM_cons]
    cases ha : f a with
    | error e => exact ⟨a, List.mem_cons_self, ha⟩
    | ok b =>
      cases has : as.mapM f with
      | error e =>
        rw [has] at ih
        obtain ⟨c, hc, hfails⟩ := ih
        exact ⟨c, List.mem_cons_of_mem _ hc, hfails⟩
      | ok bs =>
        rw [has] at ih
        exact .cons ha ih

/-- What can be in the way of a download. -/
inductive Undeliverable (source : Source) (family : String) : Prop
  | noIndex {f} (h : source.index = .error f)
  | unlisted {index} (h : source.index = .ok index)
    (hnone : ∀ item ∈ index.families, item.name ≠ family)
  | variantLost {index item v f} (h : source.index = .ok index) (hfirst : First index family item)
    (hv : v ∈ item.variants) (hdown : source.download v.2 = .error f)

/-- These are the files of the variants, in order. -/
def Downloads (source : Source) (item : Family) (variants : List (String × String))
    (es : List (String × Bytes)) : Prop :=
  List.Forall₂ (fun v e => downloadFile source item v = .ok e) variants es

/-- The files of a family are those of the variants of its first item. -/
structure Delivers (source : Source) (family : String) (item : Family)
    (es : List (String × Bytes)) : Prop where
  listed : ∃ index, source.index = .ok index ∧ First index family item
  files : Downloads source item item.variants es

section

variable {source : Source} {index : Index} {family : String} (hindex : source.index = .ok index)

include hindex

theorem download_of_listed {item : Family} (hfirst : First index family item) :
    download source family = (downloadVariants source item).map Catalog.ofList := by
  unfold download
  rw [hindex]
  dsimp only [bind, Except.bind]
  rw [find?_eq_some_iff.2 hfirst]
  dsimp only
  cases downloadVariants source item <;> rfl

theorem download_of_unlisted (hnone : ∀ item ∈ index.families, item.name ≠ family) :
    download source family = .error (notFound family) := by
  unfold download
  rw [hindex]
  dsimp only [bind, Except.bind]
  rw [find?_eq_none_iff.2 hnone]

end

/-- **A download brings the files of the first item, unless something is in the way.** -/
theorem download_cases (source : Source) (family : String) :
    match download source family with
    | .ok files => ∃ item es, Delivers source family item es ∧ files = .ofList es
    | .error _ => Undeliverable source family := by
  cases hindex : source.index with
  | error f =>
    have hdownload : download source family = .error f := by
      unfold download
      rw [hindex]
      rfl
    rw [hdownload]
    exact .noIndex hindex
  | ok index =>
    cases hfind : index.find? family with
    | none =>
      have hnone := find?_eq_none_iff.1 hfind
      rw [download_of_unlisted hindex hnone]
      exact .unlisted hindex hnone
    | some item =>
      have hfirst := find?_eq_some_iff.1 hfind
      have hmap := mapM_cases (downloadFile source item) item.variants
      rw [download_of_listed hindex hfirst, downloadVariants_eq]
      cases hfiles : item.variants.mapM (downloadFile source item) with
      | ok es =>
        rw [hfiles] at hmap
        exact ⟨item, es, ⟨⟨index, hindex, hfirst⟩, hmap⟩, rfl⟩
      | error f =>
        rw [hfiles] at hmap
        obtain ⟨v, hv, hfails⟩ := hmap
        cases hdown : source.download v.2 with
        | error g => exact .variantLost hindex hfirst hv hdown
        | ok bytes =>
          rw [downloadFile, hdown] at hfails
          cases hfails

section

variable {source : Source} {family : String} {item : Family} {es : List (String × Bytes)}

theorem Downloads.names {variants : List (String × String)}
    (h : Downloads source item variants es) : es.map Prod.fst = variants.map item.nameOf := by
  induction h with
  | nil => rfl
  | cons he _ ih => rw [List.map_cons, List.map_cons, ih, (downloadFile_eq_ok he).2]

/-- The file of a variant stands between those of the variants around it. -/
theorem Downloads.split {front back : List (String × String)} {v : String × String}
    (h : Downloads source item (front ++ v :: back) es) :
    ∃ before bytes behind, es = before ++ (item.nameOf v, bytes) :: behind ∧
      source.download v.2 = .ok bytes ∧ behind.map Prod.fst = back.map item.nameOf := by
  induction front generalizing es with
  | nil =>
    cases h with
    | @cons _ e _ behind he hback =>
      obtain ⟨hdown, hname⟩ := downloadFile_eq_ok he
      exact ⟨[], e.2, behind, by rw [← hname]; rfl, hdown, Downloads.names hback⟩
  | cons u front ih =>
    cases h with
    | @cons _ e _ es _ hrest =>
      obtain ⟨before, bytes, behind, rfl, hdown, hnames⟩ := ih hrest
      exact ⟨e :: before, bytes, behind, rfl, hdown, hnames⟩

/-- Nothing was in the way of what is delivered. -/
theorem Delivers.not_undeliverable (h : Delivers source family item es) :
    ¬ Undeliverable source family := by
  obtain ⟨⟨index, hindex, hfirst⟩, hfiles⟩ := h
  intro hnot
  cases hnot with
  | noIndex h' => rw [hindex] at h'; cases h'
  | unlisted h' hnone =>
    obtain rfl := Except.ok.inj (hindex.symm.trans h')
    obtain ⟨before, behind, hsplit, hname, _⟩ := hfirst
    exact hnone item (hsplit ▸ List.mem_append_right _ List.mem_cons_self) hname
  | variantLost h' hfirst' hv hlost =>
    obtain rfl := Except.ok.inj (hindex.symm.trans h')
    obtain rfl := hfirst.unique hfirst'
    obtain ⟨front, back, hsplit⟩ := List.append_of_mem hv
    rw [hsplit] at hfiles
    obtain ⟨_, _, _, _, hdown, _⟩ := hfiles.split
    rw [hlost] at hdown
    cases hdown

end

/-- **A download fails if and only if something is in the way.** -/
theorem undeliverable_iff {source : Source} {family : String} :
    Undeliverable source family ↔ ∃ f, download source family = .error f := by
  have hcases := download_cases source family
  cases hdownload : download source family with
  | error f =>
    rw [hdownload] at hcases
    exact ⟨fun _ => ⟨f, rfl⟩, fun _ => hcases⟩
  | ok files =>
    rw [hdownload] at hcases
    obtain ⟨item, es, hdelivers, _⟩ := hcases
    exact ⟨fun h => absurd h hdelivers.not_undeliverable, nofun⟩

/-- A family without variants: its item names no files. -/
def Bare (source : Source) (family : String) : Prop :=
  ∃ index item, source.index = .ok index ∧ First index family item ∧ item.variants = []

/-- The download of a family without variants works, and brings nothing. -/
theorem download_eq_empty_iff {source : Source} {family : String} :
    download source family = .ok .empty ↔ Bare source family := by
  constructor
  · intro h
    have hcases := download_cases source family
    rw [h] at hcases
    obtain ⟨item, es, ⟨⟨index, hindex, hfirst⟩, hfiles⟩, hempty⟩ := hcases
    refine ⟨index, item, hindex, hfirst, ?_⟩
    have hnone : (Catalog.ofList es).isEmpty = true := hempty ▸ rfl
    rw [Catalog.ofList, Catalog.isEmpty_insertAll, Bool.and_eq_true, List.isEmpty_iff] at hnone
    rw [hnone.2] at hfiles
    exact List.forall₂_nil_right_iff.1 hfiles
  · rintro ⟨index, item, hindex, hfirst, hnone⟩
    rw [download_of_listed hindex hfirst, downloadVariants_eq, hnone]
    rfl

/-! ## Fetches -/

/-- What can be in the way of a fetch. -/
inductive Unavailable (source : Source) (family : String) (s : Storage) : Prop
  | undeliverable (h : Undeliverable source family)
  | unread {f} (h : s.content .fonts = .error f)
  | otherContent {c} (h : s.content .fonts = .ok (some c)) (hc : ∀ fonts, c ≠ .fonts fonts)

theorem loaded_eq_error_iff {s : Storage} :
    (∃ f, loaded s = .error f) ↔ (∃ f, s.content .fonts = .error f) ∨
      ∃ c, s.content .fonts = .ok (some c) ∧ ∀ fonts, c ≠ .fonts fonts := by
  unfold loaded
  cases s.content .fonts with
  | error f => exact ⟨fun _ => .inl ⟨f, rfl⟩, fun _ => ⟨f, rfl⟩⟩
  | ok c => rcases c with _ | _ | _ | _ | _ <;> simp [bind, Except.bind, fontsIn]

theorem unavailable_iff {source : Source} {family : String} {s : Storage} :
    Unavailable source family s ↔ ∃ f, added source s family = .error f := by
  have hparts : Unavailable source family s ↔
      (∃ f, download source family = .error f) ∨ ∃ f, loaded s = .error f := by
    rw [← undeliverable_iff, loaded_eq_error_iff]
    constructor
    · rintro (h | h | ⟨h, hc⟩)
      · exact .inl h
      · exact .inr (.inl ⟨_, h⟩)
      · exact .inr (.inr ⟨_, h, hc⟩)
    · rintro (h | ⟨_, h⟩ | ⟨_, h, hc⟩)
      · exact .undeliverable h
      · exact .unread h
      · exact .otherContent h hc
  rw [hparts]
  unfold added
  cases download source family <;> cases loaded s <;> simp

/-- The files of the variants stand over what was there. Of variants with one name the last one in the
index counts. -/
structure Covers (source : Source) (item : Family) (old new : Files) : Prop where
  downloaded : ∀ front v back, item.variants = front ++ v :: back →
    (∀ w ∈ back, item.nameOf w ≠ item.nameOf v) →
    ∃ bytes, source.download v.2 = .ok bytes ∧ new.get? (item.nameOf v) = some bytes
  kept : ∀ name, name ∉ item.names → new.get? name = old.get? name

/-- A fetch in memory has added the files of a family. -/
structure Merged (source : Source) (family : String) (item : Family) (m m' : Memory)
    (before after : Fonts) (n : Nat) : Prop where
  /-- The family is that of the first item of this name. -/
  listed : ∃ index, source.index = .ok index ∧ First index family item
  /-- Nothing was written but the record of the fonts. -/
  confined : Confined [(.files, .fonts)] m m'
  /-- There were these fonts. -/
  loadedBefore : loaded (.memory m) = .ok before
  /-- Now there are these. -/
  loadedAfter : loaded (.memory m') = .ok after
  /-- The other families are as they were. -/
  others : ∀ other, other ≠ family → after.get? other = before.get? other
  /-- The family has the files of the variants, and those that it had under other names. -/
  files : ∃ files, after.get? family = some files ∧
    Covers source item ((before.get? family).getD .empty) files
  /-- The number is that of the different names. -/
  count : n = item.names.dedup.length

theorem Delivers.covers {source : Source} {family : String} {item : Family}
    {es : List (String × Bytes)} (h : Delivers source family item es) (old : Files) :
    Covers source item old (old.insertAll (Catalog.ofList es).entries) where
  downloaded := by
    intro front v back hsplit hlast
    have hfiles := h.files
    rw [hsplit] at hfiles
    obtain ⟨before, bytes, behind, rfl, hdown, hnames⟩ := hfiles.split
    refine ⟨bytes, hdown, ?_⟩
    have hbehind : ∀ e ∈ behind, e.1 ≠ item.nameOf v := by
      intro e he
      have hname : e.1 ∈ behind.map Prod.fst := List.mem_map_of_mem he
      rw [hnames] at hname
      obtain ⟨w, hw, hwname⟩ := List.mem_map.1 hname
      exact hwname ▸ hlast w hw
    rw [Catalog.get?_insertAll_entries, Catalog.get?_ofList hbehind, Option.some_or]
  kept := by
    intro name hname
    have hnone : (Catalog.ofList es).get? name = none := by
      rw [Catalog.get?_eq_none_iff, Catalog.mem_names_ofList, h.files.names]
      exact hname
    rw [Catalog.get?_insertAll_entries, hnone, Option.none_or]

theorem Delivers.merged {source : Source} {family : String} {item : Family}
    {es : List (String × Bytes)} {m : Memory} {before : Fonts}
    (h : Delivers source family item es) (hl : loaded (.memory m) = .ok before) :
    ∃ m', withFamily (.memory m) before family (.ofList es) = .memory m' ∧
      Merged source family item m m' before (addFiles before family (.ofList es))
        (Catalog.ofList es).size := by
  have hs : InMemory (.memory m) := ⟨m, rfl⟩
  refine ⟨_, rfl, ?_⟩
  exact {
    listed := h.listed
    confined := (Confined.refl _ m).put List.mem_cons_self _
    loadedBefore := hl
    loadedAfter := loaded_withFamily reliable_memory hs before family _
    others := fun other hother => get?_addFiles_of_ne before _ hother
    files := ⟨_, get?_addFiles before family _, h.covers _⟩
    count := by rw [Catalog.size_ofList, h.files.names]; rfl }

/-- **A fetch does all or nothing.** Whatever a memory holds, a fetch fails if something is in the
way, and then as a download and with nothing written; otherwise it comes through, and the files of
the family are added to the fonts. -/
theorem fetch_all_or_nothing (source : Source) (family : String) (m : Memory) :
    (Unavailable source family (.memory m) ∧
      ∃ f, (fetch source family).run (.memory m) = (.error f, .memory m) ∧
        f.category = .fontDownload) ∨
    (¬ Unavailable source family (.memory m) ∧
      ∃ n m' item before after, (fetch source family).run (.memory m) = (.ok n, .memory m') ∧
        Merged source family item m m' before after n) := by
  have hs : InMemory (.memory m) := ⟨m, rfl⟩
  have hrun := run_fetch reliable_memory hs source family
  cases hadded : added source (.memory m) family with
  | error f =>
    rw [hadded] at hrun
    exact .inl ⟨unavailable_iff.2 ⟨f, hadded⟩, _, hrun, rfl⟩
  | ok fonts =>
    rw [hadded] at hrun
    obtain ⟨files, hdown, hrun⟩ := hrun
    obtain ⟨files', before, hdown', hl, rfl⟩ := added_eq_ok hadded
    obtain rfl : files' = files := Except.ok.inj (hdown'.symm.trans hdown)
    have hcases := download_cases source family
    rw [hdown] at hcases
    obtain ⟨item, es, hdelivers, rfl⟩ := hcases
    have havailable : ¬ Unavailable source family (.memory m) := by
      rw [unavailable_iff, hadded]
      exact nofun
    obtain ⟨m', hm', hmerged⟩ := hdelivers.merged hl
    exact .inr ⟨havailable, _, m', item, before, _, hrun.trans (congrArg _ hm'), hmerged⟩

end QmlExport.Fonts
