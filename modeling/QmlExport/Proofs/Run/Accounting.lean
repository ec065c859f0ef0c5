import QmlExport.Proofs.Catalog
import QmlExport.Proofs.Run.Refetching
import QmlExport.Proofs.Store.Upload

/-!
# Accounting for fonts

What becomes of the fonts of a family is a matter of what was stored of it and of its download
(`outcome`), and of nothing else:

    files stored           ──▶  skipped      stays as it is
    none, download works   ──▶  downloaded   has the downloaded files
    none, download fails   ──▶  a failure    stays as it is

Going through one family settles this family and leaves the others alone (`get?_refreshed`), and so
going through all of them settles each one as if it were alone (`get?_foldl_refreshed`). **So the
numbers of a summary add up, its failures are those of the start, and neither the order nor the fate
of other families has a part in what is stored of a family** (`fonts_accounted`).
-/

namespace QmlExport.Run

open Store

/-! ## What becomes of fonts -/

/-- What is stored of a family once it was gone through. -/
def outcome (source : Fonts.Source) (fonts : Fonts) (family : String) : Option Files :=
  if hasFiles fonts family then fonts.get? family
  else match Fonts.download source family with
    | .ok files => some files
    | .error _ => fonts.get? family

/-- The fonts once a family was gone through. -/
def refreshed (source : Fonts.Source) (fonts : Fonts) (family : String) : Fonts :=
  if hasFiles fonts family then fonts
  else match Fonts.download source family with
    | .ok files => Fonts.addFiles fonts family files
    | .error _ => fonts

/-- Whether the files of a family are missing and can be downloaded. -/
def fetchable (source : Fonts.Source) (fonts : Fonts) (family : String) : Bool :=
  !hasFiles fonts family && (Fonts.download source family).isOk

/-- Whether the files of a family are missing and cannot be downloaded. -/
def failing (source : Fonts.Source) (fonts : Fonts) (family : String) : Bool :=
  !hasFiles fonts family && !(Fonts.download source family).isOk

section

variable {source : Fonts.Source} {fonts : Fonts} {family : String}

theorem hasFiles_congr {other : Fonts} (h : fonts.get? family = other.get? family) :
    hasFiles fonts family = hasFiles other family := by
  unfold hasFiles
  rw [h]

theorem outcome_congr {other : Fonts} (h : fonts.get? family = other.get? family) :
    outcome source fonts family = outcome source other family := by
  unfold outcome
  rw [hasFiles_congr h, h]

/-- Where there are no files, the files that are added are all there are. -/
theorem get?_addFiles_of_not_hasFiles (h : hasFiles fonts family = false) (files : Files) :
    (Fonts.addFiles fonts family files).get? family = some files := by
  have hold : (fonts.get? family).getD .empty = .empty := by
    unfold hasFiles at h
    cases hget : fonts.get? family with
    | none => rfl
    | some old =>
      rw [hget, Bool.not_eq_false'] at h
      exact Catalog.ext (List.isEmpty_iff.1 h)
  rw [get?_addFiles, hold]
  exact congrArg some (Catalog.ofList_entries files)

/-- A family that can be fetched has no files, and its download brings some, be they none. -/
theorem files_of_fetchable (h : fetchable source fonts family = true) :
    hasFiles fonts family = false ∧ ∃ files, Fonts.download source family = .ok files := by
  unfold fetchable at h
  rw [Bool.and_eq_true, Bool.not_eq_true'] at h
  refine ⟨h.1, ?_⟩
  cases hdown : Fonts.download source family with
  | error f => rw [hdown] at h; cases h.2
  | ok files => exact ⟨files, rfl⟩

/-- One that cannot be fetched has files, or its download fails. -/
theorem failure_of_not_fetchable (h : fetchable source fonts family = false) :
    hasFiles fonts family = true ∨ ∃ f, Fonts.download source family = .error f := by
  unfold fetchable at h
  cases hdown : Fonts.download source family with
  | error f => exact .inr ⟨f, rfl⟩
  | ok files =>
    rw [hdown, Bool.and_eq_false_iff, Bool.not_eq_false'] at h
    exact h.imp_right nofun

/-- Fonts are left alone where none can be fetched. -/
theorem refreshed_of_not_fetchable (h : fetchable source fonts family = false) :
    refreshed source fonts family = fonts := by
  unfold refreshed
  rcases failure_of_not_fetchable h with hhas | ⟨f, hdown⟩
  · rw [if_pos hhas]
  · rw [hdown]
    exact ite_self fonts

theorem outcome_of_not_fetchable (h : fetchable source fonts family = false) :
    outcome source fonts family = fonts.get? family := by
  unfold outcome
  rcases failure_of_not_fetchable h with hhas | ⟨f, hdown⟩
  · rw [if_pos hhas]
  · rw [hdown]
    exact ite_self _

theorem outcome_of_download {files : Files} (hhas : hasFiles fonts family = false)
    (hdown : Fonts.download source family = .ok files) :
    outcome source fonts family = some files := by
  unfold outcome
  rw [hhas, hdown]
  rfl

/-- **Going through a family settles it and leaves the others alone.** -/
theorem get?_refreshed (source : Fonts.Source) (fonts : Fonts) (family other : String) :
    (refreshed source fonts family).get? other =
      if other = family then outcome source fonts family else fonts.get? other := by
  cases h : fetchable source fonts family with
  | false =>
    rw [refreshed_of_not_fetchable h, outcome_of_not_fetchable h]
    split
    · next hother => rw [hother]
    · rfl
  | true =>
    obtain ⟨hhas, files, hdown⟩ := files_of_fetchable h
    have hadds : refreshed source fonts family = Fonts.addFiles fonts family files := by
      unfold refreshed
      rw [hhas, hdown]
      rfl
    rw [hadds, outcome_of_download hhas hdown]
    split
    · next hother => exact hother ▸ get?_addFiles_of_not_hasFiles hhas files
    · next hother => exact get?_addFiles_of_ne fonts files hother

/-- What becomes of a family is not changed by going through any. -/
theorem outcome_refreshed (source : Fonts.Source) (fonts : Fonts) (other family : String) :
    outcome source (refreshed source fonts other) family = outcome source fonts family := by
  have hget := get?_refreshed source fonts other family
  by_cases hother : family = other
  · subst hother
    rw [if_pos rfl] at hget
    cases h : fetchable source fonts family with
    | false => rw [refreshed_of_not_fetchable h]
    | true =>
      -- the downloaded files are kept, or downloaded again if there are none
      obtain ⟨hhas, files, hdown⟩ := files_of_fetchable h
      have hsettled := outcome_of_download hhas hdown
      rw [hsettled] at hget ⊢
      unfold outcome
      rw [hget, hdown]
      exact ite_self _
  · rw [if_neg hother] at hget
    exact outcome_congr hget

/-- **All families are settled as if each were alone.** -/
theorem get?_foldl_refreshed (source : Fonts.Source) (fonts : Fonts) (families : List String)
    (family : String) :
    (families.foldl (refreshed source) fonts).get? family =
      if family ∈ families then outcome source fonts family else fonts.get? family := by
  induction families generalizing fonts with
  | nil => rfl
  | cons other families ih =>
    rw [List.foldl_cons, ih, outcome_refreshed, get?_refreshed]
    by_cases hmem : family ∈ families
    · simp [hmem]
    · by_cases hother : family = other
      · simp [hother]
      · simp [hmem, hother]

theorem foldl_refreshed_of_not_fetchable {families : List String}
    (h : families.any (fetchable source fonts) = false) :
    families.foldl (refreshed source) fonts = fonts := by
  induction families with
  | nil => rfl
  | cons family families ih =>
    rw [List.any_cons, Bool.or_eq_false_iff] at h
    rw [List.foldl_cons, refreshed_of_not_fetchable h.1, ih h.2]

end

/-! ## What becomes of a storage -/

section

variable {source : Fonts.Source} {s : Storage} {fonts : Fonts}

theorem fetched_of_fetchable {family : String} (hl : loaded s = .ok fonts)
    (h : fetchable source fonts family = true) :
    fetched source s family =
      s.withContent .fonts (some (.fonts (refreshed source fonts family))) := by
  obtain ⟨hhas, files, hdown⟩ := files_of_fetchable h
  unfold fetched refreshed
  rw [stored_eq hl, added_eq hl, hhas, hdown]
  rfl

theorem fetched_of_not_fetchable {family : String} (hl : loaded s = .ok fonts)
    (h : fetchable source fonts family = false) : fetched source s family = s := by
  unfold fetched
  rw [stored_eq hl, added_eq hl]
  rcases failure_of_not_fetchable h with hhas | ⟨f, hdown⟩
  · rw [if_pos hhas]
  · rw [hdown]
    exact ite_self s

variable {P : Storage → Prop} (hP : Reliable P) (hs : P s)

include hP hs

theorem loaded_withFonts (fonts : Fonts) :
    loaded (s.withContent .fonts (some (.fonts fonts))) = .ok fonts := by
  rw [loaded, hP.content_withContent hs, if_pos rfl,
    readBack_eq _ fun c hc => by cases hc; exact Content.readable_fonts _]
  rfl

theorem loaded_fetched (hl : loaded s = .ok fonts) (family : String) :
    loaded (fetched source s family) = .ok (refreshed source fonts family) := by
  cases h : fetchable source fonts family with
  | true => rw [fetched_of_fetchable hl h, loaded_withFonts hP hs]
  | false => rw [fetched_of_not_fetchable hl h, refreshed_of_not_fetchable h, hl]

theorem loaded_foldl (hl : loaded s = .ok fonts) (families : List String) :
    loaded (families.foldl (fetched source) s) =
      .ok (families.foldl (refreshed source) fonts) := by
  induction families generalizing s fonts with
  | nil => exact hl
  | cons family families ih =>
    exact ih (stays_fetched hP hs source family) (loaded_fetched hP hs hl family)

/-- The record of the fonts is written if there is something to fetch. -/
theorem octets_foldl (hl : loaded s = .ok fonts) (families : List String) :
    (families.foldl (fetched source) s).octets .files .fonts =
      if families.any (fetchable source fonts) then
        .ok (some (Record.written (.file ⟨Key.fonts.name,
          some (.fonts (families.foldl (refreshed source) fonts))⟩)))
      else s.octets .files .fonts := by
  induction families generalizing s fonts with
  | nil => rfl
  | cons family families ih =>
    rw [List.foldl_cons, List.foldl_cons, List.any_cons,
      ih (stays_fetched hP hs source family) (loaded_fetched hP hs hl family)]
    cases h : fetchable source fonts family with
    | false => rw [refreshed_of_not_fetchable h, fetched_of_not_fetchable hl h, Bool.false_or]
    | true =>
      rw [Bool.true_or, if_pos rfl]
      split
      · rfl
      · next hnone =>
        -- the rest adds nothing, so the record is the one of this family
        rw [foldl_refreshed_of_not_fetchable (Bool.eq_false_iff.2 hnone),
          fetched_of_fetchable hl h, octets_withContent hP hs, if_pos ⟨rfl, rfl⟩]

/-- Families that were skipped had files from the start. -/
theorem skipped_countedAll (hl : loaded s = .ok fonts) (summary : FontSummary)
    {families : List String} (hnodup : families.Nodup) :
    (countedAll source s summary families).skipped =
      summary.skipped + families.countP (hasFiles fonts) := by
  induction families generalizing s fonts summary with
  | nil => rfl
  | cons family families ih =>
    obtain ⟨hnew, hnodup⟩ := List.nodup_cons.1 hnodup
    have hcount : families.countP (hasFiles (refreshed source fonts family)) =
        families.countP (hasFiles fonts) := by
      apply List.countP_congr
      intro other hother
      have hne : other ≠ family := fun heq => hnew (heq ▸ hother)
      rw [hasFiles_congr ((get?_refreshed source fonts family other).trans (if_neg hne))]
    have hskipped : (counted source s summary family).skipped =
        summary.skipped + if hasFiles fonts family then 1 else 0 := by
      unfold counted
      rw [stored_eq hl]
      cases hasFiles fonts family with
      | true => rfl
      | false => cases added source s family <;> rfl
    rw [countedAll, ih (stays_fetched hP hs source family) (loaded_fetched hP hs hl family) _ hnodup,
      hcount, hskipped, List.countP_cons]
    omega

end

/-! ## The summary -/

/-- A family has files, can be fetched, or fails. -/
theorem length_eq_countP (source : Fonts.Source) (fonts : Fonts) (families : List String) :
    families.length = families.countP (hasFiles fonts) + families.countP (fetchable source fonts) +
      families.countP (failing source fonts) := by
  induction families with
  | nil => rfl
  | cons family families ih =>
    have hone : 1 = (if hasFiles fonts family then 1 else 0) +
        (if fetchable source fonts family then 1 else 0) +
        (if failing source fonts family then 1 else 0) := by
      unfold fetchable failing
      by_cases hhas : hasFiles fonts family <;>
        by_cases hdown : (Fonts.download source family).isOk <;> simp [hhas, hdown]
    simp only [List.length_cons, List.countP_cons]
    omega

/-- The families that fail are those with a failure. -/
theorem isSome_fate {source : Fonts.Source} {s : Storage} {fonts : Fonts}
    (hl : loaded s = .ok fonts) (family : String) :
    (fate source s family).isSome = failing source fonts family := by
  rw [fate_eq hl]
  by_cases hhas : hasFiles fonts family
  · simp [failing, hhas]
  · cases hdown : Fonts.download source family <;>
      simp [failing, hhas, hdown, Except.isOk, Except.toBool]

theorem message_of_fate {source : Fonts.Source} {s : Storage} {family : String}
    {failure : FontFailure} {fonts : Fonts} (hl : loaded s = .ok fonts)
    (h : fate source s family = some failure) :
    ∃ f, Fonts.download source failure.family = .error f ∧ failure.message = f.message := by
  rw [fate_eq hl] at h
  split at h
  · cases h
  · split at h
    · cases h
    · next f hdown =>
      cases h
      exact ⟨f, hdown, rfl⟩

/-- Of families some were fetched, and these numbers and failures tell of it. -/
structure Accounted (source : Fonts.Source) (fonts final : Fonts) (families : List String)
    (summary : FontSummary) : Prop where
  /-- As many families were requested as there are. -/
  requested : summary.requested = families.length
  /-- Each of them was downloaded or skipped, or is a failure. -/
  balance : summary.downloaded + summary.skipped + summary.failures.length = families.length
  /-- Skipped were those with files, if none is named twice. -/
  skipped : families.Nodup → summary.skipped = families.countP (hasFiles fonts)
  /-- Downloaded were those that can be fetched. -/
  downloaded : families.Nodup → summary.downloaded = families.countP (fetchable source fonts)
  /-- The failures are those without files whose download fails, in order. -/
  failures : summary.failures.map FontFailure.family = families.filter (failing source fonts)
  /-- Each tells why. -/
  messages : ∀ failure ∈ summary.failures,
    ∃ f, Fonts.download source failure.family = .error f ∧ failure.message = f.message
  /-- A family that can be fetched has what was downloaded. -/
  fetched : ∀ family ∈ families, fetchable source fonts family →
    ∃ files, Fonts.download source family = .ok files ∧ final.get? family = some files
  /-- All others are as they were. -/
  untouched : ∀ family, ¬ (family ∈ families ∧ fetchable source fonts family) →
    final.get? family = fonts.get? family

section

variable {P : Storage → Prop} (hP : Reliable P) {source : Fonts.Source} {s : Storage}
  {fonts : Fonts}

include hP

theorem accounted_countedAll (hs : P s) (hl : loaded s = .ok fonts) (families : List String) :
    Accounted source fonts (families.foldl (refreshed source) fonts) families
      (countedAll source s ⟨families.length, 0, 0, []⟩ families) := by
  have htallies := tallies_countedAll hP hs source ⟨families.length, 0, 0, []⟩ families
  generalize hsummary : countedAll source s ⟨families.length, 0, 0, []⟩ families = summary at htallies
  obtain ⟨_, hfailures, hfamilies⟩ := htallies.told
  simp only [isSome_fate hl] at hfamilies
  have hlength : summary.failures.length = families.countP (failing source fonts) := by
    rw [List.countP_eq_length_filter, ← hfamilies, List.length_map]
  have hcounts := length_eq_countP source fonts families
  have hbalance := htallies.balance
  unfold FontSummary.available at hbalance
  have hskipped : families.Nodup → summary.skipped = families.countP (hasFiles fonts) := by
    intro hnodup
    rw [← hsummary, skipped_countedAll hP hs hl _ hnodup]
    exact Nat.zero_add _
  have hget := get?_foldl_refreshed source fonts families
  exact {
    requested := htallies.requested
    balance := hbalance
    skipped := hskipped
    downloaded := by
      intro hnodup
      have hsame := hskipped hnodup
      omega
    failures := hfamilies
    messages := by
      intro failure hmem
      rw [hfailures] at hmem
      obtain ⟨family, _, hfate⟩ := List.mem_filterMap.1 hmem
      exact message_of_fate hl hfate
    fetched := by
      intro family hmem hfetch
      obtain ⟨hhas, files, hdown⟩ := files_of_fetchable hfetch
      refine ⟨files, hdown, ?_⟩
      rw [hget, if_pos hmem, outcome_of_download hhas hdown]
    untouched := by
      intro family hnot
      rw [hget]
      split
      · next hmem =>
        exact outcome_of_not_fetchable (Bool.eq_false_iff.2 fun h => hnot ⟨hmem, h⟩)
      · rfl }

/-- Going through families comes through, and this is what comes of it. -/
theorem run_processFonts {b : Bench} (hb : P b.storage) (hl : loaded b.storage = .ok fonts)
    (source : Fonts.Source) (families : List String) :
    ∃ summary b', (processFonts source families).run b = (.ok summary, b') ∧
      b'.storage = families.foldl (fetched source) b.storage ∧
      loaded b'.storage = .ok (families.foldl (refreshed source) fonts) ∧
      Accounted source fonts (families.foldl (refreshed source) fonts) families summary := by
  obtain ⟨b', hrun, hstorage⟩ := ends_processFonts hP source families hb b rfl
  exact ⟨_, b', hrun, hstorage, hstorage ▸ loaded_foldl hP hb hl families,
    accounted_countedAll hP hb hl families⟩

/-- The order of the families does not matter for what is stored in the end. -/
theorem sameRecords_foldl_perm (hs : P s) (hl : loaded s = .ok fonts) {families others : List String}
    (hperm : others.Perm families) :
    SameRecords (others.foldl (fetched source) s) (families.foldl (fetched source) s) := by
  have hfonts : others.foldl (refreshed source) fonts = families.foldl (refreshed source) fonts := by
    apply Catalog.ext_get?
    intro family
    simp only [get?_foldl_refreshed, hperm.mem_iff]
  intro p k
  by_cases hk : p = .files ∧ k = .fonts
  · obtain ⟨rfl, rfl⟩ := hk
    rw [octets_foldl hP hs hl, octets_foldl hP hs hl, hperm.any_eq, hfonts]
  · rw [(fetches_foldl source others s).octets hP hs hk,
      (fetches_foldl source families s).octets hP hs hk]

/-- **The fonts of a run are accounted for, family by family.** Nothing but their record is written,
the order of the families makes no difference to what is stored, and neither to what is stored of a
family nor to whether it fails does it matter what else is asked for, and how that fares. -/
theorem fonts_accounted {b : Bench} (hb : P b.storage) (hl : loaded b.storage = .ok fonts)
    (source : Fonts.Source) (families : List String) :
    ∃ summary b' final, (processFonts source families).run b = (.ok summary, b') ∧
      loaded b'.storage = .ok final ∧ Accounted source fonts final families summary ∧
      (∀ p k, ¬ (p = .files ∧ k = .fonts) → b'.storage.octets p k = b.storage.octets p k) ∧
      (∀ others, others.Perm families → ∃ summary' c,
        (processFonts source others).run b = (.ok summary', c) ∧
        SameRecords c.storage b'.storage) ∧
      ∀ source' others family, family ∈ families → family ∈ others →
        Fonts.download source' family = Fonts.download source family →
        ∃ summary' c final', (processFonts source' others).run b = (.ok summary', c) ∧
          loaded c.storage = .ok final' ∧ final'.get? family = final.get? family ∧
          (family ∈ summary'.failures.map FontFailure.family ↔
            family ∈ summary.failures.map FontFailure.family) := by
  obtain ⟨summary, b', hrun, hstorage, hloaded, haccounted⟩ :=
    run_processFonts hP hb hl source families
  refine ⟨summary, b', _, hrun, hloaded, haccounted, ?_, ?_, ?_⟩
  · intro p k hk
    rw [hstorage]
    exact (fetches_foldl source families b.storage).octets hP hb hk
  · intro others hperm
    obtain ⟨summary', c, hrun', hstorage', _⟩ := run_processFonts hP hb hl source others
    refine ⟨summary', c, hrun', ?_⟩
    rw [hstorage, hstorage']
    exact sameRecords_foldl_perm hP hb hl hperm
  · intro source' others family hmem hmem' hdown
    obtain ⟨summary', c, hrun', _, hloaded', haccounted'⟩ :=
      run_processFonts hP hb hl source' others
    refine ⟨summary', c, _, hrun', hloaded', ?_, ?_⟩
    · rw [get?_foldl_refreshed, get?_foldl_refreshed, if_pos hmem, if_pos hmem', outcome, outcome,
        hdown]
    · rw [haccounted.failures, haccounted'.failures, List.mem_filter, List.mem_filter, failing,
        failing, hdown]
      exact and_congr_left' ⟨fun _ => hmem, fun _ => hmem'⟩

end

/-- A source with one family. -/
def robotoSource : Fonts.Source := ⟨.ok ⟨[⟨"Roboto", [("regular", "r.ttf")]⟩]⟩, fun _ => .ok [2]⟩

/-- Fonts with a file of another family. -/
def interFonts : Fonts := .ofList [("Inter", .ofList [("Inter.ttf", [1])])]

/-- Of three families one is stored, one is downloaded, and one fails. -/
theorem inter_roboto_lost_accounted : ∃ summary b',
    (processFonts robotoSource ["Inter", "Roboto", "Lost"]).run
      (.start (Storage.fresh.withContent .fonts (some (.fonts interFonts)))) = (.ok summary, b') ∧
    summary.requested = 3 ∧ summary.skipped = 1 ∧ summary.downloaded = 1 ∧
    summary.failures.map FontFailure.family = ["Lost"] := by
  have hb := reliable_memory.withContent Storage.inMemory_fresh .fonts (some (.fonts interFonts))
  have hl := loaded_withFonts reliable_memory Storage.inMemory_fresh interFonts
  obtain ⟨summary, b', final, hrun, _, haccounted, _⟩ := fonts_accounted reliable_memory
    (b := .start (Storage.fresh.withContent .fonts (some (.fonts interFonts)))) hb hl robotoSource
    ["Inter", "Roboto", "Lost"]
  have hnodup : ["Inter", "Roboto", "Lost"].Nodup := by decide
  refine ⟨summary, b', hrun, haccounted.requested, ?_, ?_, ?_⟩
  · exact (haccounted.skipped hnodup).trans (by decide +kernel)
  · exact (haccounted.downloaded hnodup).trans (by decide +kernel)
  · exact haccounted.failures.trans (by decide +kernel)

end QmlExport.Run
