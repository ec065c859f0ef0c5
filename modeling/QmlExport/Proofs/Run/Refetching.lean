import QmlExport.Proofs.Run.Fonts

/-!
# Going through font families again

The fate of a family is its failure, if it has one. It depends on the source and on what is stored of
the family, and so **it is not changed by what becomes of other families, nor by what becomes of the
family itself** (`fate_fetched`): a summary tells the fates as they were at the start
(`tallies_countedAll`), and as they are at the end.

A family rests if going through it again leaves all records as they are. **It does once it was gone
through** (`rests_fetched_self`), even if its download is empty and therefore made again, **and it
goes on resting** (`Rests.fetched`).
-/

namespace QmlExport.Run

open Store Upload

/-- The failure of a family that is gone through. -/
def fate (source : Fonts.Source) (s : Storage) (family : String) : Option FontFailure :=
  if stored s family then none
  else match added source s family with
    | .ok _ => none
    | .error f => some ⟨family, f.asFontDownload.message⟩

/-- Going through a family leaves all records as they are. -/
def Rests (source : Fonts.Source) (s : Storage) (family : String) : Prop :=
  SameRecords (fetched source s family) s

/-! ## Fonts with the files of a family -/

/-- Adding files that are there changes nothing. -/
theorem addFiles_eq_self {fonts : Fonts} {family : String} {files found : Files}
    (hget : fonts.get? family = some found) (hfound : found.insertAll files.entries = found) :
    Fonts.addFiles fonts family files = fonts := by
  unfold Fonts.addFiles
  rw [hget, Option.getD_some, hfound]
  exact Catalog.insert_of_get? hget

theorem get?_addFiles (fonts : Fonts) (family : String) (files : Files) :
    (Fonts.addFiles fonts family files).get? family =
      some (((fonts.get? family).getD .empty).insertAll files.entries) :=
  Catalog.get?_insert_self _ _ _

theorem get?_addFiles_of_ne (fonts : Fonts) {family other : String} (files : Files)
    (h : other ≠ family) :
    (Fonts.addFiles fonts family files).get? other = fonts.get? other :=
  Catalog.get?_insert_of_ne _ _ h

theorem hasFiles_addFiles_of_ne (fonts : Fonts) {family other : String} (files : Files)
    (h : other ≠ family) :
    hasFiles (Fonts.addFiles fonts family files) other = hasFiles fonts other := by
  unfold hasFiles
  rw [get?_addFiles_of_ne fonts files h]

/-- Only where nothing was added are there no files. -/
theorem addFiles_again {fonts : Fonts} {family : String} {files : Files}
    (h : hasFiles (Fonts.addFiles fonts family files) family = false) :
    Fonts.addFiles (Fonts.addFiles fonts family files) family files =
      Fonts.addFiles fonts family files := by
  have hget := get?_addFiles fonts family files
  unfold hasFiles at h
  rw [hget, Bool.not_eq_false', Catalog.isEmpty_insertAll, Bool.and_eq_true,
    List.isEmpty_iff] at h
  apply addFiles_eq_self hget
  rw [h.2]
  rfl

/-! ## One family -/

section

variable {s t : Storage} {source : Fonts.Source} {family other : String}

/-- Going through a family does nothing, or adds files to the fonts. -/
theorem fetched_cases (source : Fonts.Source) (s : Storage) (family : String) :
    fetched source s family = s ∨
      ∃ fonts files, loaded s = .ok fonts ∧ Fonts.download source family = .ok files ∧
        hasFiles fonts family = false ∧ fetched source s family = withFamily s fonts family files := by
  unfold fetched
  split
  · exact .inl rfl
  · next hstored =>
    split
    · next hadded =>
      obtain ⟨files, fonts, hdown, hl, rfl⟩ := added_eq_ok hadded
      unfold stored at hstored
      rw [hl] at hstored
      exact .inr ⟨fonts, files, hl, hdown, Bool.eq_false_iff.2 hstored, rfl⟩
    · exact .inl rfl

theorem stored_eq {fonts : Fonts} (hl : loaded s = .ok fonts) :
    stored s family = hasFiles fonts family := by
  unfold stored
  rw [hl]

theorem added_eq {fonts : Fonts} (hl : loaded s = .ok fonts) :
    added source s family =
      (Fonts.download source family).map (Fonts.addFiles fonts family) := by
  unfold added
  rw [hl]
  cases Fonts.download source family <;> rfl

/-- The fate of a family whose fonts are known. -/
theorem fate_eq {fonts : Fonts} (hl : loaded s = .ok fonts) :
    fate source s family =
      if hasFiles fonts family then none
      else match Fonts.download source family with
        | .ok _ => none
        | .error f => some ⟨family, f.asFontDownload.message⟩ := by
  unfold fate
  rw [stored_eq hl, added_eq hl]
  cases Fonts.download source family <;> rfl

theorem loaded_congr (h : SameRecords s t) : loaded s = loaded t :=
  congrArg (· >>= fontsIn) (h.content .fonts)

theorem fate_congr (h : SameRecords s t) (family : String) :
    fate source s family = fate source t family := by
  unfold Run.fate stored added
  rw [loaded_congr h]

variable {P : Storage → Prop} (hP : Reliable P) (hs : P s)

include hP hs

theorem fetched_congr (h : SameRecords s t) (ht : P t) (family : String) :
    SameRecords (fetched source s family) (fetched source t family) := by
  have hstored : stored s family = stored t family := by
    unfold stored
    rw [loaded_congr h]
  have hadded : added source s family = added source t family := by
    unfold added
    rw [loaded_congr h]
  unfold Run.fetched
  rw [hstored, hadded]
  split
  · exact h
  · split
    · exact SameRecords.withContent hP hs h ht _ _
    · exact h

theorem Rests.congr (h : Rests source s family) (ht : P t) (hsame : SameRecords s t) :
    Rests source t family :=
  ((fetched_congr hP hs hsame ht family).symm.trans h).trans hsame

theorem loaded_withFamily (fonts : Fonts) (family : String) (files : Files) :
    loaded (withFamily s fonts family files) = .ok (Fonts.addFiles fonts family files) := by
  unfold loaded
  rw [content_withFamily hP hs]
  rfl

/-- Adding files that are there changes no record. -/
theorem sameRecords_withFamily {fonts : Fonts} {files more : Files}
    (h : Fonts.addFiles (Fonts.addFiles fonts family files) other more =
      Fonts.addFiles fonts family files) :
    SameRecords (withFamily (withFamily s fonts family files) (Fonts.addFiles fonts family files)
      other more) (withFamily s fonts family files) := by
  have hstays : P (withFamily s fonts family files) := hP.withContent hs _ _
  apply sameRecords_withContent hP hstays
  rw [h]
  exact (octets_withContent hP hs _ _ _ _).trans (if_pos ⟨rfl, rfl⟩)

/-- **A family that was gone through rests.** -/
theorem rests_fetched_self (source : Fonts.Source) (family : String) :
    Rests source (fetched source s family) family := by
  rcases fetched_cases source s family with heq | ⟨fonts, files, hl, hdown, _, heq⟩
  · rw [heq]
    unfold Rests
    rw [heq]
    exact .refl s
  · rw [heq]
    have hloaded := loaded_withFamily hP hs fonts family files
    unfold Rests
    rcases fetched_cases source (withFamily s fonts family files) family with
      hagain | ⟨fonts', files', hl', hdown', hnone, hagain⟩
    · rw [hagain]
      exact .refl _
    · -- the download was empty, and made again
      obtain rfl : fonts' = _ := Except.ok.inj (hl'.symm.trans hloaded)
      obtain rfl : files' = files := Except.ok.inj (hdown'.symm.trans hdown)
      rw [hagain]
      exact sameRecords_withFamily hP hs (addFiles_again hnone)

/-- **A family goes on resting when another one is gone through.** -/
theorem Rests.fetched (h : Rests source s family) (other : String) :
    Rests source (fetched source s other) family := by
  by_cases hother : family = other
  · exact hother ▸ rests_fetched_self hP hs source family
  rcases fetched_cases source s other with heq | ⟨fonts, files, hl, hdown, _, heq⟩
  · rwa [heq]
  · rw [heq]
    have hloaded := loaded_withFamily hP hs fonts other files
    unfold Rests
    rcases fetched_cases source (withFamily s fonts other files) family with
      hagain | ⟨fonts', more, hl', hmore, hnone, hagain⟩
    · rw [hagain]
      exact .refl _
    · obtain rfl : fonts' = _ := Except.ok.inj (hl'.symm.trans hloaded)
      rw [hagain]
      apply sameRecords_withFamily hP hs
      -- the family rested, so what is added to it was there
      rw [hasFiles_addFiles_of_ne fonts files hother] at hnone
      have hfetched : Run.fetched source s family = withFamily s fonts family more := by
        unfold Run.fetched
        rw [stored_eq hl, hnone, added_eq hl, hmore]
        rfl
      unfold Rests at h
      rw [hfetched] at h
      have hsame : Fonts.addFiles fonts family more = fonts := by
        have hloads := loaded_congr h
        rw [loaded_withFamily hP hs, hl] at hloads
        exact Except.ok.inj hloads
      have hget := get?_addFiles fonts family more
      rw [hsame] at hget
      cases hfound : fonts.get? family with
      | none => rw [hfound] at hget; cases hget
      | some found =>
        rw [hfound] at hget
        apply addFiles_eq_self ((get?_addFiles_of_ne fonts files hother).trans hfound)
        exact (Option.some.inj hget).symm

/-- **What becomes of a family is not changed by what becomes of any.** -/
theorem fate_fetched (source : Fonts.Source) (other family : String) :
    fate source (fetched source s other) family = fate source s family := by
  rcases fetched_cases source s other with heq | ⟨fonts, files, hl, hdown, hnone, heq⟩
  · rw [heq]
  · rw [heq, fate_eq (loaded_withFamily hP hs fonts other files), fate_eq hl]
    by_cases hother : family = other
    · subst hother
      rw [hdown, hnone]
      exact ite_self none
    · rw [hasFiles_addFiles_of_ne fonts files hother]

/-! ## All families -/

/-- A summary after families with these fates: each of them is there, or has failed. -/
structure Tallies (before : FontSummary) (fates : List (Option FontFailure))
    (after : FontSummary) : Prop where
  requested : after.requested = before.requested
  available : after.available = before.available + fates.countP Option.isNone
  failures : after.failures = before.failures ++ fates.filterMap id

omit hP hs in
theorem Tallies.append {first second third : FontSummary} {fates more : List (Option FontFailure)}
    (h : Tallies first fates second) (h' : Tallies second more third) :
    Tallies first (fates ++ more) third where
  requested := h'.requested.trans h.requested
  available := by
    rw [h'.available, h.available, List.countP_append, Nat.add_assoc]
  failures := by
    rw [h'.failures, h.failures, List.filterMap_append, List.append_assoc]

omit hP hs in
theorem tallies_counted (summary : FontSummary) (family : String) :
    Tallies summary [fate source s family] (counted source s summary family) := by
  unfold counted fate
  split
  · exact ⟨rfl, Nat.add_assoc summary.downloaded summary.skipped 1, (List.append_nil _).symm⟩
  · cases added source s family with
    | ok fonts =>
      exact ⟨rfl, Nat.add_right_comm summary.downloaded 1 summary.skipped,
        (List.append_nil _).symm⟩
    | error f => exact ⟨rfl, rfl, rfl⟩

omit hP hs in
theorem family_of_fate {failure : FontFailure} (h : fate source s family = some failure) :
    failure.family = family := by
  unfold fate at h
  split at h
  · cases h
  · split at h <;> cases h
    rfl

omit hP hs in
/-- What a summary of fates tells: the failures, in order, and how many others there are. -/
theorem Tallies.told {n : Nat} {families : List String} {summary : FontSummary}
    (h : Tallies ⟨n, 0, 0, []⟩ (families.map (fate source s)) summary) :
    summary.available = families.countP (fun family => (fate source s family).isNone) ∧
      summary.failures = families.filterMap (fate source s) ∧
      summary.failures.map FontFailure.family =
        families.filter (fun family => (fate source s family).isSome) := by
  have hfailures : summary.failures = families.filterMap (fate source s) := by
    rw [h.failures, List.nil_append, List.filterMap_map]
    rfl
  refine ⟨?_, hfailures, ?_⟩
  · rw [h.available, List.countP_map]
    exact Nat.zero_add _
  · rw [hfailures, List.map_filterMap, ← List.filterMap_eq_filter]
    congr 1
    funext family
    cases hfate : fate source s family with
    | none => simp [Option.guard, hfate]
    | some failure => simp [Option.guard, hfate, family_of_fate hfate]

omit hP hs in
/-- Each family is available in the end or a failure. -/
theorem Tallies.balance {n : Nat} {families : List String} {summary : FontSummary}
    (h : Tallies ⟨n, 0, 0, []⟩ (families.map (fate source s)) summary) :
    summary.available + summary.failures.length = families.length := by
  obtain ⟨havailable, _, hfamilies⟩ := h.told
  have hlength := congrArg List.length hfamilies
  rw [List.length_map, ← List.countP_eq_length_filter] at hlength
  rw [havailable, hlength,
    List.length_eq_countP_add_countP (fun family => (fate source s family).isNone) (l := families)]
  congr 1
  apply List.countP_congr
  intro family _
  cases fate source s family <;> simp

/-- **A summary tells the fates as they were at the start.** -/
theorem tallies_countedAll (source : Fonts.Source) (summary : FontSummary)
    (families : List String) :
    Tallies summary (families.map (fate source s)) (countedAll source s summary families) := by
  induction families generalizing s summary with
  | nil => exact ⟨rfl, rfl, (List.append_nil _).symm⟩
  | cons family families ih =>
    have hrest := ih (stays_fetched hP hs source family) (counted source s summary family)
    rw [List.map_congr_left fun other _ => fate_fetched hP hs source family other] at hrest
    exact (tallies_counted summary family).append hrest

theorem stays_foldl (source : Fonts.Source) (families : List String) :
    P (families.foldl (Run.fetched source) s) :=
  (fetches_foldl source families s).stays hP hs

theorem fate_foldl (source : Fonts.Source) (families : List String) (family : String) :
    fate source (families.foldl (Run.fetched source) s) family = fate source s family := by
  induction families generalizing s with
  | nil => rfl
  | cons other families ih =>
    exact (ih (stays_fetched hP hs source other)).trans (fate_fetched hP hs source other family)

theorem Rests.foldl (h : Rests source s family) (families : List String) :
    Rests source (families.foldl (Run.fetched source) s) family := by
  induction families generalizing s with
  | nil => exact h
  | cons other families ih => exact ih (stays_fetched hP hs source other) (h.fetched hP hs other)

/-- **All families rest once they were gone through.** -/
theorem rests_foldl (source : Fonts.Source) (families : List String) :
    ∀ family ∈ families, Rests source (families.foldl (Run.fetched source) s) family := by
  induction families generalizing s with
  | nil => exact nofun
  | cons other families ih =>
    have hstays := stays_fetched hP hs source other
    intro family hfamily
    rcases List.mem_cons.1 hfamily with rfl | hfamily
    · exact Rests.foldl hP hstays (rests_fetched_self hP hs source family) families
    · exact ih hstays family hfamily

/-- Going through families that rest changes no record. -/
theorem sameRecords_foldl {families : List String} (h : ∀ family ∈ families, Rests source s family) :
    SameRecords (families.foldl (Run.fetched source) s) s := by
  induction families generalizing s with
  | nil => exact .refl s
  | cons other families ih =>
    have hstays := stays_fetched hP hs source other
    apply SameRecords.trans (t := Run.fetched source s other)
    · exact ih hstays fun family hfamily =>
        (h family (List.mem_cons_of_mem _ hfamily)).fetched hP hs other
    · exact h other List.mem_cons_self

end

end QmlExport.Run
