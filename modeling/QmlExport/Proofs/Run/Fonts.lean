import QmlExport.Proofs.Run.Ends

/-!
# Fetching fonts

Of each family one of three things becomes: its files are stored already, they are added, or the
download fails. `fetched` is the storage and `counted` the summary that come of it, and going through
families one after the other comes to just that (`ends_processFonts`).

Whatever the source of the fonts answers, and however often it fails, a run only ever adds files to
the families that the code asks for: `Fetches` is the chain of these additions.
-/

namespace QmlExport.Run

open Store Upload

/-- The fonts that a record holds. -/
def fontsIn : Option Content → Except Failure Fonts
  | some (.fonts families) => .ok families
  | some _ => .error Fonts.unexpectedContent
  | none => .ok .empty

/-- The fonts that are stored. -/
def loaded (s : Storage) : Except Failure Fonts := s.content .fonts >>= fontsIn

/-- The storage after files were added to a family. -/
def withFamily (s : Storage) (fonts : Fonts) (family : String) (files : Files) : Storage :=
  s.withContent .fonts (some (.fonts (Fonts.addFiles fonts family files)))

/-- Files were added to some of the families, one after the other. -/
inductive Fetches (families : List String) : Storage → Storage → Prop
  | none (s) : Fetches families s s
  | more {s t fonts family files} (hf : family ∈ families) (hl : loaded s = .ok fonts)
    (rest : Fetches families (withFamily s fonts family files) t) : Fetches families s t

theorem Fetches.mono {families more : List String} {s t : Storage} (h : Fetches families s t)
    (hsub : families ⊆ more) : Fetches more s t := by
  induction h with
  | none s => exact .none s
  | more hf hl _ ih => exact .more (hsub hf) hl ih

theorem Fetches.trans {families : List String} {s t u : Storage} (h : Fetches families s t)
    (h' : Fetches families t u) : Fetches families s u := by
  induction h with
  | none s => exact h'
  | more hf hl _ ih => exact .more hf hl (ih h')

theorem run_load (s : Storage) : Fonts.load.run s = (loaded s, s) := by
  have h := s.run_getContent .fonts
  unfold Fonts.load loaded
  cases hc : s.content .fonts with
  | error f =>
    rw [hc] at h
    exact run_bind_error h
  | ok c =>
    rw [hc] at h
    rw [run_bind_ok h]
    rcases c with _ | _ | _ | _ | _ <;> rfl

/-! ## One family -/

/-- Whether fonts have files of a family. -/
def hasFiles (fonts : Fonts) (family : String) : Bool :=
  match fonts.get? family with
  | some files => !files.isEmpty
  | none => false

/-- Whether files of a family are stored. They are not if the fonts cannot be read. -/
def stored (s : Storage) (family : String) : Bool :=
  match loaded s with
  | .ok fonts => hasFiles fonts family
  | .error _ => false

/-- The stored fonts after the files of a family were added. -/
def added (source : Fonts.Source) (s : Storage) (family : String) : Except Failure Fonts :=
  match Fonts.download source family, loaded s with
  | .error f, _ => .error f
  | .ok _, .error f => .error f
  | .ok files, .ok fonts => .ok (Fonts.addFiles fonts family files)

/-- The storage after a family was gone through. -/
def fetched (source : Fonts.Source) (s : Storage) (family : String) : Storage :=
  if stored s family then s
  else match added source s family with
    | .ok fonts => s.withContent .fonts (some (.fonts fonts))
    | .error _ => s

/-- The summary after a family was gone through. -/
def counted (source : Fonts.Source) (s : Storage) (summary : FontSummary) (family : String) :
    FontSummary :=
  if stored s family then { summary with skipped := summary.skipped + 1 }
  else match added source s family with
    | .ok _ => { summary with downloaded := summary.downloaded + 1 }
    | .error f =>
      { summary with failures := summary.failures ++ [⟨family, f.asFontDownload.message⟩] }

/-- The summary after families were gone through. -/
def countedAll (source : Fonts.Source) : Storage → FontSummary → List String → FontSummary
  | _, summary, [] => summary
  | s, summary, family :: families =>
    countedAll source (fetched source s family) (counted source s summary family) families

theorem added_eq_ok {source : Fonts.Source} {s : Storage} {family : String} {fonts : Fonts}
    (h : added source s family = .ok fonts) :
    ∃ files old, Fonts.download source family = .ok files ∧ loaded s = .ok old ∧
      fonts = Fonts.addFiles old family files := by
  unfold added at h
  split at h
  · cases h
  · cases h
  · next files old hdown hl => exact ⟨files, old, hdown, hl, (Except.ok.inj h).symm⟩

theorem fetches_fetched (source : Fonts.Source) (s : Storage) (family : String) :
    Fetches [family] s (fetched source s family) := by
  unfold fetched
  split
  · exact .none s
  · split
    · next fonts hadded =>
      obtain ⟨files, old, _, hl, rfl⟩ := added_eq_ok hadded
      exact .more List.mem_cons_self hl (.none _)
    · exact .none s

theorem fetches_foldl (source : Fonts.Source) (families : List String) (s : Storage) :
    Fetches families s (families.foldl (fetched source) s) := by
  induction families generalizing s with
  | nil => exact .none s
  | cons family families ih =>
    apply Fetches.trans (t := fetched source s family)
    · apply (fetches_fetched source s family).mono
      exact fun f hf => List.mem_singleton.1 hf ▸ List.mem_cons_self
    · exact (ih (fetched source s family)).mono fun f hf => List.mem_cons_of_mem _ hf

/-- Whether a family is stored is asked, and the answer may be that this cannot be told. -/
theorem run_isStored (s : Storage) (family : String) :
    ∃ r, (Fonts.isStored family).run s = (r, s) ∧
      stored s family = match r with
        | .ok b => b
        | .error _ => false := by
  have h := run_load s
  unfold Fonts.isStored stored hasFiles
  cases hl : loaded s with
  | error f =>
    rw [hl] at h
    exact ⟨_, run_bind_error h, rfl⟩
  | ok fonts =>
    rw [hl] at h
    rw [run_bind_ok h]
    dsimp only
    cases fonts.get? family with
    | none => exact ⟨.ok false, rfl, rfl⟩
    | some files => exact ⟨.ok !files.isEmpty, rfl, rfl⟩

/-- The part of a family that is not stored yet. -/
def downloadReported (source : Fonts.Source) (summary : FontSummary) (family : String) :
    Job FontSummary := do
  Job.say ("Downloading " ++ family ++ ".")
  match ← Job.attempt (Fonts.fetch source family) with
  | .ok _ =>
    Job.say "Downloading completed."
    Pure.pure { summary with downloaded := summary.downloaded + 1 }
  | .error f =>
    Job.say ("Downloading " ++ family ++ " failed: " ++ f.display)
    Pure.pure { summary with failures := summary.failures ++ [⟨family, f.message⟩] }

section

variable {P : Storage → Prop} (hP : Reliable P) {s : Storage} (hs : P s)

include hP hs

theorem Fetches.stays {families : List String} {t : Storage} (h : Fetches families s t) : P t := by
  induction h with
  | none => exact hs
  | more _ _ _ ih => exact ih (hP.withContent hs _ _)

/-- Fetching changes nothing but the record of the fonts. -/
theorem Fetches.octets {families : List String} {t : Storage} (h : Fetches families s t)
    {p : Partition} {k : Key} (hk : ¬ (p = .files ∧ k = .fonts)) :
    t.octets p k = s.octets p k := by
  induction h with
  | none => rfl
  | more _ _ _ ih =>
    refine (ih (hP.withContent hs _ _)).trans ?_
    exact (octets_withContent hP hs _ _ _ _).trans (if_neg hk)

theorem document_withFamily (fonts : Fonts) (family : String) (files : Files) :
    (withFamily s fonts family files).document = s.document :=
  hP.document_withContent hs _ _

theorem content_withFamily (fonts : Fonts) (family : String) (files : Files) :
    (withFamily s fonts family files).content .fonts =
      .ok (some (.fonts (Fonts.addFiles fonts family files))) := by
  rw [withFamily, hP.content_withContent hs, if_pos rfl]
  exact readBack_eq _ fun c hc => by cases hc; exact Content.readable_fonts _

theorem content_withFamily_of_ne (fonts : Fonts) (family : String) (files : Files) {k : Key}
    (hk : k ≠ .fonts) : (withFamily s fonts family files).content k = s.content k := by
  rw [withFamily, hP.content_withContent hs, if_neg hk]

/-- Fetching a family adds its files to the fonts, or fails and does nothing. -/
theorem run_fetch (source : Fonts.Source) (family : String) :
    match added source s family with
    | .ok fonts => ∃ files, Fonts.download source family = .ok files ∧
        (Fonts.fetch source family).run s =
          (.ok files.size, s.withContent .fonts (some (.fonts fonts)))
    | .error f => (Fonts.fetch source family).run s = (.error f.asFontDownload, s) := by
  have hrun : ∀ {r t}, (Fonts.fetchAsIs source family).run s = (r, t) →
      (Fonts.fetch source family).run s = (r.mapError Failure.asFontDownload, t) := by
    intro r t h
    show (match (Fonts.fetchAsIs source family).run s with
      | (r, t) => (r.mapError Failure.asFontDownload, t)) = _
    rw [h]
  have hload := run_load s
  unfold added
  -- only the last step writes, so a failure before it leaves the storage alone
  cases hdown : Fonts.download source family with
  | error f =>
    apply hrun (r := .error f)
    unfold Fonts.fetchAsIs
    rw [hdown]
    rfl
  | ok files =>
    have hof : (MonadExcept.ofExcept (Fonts.download source family) : Action Files).run s =
        (.ok files, s) := by
      rw [hdown]
      rfl
    cases hl : loaded s with
    | error f =>
      rw [hl] at hload
      exact hrun ((run_bind_ok hof).trans (run_bind_error hload))
    | ok fonts =>
      rw [hl] at hload
      exact ⟨files, rfl, hrun ((run_bind_ok hof).trans ((run_bind_ok hload).trans
        (run_bind_ok (hP.run_putContent hs _ _))))⟩

/-- Of a family that is not stored, a download is reported, whatever comes of it. -/
theorem ends_downloadReported (source : Fonts.Source) (summary : FontSummary) {family : String}
    (hstored : stored s family = false) :
    Ends (downloadReported source summary family) s (.ok (counted source s summary family))
      (fetched source s family) := by
  have hrun := run_fetch hP hs source family
  unfold counted fetched
  rw [hstored]
  cases hadded : added source s family with
  | ok fonts =>
    rw [hadded] at hrun
    obtain ⟨_, _, hrun⟩ := hrun
    exact .bind (.say _ _) (.bind (.attempt hrun) (.bind (.say _ _) (.pure _ _)))
  | error f =>
    rw [hadded] at hrun
    exact .bind (.say _ _) (.bind (.attempt hrun) (.bind (.say _ _) (.pure _ _)))

theorem ends_processFamily (source : Fonts.Source) (summary : FontSummary) (family : String) :
    Ends (processFamily source summary family) s (.ok (counted source s summary family))
      (fetched source s family) := by
  obtain ⟨r, hasked, hstored⟩ := run_isStored s family
  have hdownload := @ends_downloadReported P hP s hs source summary family
  -- a store that cannot tell whether it has the family is taken not to have it
  cases r with
  | error f => exact .bind (.attempt hasked) (hdownload hstored)
  | ok b =>
    cases b with
    | false => exact .bind (.attempt hasked) (hdownload hstored)
    | true =>
      have hsame : fetched source s family = s := if_pos hstored
      have hcounted : counted source s summary family =
          { summary with skipped := summary.skipped + 1 } := if_pos hstored
      rw [hsame, hcounted]
      exact .bind (.attempt hasked) (.bind (.pure _ _) (.bind (.say _ _) (.pure _ _)))

theorem stays_fetched (source : Fonts.Source) (family : String) : P (fetched source s family) :=
  (fetches_fetched source s family).stays hP hs

end

section

variable {P : Storage → Prop} (hP : Reliable P)

include hP

theorem ends_processFamilies (source : Fonts.Source) (total : Nat) (families : List String) :
    ∀ (done : Nat) (summary : FontSummary) {s : Storage}, P s →
      Ends (processFamilies source total done summary families) s
        (.ok (countedAll source s summary families)) (families.foldl (fetched source) s) := by
  induction families with
  | nil => exact fun _ _ _ _ => .pure _ _
  | cons family families ih =>
    intro done summary s hs
    exact .bind (ends_processFamily hP hs source summary family)
      (.bind (.progress _ _) (ih (done + 1) _ (stays_fetched hP hs source family)))

/-- **Families are gone through one after the other.** -/
theorem ends_processFonts (source : Fonts.Source) (families : List String) {s : Storage}
    (hs : P s) :
    Ends (processFonts source families) s
      (.ok (countedAll source s ⟨families.length, 0, 0, []⟩ families))
      (families.foldl (fetched source) s) := by
  refine .bind (.enter _ _) (.bind (.progress _ _) ?_)
  cases families with
  | nil => exact .bind (.say _ _) (.bind (.progress _ _) (.pure _ _))
  | cons family families =>
    exact .bind (ends_processFamilies hP source _ (family :: families) 0 _ hs)
      (.bind (.say _ _) (.pure _ _))

end

end QmlExport.Run
