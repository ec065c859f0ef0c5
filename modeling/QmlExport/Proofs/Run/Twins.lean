import QmlExport.Proofs.Package.ReadOnly
import QmlExport.Proofs.Run.Outcome
import QmlExport.Proofs.Store.Operations

/-!
# Runs on storages with the same records

A run sees nothing of a storage but its records. **On two benches whose storages have the same
records, a run comes to the same result, says the same and leaves the same records**
(`alike_start`), wherever the storages are, and so does packaging (`alike_build`).
-/

namespace QmlExport

open Store

/-- Two benches that differ in nothing but where their records are. -/
structure TwinBenches (a b : Option Path) (c c' : Bench) : Prop where
  storage : Twins a b c.storage c'.storage
  meter : c.meter = c'.meter
  stage : c.stage = c'.stage

section

variable {a b : Option Path} {α : Type}

theorem alike_onStorage {x : Action α} (h : Alike (Twins a b) x) :
    Alike (TwinBenches a b) (Job.onStorage x) := by
  intro c c' hc
  obtain ⟨hresult, hstorage⟩ := h _ _ hc.storage
  exact ⟨hresult, hstorage, hc.meter, hc.stage⟩

theorem alike_attempt {x : Action α} (h : Alike (Twins a b) x) :
    Alike (TwinBenches a b) (Job.attempt x) := by
  intro c c' hc
  obtain ⟨hresult, hstorage⟩ := h _ _ hc.storage
  exact ⟨congrArg Except.ok hresult, hstorage, hc.meter, hc.stage⟩

theorem alike_progress (percent : Nat) : Alike (TwinBenches a b) (Job.progress percent) :=
  fun _ _ h => ⟨rfl, h.storage, congrArg (·.progress percent) h.meter, h.stage⟩

theorem alike_say (line : String) : Alike (TwinBenches a b) (Job.say line) :=
  fun _ _ h => ⟨rfl, h.storage, congrArg (·.say line) h.meter, h.stage⟩

theorem alike_enter (stage : Run.Stage) : Alike (TwinBenches a b) (Job.enter stage) :=
  fun _ _ h => ⟨rfl, h.storage, h.meter, rfl⟩

end

section

variable {a b : Option Path} (ha : Room a) (hb : Room b)

include ha hb

theorem alike_getKey (k : Key) : Alike (Twins a b) (getContent k.name) :=
  alike_getContent (ha .files k).names (hb .files k).names

theorem alike_putKey (k : Key) (c : Option Content) : Alike (Twins a b) (putContent k.name c) :=
  alike_putContent (ha .files k) (hb .files k) c

theorem alike_document : Alike (Twins a b) getDocument :=
  alike_getDocument (ha .metadata .metadata).names (hb .metadata .metadata).names

namespace Fonts

theorem alike_load : Alike (Twins a b) load := by
  apply Alike.bind (alike_getKey ha hb .fonts)
  intro c
  rcases c with _ | _ | _ | _ | _
  case some.fonts => apply Alike.pure
  case none => apply Alike.pure
  all_goals apply Alike.throw

theorem alike_isStored (family : String) : Alike (Twins a b) (isStored family) := by
  apply Alike.bind (alike_load ha hb)
  intro fonts
  cases fonts.get? family <;> apply Alike.pure

theorem alike_fetch (source : Source) (family : String) :
    Alike (Twins a b) (fetch source family) := by
  have hasIs : Alike (Twins a b) (fetchAsIs source family) := by
    apply Alike.bind (Alike.ofExcept _)
    intro files
    apply Alike.bind (alike_load ha hb)
    intro fonts
    apply Alike.bind (alike_putKey ha hb .fonts _)
    intro _
    apply Alike.pure
  intro s t h
  obtain ⟨hresult, hstorage⟩ := hasIs s t h
  exact ⟨congrArg (Except.mapError Failure.asFontDownload) hresult, hstorage⟩

end Fonts

namespace Run

theorem alike_extract : Alike (TwinBenches a b) extract := by
  apply Alike.bind (alike_enter _)
  intro _
  apply Alike.bind (alike_progress _)
  intro _
  apply Alike.bind (alike_say _)
  intro _
  apply Alike.bind (alike_onStorage (alike_getKey ha hb .uploadedFile))
  intro c
  rcases c with _ | ⟨name, bytes⟩ | _ | _ | _
  case some.upload =>
    apply Alike.bind (Alike.ofExcept _)
    intro files
    apply Alike.bind (alike_onStorage (alike_putKey ha hb .extractedFiles _))
    intro _
    apply Alike.bind (alike_onStorage (alike_putKey ha hb .uploadedFile _))
    intro _
    apply Alike.bind (alike_progress _)
    intro _
    apply Alike.bind (alike_say _)
    intro _
    apply Alike.pure
  all_goals apply Alike.throw

theorem alike_split (uploadName : String) : Alike (TwinBenches a b) (split uploadName) := by
  apply Alike.bind (alike_enter _)
  intro _
  apply Alike.bind (alike_progress _)
  intro _
  apply Alike.bind (alike_onStorage (alike_getKey ha hb .extractedFiles))
  intro c
  rcases c with _ | _ | files | _ | _
  case some.files =>
    apply Alike.bind (Alike.ofExcept _)
    intro document
    have hdocument : ∀ count : Nat, Alike (TwinBenches a b) (do
        Job.onStorage (putDocument (.of uploadName document))
        Job.onStorage (putContent Key.extractedFiles.name none)
        Job.progress 40
        Job.say "Loading metadata succeeded."
        Pure.pure count) := by
      intro count
      apply Alike.bind (alike_onStorage (alike_putDocument (ha .metadata .metadata)
        (hb .metadata .metadata)))
      intro _
      apply Alike.bind (alike_onStorage (alike_putKey ha hb .extractedFiles _))
      intro _
      apply Alike.bind (alike_progress _)
      intro _
      apply Alike.bind (alike_say _)
      intro _
      apply Alike.pure
    dsimp only
    split
    · exact hdocument _
    · apply Alike.bind (alike_onStorage (alike_putKey ha hb .images _))
      intro _
      exact hdocument _
  all_goals apply Alike.throw

theorem alike_transform (o : Design.Options) : Alike (TwinBenches a b) (transform o) := by
  apply Alike.bind (alike_enter _)
  intro _
  apply Alike.bind (alike_progress _)
  intro _
  apply Alike.bind (alike_onStorage (alike_document ha hb))
  intro r
  cases r with
  | none => apply Alike.throw
  | some r =>
    apply Alike.bind (alike_enter _)
    intro _
    apply Alike.bind (alike_progress _)
    intro _
    apply Alike.bind (alike_onStorage (alike_putKey ha hb .code _))
    intro _
    have hsaid : Alike (TwinBenches a b) (do
        Job.progress 65
        Job.say ("Generated " ++ Upload.numberText
          (Code.countFiles (Code.generate o r.document).1) ++ " QML file(s).")
        Pure.pure (Code.countFiles (Code.generate o r.document).1,
          (Code.generate o r.document).2)) := by
      apply Alike.bind (alike_progress _)
      intro _
      apply Alike.bind (alike_say _)
      intro _
      apply Alike.pure
    dsimp only
    split
    · exact hsaid
    · apply Alike.bind (alike_onStorage (alike_putKey ha hb .fonts _))
      intro _
      exact hsaid

theorem alike_downloadReported (source : Fonts.Source) (summary : FontSummary) (family : String) :
    Alike (TwinBenches a b) (downloadReported source summary family) := by
  apply Alike.bind (alike_say _)
  intro _
  apply Alike.bind (alike_attempt (Fonts.alike_fetch ha hb source family))
  intro r
  cases r with
  | ok _ =>
    apply Alike.bind (alike_say _)
    intro _
    apply Alike.pure
  | error f =>
    apply Alike.bind (alike_say _)
    intro _
    apply Alike.pure

theorem alike_processFamily (source : Fonts.Source) (summary : FontSummary) (family : String) :
    Alike (TwinBenches a b) (processFamily source summary family) := by
  have hdownload := alike_downloadReported ha hb source summary family
  have hskip : Alike (TwinBenches a b) (do
      Job.say ("Skipping " ++ family ++ ", already downloaded.")
      Pure.pure { summary with skipped := summary.skipped + 1 }) := by
    apply Alike.bind (alike_say _)
    intro _
    apply Alike.pure
  apply Alike.bind (alike_attempt (Fonts.alike_isStored ha hb family))
  intro stored
  rcases stored with f | stored
  · exact hdownload
  · cases stored with
    | true => exact hskip
    | false => exact hdownload

theorem alike_processFamilies (source : Fonts.Source) (total : Nat) (families : List String) :
    ∀ (done : Nat) (summary : FontSummary),
      Alike (TwinBenches a b) (processFamilies source total done summary families) := by
  induction families with
  | nil =>
    intro done summary
    apply Alike.pure
  | cons family families ih =>
    intro done summary
    apply Alike.bind (alike_processFamily ha hb source summary family)
    intro summary
    apply Alike.bind (alike_progress _)
    intro _
    exact ih (done + 1) summary

theorem alike_processFonts (source : Fonts.Source) (families : List String) :
    Alike (TwinBenches a b) (processFonts source families) := by
  apply Alike.bind (alike_enter _)
  intro _
  apply Alike.bind (alike_progress _)
  intro _
  dsimp only
  split
  · apply Alike.bind (alike_say _)
    intro _
    apply Alike.bind (alike_progress _)
    intro _
    apply Alike.pure
  · apply Alike.bind (alike_processFamilies ha hb source _ families _ _)
    intro summary
    apply Alike.bind (alike_say _)
    intro _
    apply Alike.pure

theorem alike_prepare : Alike (TwinBenches a b) prepare := by
  apply Alike.bind (alike_onStorage (alike_document ha hb))
  intro r
  cases r with
  | none =>
    apply Alike.bind (alike_extract ha hb)
    intro name
    apply Alike.bind (alike_split ha hb name)
    intro images
    apply Alike.pure
  | some r =>
    have himages : Alike (TwinBenches a b) storedImages := by
      apply Alike.bind (alike_onStorage (alike_getKey ha hb .images))
      intro c
      rcases c with _ | _ | _ | _ | _ <;> apply Alike.pure
    apply Alike.bind (alike_say _)
    intro _
    apply Alike.bind himages
    intro images
    apply Alike.pure

theorem alike_fontsIfWanted (o : Design.Options) (source : Option Fonts.Source)
    (families : List String) : Alike (TwinBenches a b) (fontsIfWanted o source families) := by
  unfold fontsIfWanted
  split
  · next source _ =>
    apply Alike.bind (alike_processFonts ha hb source families)
    intro summary
    apply Alike.pure
  · apply Alike.pure

/-- The part of a run behind the document. -/
theorem alike_behindPrepare (o : Design.Options) (source : Option Fonts.Source)
    (prepared : Bool × Nat) :
    Alike (TwinBenches a b) (do
      let (count, families) ← transform o
      let fonts ← fontsIfWanted o source families
      Job.enter .done
      Job.progress 100
      Job.say "Completed."
      Pure.pure ⟨prepared.1, prepared.2, count, families, fonts⟩ : Job Report) := by
  apply Alike.bind (alike_transform ha hb o)
  rintro ⟨count, families⟩
  apply Alike.bind (alike_fontsIfWanted ha hb o source families)
  intro fonts
  apply Alike.bind (alike_enter _)
  intro _
  apply Alike.bind (alike_progress _)
  intro _
  apply Alike.bind (alike_say _)
  intro _
  apply Alike.pure

theorem alike_steps (o : Design.Options) (source : Option Fonts.Source) :
    Alike (TwinBenches a b) (steps o source) := by
  have hremainder : Alike (TwinBenches a b) (remainder o source) :=
    Alike.bind (alike_prepare ha hb) (alike_behindPrepare ha hb o source)
  rw [steps_eq]
  split
  · apply Alike.bind (Alike.throw _)
    intro _
    exact hremainder
  · exact hremainder

omit ha hb in
/-- Where the steps of two runs come to the same, the runs do. -/
theorem TwinBenches.start {o : Design.Options} {source : Option Fonts.Source} {c c' : Bench}
    (h : ((steps o source).run c).1 = ((steps o source).run c').1 ∧
      TwinBenches a b ((steps o source).run c).2 ((steps o source).run c').2) :
    ((start o source).run c).1 = ((start o source).run c').1 ∧
      TwinBenches a b ((start o source).run c).2 ((start o source).run c').2 := by
  obtain ⟨hresult, hbench⟩ := h
  rw [run_start, run_start]
  cases hc : (steps o source).run c with
  | mk r d =>
    cases hc' : (steps o source).run c' with
    | mk r' d' =>
      rw [hc, hc'] at hresult hbench
      obtain rfl : r = r' := hresult
      cases r with
      | ok report => exact ⟨rfl, hbench⟩
      | error f =>
        exact ⟨rfl, hbench.storage,
          congrArg (·.restart ("Error: " ++ f.display)) hbench.meter, rfl⟩

/-- **Runs are alike on storages with the same records.** -/
theorem alike_start (o : Design.Options) (source : Option Fonts.Source) :
    Alike (TwinBenches a b) (start o source) :=
  fun c c' h => TwinBenches.start (alike_steps ha hb o source c c' h)

end Run

/-! ## Packaging -/

namespace Package

theorem alike_storedImages : Alike (Twins a b) storedImages := by
  apply Alike.bind (alike_getKey ha hb .images)
  intro c
  rcases c with _ | _ | _ | _ | _ <;> apply Alike.pure

theorem alike_storedFonts : Alike (Twins a b) storedFonts := by
  apply Alike.bind (Fonts.alike_load ha hb)
  intro fonts
  apply Alike.pure

theorem alike_storedCode : Alike (Twins a b) storedCode := by
  apply Alike.bind (alike_getKey ha hb .code)
  intro c
  rcases c with _ | _ | _ | _ | _ <;> apply Alike.pure

theorem alike_baseName : Alike (Twins a b) baseName := by
  apply Alike.bind (alike_document ha hb)
  intro r
  cases r with
  | none => apply Alike.pure
  | some r =>
    dsimp only
    split <;> apply Alike.pure

omit ha hb in
theorem alike_packAll (level : Int) (total : Nat) (ms : List Zip.Member) :
    ∀ (used : List String) (written : Nat),
      Alike (TwinBenches a b) (packAll level total used written ms) := by
  induction ms with
  | nil => exact fun _ _ => .pure ()
  | cons m ms ih =>
    intro used written c c' h
    rw [run_packAll_cons, run_packAll_cons]
    split
    · exact ⟨rfl, h⟩
    · apply ih
      unfold reportMember
      split
      · exact (alike_progress (packProgress (written + 1) total) c c' h).2
      · exact h

theorem alike_finish (millis : String) (level : Int) (ms : List Zip.Member) :
    Alike (TwinBenches a b) (finish millis level ms) := by
  apply Alike.bind (alike_onStorage (alike_baseName ha hb))
  intro base
  have hpack : Alike (TwinBenches a b) (pack level ms) := by
    apply Alike.bind (alike_packAll level _ ms _ _)
    intro _
    apply Alike.pure
  apply Alike.bind hpack
  intro bytes
  apply Alike.bind (alike_progress _)
  intro _
  apply Alike.bind (alike_say _)
  intro _
  apply Alike.pure

/-- **Packages are alike on storages with the same records.** -/
theorem alike_build (millis : String) (level : Int) :
    Alike (TwinBenches a b) (build millis level) := by
  unfold build
  apply Alike.bind (alike_progress _)
  intro _
  apply Alike.bind (alike_say _)
  intro _
  apply Alike.bind (alike_onStorage (alike_storedImages ha hb))
  intro images
  apply Alike.bind (alike_progress _)
  intro _
  apply Alike.bind (alike_onStorage (alike_storedFonts ha hb))
  intro fonts
  apply Alike.bind (alike_progress _)
  intro _
  apply Alike.bind (alike_onStorage (alike_storedCode ha hb))
  intro code
  apply Alike.bind (alike_progress _)
  intro _
  have hfinish := alike_finish ha hb millis level (images ++ fonts ++ code)
  dsimp only
  split
  · apply Alike.bind (Alike.throw _)
    intro _
    exact hfinish
  · exact hfinish

end Package

end

end QmlExport
