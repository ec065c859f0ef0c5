import QmlExport.Proofs.Run.Fonts
import QmlExport.Proofs.Run.Preparation
import QmlExport.Proofs.Run.Transformation

/-!
# The ways a run can end

`Outcome` puts the stages of a run together: it lists every way in which a run can end, with all that
was checked on that way.

**On a reliable storage every run ends in one of these ways** (`outcome_start`). A run sees nothing of
a bench but its storage (`run_congr`).
-/

namespace QmlExport.Run

open Store Upload

/-- The ways in which a run ends. -/
inductive Outcome (o : Design.Options) (source : Option Fonts.Source) (s : Storage) :
    Except Failure Report → Storage → Prop
  | noSource (ho : o.downloadFonts = true) (hn : source = none) :
    Outcome o source s (.error noSource) s
  | unprepared {f t} (ho : o.downloadFonts = true → source ≠ none)
    (hp : Prepares s (.error f) t) : Outcome o source s (.error f) t
  | untransformed {p f t u} (ho : o.downloadFonts = true → source ≠ none)
    (hp : Prepares s (.ok p) t) (ht : Transforms o t (.error f) u) :
    Outcome o source s (.error f) u
  | withoutFonts {resumed images count families t u} (ho : o.downloadFonts = false)
    (hp : Prepares s (.ok (resumed, images)) t) (ht : Transforms o t (.ok (count, families)) u) :
    Outcome o source s (.ok ⟨resumed, images, count, families, none⟩) u
  | withFonts {resumed images count families summary t u v} (ho : o.downloadFonts = true)
    (hsource : source ≠ none) (hp : Prepares s (.ok (resumed, images)) t)
    (ht : Transforms o t (.ok (count, families)) u) (hf : Fetches families u v) :
    Outcome o source s (.ok ⟨resumed, images, count, families, some summary⟩) v

section

variable {o : Design.Options} {source : Option Fonts.Source} {s t u : Storage}
  {r : Except Failure Report}

/-- A run that does not get at the document ends there. -/
theorem Outcome.of_unprepared {f : Failure} (hp : Prepares s (.error f) u)
    (ho : o.downloadFonts = true → source ≠ none) (h : Outcome o source s r t) :
    r = .error f ∧ t = u := by
  cases h with
  | noSource ho' hn => exact absurd hn (ho ho')
  | unprepared _ hp' =>
    obtain ⟨heq, hsame⟩ := hp'.unique hp
    exact ⟨congrArg Except.error (Except.error.inj heq), hsame⟩
  | untransformed _ hp' _ | withoutFonts _ hp' _ | withFonts _ _ hp' _ _ =>
    cases (hp'.unique hp).1

/-- A run without fonts that gets at the document comes to what its transformation comes to. -/
theorem Outcome.of_prepared {p : Bool × Nat} (hp : Prepares s (.ok p) u)
    (ho : o.downloadFonts = false) (h : Outcome o source s r t) :
    (∃ f, r = .error f ∧ Transforms o u (.error f) t) ∨
      ∃ report q, r = .ok report ∧ Transforms o u (.ok q) t := by
  cases h with
  | noSource ho' => rw [ho] at ho'; cases ho'
  | unprepared _ hp' => cases (hp'.unique hp).1
  | untransformed _ hp' ht => exact .inl ⟨_, rfl, (hp'.unique hp).2 ▸ ht⟩
  | withoutFonts _ hp' ht => exact .inr ⟨_, _, rfl, (hp'.unique hp).2 ▸ ht⟩
  | withFonts ho' => rw [ho] at ho'; cases ho'

end

theorem run_start (o : Design.Options) (source : Option Fonts.Source) (b : Bench) :
    (start o source).run b =
      match (steps o source).run b with
      | (.ok report, b) => (.ok report, b)
      | (.error f, b) =>
        (.error f, { b with stage := .idle, meter := b.meter.restart ("Error: " ++ f.display) }) :=
  rfl

theorem ends_start {o : Design.Options} {source : Option Fonts.Source} {s t : Storage}
    {r : Except Failure Report} (h : Ends (steps o source) s r t) : Ends (start o source) s r t := by
  intro b hb
  obtain ⟨b', hrun, hb'⟩ := h b hb
  rw [run_start, hrun]
  cases r with
  | ok report => exact ⟨b', rfl, hb'⟩
  | error f => exact ⟨_, rfl, hb'⟩

/-- The part of a run behind the first check. -/
def remainder (o : Design.Options) (source : Option Fonts.Source) : Job Report := do
  let (resumed, images) ← prepare
  let (count, families) ← transform o
  let fonts ← fontsIfWanted o source families
  Job.enter .done
  Job.progress 100
  Job.say "Completed."
  Pure.pure ⟨resumed, images, count, families, fonts⟩

theorem steps_eq (o : Design.Options) (source : Option Fonts.Source) :
    steps o source =
      if o.downloadFonts && source.isNone then
        MonadExcept.throw noSource >>= fun _ : Unit => remainder o source
      else remainder o source := rfl

/-- A run that came through has passed the first check. -/
theorem remainder_of_ok {o : Design.Options} {source : Option Fonts.Source} {b b' : Bench}
    {report : Report} (h : (start o source).run b = (.ok report, b')) :
    (o.downloadFonts = true → source ≠ none) ∧
      (remainder o source).run b = (.ok report, b') := by
  have hsteps : (steps o source).run b = (.ok report, b') := by
    rw [run_start] at h
    split at h
    · next hrun => rw [hrun, h]
    · cases h
  rw [steps_eq] at hsteps
  split at hsteps
  · obtain ⟨_, _, hthrow, _⟩ := run_bind_eq_ok hsteps
    cases hthrow
  · next hchecked =>
    refine ⟨?_, hsteps⟩
    rintro ho rfl
    exact hchecked (by rw [ho]; rfl)

theorem ends_fontsIfWanted_off {o : Design.Options} (ho : o.downloadFonts = false)
    (source : Option Fonts.Source) (families : List String) (s : Storage) :
    Ends (fontsIfWanted o source families) s (.ok none) s := by
  unfold fontsIfWanted
  rw [ho]
  exact .pure _ _

theorem ends_fontsIfWanted_on {o : Design.Options} (ho : o.downloadFonts = true)
    {source : Fonts.Source} {families : List String} {s t : Storage} {summary : FontSummary}
    (h : Ends (processFonts source families) s (.ok summary) t) :
    Ends (fontsIfWanted o (some source) families) s (.ok (some summary)) t := by
  unfold fontsIfWanted
  rw [ho]
  exact .bind h (.pure _ _)

/-- How a run ends that has come through. -/
theorem ends_done (report : Report) (s : Storage) :
    Ends (do
      Job.enter .done
      Job.progress 100
      Job.say "Completed."
      Pure.pure report) s (.ok report) s :=
  .bind (.enter _ _) (.bind (.progress _ _) (.bind (.say _ _) (.pure _ _)))

section

variable {P : Storage → Prop} (hP : Reliable P) {s : Storage}

include hP

theorem Outcome.stays {o : Design.Options} {source : Option Fonts.Source} {t : Storage}
    {r : Except Failure Report} (h : Outcome o source s r t) (hs : P s) : P t := by
  cases h with
  | noSource => exact hs
  | unprepared _ hp => exact hp.stays hP hs
  | untransformed _ hp ht | withoutFonts _ hp ht => exact ht.stays hP (hp.stays hP hs)
  | withFonts _ _ hp ht hf => exact hf.stays hP (ht.stays hP (hp.stays hP hs))

/-- Once the code is there, fonts or no fonts, a run comes through. -/
theorem outcome_transformed {o : Design.Options} {source : Option Fonts.Source} {t u : Storage}
    {resumed : Bool} {images count : Nat} {families : List String}
    (hsource : o.downloadFonts = true → source ≠ none)
    (hprepares : Prepares s (.ok (resumed, images)) t)
    (htransforms : Transforms o t (.ok (count, families)) u) (hu : P u) :
    ∃ r v, Outcome o source s r v ∧ Ends (do
      let fonts ← fontsIfWanted o source families
      Job.enter .done
      Job.progress 100
      Job.say "Completed."
      Pure.pure ⟨resumed, images, count, families, fonts⟩) u r v := by
  cases ho : o.downloadFonts with
  | false =>
    exact ⟨_, u, .withoutFonts ho hprepares htransforms,
      .bind (ends_fontsIfWanted_off ho source families u) (ends_done _ _)⟩
  | true =>
    cases source with
    | none => exact absurd rfl (hsource ho)
    | some source =>
      have hfonts := ends_processFonts hP source families hu
      have hfetches := fetches_foldl source families u
      exact ⟨_, _, .withFonts ho (hsource ho) hprepares htransforms hfetches,
        .bind (ends_fontsIfWanted_on ho hfonts) (ends_done _ _)⟩

/-- **Every run ends in one of its ways.** -/
theorem outcome_start (hs : P s) (o : Design.Options) (source : Option Fonts.Source) :
    ∃ r t, Outcome o source s r t ∧ Ends (start o source) s r t := by
  suffices h : ∃ r t, Outcome o source s r t ∧ Ends (steps o source) s r t by
    obtain ⟨r, t, hout, hends⟩ := h
    exact ⟨r, t, hout, ends_start hends⟩
  rw [steps_eq]
  split
  · next hnone =>
    simp only [Bool.and_eq_true, Option.isNone_iff_eq_none] at hnone
    exact ⟨_, s, .noSource hnone.1 hnone.2, .fail (.throw _ _)⟩
  · next hchecked =>
    have hsource : o.downloadFonts = true → source ≠ none := by
      rintro ho rfl
      exact hchecked (by rw [ho]; rfl)
    -- each stage starts on the storage that the one before it leaves
    obtain ⟨r, t, hprepares, hprepare⟩ := prepares_prepare hP hs
    have ht := hprepares.stays hP hs
    rcases r with f | ⟨resumed, images⟩
    · exact ⟨_, t, .unprepared hsource hprepares, .fail hprepare⟩
    obtain ⟨r, u, htransforms, htransform⟩ := transforms_transform hP ht o
    rcases r with f | ⟨count, families⟩
    · exact ⟨_, u, .untransformed hsource hprepares htransforms,
        .bind hprepare (.fail htransform)⟩
    have hu := htransforms.stays hP ht
    obtain ⟨r, v, hout, hrest⟩ := outcome_transformed hP hsource hprepares htransforms hu
    exact ⟨r, v, hout, .bind hprepare (.bind htransform hrest)⟩

/-- What is known of a run that has been made. -/
theorem outcome_of_run {o : Design.Options} {source : Option Fonts.Source} {b b' : Bench}
    {r : Except Failure Report} (hb : P b.storage) (h : (start o source).run b = (r, b')) :
    Outcome o source b.storage r b'.storage ∧ P b'.storage := by
  obtain ⟨r', t, hout, hends⟩ := outcome_start hP hb o source
  obtain ⟨c, hrun, rfl⟩ := hends b rfl
  obtain ⟨rfl, rfl⟩ := Prod.mk.inj (hrun.symm.trans h)
  exact ⟨hout, hout.stays hP hb⟩

/-- A run sees nothing of a bench but its storage. -/
theorem run_congr {o : Design.Options} {source : Option Fonts.Source} {b c : Bench}
    (hb : P b.storage) (hc : c.storage = b.storage) :
    ((start o source).run c).1 = ((start o source).run b).1 := by
  obtain ⟨r, t, _, hends⟩ := outcome_start hP hb o source
  obtain ⟨b', hb', _⟩ := hends b rfl
  obtain ⟨c', hc', _⟩ := hends c hc
  rw [hb', hc']

end

end QmlExport.Run
