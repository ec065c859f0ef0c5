import QmlExport.Proofs.Progress
import QmlExport.Proofs.Run.Outcome

/-!
# The milestones of a run

A run reports how far it has come. `Tells b j full stop` says of a job, started on the bench `b`, which
percentages it reports: `full` if it comes through, and `stop` if it fails. The rules follow the steps
of a job, and what is heard of a run is put together from its stages:

    extract  split   transform   fonts              done
     5 20    25 40   45 60 65    70, 70 + 25 i / n   100

Reports that never decrease are all delivered (`delivered_hear`). So **a run that comes through is
heard with exactly its milestones, and a failed one stops short of them** (`start_milestones`).
-/

namespace QmlExport

/-! ## Shares -/

/-- The share of what is done is not more than the whole span. -/
theorem share_le {done total : Nat} (span : Nat) (h : done ≤ total) : span * done / total ≤ span := by
  apply Nat.div_le_of_le_mul
  rw [Nat.mul_comm total]
  exact Nat.mul_le_mul_left span h

/-- The shares of one more thing done each time do not decrease. -/
theorem sorted_shares (first span total : Nat) :
    ((List.range' 1 total).map fun i => first + span * i / total).Pairwise (· ≤ ·) := by
  apply List.pairwise_map.2
  apply List.Pairwise.imp _ List.pairwise_lt_range'
  intro i j hij
  have hmul : span * i ≤ span * j := Nat.mul_le_mul_left span (Nat.le_of_lt hij)
  exact Nat.add_le_add_left (Nat.div_le_div_right hmul) first

namespace Run

open Store Upload

variable {α β : Type}

/-- What a job reports, started on the bench `b`: percentages with `full` if it comes through, and
with `stop` if it fails. -/
def Tells (b : Bench) (j : Job α) (full : α → List Nat → Prop) (stop : List Nat → Prop) : Prop :=
  ∃ events : List Event, (j.run b).2.meter = events.foldl Meter.hear b.meter ∧
    match (j.run b).1 with
    | .ok a => full a (percentages events)
    | .error _ => stop (percentages events)

/-- A step that reports no percentages. -/
def Silent (x : Job α) : Prop := ∀ b, Tells b x (fun _ l => l = []) fun l => l = []

/-- A step that reports no percentages and does not fail. -/
def Calm (x : Job α) : Prop := ∀ b, Tells b x (fun _ l => l = []) fun _ => False

namespace Tells

variable {b : Bench} {full : β → List Nat → Prop} {stop : List Nat → Prop}

theorem pure {a : β} (h : full a []) : Tells b (Pure.pure a) full stop := ⟨[], rfl, h⟩

theorem throw {f : Failure} (h : stop []) :
    Tells b (MonadExcept.throw f : Job β) full stop := ⟨[], rfl, h⟩

theorem bind {x : Job α} {k : α → Job β} {first : α → List Nat → Prop} {stop₁ : List Nat → Prop}
    (hx : Tells b x first stop₁)
    (hk : ∀ a l b', first a l →
      Tells b' (k a) (fun c l' => full c (l ++ l')) fun l' => stop (l ++ l'))
    (hstop : ∀ l, stop₁ l → stop l) : Tells b (x >>= k) full stop := by
  obtain ⟨events, hmeter, hsaid⟩ := hx
  unfold Tells
  rw [run_bind]
  cases hrun : x.run b with
  | mk r b₁ =>
    rw [hrun] at hmeter hsaid
    cases r with
    | error f => exact ⟨events, hmeter, hstop _ hsaid⟩
    | ok a =>
      obtain ⟨events', hmeter', hsaid'⟩ := hk a _ b₁ hsaid
      refine ⟨events ++ events', ?_, ?_⟩
      · rw [List.foldl_append, ← hmeter]
        exact hmeter'
      · rw [percentages, List.filterMap_append]
        exact hsaid'

theorem congr {j : Job β} {full' : β → List Nat → Prop} {stop' : List Nat → Prop}
    (h : Tells b j full' stop') (hfull : ∀ c l, full' c l → full c l)
    (hstop : ∀ l, stop' l → stop l) : Tells b j full stop := by
  obtain ⟨events, hmeter, hsaid⟩ := h
  refine ⟨events, hmeter, ?_⟩
  cases hr : (j.run b).1 with
  | ok c =>
    rw [hr] at hsaid
    exact hfull c _ hsaid
  | error f =>
    rw [hr] at hsaid
    exact hstop _ hsaid

/-- A step without percentages, which may fail. -/
theorem silent {x : Job α} {k : α → Job β} (hx : Silent x) (hstop : stop [])
    (hk : ∀ a b', Tells b' (k a) full stop) : Tells b (x >>= k) full stop := by
  apply bind (hx b)
  · rintro a _ b' rfl
    exact hk a b'
  · rintro _ rfl
    exact hstop

theorem calm {x : Job α} {k : α → Job β} (hx : Calm x) (hk : ∀ a b', Tells b' (k a) full stop) :
    Tells b (x >>= k) full stop := by
  apply bind (hx b)
  · rintro a _ b' rfl
    exact hk a b'
  · exact fun _ => False.elim

theorem progress {percent : Nat} {k : Unit → Job β}
    (hk : ∀ b', Tells b' (k ()) (fun c l => full c (percent :: l)) fun l => stop (percent :: l)) :
    Tells b (Job.progress percent >>= k) full stop := by
  have hx : Tells b (Job.progress percent) (fun _ l => l = [percent]) fun _ => False :=
    ⟨[.progress percent], rfl, rfl⟩
  apply bind hx
  · rintro _ _ b' rfl
    exact hk b'
  · exact fun _ => False.elim

end Tells

theorem calm_enter (stage : Stage) : Calm (Job.enter stage) := fun _ => ⟨[], rfl, rfl⟩

theorem calm_say (line : String) : Calm (Job.say line) :=
  fun _ => ⟨[.log ⟨.append, line⟩], rfl, rfl⟩

theorem calm_attempt (a : Action α) : Calm (Job.attempt a) := fun _ => ⟨[], rfl, rfl⟩

theorem silent_onStorage (a : Action α) : Silent (Job.onStorage a) := by
  intro b
  refine ⟨[], rfl, ?_⟩
  split <;> rfl

theorem silent_ofExcept (x : Except Failure α) : Silent (MonadExcept.ofExcept x) := by
  intro b
  cases x with
  | ok a => exact .pure rfl
  | error f => exact .throw rfl

/-! ## The stages -/

theorem tells_extract (b : Bench) : Tells b extract (fun _ l => l = [5, 20]) fun l => l = [5] := by
  apply Tells.calm (calm_enter _)
  intro _ _
  apply Tells.progress
  intro _
  apply Tells.calm (calm_say _)
  intro _ _
  apply Tells.silent (silent_onStorage _) (by rfl)
  intro c _
  rcases c with _ | ⟨name, bytes⟩ | _ | _ | _
  case some.upload =>
    apply Tells.silent (silent_ofExcept _) (by rfl)
    intro _ _
    apply Tells.silent (silent_onStorage _) (by rfl)
    intro _ _
    apply Tells.silent (silent_onStorage _) (by rfl)
    intro _ _
    apply Tells.progress
    intro _
    apply Tells.calm (calm_say _)
    intro _ _
    exact .pure rfl
  all_goals exact .throw rfl

theorem tells_split (name : String) (b : Bench) :
    Tells b (split name) (fun _ l => l = [25, 40]) fun l => l = [25] := by
  apply Tells.calm (calm_enter _)
  intro _ _
  apply Tells.progress
  intro _
  apply Tells.silent (silent_onStorage _) (by rfl)
  intro c _
  rcases c with _ | _ | files | _ | _
  case some.files =>
    apply Tells.silent (silent_ofExcept _) (by rfl)
    intro document b
    have hdocument : ∀ (b : Bench) (count : Nat), Tells b (do
        Job.onStorage (putDocument (.of name document))
        Job.onStorage (putContent Key.extractedFiles.name none)
        Job.progress 40
        Job.say "Loading metadata succeeded."
        Pure.pure count) (fun _ l => 25 :: l = [25, 40]) fun l => 25 :: l = [25] := by
      intro b count
      apply Tells.silent (silent_onStorage _) (by rfl)
      intro _ _
      apply Tells.silent (silent_onStorage _) (by rfl)
      intro _ _
      apply Tells.progress
      intro _
      apply Tells.calm (calm_say _)
      intro _ _
      exact .pure rfl
    dsimp only
    split
    · exact hdocument b _
    · apply Tells.silent (silent_onStorage _) (by rfl)
      intro _ b
      exact hdocument b _
  all_goals exact .throw rfl

theorem tells_transform (o : Design.Options) (b : Bench) :
    Tells b (transform o) (fun _ l => l = [45, 60, 65]) fun l => l <+: [45, 60] := by
  apply Tells.calm (calm_enter _)
  intro _ _
  apply Tells.progress
  intro _
  apply Tells.silent (silent_onStorage _) (by decide)
  intro r _
  cases r with
  | none => exact .throw (by decide)
  | some r =>
    apply Tells.calm (calm_enter _)
    intro _ _
    apply Tells.progress
    intro _
    apply Tells.silent (silent_onStorage _) (by decide)
    intro _ b
    have hsaid : ∀ b : Bench, Tells b (do
        Job.progress 65
        Job.say ("Generated " ++ numberText (Code.countFiles (Code.generate o r.document).1) ++
          " QML file(s).")
        Pure.pure (Code.countFiles (Code.generate o r.document).1,
          (Code.generate o r.document).2))
        (fun _ l => 45 :: 60 :: l = [45, 60, 65]) fun l => 45 :: 60 :: l <+: [45, 60] := by
      intro b
      apply Tells.progress
      intro _
      apply Tells.calm (calm_say _)
      intro _ _
      exact .pure rfl
    dsimp only
    split
    · exact hsaid b
    · apply Tells.silent (silent_onStorage _) (by decide)
      intro _ b
      exact hsaid b

/-! ## Fonts -/

/-- What is heard of so many families. -/
def familyMilestones (total : Nat) : List Nat :=
  (List.range' 1 total).map fun i => 70 + 25 * i / total

/-- What is heard of the fonts of a document with so many families. -/
def fontMilestones (total : Nat) : List Nat :=
  70 :: if total = 0 then [95] else familyMilestones total

theorem fontProgress_eq {done total : Nat} (h : done ≤ total) (hpos : 0 < total) :
    fontProgress done total = 70 + 25 * done / total := by
  unfold fontProgress
  rw [Nat.max_eq_left hpos, Nat.min_eq_left (share_le 25 h)]

theorem calm_downloadReported (source : Fonts.Source) (summary : FontSummary) (family : String) :
    Calm (downloadReported source summary family) := by
  intro b
  apply Tells.calm (calm_say _)
  intro _ _
  apply Tells.calm (calm_attempt _)
  intro r _
  cases r with
  | ok _ =>
    apply Tells.calm (calm_say _)
    intro _ _
    exact .pure rfl
  | error f =>
    apply Tells.calm (calm_say _)
    intro _ _
    exact .pure rfl

/-- A family is no milestone of its own. -/
theorem calm_processFamily (source : Fonts.Source) (summary : FontSummary) (family : String) :
    Calm (processFamily source summary family) := by
  intro b
  have hdownload := calm_downloadReported source summary family
  have hskip : Calm (do
      Job.say ("Skipping " ++ family ++ ", already downloaded.")
      Pure.pure { summary with skipped := summary.skipped + 1 }) := by
    intro b
    apply Tells.calm (calm_say _)
    intro _ _
    exact .pure rfl
  apply Tells.calm (calm_attempt _)
  intro stored b
  rcases stored with f | stored
  · exact hdownload b
  · cases stored with
    | true => exact hskip b
    | false => exact hdownload b

theorem tells_processFamilies (source : Fonts.Source) (total : Nat) (families : List String) :
    ∀ (done : Nat) (summary : FontSummary) (b : Bench),
      Tells b (processFamilies source total done summary families)
        (fun _ l => l = (List.range' (done + 1) families.length).map (fontProgress · total))
        fun _ => False := by
  induction families with
  | nil =>
    intro done summary b
    exact .pure rfl
  | cons family families ih =>
    intro done summary b
    apply Tells.calm (calm_processFamily source summary family)
    intro summary _
    apply Tells.progress
    intro b
    -- the percentage of this family stands in front of those of the others
    apply Tells.congr (ih (done + 1) summary b)
    · rintro _ l rfl
      simp [List.range'_succ]
    · exact fun _ => False.elim

theorem tells_processFonts (source : Fonts.Source) (families : List String) (b : Bench) :
    Tells b (processFonts source families) (fun _ l => l = fontMilestones families.length)
      fun _ => False := by
  apply Tells.calm (calm_enter _)
  intro _ _
  apply Tells.progress
  intro b
  dsimp only
  split
  · next hempty =>
    apply Tells.calm (calm_say _)
    intro _ _
    apply Tells.progress
    intro _
    apply Tells.pure
    rw [fontMilestones, if_pos hempty]
  · next hsome =>
    apply Tells.bind (tells_processFamilies source families.length families 0 _ b)
    · rintro summary _ b rfl
      apply Tells.calm (calm_say _)
      intro _ _
      apply Tells.pure
      rw [fontMilestones, if_neg hsome, List.append_nil, familyMilestones]
      refine congrArg _ (List.map_congr_left fun i hi => ?_)
      have hrange := List.mem_range'.1 hi
      exact fontProgress_eq (by omega) (by omega)
    · exact fun _ => False.elim

/-! ## Runs -/

/-- Whether a run on this storage starts at the stored document. -/
def resumes (s : Storage) : Bool :=
  match s.document with
  | .ok (some _) => true
  | _ => false

/-- What is heard before the code is generated. -/
def preparedMilestones (resumed : Bool) : List Nat := if resumed then [] else [5, 20, 25, 40]

/-- The milestones of a run, with the fonts of so many families if they are wanted. -/
def milestones (resumed withFonts : Bool) (families : Nat) : List Nat :=
  preparedMilestones resumed ++ [45, 60, 65] ++
    (if withFonts then fontMilestones families else []) ++ [100]

theorem tells_getDocument (b : Bench) :
    Tells b (Job.onStorage getDocument)
      (fun r l => b.storage.document = .ok r ∧ l = []) fun l => l = [] := by
  refine ⟨[], rfl, ?_⟩
  have hresult : ((Job.onStorage getDocument).run b).1 = b.storage.document :=
    congrArg Prod.fst b.storage.run_getDocument
  rw [hresult]
  cases b.storage.document with
  | ok r => exact ⟨rfl, rfl⟩
  | error f => exact rfl

theorem silent_storedImages : Silent storedImages := by
  intro b
  apply Tells.silent (silent_onStorage _) (by rfl)
  intro c _
  rcases c with _ | _ | _ | _ | _ <;> exact .pure rfl

theorem tells_prepare (b : Bench) :
    Tells b prepare
      (fun p l => p.1 = resumes b.storage ∧ l = preparedMilestones (resumes b.storage))
      fun l => l <+: preparedMilestones (resumes b.storage) := by
  apply Tells.bind (tells_getDocument b)
  · rintro r _ b' ⟨hr, rfl⟩
    unfold resumes
    rw [hr]
    cases r with
    | none =>
      apply Tells.bind (tells_extract b')
      · rintro name _ b' rfl
        apply Tells.bind (tells_split name b')
        · rintro images _ _ rfl
          exact .pure ⟨rfl, rfl⟩
        · rintro _ rfl
          decide
      · rintro _ rfl
        decide
    | some r =>
      apply Tells.calm (calm_say _)
      intro _ _
      apply Tells.silent silent_storedImages (by exact List.nil_prefix)
      intro _ _
      exact .pure ⟨rfl, rfl⟩
  · rintro _ rfl
    exact List.nil_prefix

theorem tells_fontsIfWanted {o : Design.Options} {source : Option Fonts.Source}
    (hsource : o.downloadFonts = true → source ≠ none) (families : List String) (b : Bench) :
    Tells b (fontsIfWanted o source families)
      (fun _ l => l = if o.downloadFonts then fontMilestones families.length else [])
      fun _ => False := by
  unfold fontsIfWanted
  cases ho : o.downloadFonts with
  | false => exact .pure rfl
  | true =>
    cases source with
    | none => exact absurd rfl (hsource ho)
    | some source =>
      apply Tells.bind (tells_processFonts source families b)
      · rintro summary _ _ rfl
        exact .pure (List.append_nil _)
      · exact fun _ => False.elim

/-- **A run tells its milestones, or those before the failure.** -/
theorem tells_steps (o : Design.Options) (source : Option Fonts.Source) (b : Bench) :
    Tells b (steps o source)
      (fun report l => report.resumed = resumes b.storage ∧
        l = milestones report.resumed o.downloadFonts report.fontFamilies.length)
      fun l => l <+: preparedMilestones (resumes b.storage) ++ [45, 60] := by
  rw [steps_eq]
  split
  · have hthrow : Tells b (MonadExcept.throw noSource : Job Unit) (fun _ _ => False)
        fun l => l = [] := .throw rfl
    apply Tells.bind hthrow
    · exact fun _ _ _ => False.elim
    · rintro _ rfl
      exact List.nil_prefix
  · next hchecked =>
    have hsource : o.downloadFonts = true → source ≠ none := by
      rintro ho rfl
      exact hchecked (by rw [ho]; rfl)
    apply Tells.bind (tells_prepare b)
    · rintro ⟨resumed, images⟩ _ b' ⟨rfl, rfl⟩
      apply Tells.bind (tells_transform o b')
      · rintro ⟨count, families⟩ _ b' rfl
        apply Tells.bind (tells_fontsIfWanted hsource families b')
        · rintro fonts _ _ rfl
          apply Tells.calm (calm_enter _)
          intro _ _
          apply Tells.progress
          intro _
          apply Tells.calm (calm_say _)
          intro _ _
          apply Tells.pure
          simp [milestones]
        · exact fun _ => False.elim
      · exact fun l h => (List.prefix_append_right_inj _).2 h
    · exact fun l h => h.trans (List.prefix_append _ _)

/-! ## The ends of a run -/

/-- A job that comes through is done, and has said so last. -/
def Finishes (j : Job Report) : Prop :=
  ∀ b report, (j.run b).1 = .ok report → (j.run b).2.stage = .done ∧
    (j.run b).2.meter.delivered.head? = some (.log ⟨.append, "Completed."⟩)

theorem Finishes.bind {x : Job α} {k : α → Job Report} (hk : ∀ a, Finishes (k a)) :
    Finishes (x >>= k) := by
  intro b report h
  rw [run_bind] at h ⊢
  cases hrun : x.run b with
  | mk r b' =>
    rw [hrun] at h
    cases r with
    | error f => cases h
    | ok a => exact hk a b' report h

theorem finishes_steps (o : Design.Options) (source : Option Fonts.Source) :
    Finishes (steps o source) := by
  have hremainder : Finishes (remainder o source) := by
    apply Finishes.bind
    rintro ⟨resumed, images⟩
    apply Finishes.bind
    rintro ⟨count, families⟩
    apply Finishes.bind
    intro fonts b report _
    exact ⟨rfl, rfl⟩
  rw [steps_eq]
  split
  · apply Finishes.bind
    exact fun _ => hremainder
  · exact hremainder

/-! ## Milestones in order -/

theorem mem_fontMilestones {total p : Nat} (h : p ∈ fontMilestones total) : 70 ≤ p ∧ p ≤ 95 := by
  unfold fontMilestones at h
  rcases List.mem_cons.1 h with rfl | h
  · omega
  · split at h
    · rw [List.mem_singleton.1 h]
      omega
    · obtain ⟨i, hi, rfl⟩ := List.mem_map.1 h
      have hrange := List.mem_range'.1 hi
      exact ⟨Nat.le_add_right _ _, Nat.add_le_add_left (share_le 25 (by omega)) 70⟩

theorem sorted_fontMilestones (total : Nat) : (fontMilestones total).Pairwise (· ≤ ·) := by
  apply List.pairwise_cons.2
  refine ⟨fun p hp => (mem_fontMilestones (List.mem_cons_of_mem _ hp)).1, ?_⟩
  split
  · exact List.pairwise_singleton _ _
  · exact sorted_shares 70 25 total

theorem mem_milestones {resumed withFonts : Bool} {families p : Nat}
    (h : p ∈ milestones resumed withFonts families) : p ≤ 100 := by
  have hfront : ∀ q ∈ preparedMilestones resumed ++ [45, 60, 65], q ≤ 65 := by
    cases resumed <;> decide
  unfold milestones at h
  rw [List.mem_append, List.mem_append] at h
  rcases h with (h | h) | h
  · have hle := hfront p h
    omega
  · split at h
    · have hle := (mem_fontMilestones h).2
      omega
    · cases h
  · exact Nat.le_of_eq (List.mem_singleton.1 h)

theorem sorted_milestones (resumed withFonts : Bool) (families : Nat) :
    (milestones resumed withFonts families).Pairwise (· ≤ ·) := by
  have hfront : (preparedMilestones resumed ++ [45, 60, 65]).Pairwise (· ≤ ·) ∧
      ∀ q ∈ preparedMilestones resumed ++ [45, 60, 65], q ≤ 65 := by
    cases resumed <;> decide
  have hfonts : (if withFonts then fontMilestones families else []).Pairwise (· ≤ ·) ∧
      ∀ q ∈ (if withFonts then fontMilestones families else []), 70 ≤ q ∧ q ≤ 95 := by
    cases withFonts with
    | false => exact ⟨.nil, nofun⟩
    | true => exact ⟨sorted_fontMilestones families, fun q => mem_fontMilestones⟩
  unfold milestones
  apply List.pairwise_append.2
  refine ⟨List.pairwise_append.2 ⟨hfront.1, hfonts.1, ?_⟩, List.pairwise_singleton _ _, ?_⟩
  · intro p hp q hq
    have hle := hfront.2 p hp
    have hge := hfonts.2 q hq
    omega
  · intro p hp q hq
    rw [List.mem_singleton.1 hq]
    exact @mem_milestones resumed withFonts families p (List.mem_append_left _ hp)

/-- What is heard of a run before it fails is less than all of its milestones. -/
theorem stopped_short {resumed withFonts : Bool} {families : Nat} {l : List Nat}
    (h : l <+: preparedMilestones resumed ++ [45, 60]) :
    l <+: milestones resumed withFonts families ∧ l ≠ milestones resumed withFonts families := by
  have hrest : milestones resumed withFonts families =
      preparedMilestones resumed ++ [45, 60] ++
        (65 :: ((if withFonts then fontMilestones families else []) ++ [100])) := by
    simp [milestones]
  rw [hrest]
  refine ⟨h.trans (List.prefix_append _ _), fun heq => ?_⟩
  have hlength := h.length_le
  rw [heq, List.length_append, List.length_cons] at hlength
  omega

end Run

end QmlExport
