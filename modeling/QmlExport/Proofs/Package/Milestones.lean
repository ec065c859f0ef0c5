import QmlExport.Proofs.Package.Build
import QmlExport.Proofs.Run.Milestones

/-!
# The milestones of packaging

Packaging reports how far it has come: when it starts, behind each of the three things that it reads,
behind every file that it writes, and at the end.

    start  images  fonts  code      the i-th of n files      done
      0      10     20     40       40 + 55 i / n            100

Directories are written without a word. The share of the files never decreases and ends at 95, so
**packaging is heard with exactly its milestones** (`build_milestones`): a fresh meter delivers all
that is reported.
-/

namespace QmlExport.Package

open Store Job
open Run (Tells)
open Zip (Member)

/-! ## Shares of files -/

/-- What is heard of packing so many files. -/
def packMilestones (total : Nat) : List Nat :=
  [0, 10, 20, 40] ++ (List.range' 1 total).map (fun i => 40 + 55 * i / total) ++ [100]

theorem packProgress_le (written total : Nat) : packProgress written total ≤ 95 :=
  Nat.add_le_add_left (Nat.min_le_right _ _) 40

theorem packProgress_eq {written total : Nat} (h : written ≤ total) (hpos : 0 < total) :
    packProgress written total = 40 + 55 * written / total := by
  unfold packProgress
  rw [Nat.max_eq_left hpos, Nat.min_eq_left (share_le 55 h)]

/-- The last file brings the share to its end. -/
theorem packProgress_self {total : Nat} (h : 0 < total) : packProgress total total = 95 := by
  rw [packProgress_eq (Nat.le_refl _) h, Nat.mul_div_cancel 55 h]

/-- The shares of the files lie between those of reading and the end. -/
theorem mem_shares {total p : Nat}
    (h : p ∈ (List.range' 1 total).map fun i => 40 + 55 * i / total) : 40 ≤ p ∧ p ≤ 95 := by
  obtain ⟨i, hi, rfl⟩ := List.mem_map.1 h
  have hrange := List.mem_range'.1 hi
  exact ⟨Nat.le_add_right _ _, Nat.add_le_add_left (share_le 55 (by omega)) 40⟩

theorem mem_packMilestones {total p : Nat} (h : p ∈ packMilestones total) : p ≤ 100 := by
  have hread : ∀ q ∈ [0, 10, 20, 40], q ≤ 100 := by decide
  rw [packMilestones, List.mem_append, List.mem_append] at h
  rcases h with (h | h) | h
  · exact hread p h
  · exact (mem_shares h).2.trans (by decide)
  · exact Nat.le_of_eq (List.mem_singleton.1 h)

theorem sorted_packMilestones (total : Nat) : (packMilestones total).Pairwise (· ≤ ·) := by
  have hread : ∀ q ∈ [0, 10, 20, 40], q ≤ 40 := by decide
  refine List.pairwise_append.2 ⟨List.pairwise_append.2 ⟨by decide, sorted_shares 40 55 total, ?_⟩,
    List.pairwise_singleton _ _, ?_⟩
  · exact fun p hp q hq => (hread p hp).trans (mem_shares hq).1
  · intro p hp q hq
    rw [List.mem_singleton.1 hq]
    exact mem_packMilestones (List.mem_append_left _ hp)

/-! ## Steps -/

/-- **Each file that is written is reported, and no directory is.** -/
theorem tells_packAll (level : Int) (total : Nat) (ms : List Member) :
    ∀ (used : List String) (written : Nat) (b : Bench),
      Tells b (packAll level total used written ms)
        (fun _ l => l = (List.range' (written + 1) (countFiles ms)).map (packProgress · total))
        fun _ => True := by
  induction ms with
  | nil => exact fun _ _ _ => .pure rfl
  | cons m ms ih =>
    intro used written b
    unfold Tells
    rw [run_packAll_cons]
    split
    · exact ⟨[], rfl, trivial⟩
    · cases m with
      | directory path => exact ih _ _ b
      | file path bs =>
        -- the report of this file stands in front of those of the others
        have hrest : Tells b (Job.progress (packProgress (written + 1) total) >>= fun _ =>
            packAll level total (path :: used) (written + 1) ms)
            (fun _ l => l = (List.range' (written + 1) (countFiles (.file path bs :: ms))).map
              (packProgress · total)) fun _ => True := by
          apply Tells.progress
          intro b'
          apply Tells.congr (ih _ _ b')
          · rintro _ l rfl
            show _ = (List.range' (written + 1) (countFiles ms + 1)).map _
            rw [List.range'_succ, List.map_cons]
          · exact fun _ => id
        exact hrest

theorem tells_pack (level : Int) (ms : List Member) (b : Bench) :
    Tells b (pack level ms)
      (fun _ l => l = (List.range' 1 (countFiles ms)).map (packProgress · (countFiles ms)))
      fun _ => True := by
  apply Tells.bind (tells_packAll level (countFiles ms) ms [] 0 b)
  · rintro _ _ _ rfl
    exact .pure (List.append_nil _)
  · exact fun _ => id

theorem tells_finish (millis : String) (level : Int) (ms : List Member) (b : Bench) :
    Tells b (finish millis level ms)
      (fun packed l => l = (List.range' 1 packed.fileCount).map
        (packProgress · packed.fileCount) ++ [100])
      fun _ => True := by
  apply Tells.silent (Run.silent_onStorage _) trivial
  intro base b
  apply Tells.bind (tells_pack level ms b)
  · rintro bytes _ _ rfl
    apply Tells.progress
    intro _
    apply Tells.calm (Run.calm_say _)
    intro _ _
    exact .pure rfl
  · exact fun _ _ => trivial

/-- **Packaging tells its milestones.** -/
theorem tells_build (millis : String) (level : Int) (b : Bench) :
    Tells b (build millis level) (fun packed l => l = packMilestones packed.fileCount)
      fun _ => True := by
  have hshares : ∀ total, (List.range' 1 total).map (packProgress · total) =
      (List.range' 1 total).map fun i => 40 + 55 * i / total := by
    intro total
    apply List.map_congr_left
    intro i hi
    have hrange := List.mem_range'.1 hi
    exact packProgress_eq (by omega) (by omega)
  unfold build
  apply Tells.progress
  intro _
  apply Tells.calm (Run.calm_say _)
  intro _ _
  apply Tells.silent (Run.silent_onStorage _) trivial
  intro images _
  apply Tells.progress
  intro _
  apply Tells.silent (Run.silent_onStorage _) trivial
  intro fonts _
  apply Tells.progress
  intro _
  apply Tells.silent (Run.silent_onStorage _) trivial
  intro code _
  apply Tells.progress
  intro b
  have hfinish := tells_finish millis level (images ++ fonts ++ code) b
  simp only
  split
  · have hthrow : Tells b (MonadExcept.throw nothing : Job Unit) (fun _ _ => False)
        fun _ => True := .throw trivial
    exact .bind hthrow (fun _ _ _ => False.elim) fun _ _ => trivial
  · apply hfinish.congr
    · rintro packed l rfl
      rw [hshares]
      rfl
    · exact fun _ => id

/-! ## Packages -/

/-- What is heard of packing so many files. -/
structure Heard (total : Nat) (m : Meter) : Prop where
  /-- All that is reported is delivered, and these are the percentages. -/
  reports : ∃ events, m = events.foldl Meter.hear .fresh ∧ m.events = events ∧
    percentages events = packMilestones total
  /-- They do not decrease. -/
  sorted : (packMilestones total).Pairwise (· ≤ ·)
  /-- The last file brings the share to 95, and then everything is done. -/
  share : 40 + 55 * total / total = 95
  highest : m.highest = 100
  /-- The share that is computed fits into an octet, so that nothing is cut off. -/
  whole : ∀ written ≤ total, packProgress written total = 40 + 55 * written / total ∧
    (UInt8.ofNat (packProgress written total)).toNat = packProgress written total

/-- **A package is heard with exactly its milestones**, one for each file that the storage gives. -/
theorem build_milestones {millis : String} {level : Int} {b b' : Bench} {packed : Packed}
    (hfresh : b.meter = .fresh) (h : (build millis level).run b = (.ok packed, b')) :
    ∃ ms, collected b.storage = .ok ms ∧ 0 < countFiles ms ∧ packed.fileCount = countFiles ms ∧
      Heard (countFiles ms) b'.meter := by
  obtain ⟨ms, hms, hcount, hpacked, _, _⟩ := collected_of_build rfl h
  have hpos := Nat.pos_of_ne_zero hcount
  obtain ⟨events, hmeter, hsaid⟩ := tells_build millis level b
  rw [h] at hmeter hsaid
  have hsaid : percentages events = packMilestones packed.fileCount := hsaid
  rw [hfresh] at hmeter
  rw [hpacked] at hsaid
  obtain ⟨hevents, hhighest⟩ := Meter.events_hear (hsaid ▸ sorted_packMilestones _)
    fun p hp => mem_packMilestones (hsaid ▸ hp)
  have hmeter : b'.meter = events.foldl Meter.hear .fresh := hmeter
  refine ⟨ms, hms, hpos, hpacked, ?_⟩
  constructor
  case reports => exact ⟨events, hmeter, hmeter ▸ hevents, hsaid⟩
  case sorted => exact sorted_packMilestones _
  case share => rw [← packProgress_eq (Nat.le_refl _) hpos, packProgress_self hpos]
  case highest =>
    rw [hmeter, hhighest, hsaid]
    exact List.getLastD_concat ..
  case whole =>
    intro written hle
    refine ⟨packProgress_eq hle hpos, ?_⟩
    have hoctet := packProgress_le written (countFiles ms)
    exact UInt8.toNat_ofNat_of_lt' (Nat.lt_of_le_of_lt hoctet (by decide))

/-- The code of two artboards are two files, whatever directories they are in. -/
theorem build_milestones_two_artboards : ∃ (s : Storage) (b' : Bench) (packed : Packed),
    (Bench.start s).meter = .fresh ∧ (build "0" 6).run (.start s) = (.ok packed, b') ∧
    percentages b'.meter.events = [0, 10, 20, 40, 67, 95, 100] ∧
    ∃ ms, collected s = .ok ms ∧ 0 < countFiles ms ∧ packed.fileCount = countFiles ms ∧
      Heard (countFiles ms) b'.meter := by
  let tree : Code.Directory := (Code.generate .none twoArtboards).1
  let s : Storage := Storage.fresh.withContent .code (some (.code tree))
  have hfresh : InMemory .fresh := ⟨_, rfl⟩
  have hcode : s.content .code = .ok (some (.code tree)) := by
    rw [reliable_memory.content_withContent hfresh, if_pos rfl]
    exact readBack_eq .code fun _ h => Option.some.inj h ▸ Code.readable_generate _ _
  have himages : s.content .images = .ok none := by
    rw [reliable_memory.content_withContent hfresh, if_neg (by decide)]
    rfl
  have hfonts : Run.loaded s = .ok .empty := by
    rw [Run.loaded, reliable_memory.content_withContent hfresh, if_neg (by decide)]
    rfl
  have hdocument : s.document = .ok none := by
    rw [reliable_memory.document_withContent hfresh]
    rfl
  have hcount : countFiles (membersOf (imagesIn none) .empty tree) = 2 := by
    rw [countFiles_members _ _ (Code.tidy_generate .none twoArtboards), totalFiles]
    decide +kernel
  have hresult := ends_build "0" 6 himages hfonts hcode (by decide +kernel)
  rw [hdocument, hcount, if_neg (by decide)] at hresult
  obtain ⟨b', hrun, _⟩ := hresult (.start s) rfl
  obtain ⟨ms, hms, hpos, hfiles, hheard⟩ := build_milestones rfl hrun
  obtain ⟨events, _, hevents, hsaid⟩ := hheard.reports
  refine ⟨s, b', _, rfl, hrun, ?_, ms, hms, hpos, hfiles, hheard⟩
  rw [hevents, hsaid, ← hfiles]
  decide

end QmlExport.Package
