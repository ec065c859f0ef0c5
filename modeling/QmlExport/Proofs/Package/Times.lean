import QmlExport.Proofs.Package.Build
import QmlExport.Proofs.Text.Lines

/-!
# Packages made at another time

The time goes into a package by its name alone, and only if there is nothing else to name it after.
**Where the name does not depend on it, neither does the package, nor anything that is reported**
(`build_at_any_time`).
-/

namespace QmlExport.Package

open Store Job Text

/-! ## Names -/

theorem stem_of_blank {name : String} (h : allBlank name) : stem name = [] := by
  have hblank : ∀ c ∈ name.toList, isBlank c := List.all_eq_true.1 h
  unfold stem
  rw [trim_eq_nil_of_blank hblank]
  rfl

/-- A name of which something is left is used, whatever else there is. -/
theorem baseOf_of_stem {r : MetadataRecord} (h : stem r.fileName ≠ []) :
    baseOf (some r) = some r.fileName := by
  have hspoken : spoken? r.fileName = some r.fileName :=
    if_neg fun hblank => h (stem_of_blank hblank)
  show (spoken? r.fileName).or _ = _
  rw [hspoken]
  rfl

/-- **Of a name of which something is left the package is named**, at any time. -/
theorem fileName_of_stem {name : String} (h : stem name ≠ []) (millis later : String) :
    fileName later (some name) = fileName millis (some name) := by
  unfold fileName
  rw [Option.map_some]
  cases hstem : stem name with
  | nil => exact absurd hstem h
  | cons c cs => rfl

/-! ## Packages -/

/-- The two jobs do the same on a storage. -/
def SameOn {α : Type} (s : Storage) (x y : Job α) : Prop :=
  ∀ b : Bench, b.storage = s → x.run b = y.run b

section

variable {α β : Type} {s : Storage} {millis later : String}

theorem SameOn.bind {x : Job α} {k k' : α → Job β} (hx : Preserves Bench.storage x)
    (hk : ∀ a, SameOn s (k a) (k' a)) : SameOn s (x >>= k) (x >>= k') := by
  intro b hb
  rw [run_bind, run_bind]
  have hstorage := hx b
  cases hrun : x.run b with
  | mk r b' =>
    rw [hrun] at hstorage
    cases r with
    | ok a => exact hk a b' (hstorage.trans hb)
    | error f => rfl

variable (hname : ∀ base, (baseName.run s).1 = .ok base → fileName later base = fileName millis base)

include hname

theorem sameOn_finish (level : Int) (ms : List Zip.Member) :
    SameOn s (finish later level ms) (finish millis level ms) := by
  intro b hb
  have hread : (onStorage baseName).run b = ((baseName.run s).1, b) := by
    have hkept := preserves_baseName s
    show ((baseName.run b.storage).1, { b with storage := (baseName.run b.storage).2 }) = _
    rw [hb, show (baseName.run s).2 = s from hkept, ← hb]
  unfold finish
  rw [run_bind, run_bind, hread]
  cases hbase : (baseName.run s).1 with
  | error f => rfl
  | ok base =>
    dsimp only
    rw [hname base hbase]

/-- **A package is the same at any time at which it has the same name.** -/
theorem build_at_any_time (level : Int) : SameOn s (build later level) (build millis level) := by
  unfold build
  refine .bind (preserves_progress _) fun _ => .bind (preserves_say _) fun _ => ?_
  refine .bind (preserves_onStorage preserves_storedImages) fun images => ?_
  refine .bind (preserves_progress _) fun _ => ?_
  refine .bind (preserves_onStorage preserves_storedFonts) fun fonts => ?_
  refine .bind (preserves_progress _) fun _ => ?_
  refine .bind (preserves_onStorage preserves_storedCode) fun code => ?_
  refine .bind (preserves_progress _) fun _ => ?_
  have hfinish := sameOn_finish hname level (images ++ fonts ++ code)
  simp only
  split
  · exact .bind (.throw _) fun _ => hfinish
  · exact hfinish

end

end QmlExport.Package
