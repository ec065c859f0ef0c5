import QmlExport.Package
import QmlExport.Proofs.Run.Fonts

/-!
# Packaging only reads

A package is made of what the store holds, and **making it changes no record**, whether it succeeds
or not (`preserves_build`).
-/

namespace QmlExport

section

variable {σ τ α β : Type}

/-- The step never changes what `view` shows of the state. -/
def Preserves (view : σ → τ) (x : ExceptT Failure (StateM σ) α) : Prop :=
  ∀ s, view (x.run s).2 = view s

namespace Preserves

variable {view : σ → τ}

theorem pure (a : α) : Preserves view (Pure.pure a) := fun _ => rfl

theorem throw (f : Failure) :
    Preserves view (MonadExcept.throw f : ExceptT Failure (StateM σ) α) := fun _ => rfl

theorem bind {x : ExceptT Failure (StateM σ) α} {k : α → ExceptT Failure (StateM σ) β}
    (hx : Preserves view x) (hk : ∀ a, Preserves view (k a)) : Preserves view (x >>= k) := by
  intro s
  rw [run_bind]
  have hs := hx s
  cases hrun : x.run s with
  | mk r t =>
    rw [hrun] at hs
    cases r with
    | ok a => exact (hk a t).trans hs
    | error f => exact hs

end Preserves

end

namespace Package

open Store Job

/-! ## Reading the store -/

theorem preserves_getContent (k : Key) : Preserves id (getContent k.name) := by
  intro s
  rw [s.run_getContent]

theorem preserves_load : Preserves id Fonts.load := by
  intro s
  rw [Run.run_load]

theorem preserves_storedImages : Preserves id storedImages :=
  .bind (preserves_getContent .images) fun c => by
    rcases c with _ | _ | _ | _ | _ <;> exact .pure _

theorem preserves_storedFonts : Preserves id storedFonts :=
  .bind preserves_load fun _ => .pure _

theorem preserves_storedCode : Preserves id storedCode :=
  .bind (preserves_getContent .code) fun c => by
    rcases c with _ | _ | _ | _ | _ <;> exact .pure _

theorem preserves_baseName : Preserves id baseName := by
  refine .bind (fun s => by rw [s.run_getDocument]) fun r => ?_
  cases r with
  | none => exact .pure _
  | some r =>
    dsimp only
    split
    · exact .pure _
    · exact .pure _

/-! ## Packaging -/

theorem preserves_onStorage {α : Type} {a : Action α} (h : Preserves id a) :
    Preserves Bench.storage (onStorage a) :=
  fun b => h b.storage

theorem preserves_progress (percent : Nat) : Preserves Bench.storage (progress percent) :=
  fun _ => rfl

theorem preserves_say (line : String) : Preserves Bench.storage (say line) := fun _ => rfl

/-- What is reported about a member that was written. -/
def reportMember (total written : Nat) (m : Zip.Member) (b : Bench) : Bench :=
  if m.isFile then { b with meter := b.meter.progress (packProgress (written + 1) total) } else b

/-- Writing one member: it fails, or the others follow. -/
theorem run_packAll_cons (level : Int) (total : Nat) (used : List String) (written : Nat)
    (m : Zip.Member) (ms : List Zip.Member) (b : Bench) :
    (packAll level total used written (m :: ms)).run b =
      if (m.isFile && !Zip.isLevel level) || used.contains m.path then (.error unwritable, b)
      else (packAll level total (m.path :: used) (if m.isFile then written + 1 else written) ms).run
        (reportMember total written m b) := by
  unfold reportMember
  rw [packAll]
  cases hlevel : m.isFile && !Zip.isLevel level with
  | true => rfl
  | false =>
    cases hused : used.contains m.path with
    | true => rfl
    | false => cases hfile : m.isFile <;> rfl

theorem preserves_packAll (level : Int) (total : Nat) (ms : List Zip.Member) :
    ∀ (used : List String) (written : Nat),
      Preserves Bench.storage (packAll level total used written ms) := by
  induction ms with
  | nil => exact fun _ _ => .pure ()
  | cons m ms ih =>
    intro used written b
    rw [run_packAll_cons]
    split
    · rfl
    · rw [ih]
      unfold reportMember
      split <;> rfl

theorem preserves_pack (level : Int) (ms : List Zip.Member) :
    Preserves Bench.storage (pack level ms) :=
  .bind (preserves_packAll level _ _ _ _) fun _ => .pure _

/-- The part of packaging behind the reading. -/
def finish (millis : String) (level : Int) (ms : List Zip.Member) : Job Packed := do
  let base ← onStorage baseName
  let bytes ← pack level ms
  progress 100
  say ("Packaged " ++ Upload.numberText (countFiles ms) ++ " file(s) into " ++
    fileName millis base ++ ".")
  pure ⟨fileName millis base, countFiles ms, bytes⟩

theorem preserves_finish (millis : String) (level : Int) (ms : List Zip.Member) :
    Preserves Bench.storage (finish millis level ms) := by
  refine .bind (preserves_onStorage preserves_baseName) fun base => ?_
  refine .bind (preserves_pack level ms) fun bytes => ?_
  exact .bind (preserves_progress _) fun _ => .bind (preserves_say _) fun _ => .pure _

/-- **Packaging changes no record.** -/
theorem preserves_build (millis : String) (level : Int) :
    Preserves Bench.storage (build millis level) := by
  unfold build
  refine .bind (preserves_progress _) fun _ => .bind (preserves_say _) fun _ => ?_
  refine .bind (preserves_onStorage preserves_storedImages) fun images => ?_
  refine .bind (preserves_progress _) fun _ => ?_
  refine .bind (preserves_onStorage preserves_storedFonts) fun fonts => ?_
  refine .bind (preserves_progress _) fun _ => ?_
  refine .bind (preserves_onStorage preserves_storedCode) fun code => ?_
  refine .bind (preserves_progress _) fun _ => ?_
  have hfinish := preserves_finish millis level (images ++ fonts ++ code)
  simp only
  split
  · exact .bind (.throw _) fun _ => hfinish
  · exact hfinish

end Package

end QmlExport
