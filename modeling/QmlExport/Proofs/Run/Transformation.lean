import QmlExport.Proofs.Code.Tidy
import QmlExport.Proofs.Run.Ends

/-!
# Generating the code

`Transforms` lists the ways in which a run generates the code of the stored document, or does not;
`generated` is the storage it leaves.
-/

namespace QmlExport.Run

open Store Upload

/-- The storage after code was generated for a document. Without downloads the fonts are cleared. -/
def generated (s : Storage) (o : Design.Options) (d : Design.Document) : Storage :=
  let coded := s.withContent .code (some (.code (Code.generate o d).1))
  if o.downloadFonts then coded else coded.withContent .fonts none

/-- The ways in which a run generates code, or does not. -/
inductive Transforms (o : Design.Options) (s : Storage) :
    Except Failure (Nat × List String) → Storage → Prop
  | unread {f} (hd : s.document = .error f) : Transforms o s (.error f) s
  | missing (hd : s.document = .ok none) : Transforms o s (.error noStoredDocument) s
  | generated {r} (hd : s.document = .ok (some r)) :
    Transforms o s
      (.ok (Code.countFiles (Code.generate o r.document).1, (Code.generate o r.document).2))
      (generated s o r.document)

/-- Code is not generated for want of a document. -/
theorem Transforms.of_error {o : Design.Options} {s t : Storage} {f : Failure}
    (h : Transforms o s (.error f) t) :
    t = s ∧ (s.document = .error f ∨ s.document = .ok none) := by
  cases h with
  | unread hd => exact ⟨rfl, .inl hd⟩
  | missing hd => exact ⟨rfl, .inr hd⟩

/-- Code is generated for the document of the store. -/
theorem Transforms.of_ok {o : Design.Options} {s t : Storage} {q : Nat × List String}
    (h : Transforms o s (.ok q) t) :
    ∃ r, s.document = .ok (some r) ∧ t = Run.generated s o r.document := by
  cases h with
  | generated hd => exact ⟨_, hd, rfl⟩

section

variable {P : Storage → Prop} (hP : Reliable P) {s : Storage} (hs : P s)

include hP hs

theorem stays_generated (o : Design.Options) (d : Design.Document) : P (generated s o d) := by
  unfold generated
  split
  · exact hP.withContent hs _ _
  · exact hP.withContent (hP.withContent hs _ _) _ _

theorem Transforms.stays {o : Design.Options} {t : Storage}
    {r : Except Failure (Nat × List String)} (h : Transforms o s r t) : P t := by
  cases h with
  | unread | missing => exact hs
  | generated => exact stays_generated hP hs _ _

theorem document_generated (o : Design.Options) (d : Design.Document) :
    (generated s o d).document = s.document := by
  unfold generated
  simp only
  split
  · exact hP.document_withContent hs _ _
  · rw [hP.document_withContent (hP.withContent hs _ _), hP.document_withContent hs]

theorem content_generated_code (o : Design.Options) (d : Design.Document) :
    (generated s o d).content .code = .ok (some (.code (Code.generate o d).1)) := by
  have hcode : (s.withContent .code (some (.code (Code.generate o d).1))).content .code =
      .ok (some (.code (Code.generate o d).1)) := by
    rw [hP.content_withContent hs, if_pos rfl]
    exact readBack_eq _ fun c hc => by cases hc; exact Code.readable_generate o d
  unfold generated
  simp only
  split
  · exact hcode
  · rw [hP.content_withContent (hP.withContent hs _ _), if_neg (by decide), hcode]

theorem content_generated_fonts (o : Design.Options) (d : Design.Document) :
    (generated s o d).content .fonts =
      if o.downloadFonts then s.content .fonts else .ok none := by
  unfold generated
  simp only
  split
  · rw [hP.content_withContent hs, if_neg (by decide)]
  · rw [hP.content_withContent (hP.withContent hs _ _), if_pos rfl]
    exact readBack_eq _ nofun

theorem content_generated_of_ne (o : Design.Options) (d : Design.Document) {k : Key}
    (hc : k ≠ .code) (hf : k ≠ .fonts) : (generated s o d).content k = s.content k := by
  unfold generated
  simp only
  split
  · rw [hP.content_withContent hs, if_neg hc]
  · rw [hP.content_withContent (hP.withContent hs _ _), if_neg hf, hP.content_withContent hs,
      if_neg hc]

theorem transforms_transform (o : Design.Options) :
    ∃ r t, Transforms o s r t ∧ Ends (transform o) s r t := by
  cases hd : s.document with
  | error f =>
    exact ⟨_, _, .unread hd, .bind (.enter _ _) (.bind (.progress _ _) (.fail (.getDocument hd)))⟩
  | ok document =>
    cases document with
    | none =>
      exact ⟨_, _, .missing hd, .bind (.enter _ _) (.bind (.progress _ _)
        (.bind (.getDocument hd) (.throw _ _)))⟩
    | some r =>
      refine ⟨_, _, .generated hd, .bind (.enter _ _) (.bind (.progress _ _)
        (.bind (.getDocument hd) ?_))⟩
      refine .bind (.enter _ _) (.bind (.progress _ _)
        (.bind (.onStorage (hP.run_putContent hs _ _)) ?_))
      unfold generated
      by_cases ho : o.downloadFonts
      · simp only [ho, if_true]
        exact .bind (.progress _ _) (.bind (.say _ _) (.pure _ _))
      · -- what an earlier run has downloaded is not wanted any more
        simp only [ho]
        exact .bind (.onStorage (hP.run_putContent (hP.withContent hs _ _) _ _))
          (.bind (.progress _ _) (.bind (.say _ _) (.pure _ _)))

end

end QmlExport.Run
