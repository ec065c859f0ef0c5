import QmlExport.Proofs.Design.Codec

/-!
# What is read is finite

A numeral that stands for no finite double is refused, so **every number of a document that was read
is finite** (`Document.only_finite`).
-/

namespace QmlExport

namespace Json

variable {α β : Type}

/-- Whatever the decoder reads has the property. -/
def Decoder.Only (d : Decoder α) (p : α → Prop) : Prop := ∀ levels v a, d levels v = some a → p a

namespace Decoder

theorem Only.optional {d : Decoder α} {p : α → Prop} (h : d.Only p) :
    d.optional.Only fun o => ∀ a ∈ o.toList, p a := by
  intro levels v o ho a ha
  unfold Decoder.optional at ho
  split at ho
  · cases ho
    cases ha
  · obtain ⟨b, hb, rfl⟩ := Option.map_eq_some_iff.1 ho
    obtain rfl : a = b := List.mem_singleton.1 ha
    exact h levels _ a hb

theorem only_mapM {d : α → Option β} {p : β → Prop} (h : ∀ v a, d v = some a → p a) :
    ∀ {vs : List α} {as : List β}, vs.mapM d = some as → ∀ a ∈ as, p a
  | [], as, hm => by
    cases hm
    exact nofun
  | v :: vs, as, hm => by
    rw [List.mapM_cons] at hm
    simp only [Option.bind_eq_bind, Option.bind_eq_some_iff, Option.pure_def,
      Option.some.injEq] at hm
    obtain ⟨b, hb, bs, hbs, rfl⟩ := hm
    exact List.forall_mem_cons.2 ⟨h v b hb, only_mapM h hbs⟩

theorem Only.list {d : Decoder α} {p : α → Prop} (h : d.Only p) :
    d.list.Only fun as => ∀ a ∈ as, p a := by
  intro levels v as hv
  unfold Decoder.list at hv
  split at hv
  · exact only_mapM (h _) hv
  · cases hv

theorem only_record {names : List String} {read : Fields → Option α} {p : α → Prop}
    (h : ∀ fs a, read fs = some a → p a) : (record names read).Only p := by
  intro levels v a hv
  obtain ⟨fs, _, hfs⟩ := Option.bind_eq_some_iff.1 hv
  exact h fs a hfs

/-- A field with a default has the property if both the default and what is read have it. -/
theorem Only.orElse {d : Decoder α} {p : α → Prop} (h : d.Only p) {default a : α}
    (hdefault : p default) {fs : Fields} {name : String} (ha : fs.orElse name d default = some a) :
    p a := by
  unfold Fields.orElse at ha
  split at ha
  · exact h _ _ a ha
  · cases ha
    exact hdefault

end Decoder

end Json

namespace Design

open Json Decimal

theorem only_float : Decoder.float.Only fun x => x.isFinite := by
  intro levels v x h
  unfold Decoder.float at h
  split at h
  · exact Numeral.isFinite_of_float? h
  · cases h

/-- A number that may be missing is finite. -/
theorem finite_of_orElse {fs : Fields} {name : String} {v : Option Float}
    (h : fs.orElse name (.optional .float) none = some v) : ∀ x ∈ v.toList, x.isFinite :=
  only_float.optional.orElse (fun _ hx => absurd hx List.not_mem_nil) h

theorem Transformation.only_finite :
    Transformation.decoder.Only fun t => ∀ x ∈ t.numbers, x.isFinite := by
  apply Decoder.only_record
  intro fs t h
  simp only [Option.bind_eq_bind, Option.bind_eq_some_iff, Option.some.injEq] at h
  obtain ⟨rotation, hrotation, _, _, _, _, rfl⟩ := h
  exact finite_of_orElse hrotation

theorem TextDetails.only_finite :
    TextDetails.decoder.Only fun t => ∀ x ∈ t.numbers, x.isFinite := by
  apply Decoder.only_record
  intro fs t h
  simp only [Option.bind_eq_bind, Option.bind_eq_some_iff, Option.some.injEq] at h
  obtain ⟨_, _, _, _, _, _, _, _, size, hsize, _, _, line, hline, _, _, _, _, rfl⟩ := h
  exact List.forall_mem_append.2 ⟨finite_of_orElse hsize, finite_of_orElse hline⟩

theorem Metadata.only_finite : Metadata.decoder.Only fun m => ∀ x ∈ m.numbers, x.isFinite := by
  intro levels v m h
  unfold Metadata.decoder at h
  simp only [Option.bind_eq_bind, Option.bind_eq_some_iff, Option.some.injEq] at h
  obtain ⟨fs, _, _, _, _, _, _, _, _, _, _, _, _, _, opacity, hopacity, _, _, transformation,
    htransformation, text, htext, _, _, rfl⟩ := h
  have htransformations := Transformation.only_finite.optional.orElse (fun _ ht => absurd ht List.not_mem_nil)
    htransformation
  have htexts := TextDetails.only_finite.optional.orElse (fun _ ht => absurd ht List.not_mem_nil) htext
  refine List.forall_mem_append.2 ⟨List.forall_mem_append.2 ⟨finite_of_orElse hopacity, ?_⟩, ?_⟩
  · exact fun x hx =>
      let ⟨t, ht, hx⟩ := List.mem_flatMap.1 hx
      htransformations t ht x hx
  · exact fun x hx =>
      let ⟨t, ht, hx⟩ := List.mem_flatMap.1 hx
      htexts t ht x hx

/-! ## Nodes -/

namespace Node

theorem finite_of_childrenOf {v : Option Value} {child : Option (Value → Option Node)}
    (hchild : ∀ f, child = some f → ∀ v n, f v = some n → ∀ x ∈ n.numbers, x.isFinite)
    {ns : List Node} (h : childrenOf v child = some ns) : ∀ x ∈ numbersOf ns, x.isFinite := by
  intro x hx
  obtain ⟨n, hn, hx⟩ := mem_numbersOf.1 hx
  unfold childrenOf at h
  split at h
  · cases h
    cases hn
  · exact Decoder.only_mapM (hchild _ rfl) h n hn x hx
  · cases h

theorem finite_of_read {child : Option (Value → Option Node)}
    (hchild : ∀ f, child = some f → ∀ v n, f v = some n → ∀ x ∈ n.numbers, x.isFinite)
    {fs : Fields} {n : Node} (h : read child fs = some n) : ∀ x ∈ n.numbers, x.isFinite := by
  rw [read_eq] at h
  simp only [Option.bind_eq_bind, Option.bind_eq_some_iff, Option.some.injEq] at h
  obtain ⟨_, _, x, hx, y, hy, width, hwidth, height, hheight, layer, hlayer, children, hchildren,
    m, hm, rfl⟩ := h
  rw [numbers]
  simp only [List.forall_mem_append]
  exact ⟨⟨⟨⟨⟨⟨finite_of_orElse hx, finite_of_orElse hy⟩, finite_of_orElse hwidth⟩,
    finite_of_orElse hheight⟩, finite_of_orElse hlayer⟩, finite_of_childrenOf hchild hchildren⟩,
    Metadata.only_finite.orElse (fun _ hx => absurd hx List.not_mem_nil) hm⟩

theorem only_finite : decoder.Only fun n => ∀ x ∈ n.numbers, x.isFinite := by
  intro levels
  induction levels using Nat.strongRecOn with
  | _ levels ih =>
    intro v n h
    cases levels with
    | zero => cases h
    | succ levels =>
      rw [decoder_succ] at h
      obtain ⟨fs, _, hread⟩ := Option.bind_eq_some_iff.1 h
      refine finite_of_read (fun f hf v n hv => ?_) hread
      cases levels with
      | zero => cases hf
      | succ levels =>
        cases hf
        exact ih levels (by omega) v n hv

end Node

/-! ## Documents -/

/-- Nodes that may be missing have finite numbers. -/
theorem finite_of_nodes {fs : Fields} {name : String} {ns : List Node}
    (h : fs.orElse name (.list Node.decoder) [] = some ns) : ∀ x ∈ numbersOf ns, x.isFinite := by
  intro x hx
  obtain ⟨n, hn, hx⟩ := mem_numbersOf.1 hx
  exact Node.only_finite.list.orElse (fun _ hn => absurd hn List.not_mem_nil) h n hn x hx

theorem ArtboardSet.only_finite :
    ArtboardSet.decoder.Only fun s => ∀ x ∈ numbersOf s.artboards, x.isFinite := by
  apply Decoder.only_record
  intro fs s h
  simp only [Option.bind_eq_bind, Option.bind_eq_some_iff, Option.some.injEq] at h
  obtain ⟨_, _, artboards, hartboards, rfl⟩ := h
  exact finite_of_nodes hartboards

/-- **Every number of a document that was read is finite.** -/
theorem Document.only_finite : Document.decoder.Only Document.Finite := by
  apply Decoder.only_record
  intro fs d h
  simp only [Option.bind_eq_bind, Option.bind_eq_some_iff, Option.some.injEq] at h
  obtain ⟨artboards, hartboards, sets, hsets, _, _, rfl⟩ := h
  refine List.forall_mem_append.2 ⟨finite_of_nodes hartboards, fun x hx => ?_⟩
  obtain ⟨s, hs, hx⟩ := List.mem_flatMap.1 hx
  exact ArtboardSet.only_finite.list.orElse (fun _ hs => absurd hs List.not_mem_nil) hsets s hs x hx

end Design

end QmlExport
