import QmlExport.Design.Document

/-!
# The numbers of a design document

A record keeps everything of a document as it is but the numbers, which go through their printed
form. `numbers` lists the numbers of a document, and `mapNumbers` changes them all and nothing else.
-/

namespace QmlExport.Design

/-! ## Numbers -/

/-- The numbers of a transformation. -/
def Transformation.numbers (t : Transformation) : List Float := t.rotation.toList

/-- The numbers of text details. -/
def TextDetails.numbers (t : TextDetails) : List Float := t.fontSize.toList ++ t.lineHeight.toList

/-- The numbers of metadata. -/
def Metadata.numbers (m : Metadata) : List Float :=
  m.opacity.toList ++ m.transformation.toList.flatMap Transformation.numbers ++
    m.text.toList.flatMap TextDetails.numbers

mutual
/-- The numbers of a node and of all nodes below it. -/
def Node.numbers : Node → List Float
  | ⟨_, x, y, width, height, layerIndex, children, m⟩ =>
    x.toList ++ y.toList ++ width.toList ++ height.toList ++ layerIndex.toList ++
      numbersOf children ++ m.numbers

/-- The numbers of nodes and of all nodes below them. -/
def numbersOf : List Node → List Float
  | [] => []
  | n :: ns => n.numbers ++ numbersOf ns
end

/-- The numbers of a document. -/
def Document.numbers (d : Document) : List Float :=
  numbersOf d.artboards ++ d.artboardSets.flatMap fun s => numbersOf s.artboards

theorem mem_numbersOf {ns : List Node} {x : Float} :
    x ∈ numbersOf ns ↔ ∃ n ∈ ns, x ∈ n.numbers := by
  induction ns with
  | nil => simp [numbersOf]
  | cons n ns ih => simp [numbersOf, ih]

/-- All numbers of a document are finite. -/
def Document.Finite (d : Document) : Prop := ∀ x ∈ d.numbers, x.isFinite

/-! ## Changing numbers -/

section

variable (f : Float → Float)

/-- Change the numbers of a transformation. -/
def Transformation.mapNumbers (t : Transformation) : Transformation :=
  { t with rotation := t.rotation.map f }

/-- Change the numbers of text details. -/
def TextDetails.mapNumbers (t : TextDetails) : TextDetails :=
  { t with fontSize := t.fontSize.map f, lineHeight := t.lineHeight.map f }

/-- Change the numbers of metadata. -/
def Metadata.mapNumbers (m : Metadata) : Metadata :=
  { m with
    opacity := m.opacity.map f
    transformation := m.transformation.map (Transformation.mapNumbers f)
    text := m.text.map (TextDetails.mapNumbers f) }

mutual
/-- Change the numbers of a node and of all nodes below it. -/
def Node.mapNumbers : Node → Node
  | ⟨name, x, y, width, height, layerIndex, children, m⟩ =>
    ⟨name, x.map f, y.map f, width.map f, height.map f, layerIndex.map f,
      mapNumbersOf children, m.mapNumbers f⟩

/-- Change the numbers of nodes and of all nodes below them. -/
def mapNumbersOf : List Node → List Node
  | [] => []
  | n :: ns => n.mapNumbers :: mapNumbersOf ns
end

/-- Change the numbers of a set of artboards. -/
def ArtboardSet.mapNumbers (s : ArtboardSet) : ArtboardSet :=
  { s with artboards := mapNumbersOf f s.artboards }

/-- Change the numbers of a document. -/
def Document.mapNumbers (d : Document) : Document :=
  { d with
    artboards := mapNumbersOf f d.artboards
    artboardSets := d.artboardSets.map (ArtboardSet.mapNumbers f) }

theorem mapNumbersOf_eq_map (ns : List Node) : mapNumbersOf f ns = ns.map (Node.mapNumbers f) := by
  induction ns with
  | nil => rfl
  | cons n ns ih => rw [mapNumbersOf, ih, List.map_cons]

end

/-! ## Numbers that stay the same -/

section

variable {f : Float → Float}

theorem map_eq_self {v : Option Float} (h : ∀ x ∈ v.toList, f x = x) : v.map f = v := by
  cases v with
  | none => rfl
  | some x => exact congrArg some (h x List.mem_cons_self)

theorem Transformation.mapNumbers_eq_self {t : Transformation} (h : ∀ x ∈ t.numbers, f x = x) :
    t.mapNumbers f = t := by
  rw [mapNumbers, map_eq_self h]

theorem TextDetails.mapNumbers_eq_self {t : TextDetails} (h : ∀ x ∈ t.numbers, f x = x) :
    t.mapNumbers f = t := by
  obtain ⟨hsize, hline⟩ := List.forall_mem_append.1 h
  rw [mapNumbers, map_eq_self hsize, map_eq_self hline]

theorem Metadata.mapNumbers_eq_self {m : Metadata} (h : ∀ x ∈ m.numbers, f x = x) :
    m.mapNumbers f = m := by
  obtain ⟨hrest, htext⟩ := List.forall_mem_append.1 h
  obtain ⟨hopacity, htransformation⟩ := List.forall_mem_append.1 hrest
  have ht : m.transformation.map (Transformation.mapNumbers f) = m.transformation := by
    cases hm : m.transformation with
    | none => rfl
    | some t =>
      rw [hm] at htransformation
      exact congrArg some (t.mapNumbers_eq_self (by simpa using htransformation))
  have hd : m.text.map (TextDetails.mapNumbers f) = m.text := by
    cases hm : m.text with
    | none => rfl
    | some t =>
      rw [hm] at htext
      exact congrArg some (t.mapNumbers_eq_self (by simpa using htext))
  rw [mapNumbers, map_eq_self hopacity, ht, hd]

mutual
theorem Node.mapNumbers_eq_self (n : Node) (h : ∀ x ∈ n.numbers, f x = x) : n.mapNumbers f = n := by
  match n with
  | ⟨name, x, y, width, height, layerIndex, children, m⟩ =>
    rw [Node.numbers] at h
    simp only [List.forall_mem_append] at h
    obtain ⟨⟨⟨⟨⟨⟨hx, hy⟩, hwidth⟩, hheight⟩, hlayer⟩, hbelow⟩, hm⟩ := h
    rw [Node.mapNumbers, map_eq_self hx, map_eq_self hy, map_eq_self hwidth, map_eq_self hheight,
      map_eq_self hlayer, mapNumbersOf_eq_self children hbelow, m.mapNumbers_eq_self hm]

theorem mapNumbersOf_eq_self (ns : List Node) (h : ∀ x ∈ numbersOf ns, f x = x) :
    mapNumbersOf f ns = ns := by
  match ns with
  | [] => rfl
  | n :: ns =>
    obtain ⟨hn, hns⟩ := List.forall_mem_append.1 h
    rw [mapNumbersOf, n.mapNumbers_eq_self hn, mapNumbersOf_eq_self ns hns]
end

/-- **A document stays the same when all its numbers do.** -/
theorem Document.mapNumbers_eq_self {d : Document} (h : ∀ x ∈ d.numbers, f x = x) :
    d.mapNumbers f = d := by
  obtain ⟨hartboards, hsets⟩ := List.forall_mem_append.1 h
  have hset : ∀ s ∈ d.artboardSets, s.mapNumbers f = id s := by
    intro s hs
    rw [ArtboardSet.mapNumbers, mapNumbersOf_eq_self s.artboards]
    · rfl
    · exact fun x hx => hsets x (List.mem_flatMap.2 ⟨s, hs, hx⟩)
  rw [mapNumbers, mapNumbersOf_eq_self d.artboards hartboards, List.map_congr_left hset,
    List.map_id]

end

end QmlExport.Design
