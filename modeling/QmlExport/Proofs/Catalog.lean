import Mathlib.Data.List.Dedup
import QmlExport.Catalog

/-!
# Look-ups in catalogs

A catalog is what its look-ups say: two catalogs with the same look-ups are the same (`ext_get?`). In
a catalog that was made of a list, a name has the value of its last entry in the list
(`get?_ofList_iff`), so the order of the list does not matter where no name is used twice
(`ofList_perm`), and there are as many names as different ones in the list (`size_ofList`).
-/

namespace QmlExport

namespace Catalog

variable {α : Type}

/-! ## Entries -/

theorem mem_of_get? {c : Catalog α} {name : String} {a : α} (h : c.get? name = some a) :
    (name, a) ∈ c.entries := by
  obtain ⟨front, back, hentries, _⟩ := List.lookup_eq_some_iff.1 h
  rw [hentries]
  exact List.mem_append_right _ List.mem_cons_self

/-- Names before an entry are less. -/
theorem lt_of_entries_eq {c : Catalog α} {front back : List (String × α)} {e : String × α}
    (h : c.entries = front ++ e :: back) : ∀ f ∈ front, f.1 < e.1 := by
  have hincreasing := c.increasing
  rw [h] at hincreasing
  exact fun f hf => (List.pairwise_append.1 hincreasing).2.2 f hf e List.mem_cons_self

/-- Names behind an entry are greater. -/
theorem gt_of_entries_eq {c : Catalog α} {front back : List (String × α)} {e : String × α}
    (h : c.entries = front ++ e :: back) : ∀ f ∈ back, e.1 < f.1 := by
  have hincreasing := c.increasing
  rw [h] at hincreasing
  exact (List.pairwise_cons.1 (List.pairwise_append.1 hincreasing).2.1).1

/-- **A look-up finds just the entries.** -/
theorem get?_eq_some_iff {c : Catalog α} {name : String} {a : α} :
    c.get? name = some a ↔ (name, a) ∈ c.entries := by
  refine ⟨mem_of_get?, fun h => ?_⟩
  obtain ⟨front, back, hentries⟩ := List.append_of_mem h
  refine List.lookup_eq_some_iff.2 ⟨front, back, hentries, fun f hf => ?_⟩
  have hlt := lt_of_entries_eq hentries f hf
  simpa using (String.ne_of_lt hlt).symm

theorem isSome_get?_iff {c : Catalog α} {name : String} :
    (c.get? name).isSome ↔ ∃ a, (name, a) ∈ c.entries := by
  simp only [Option.isSome_iff_exists, get?_eq_some_iff]

/-- Around an entry, lesser names are in front and greater ones behind. -/
theorem place_of_entries_eq {c : Catalog α} {front back : List (String × α)} {name other : String}
    {a : α} (h : c.entries = front ++ (name, a) :: back) (hother : (c.get? other).isSome) :
    (other < name ∧ ∃ b, (other, b) ∈ front) ∨ other = name ∨
      (name < other ∧ ∃ b, (other, b) ∈ back) := by
  obtain ⟨b, hmem⟩ := isSome_get?_iff.1 hother
  rw [h, List.mem_append, List.mem_cons] at hmem
  rcases hmem with hmem | heq | hmem
  · exact .inl ⟨lt_of_entries_eq h _ hmem, b, hmem⟩
  · exact .inr (.inl (Prod.mk.inj heq).1)
  · exact .inr (.inr ⟨gt_of_entries_eq h _ hmem, b, hmem⟩)

theorem get?_eq_none_iff {c : Catalog α} {name : String} :
    c.get? name = none ↔ name ∉ c.entries.map Prod.fst := by
  rw [Option.eq_none_iff_forall_ne_some]
  simp only [ne_eq, get?_eq_some_iff, List.mem_map, Prod.exists, not_exists]
  constructor
  · rintro h _ a ⟨hmem, rfl⟩
    exact h a hmem
  · exact fun h a hmem => h name a ⟨hmem, rfl⟩

theorem nodup_names (c : Catalog α) : (c.entries.map Prod.fst).Nodup := by
  have hincreasing := (List.pairwise_map (f := Prod.fst) (R := (· < ·))).2 c.increasing
  exact hincreasing.imp fun h => String.ne_of_lt h

/-- **Catalogs with the same look-ups are the same.** -/
theorem ext_get? {c d : Catalog α} (h : ∀ name, c.get? name = d.get? name) : c = d := by
  have hmem : ∀ e, e ∈ c.entries ↔ e ∈ d.entries := by
    rintro ⟨name, a⟩
    rw [← get?_eq_some_iff, h, get?_eq_some_iff]
  have hperm : c.entries.Perm d.entries :=
    (List.perm_ext_iff_of_nodup (.of_map _ c.nodup_names) (.of_map _ d.nodup_names)).2 hmem
  -- two lists in strictly increasing order with the same members are the same
  refine ext (hperm.eq_of_pairwise (fun e f _ _ hef hfe => ?_) c.increasing d.increasing)
  exact absurd hfe (String.lt_asymm hef)

/-! ## One more entry -/

/-- A name is put behind all lesser ones. -/
theorem insertEntry_append {name : String} {a : α} {es : List (String × α)}
    (h : ∀ e ∈ es, e.1 < name) (ds : List (String × α)) :
    insertEntry name a (es ++ ds) = es ++ insertEntry name a ds := by
  induction es with
  | nil => rfl
  | cons e es ih =>
    have he := h e List.mem_cons_self
    show insertEntry name a (e :: (es ++ ds)) = _
    rw [insertEntry, if_neg (String.lt_asymm he), if_neg (String.ne_of_lt he).symm,
      ih fun f hf => h f (List.mem_cons_of_mem _ hf)]
    rfl

/-- Mapping a name to the value that it has changes nothing. -/
theorem insert_of_get? {c : Catalog α} {name : String} {a : α} (h : c.get? name = some a) :
    c.insert name a = c := by
  apply ext_get?
  intro other
  by_cases hother : other = name
  · rw [hother, get?_insert_self, h]
  · exact get?_insert_of_ne c a hother

theorem isEmpty_insert (c : Catalog α) (name : String) (a : α) :
    (c.insert name a).isEmpty = false := by
  show (insertEntry name a c.entries).isEmpty = false
  cases c.entries with
  | nil => rfl
  | cons e es =>
    rw [insertEntry]
    split
    · rfl
    · split <;> rfl

/-! ## Many entries -/

section

variable {name : String} {es fs : List (String × α)}

theorem insertAll_cons (c : Catalog α) (e : String × α) (es : List (String × α)) :
    c.insertAll (e :: es) = (c.insert e.1 e.2).insertAll es := rfl

theorem isEmpty_insertAll (c : Catalog α) (es : List (String × α)) :
    (c.insertAll es).isEmpty = (c.isEmpty && es.isEmpty) := by
  induction es generalizing c with
  | nil => exact (Bool.and_true _).symm
  | cons e es ih =>
    rw [insertAll_cons, ih, isEmpty_insert, Bool.false_and, List.isEmpty_cons, Bool.and_false]

theorem entries_insertAll {c : Catalog α}
    (h : (c.entries ++ es).Pairwise (fun a b => a.1 < b.1)) :
    (c.insertAll es).entries = c.entries ++ es := by
  induction es generalizing c with
  | nil => exact (List.append_nil _).symm
  | cons e es ih =>
    obtain ⟨_, _, hlt⟩ := List.pairwise_append.1 h
    have hinsert : (c.insert e.1 e.2).entries = c.entries ++ [e] := by
      have hbehind := insertEntry_append (a := e.2) (fun f hf => hlt f hf e List.mem_cons_self) []
      rwa [List.append_nil] at hbehind
    have happ : (c.insert e.1 e.2).entries ++ es = c.entries ++ e :: es := by
      rw [hinsert, List.append_assoc]
      rfl
    rw [← happ] at h ⊢
    exact ih h

/-- The entries of a catalog make the same catalog again. -/
theorem ofList_entries (c : Catalog α) : ofList c.entries = c :=
  ext (entries_insertAll (c := empty) c.increasing)

/-- The last entry with a name wins, and without one the name has the value that it had. -/
theorem get?_insertAll (c : Catalog α) (es : List (String × α)) (name : String) :
    (c.insertAll es).get? name = (es.reverse.lookup name).or (c.get? name) := by
  induction es generalizing c with
  | nil => rfl
  | cons e es ih =>
    obtain ⟨other, a⟩ := e
    rw [insertAll_cons, ih, List.reverse_cons, List.lookup_append, Option.or_assoc]
    by_cases he : name = other
    · simp [he]
    · simp [get?_insert_of_ne c a he, List.lookup_cons, beq_false_of_ne he]

/-- A catalog that is inserted into another one covers it. -/
theorem get?_insertAll_entries (c d : Catalog α) (name : String) :
    (c.insertAll d.entries).get? name = (d.get? name).or (c.get? name) := by
  have hlast : d.get? name = d.entries.reverse.lookup name := by
    rw [← ofList_entries d, ofList, get?_insertAll, ← ofList, ofList_entries]
    exact Option.or_none
  rw [get?_insertAll, hlast]

/-- **A name has the value of its last entry.** -/
theorem get?_ofList_iff {a : α} :
    (ofList es).get? name = some a ↔
      ∃ front back, es = front ++ (name, a) :: back ∧ ∀ e ∈ back, e.1 ≠ name := by
  have hlast : (ofList es).get? name = es.reverse.lookup name := by
    rw [ofList, get?_insertAll]
    exact Option.or_none
  rw [hlast, List.lookup_eq_some_iff]
  constructor
  · rintro ⟨back, front, hreverse, hback⟩
    refine ⟨front.reverse, back.reverse, ?_, fun e he => ?_⟩
    · rw [← List.reverse_reverse es, hreverse]
      simp
    · exact (bne_iff_ne.1 (hback e (List.mem_reverse.1 he))).symm
  · rintro ⟨front, back, rfl, hback⟩
    refine ⟨back.reverse, front.reverse, by simp, fun e he => ?_⟩
    exact bne_iff_ne.2 (hback e (List.mem_reverse.1 he)).symm

theorem get?_ofList {back : List (String × α)} (h : ∀ e ∈ back, e.1 ≠ name)
    (front : List (String × α)) (a : α) :
    (ofList (front ++ (name, a) :: back)).get? name = some a :=
  get?_ofList_iff.2 ⟨front, back, rfl, h⟩

/-- Where no name is used twice, each entry is the last one with its name. -/
theorem get?_ofList_of_nodup {a : α} (h : (es.map Prod.fst).Nodup) :
    (ofList es).get? name = some a ↔ (name, a) ∈ es := by
  rw [get?_ofList_iff]
  constructor
  · rintro ⟨front, back, rfl, _⟩
    exact List.mem_append_right _ List.mem_cons_self
  · intro hmem
    obtain ⟨front, back, rfl⟩ := List.append_of_mem hmem
    refine ⟨front, back, rfl, fun e he heq => ?_⟩
    rw [List.map_append, List.map_cons] at h
    have hnot := (List.nodup_cons.1 (List.nodup_append.1 h).2.1).1
    exact hnot (List.mem_map.2 ⟨e, he, heq⟩)

/-- **The order of a list does not matter** where no name is used twice. -/
theorem ofList_perm (hperm : es.Perm fs) (h : (es.map Prod.fst).Nodup) : ofList es = ofList fs := by
  apply ext_get?
  intro name
  ext a
  have h' : (fs.map Prod.fst).Nodup := (hperm.map _).nodup_iff.1 h
  rw [get?_ofList_of_nodup h, get?_ofList_of_nodup h', hperm.mem_iff]

/-- A catalog has the names of the list that it is made of. -/
theorem mem_names_ofList : name ∈ (ofList es).entries.map Prod.fst ↔ name ∈ es.map Prod.fst := by
  constructor
  · intro h
    obtain ⟨⟨_, a⟩, hmem, rfl⟩ := List.mem_map.1 h
    obtain ⟨front, back, rfl, _⟩ := get?_ofList_iff.1 (get?_eq_some_iff.2 hmem)
    simp
  · intro h
    by_contra hnone
    have hget := get?_eq_none_iff.2 hnone
    obtain ⟨⟨_, a⟩, hmem, rfl⟩ := List.mem_map.1 h
    rw [ofList, get?_insertAll, Option.or_eq_none_iff, List.lookup_eq_none_iff] at hget
    simpa using hget.1 _ (List.mem_reverse.2 hmem)

/-- There are as many names as different ones in the list. -/
theorem size_ofList (es : List (String × α)) :
    (ofList es).size = (es.map Prod.fst).dedup.length := by
  have hperm : ((ofList es).entries.map Prod.fst).Perm (es.map Prod.fst).dedup := by
    refine (List.perm_ext_iff_of_nodup (nodup_names _) (List.nodup_dedup _)).2 fun name => ?_
    rw [mem_names_ofList, List.mem_dedup]
  rw [size, ← hperm.length_eq, List.length_map]

end

end Catalog

end QmlExport
