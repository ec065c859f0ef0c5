import QmlExport.Json.Decoder
import QmlExport.Proofs.Decimal.Digits

/-!
# Decoders that undo encoders

`d.Reads v a` says exactly what the decoder `d` makes of the value `v`: it reads `a` when it may
enter as many levels as `v` has, and nothing otherwise. Each combinator of decoders keeps the
relation (`reads_list`, `reads_entries`, `reads_record`, …), so that it is proved for a written
record from its fields.

The fields of a written record are a row of segments, each one field or left out; `lookup_omitNone`
and `depth_omitNone` say what a segment adds.
-/

namespace QmlExport.Json

variable {α β : Type}

/-! ## Results under a condition -/

/-- The result is `a` under the condition, and otherwise there is none. -/
structure YieldsIf (p : Prop) (o : Option α) (a : α) : Prop where
  some : p → o = some a
  none : ¬ p → o = none

namespace YieldsIf

theorem always {o : Option α} {a : α} (h : o = Option.some a) {p : Prop} (hp : p) :
    YieldsIf p o a :=
  ⟨fun _ => h, fun hn => absurd hp hn⟩

theorem bind {p q : Prop} {o : Option α} {a : α} {k : α → Option β} {b : β}
    (h : YieldsIf p o a) (hk : YieldsIf q (k a) b) : YieldsIf (p ∧ q) (o.bind k) b where
  some hpq := by
    rw [h.some hpq.1]
    exact hk.some hpq.2
  none hn := by
    by_cases hp : p
    · rw [h.some hp]
      exact hk.none fun hq => hn ⟨hp, hq⟩
    · rw [h.none hp]
      rfl

theorem map {p : Prop} {o : Option α} {a : α} (h : YieldsIf p o a) (f : α → β) :
    YieldsIf p (o.map f) (f a) where
  some hp := by rw [h.some hp, Option.map_some]
  none hn := by rw [h.none hn, Option.map_none]

theorem congr {p q : Prop} {o : Option α} {a : α} (h : YieldsIf p o a) (hpq : p ↔ q) :
    YieldsIf q o a :=
  ⟨fun hq => h.some (hpq.2 hq), fun hn => h.none fun hp => hn (hpq.1 hp)⟩

end YieldsIf

/-- The decoder reads the value as `a` if it may enter all its levels, and else not at all. -/
def Decoder.Reads (d : Decoder α) (v : Value) (a : α) : Prop :=
  ∀ levels, YieldsIf (v.nesting ≤ levels) (d levels v) a

namespace Decoder

/-! ## Combinators -/

theorem reads_text (s : String) : text.Reads (.text s) s :=
  fun levels => .always rfl (Nat.zero_le levels)

theorem reads_bool (b : Bool) : bool.Reads (.bool b) b :=
  fun levels => .always rfl (Nat.zero_le levels)

theorem reads_nat {n : Nat} (h : n < Decimal.significandBound) : nat.Reads (.nat n) n :=
  fun levels => .always (Decimal.Numeral.nat?_ofNat h) (Nat.zero_le levels)

theorem reads_choice {names : List (String × α)} {s : String} {a : α}
    (h : names.lookup s = some a) : (choice names).Reads (.text s) a :=
  fun levels => .always h (Nat.zero_le levels)

theorem reads_settledChoice {names : List (String × α)} {s : String} {a : α}
    (h : names.lookup s = some a) : (settledChoice names).Reads (.text s) a :=
  fun levels => .always h (Nat.zero_le levels)

theorem Reads.map {d : Decoder α} {v : Value} {a : α} (h : d.Reads v a) (f : α → β) :
    (d.map f).Reads v (f a) :=
  fun levels => (h levels).map f

theorem Reads.filterMap {d : Decoder α} {v : Value} {a : α} {b : β} {f : α → Option β}
    (h : d.Reads v a) (hf : f a = some b) : (d.filterMap f).Reads v b :=
  fun levels => ((h levels).bind (.always hf trivial)).congr (and_iff_left trivial)

theorem reads_optional_null (d : Decoder α) : (optional d).Reads .null none :=
  fun levels => .always rfl (Nat.zero_le levels)

theorem Reads.optional {d : Decoder α} {v : Value} {a : α} (h : d.Reads v a)
    (hv : v ≠ .null) : (optional d).Reads v (some a) := by
  intro levels
  rw [Decoder.optional]
  · exact (h levels).map some
  · exact hv

/-- Looking at a sound value as a whole before does not change what is read. -/
theorem Reads.whole {d : Decoder α} {v : Value} {a : α} (h : d.Reads v a)
    (hv : v.sound = true) : (Decoder.whole d).Reads v a := by
  intro levels
  constructor
  · intro hl
    rw [Decoder.whole, if_pos (by simp [hv, hl])]
    exact (h (v.nesting + 1)).some (Nat.le_succ _)
  · intro hl
    rw [Decoder.whole, if_neg (by simp [hl])]

/-- The items of an array, each read with the levels inside it. -/
theorem mapM_items {d : Decoder α} {f : β → Value} {g : β → α} (levels : Nat) :
    ∀ bs : List β, (∀ b ∈ bs, d.Reads (f b) (g b)) →
      YieldsIf (Value.nestingItems (bs.map f) ≤ levels) ((bs.map f).mapM (d levels)) (bs.map g)
  | [], _ => .always rfl (Nat.zero_le levels)
  | b :: bs, h => by
    have ih := mapM_items levels bs fun c hc => h c (List.mem_cons_of_mem _ hc)
    have hrest := ih.bind (k := fun as => some (g b :: as)) (.always rfl trivial)
    rw [List.map_cons, List.mapM_cons]
    refine ((h b List.mem_cons_self levels).bind hrest).congr ?_
    rw [Value.nestingItems, Nat.max_le, and_iff_left trivial]

theorem reads_list {d : Decoder α} {f : β → Value} {g : β → α} {bs : List β}
    (h : ∀ b ∈ bs, d.Reads (f b) (g b)) : (list d).Reads (.array (bs.map f)) (bs.map g) := by
  intro levels
  -- an array takes one level, and its items have the others
  cases levels with
  | zero => exact ⟨fun h => absurd h (Nat.not_succ_le_zero _), fun _ => rfl⟩
  | succ levels => exact (mapM_items levels bs h).congr Nat.succ_le_succ_iff.symm

/-- A list that is read as it was written. -/
theorem reads_items {d : Decoder α} {f : α → Value} {as : List α}
    (h : ∀ a ∈ as, d.Reads (f a) a) : (list d).Reads (.array (as.map f)) as := by
  have hlist := reads_list (g := id) h
  rwa [List.map_id] at hlist

/-- The entries of an object, each read with the levels inside it. -/
theorem mapM_entries {d : Decoder α} {f : β → Value} {g : β → α} (levels : Nat) :
    ∀ es : List (String × β), (∀ e ∈ es, d.Reads (f e.2) (g e.2)) →
      YieldsIf (Value.nestingMembers (es.map fun e => (some e.1, f e.2)) ≤ levels)
        ((es.map fun e => (some e.1, f e.2)).mapM fun (k, v) => do
          let k ← k
          let a ← d levels v
          some (k, a))
        (es.map fun e => (e.1, g e.2))
  | [], _ => .always rfl (Nat.zero_le levels)
  | e :: es, h => by
    have ih := mapM_entries levels es fun c hc => h c (List.mem_cons_of_mem _ hc)
    have hvalue := (h e List.mem_cons_self levels).bind (k := fun a => some (e.1, a))
      (.always rfl trivial)
    have hrest := ih.bind (k := fun as => some ((e.1, g e.2) :: as)) (.always rfl trivial)
    rw [List.map_cons, List.mapM_cons]
    refine (hvalue.bind hrest).congr ?_
    rw [Value.nestingMembers, Nat.max_le, and_iff_left trivial, and_iff_left trivial]

theorem reads_entries {d : Decoder α} {f : β → Value} {g : β → α} {es : List (String × β)}
    (h : ∀ e ∈ es, d.Reads (f e.2) (g e.2)) :
    (entries d).Reads (.fields (es.map fun e => (e.1, f e.2)))
      (es.map fun e => (e.1, g e.2)) := by
  intro levels
  cases levels with
  | zero => exact ⟨fun h => absurd h (Nat.not_succ_le_zero _), fun _ => rfl⟩
  | succ levels =>
    rw [Value.fields, List.map_map]
    exact (mapM_entries levels es h).congr Nat.succ_le_succ_iff.symm

/-- Every entry that is read comes from a value one level further down. -/
theorem exists_of_mem_entries {d : Decoder α} {levels : Nat} {v : Value} {es : List (String × α)}
    (h : entries d levels v = some es) :
    ∀ e ∈ es, ∃ below w, levels = below + 1 ∧ d below w = some e.2 := by
  unfold entries at h
  split at h
  · next below members =>
    induction members generalizing es with
    | nil =>
      obtain rfl : [] = es := Option.some.inj h
      exact fun e he => absurd he List.not_mem_nil
    | cons m members ih =>
      simp only [List.mapM_cons, Option.bind_eq_bind, Option.bind_eq_some_iff, Option.pure_def,
        Option.some.injEq] at h ih
      obtain ⟨first, ⟨name, _, a, ha, rfl⟩, rest, hrest, rfl⟩ := h
      intro e he
      rcases List.mem_cons.1 he with rfl | he
      · exact ⟨below, m.2, rfl, ha⟩
      · exact ih hrest e he
  · cases h

end Decoder

/-! ## Written fields -/

/-- How deep the values of members are nested. -/
def depth (ms : List (String × Value)) : Nat :=
  Value.nestingMembers (ms.map fun m => (some m.1, m.2))

/-- How deep a value that may be missing is nested. -/
def depthOf : Option Value → Nat
  | none => 0
  | some v => v.nesting

/-- A list that is written when it is not empty. -/
def listValue? (f : α → Value) : List α → Option Value
  | [] => none
  | a :: as => some (.array ((a :: as).map f))

theorem nesting_fields (ms : List (String × Value)) : (Value.fields ms).nesting = depth ms + 1 :=
  rfl

@[simp] theorem depthOf_some (v : Value) : depthOf (some v) = v.nesting := rfl

@[simp] theorem depth_nil : depth [] = 0 := rfl

@[simp] theorem depth_cons (m : String × Value) (ms : List (String × Value)) :
    depth (m :: ms) = max m.2.nesting (depth ms) := rfl

@[simp] theorem depth_append (ms ns : List (String × Value)) :
    depth (ms ++ ns) = max (depth ms) (depth ns) := by
  induction ms with
  | nil => rw [List.nil_append, depth_nil, Nat.zero_max]
  | cons m ms ih => rw [List.cons_append, depth_cons, depth_cons, ih, Nat.max_assoc]

@[simp] theorem depth_omitNone (name : String) (f : α → Value) (a : Option α) :
    depth (omitNone name f a) = depthOf (a.map f) := by
  cases a with
  | none => rfl
  | some a => exact Nat.max_zero _

@[simp] theorem depth_omitEmpty (name : String) (f : α → Value) (as : List α) :
    depth (omitEmpty name f as) = depthOf (listValue? f as) := by
  cases as with
  | nil => rfl
  | cons a as => exact Nat.max_zero _

theorem nesting_text (s : String) : (Value.text s).nesting = 0 := rfl

theorem nesting_bool (b : Bool) : (Value.bool b).nesting = 0 := rfl

theorem nesting_nat (n : Nat) : (Value.nat n).nesting = 0 := rfl

theorem nesting_array_le {f : α → Value} {as : List α} {n : Nat}
    (h : ∀ a ∈ as, (f a).nesting ≤ n) : (Value.array (as.map f)).nesting ≤ n + 1 := by
  suffices hitems : Value.nestingItems (as.map f) ≤ n from Nat.succ_le_succ hitems
  induction as with
  | nil => exact Nat.zero_le n
  | cons a as ih =>
    rw [List.forall_mem_cons] at h
    exact Nat.max_le.2 ⟨h.1, ih h.2⟩

theorem depthOf_map_le {f : α → Value} {v : Option α} {n : Nat} (h : ∀ a, (f a).nesting ≤ n) :
    depthOf (v.map f) ≤ n := by
  cases v with
  | none => exact Nat.zero_le n
  | some a => exact h a

theorem depthOf_listValue?_le {f : α → Value} {as : List α} {n : Nat}
    (h : ∀ a ∈ as, (f a).nesting ≤ n) : depthOf (listValue? f as) ≤ n + 1 := by
  cases as with
  | nil => exact Nat.zero_le _
  | cons a as => exact nesting_array_le h

@[simp] theorem lookup_field (key name : String) (v : Value) (ms : List (String × Value)) :
    ((name, v) :: ms).lookup key = if key = name then some v else ms.lookup key := by
  rw [List.lookup_cons]
  by_cases h : key = name
  · rw [if_pos h, beq_iff_eq.2 h]
  · rw [if_neg h, beq_false_of_ne h]

@[simp] theorem lookup_omitNone (key name : String) (f : α → Value) (a : Option α) :
    (omitNone name f a).lookup key = if key = name then a.map f else none := by
  cases a with
  | none => exact (ite_self _).symm
  | some a => exact lookup_field key name (f a) []

@[simp] theorem lookup_omitEmpty (key name : String) (f : α → Value) (as : List α) :
    (omitEmpty name f as).lookup key = if key = name then listValue? f as else none := by
  cases as with
  | nil => exact (ite_self _).symm
  | cons a as => exact lookup_field key name _ []

theorem names_omitNone (name : String) (f : α → Value) (a : Option α) :
    ((omitNone name f a).map (·.1)).Sublist [name] := by
  cases a with
  | none => exact List.nil_sublist _
  | some a => exact List.Sublist.refl _

theorem names_omitEmpty (name : String) (f : α → Value) (as : List α) :
    ((omitEmpty name f as).map (·.1)).Sublist [name] := by
  cases as with
  | nil => exact List.nil_sublist _
  | cons a as => exact List.Sublist.refl _

/-- Rows of fields one behind the other have their names one behind the other. -/
theorem names_append {ms ns : List (String × Value)} {names others : List String}
    (hm : (ms.map (·.1)).Sublist names) (hn : (ns.map (·.1)).Sublist others) :
    ((ms ++ ns).map (·.1)).Sublist (names ++ others) := by
  rw [List.map_append]
  exact hm.append hn

/-! ## Records -/

namespace Fields

/-- Members with known and different names are all kept. -/
theorem known_fields {names : List String} {aliases : List (String × String)}
    (halias : ∀ k ∈ names, aliases.lookup k = none) :
    ∀ {ms : List (String × Value)}, (∀ m ∈ ms, m.1 ∈ names) → (ms.map (·.1)).Nodup →
      known names aliases (ms.map fun m => (some m.1, m.2)) = some ms
  | [], _, _ => rfl
  | (k, v) :: ms, hmem, hnd => by
    have hk : k ∈ names := hmem (k, v) List.mem_cons_self
    obtain ⟨hfresh, hnd⟩ := List.nodup_cons.1 hnd
    have ih := known_fields halias (fun m hm => hmem m (List.mem_cons_of_mem _ hm)) hnd
    -- a member is turned away when its name comes again
    have hmiss : ms.lookup k = none := by
      rw [List.lookup_eq_none_iff]
      intro m hm
      have hne : k ≠ m.1 := fun h => hfresh (List.mem_map.2 ⟨m, hm, h.symm⟩)
      simpa using hne
    rw [List.map_cons, known, ih]
    simp only [Option.bind_eq_bind, Option.bind_some, halias k hk, Option.getD_none, hmiss,
      List.contains_iff_mem.2 hk, if_true, Option.isSome_none, Bool.false_eq_true, if_false]

/-- What the fields of a written record give. -/
theorem of_fields {names : List String} {aliases : List (String × String)}
    {ms : List (String × Value)} (hnames : names.Nodup)
    (halias : ∀ k ∈ names, aliases.lookup k = none) (hms : (ms.map (·.1)).Sublist names)
    (levels : Nat) :
    Fields.of names aliases (levels + 1) (.fields ms) = some ⟨true, levels, ms⟩ := by
  have hmem : ∀ m ∈ ms, m.1 ∈ names := fun m hm => hms.subset (List.mem_map_of_mem hm)
  show (known names aliases _).map _ = _
  rw [known_fields halias hmem (hms.nodup hnames)]
  rfl

/-- A field is read as `a`: from its value, or by default when it is left out. -/
def Gives (d : Decoder α) (default : α) (v : Option Value) (a : α) : Prop :=
  match v with
  | some v => d.Reads v a
  | none => a = default

theorem gives_text (s : String) : Gives .text "" (some (.text s)) s := Decoder.reads_text s

theorem gives_bool (b : Bool) : Gives .bool false (some (.bool b)) b := Decoder.reads_bool b

/-- A field that is left out when there is nothing to write. -/
theorem gives_option {d : Decoder β} {f : α → Value} {g : α → β} (v : Option α)
    (h : ∀ a, v = some a → (Decoder.optional d).Reads (f a) (some (g a))) :
    Gives (.optional d) none (v.map f) (v.map g) := by
  cases v with
  | none => rfl
  | some a => exact h a rfl

/-- A list that is left out when it is empty. -/
theorem gives_list {d : Decoder β} {f : α → Value} {g : α → β} (as : List α)
    (h : ∀ a ∈ as, d.Reads (f a) (g a)) : Gives (.list d) [] (listValue? f as) (as.map g) := by
  cases as with
  | nil => rfl
  | cons a as => exact Decoder.reads_list h

/-- A value that may be missing, and is never written as null. -/
theorem gives_some {d : Decoder β} {f : α → Value} {g : α → β} (v : Option α)
    (h : ∀ a, v = some a → d.Reads (f a) (g a)) (hnull : ∀ a, f a ≠ .null) :
    Gives (.optional d) none (v.map f) (v.map g) :=
  gives_option v fun a ha => (h a ha).optional (hnull a)

/-- A value that may be missing, and is read as it was written. -/
theorem gives_same {d : Decoder α} {f : α → Value} (v : Option α)
    (h : ∀ a, d.Reads (f a) a) (hnull : ∀ a, f a ≠ .null) :
    Gives (.optional d) none (v.map f) v := by
  have hsome := gives_some (g := id) v (fun a _ => h a) hnull
  rwa [Option.map_id, id] at hsome

/-- A list that is left out when it is empty, and is read as it was written. -/
theorem gives_items {d : Decoder α} {f : α → Value} (as : List α)
    (h : ∀ a ∈ as, d.Reads (f a) a) : Gives (.list d) [] (listValue? f as) as := by
  have hlist := gives_list (g := id) as h
  rwa [List.map_id] at hlist

theorem gives_texts (ts : List String) : Gives (.list .text) [] (listValue? .text ts) ts :=
  gives_items ts fun t _ => Decoder.reads_text t

variable {fs : Fields} {name : String} {d : Decoder α} {a : α} {k : α → Option β} {b : β}
  {p : Prop}

theorem yieldsIf_orElse {default : α} {v : Option Value} (h : Gives d default v a)
    (hl : fs.given.lookup name = v) (hk : YieldsIf p (k a) b) :
    YieldsIf (depthOf v ≤ fs.levels ∧ p) (fs.orElse name d default >>= k) b := by
  refine YieldsIf.bind ?_ hk
  unfold orElse
  rw [hl]
  cases v with
  | none => exact .always (congrArg some (show a = default from h).symm) (Nat.zero_le _)
  | some v => exact h fs.levels

theorem yieldsIf_required {v : Value} (h : d.Reads v a) (hl : fs.given.lookup name = some v)
    (hk : YieldsIf p (k a) b) :
    YieldsIf (v.nesting ≤ fs.levels ∧ p) (fs.required name d >>= k) b := by
  refine YieldsIf.bind ?_ hk
  unfold required
  rw [hl]
  exact h fs.levels

/-- A field of an object that is left out in place of null. -/
theorem yieldsIf_nullable {d : Decoder β} {v : Option Value} {a : Option β} {k : Option β → Option α}
    {b : α} (h : Gives (.optional d) none v a) (hnamed : fs.named = true)
    (hl : fs.given.lookup name = v) (hk : YieldsIf p (k a) b) :
    YieldsIf (depthOf v ≤ fs.levels ∧ p) (fs.nullable name d >>= k) b := by
  refine YieldsIf.bind ?_ hk
  unfold nullable
  rw [hl, if_pos hnamed]
  cases v with
  | none => exact .always (congrArg some (show a = none from h).symm) (Nat.zero_le _)
  | some v => exact h fs.levels

end Fields

/-- A record is read if all its fields are. -/
theorem Decoder.reads_fields {names : List String} {aliases : List (String × String)}
    {read : Fields → Option α} {ms : List (String × Value)} {a : α} (hnames : names.Nodup)
    (halias : ∀ k ∈ names, aliases.lookup k = none) (hms : (ms.map (·.1)).Sublist names)
    (hread : ∀ levels, YieldsIf (depth ms ≤ levels) (read ⟨true, levels, ms⟩) a) :
    Decoder.Reads (fun levels v => (Fields.of names aliases levels v).bind read) (.fields ms) a := by
  intro levels
  cases levels with
  | zero => exact ⟨fun h => absurd h (Nat.not_succ_le_zero _), fun _ => rfl⟩
  | succ levels =>
    show YieldsIf _ ((Fields.of names aliases (levels + 1) (.fields ms)).bind read) a
    rw [Fields.of_fields hnames halias hms, Option.bind_some]
    exact (hread levels).congr Nat.succ_le_succ_iff.symm

theorem Decoder.reads_record {names : List String} {read : Fields → Option α}
    {ms : List (String × Value)} {a : α} (hnames : names.Nodup)
    (hms : (ms.map (·.1)).Sublist names)
    (hread : ∀ levels, YieldsIf (depth ms ≤ levels) (read ⟨true, levels, ms⟩) a) :
    (Decoder.record names read).Reads (.fields ms) a :=
  reads_fields hnames (fun _ _ => rfl) hms hread

end QmlExport.Json
