import QmlExport.Proofs.Code.Shape

/-!
# Insertion under free names

An entry is put under the wanted name, or under the first numbered one that is free. The numbers are
counted up without a bound (`Search`), and putting an entry replaces one of the same name; that neither
ever happens to do harm rests on one fact, `freeName_not_mem`:

* the wanted name and the numbers up to the size of the directory are one more than the names in use,
  so **the search ends with a number not greater than the size** (`search_numbered`);
* the name found is new, so **an insertion adds one entry at the end and keeps all others**
  (`Inserted`), and a row of insertions adds one entry each (`Filled`).
-/

namespace QmlExport.Code.Directory

/-! ## The search for a number -/

/-- Counting up from one number the search ends at another: the first one whose name is not in use. -/
inductive Search (used : List String) (base : String) : Nat → Nat → Prop
  | stop {n : Nat} (unused : numbered base n ∉ used) : Search used base n n
  | next {n m : Nat} (taken : numbered base n ∈ used) (rest : Search used base (n + 1) m) :
      Search used base n m

section

variable {used : List String} {base : String} {n m : Nat}

/-- Where all names before are in use the search comes to the first that is not. -/
theorem search_of_least (hle : m ≤ n) (hunused : numbered base n ∉ used)
    (htaken : ∀ k, m ≤ k → k < n → numbered base k ∈ used) : Search used base m n := by
  -- the induction is on how far there is still to count
  obtain ⟨far, rfl⟩ := Nat.exists_eq_add_of_le hle
  induction far generalizing m with
  | zero => exact .stop hunused
  | succ far ih =>
    have hstep : m + (far + 1) = m + 1 + far := by omega
    rw [hstep] at hunused htaken ⊢
    exact .next (htaken m (Nat.le_refl m) (by omega))
      (ih (Nat.le_add_right ..) hunused fun k hk => htaken k (Nat.le_of_succ_le hk))

/-- The search ends in one place only. -/
theorem Search.unique {k : Nat} (h : Search used base n m) (h' : Search used base n k) : m = k := by
  induction h with
  | stop hunused =>
    cases h' with
    | stop _ => rfl
    | next htaken _ => exact absurd htaken hunused
  | next htaken _ ih =>
    cases h' with
    | stop hunused => exact absurd htaken hunused
    | next _ hrest => exact ih hrest

end

/-- **The search ends, with a number not greater than the size of the directory.** -/
theorem search_numbered {d : Directory} {base : String} (h : base ∈ d.names) :
    ∃ n ≤ d.length, d.freeName base = numbered base n ∧ ∀ m, Search d.names base 1 m ↔ m = n := by
  have hfree := free_freeName d base
  generalize d.freeName base = name at hfree
  cases hfree with
  | plain hunused => exact absurd h hunused
  | numbered n _ hpos hunused hleast =>
    have hsearch := search_of_least hpos hunused hleast
    refine ⟨n, ?_, rfl, fun m => ⟨fun h => h.unique hsearch, fun h => h ▸ hsearch⟩⟩
    -- one of the first numbers is free, and none below the one that was found
    obtain ⟨i, hi⟩ := Option.isSome_iff_exists.1 (find?_numbered_isSome h)
    obtain ⟨hfree, hmem, _⟩ := List.find?_range_eq_some.1 hi
    apply Nat.le_of_not_lt
    intro hlt
    have htaken := hleast (i + 1) (Nat.le_add_left 1 i) (by
      have := List.mem_range.1 hmem
      omega)
    simp [htaken] at hfree

/-! ## One insertion -/

/-- What is known of the insertion of an entry under a wanted name. -/
structure Inserted (d : Directory) (base : String) (e : Entry) : Prop where
  /-- The entry gets the wanted name, or that with the number at which the search from 1 ends. -/
  name : base ∉ d.names ∧ d.freeName base = base ∨
    base ∈ d.names ∧ ∃ n ≤ d.length, d.freeName base = numbered base n ∧
      ∀ m, Search d.names base 1 m ↔ m = n
  fresh : d.freeName base ∉ d.names
  found : (d.insertUnique base e).get? (d.freeName base) = some e
  last : (d.insertUnique base e).getLast? = some (d.freeName base, e)
  size : (d.insertUnique base e).length = d.length + 1
  /-- Every entry that was there stays in its place, with its name. -/
  kept : ∀ i, i < d.length → (d.insertUnique base e)[i]? = d[i]?
  /-- Under every other name the same is found as before. -/
  others : ∀ name, name ≠ d.freeName base → (d.insertUnique base e).get? name = d.get? name

theorem get?_append_singleton (d : Directory) (name wanted : String) (e : Entry) :
    get? (d ++ [(name, e)]) wanted =
      (d.get? wanted).or (if wanted = name then some e else none) := by
  unfold get?
  rw [List.lookup_append, List.lookup_cons]
  by_cases h : wanted = name
  · rw [if_pos h, beq_iff_eq.2 h]
  · rw [if_neg h, beq_false_of_ne h]
    rfl

theorem get?_eq_none {d : Directory} {name : String} (h : name ∉ d.names) : d.get? name = none := by
  unfold get?
  rw [List.lookup_eq_none_iff]
  intro entry hentry
  have hne : name ≠ entry.1 := fun heq => h (List.mem_map.2 ⟨entry, hentry, heq.symm⟩)
  simpa using hne

/-- **An insertion adds one entry at the end, under a new name.** -/
theorem inserted (d : Directory) (base : String) (e : Entry) : Inserted d base e where
  name := by
    by_cases h : base ∈ d.names
    · exact .inr ⟨h, search_numbered h⟩
    · have hfree := free_freeName d base
      generalize d.freeName base = name at hfree
      cases hfree with
      | plain _ => exact .inl ⟨h, rfl⟩
      | numbered _ htaken => exact absurd htaken h
  fresh := freeName_not_mem d base
  found := by
    rw [insertUnique_eq, get?_append_singleton, get?_eq_none (freeName_not_mem d base), if_pos rfl]
    rfl
  last := by rw [insertUnique_eq, List.getLast?_concat]
  size := by rw [insertUnique_eq, List.length_append, List.length_singleton]
  kept := by
    intro i hi
    rw [insertUnique_eq, List.getElem?_append_left hi]
  others := by
    intro name hne
    rw [insertUnique_eq, get?_append_singleton, if_neg hne, Option.or_none]

/-! ## Rows of insertions -/

/-- Insert entries one after the other, each under the name that it wants. -/
def insertAll (d : Directory) (entries : List (String × Entry)) : Directory :=
  entries.foldl (fun d x => d.insertUnique x.1 x.2) d

theorem insertAll_append (d : Directory) (entries further : List (String × Entry)) :
    d.insertAll (entries ++ further) = (d.insertAll entries).insertAll further :=
  List.foldl_append ..

/-- Insertions add entries at the end: theirs, in order. -/
theorem exists_insertAll (d : Directory) (entries : List (String × Entry)) :
    ∃ added, d.insertAll entries = d ++ added ∧ added.map (·.2) = entries.map (·.2) := by
  induction entries generalizing d with
  | nil => exact ⟨[], (List.append_nil d).symm, rfl⟩
  | cons x entries ih =>
    obtain ⟨added, hadded, hentries⟩ := ih (d.insertUnique x.1 x.2)
    rw [insertUnique_eq, List.append_assoc] at hadded
    refine ⟨(d.freeName x.1, x.2) :: added, ?_, ?_⟩
    · rw [insertAll, List.foldl_cons, insertUnique_eq]
      exact hadded
    · rw [List.map_cons, List.map_cons, hentries]

theorem nodup_insertAll {d : Directory} (h : d.names.Nodup) (entries : List (String × Entry)) :
    (d.insertAll entries).names.Nodup := by
  induction entries generalizing d with
  | nil => exact h
  | cons x entries ih => exact ih (nodup_insertUnique h x.1 x.2)

/-- What is found stays where it is found, whatever is inserted behind it. -/
theorem get?_insertAll {d : Directory} {name : String} {e : Entry} (h : d.get? name = some e)
    (entries : List (String × Entry)) : (d.insertAll entries).get? name = some e := by
  induction entries generalizing d with
  | nil => exact h
  | cons x entries ih =>
    have hnext : (d.insertUnique x.1 x.2).get? name = some e := by
      rw [insertUnique_eq, get?_append_singleton, h]
      rfl
    exact ih hnext

/-- What is known of a row of insertions into a directory. -/
structure Filled (d : Directory) (entries : List (String × Entry)) : Prop where
  size : (d.insertAll entries).length = d.length + entries.length
  /-- The entries are those that were there and, behind them, those that were inserted. -/
  contents : (d.insertAll entries).map (·.2) = d.map (·.2) ++ entries.map (·.2)
  distinct : d.names.Nodup → (d.insertAll entries).names.Nodup
  kept : d <+: d.insertAll entries
  /-- Every entry is found in the end under the name that it was given. -/
  found : ∀ before base e behind, entries = before ++ (base, e) :: behind →
    (d.insertAll entries).get? ((d.insertAll before).freeName base) = some e

/-- **Nothing is ever overwritten**: an insertion puts its entry at the end under a new name, and a row
of insertions adds as many entries. -/
theorem nothing_overwritten (d : Directory) :
    (∀ base e, Inserted d base e) ∧ ∀ entries, Filled d entries := by
  refine ⟨inserted d, fun entries => ?_⟩
  obtain ⟨added, hadded, hentries⟩ := exists_insertAll d entries
  exact {
    size := by
      have hlength := congrArg List.length hentries
      rw [List.length_map, List.length_map] at hlength
      rw [hadded, List.length_append, hlength]
    contents := by rw [hadded, List.map_append, hentries]
    distinct := fun h => nodup_insertAll h entries
    kept := ⟨added, hadded.symm⟩
    found := by
      rintro before base e behind rfl
      rw [insertAll_append]
      exact get?_insertAll (inserted (d.insertAll before) base e).found behind }

/-- A number is passed over when its name is in use, also as the wanted name of another entry. -/
example : (insertAll [] [("Card", .file "a"), ("Card1", .file "b"), ("Card", .file "c"),
    ("Card1", .file "d")]).names = ["Card", "Card1", "Card2", "Card11"] := by decide

end QmlExport.Code.Directory
