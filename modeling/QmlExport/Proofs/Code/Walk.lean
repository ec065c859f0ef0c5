import Mathlib.Data.List.Sort
import QmlExport.Proofs.Code.Shape
import QmlExport.Proofs.Code.Tidy

/-!
# Walks through a tree

There are two ways to the files of a tree: `filesOf` walks through all of it, depth first, and
`find?` follows one path, down a directory for every name but the last. They agree,

    (path, code) ∈ filesOf d ↔ d.find? path = some code

where no directory uses a name twice (`mem_filesOf_iff`). Every tree is like that: inserting and
reading keep the names of a directory apart (`Distinct.insertUnique`, `distinct_of_decoder`).

A walk comes to the entries of a directory in their order, so of two paths it takes the one first
whose name stands first where they part (`Before`). Which files there are and in which order leaves
no choice: **there is one such list, and the walk gives it** (`walk_iff`).
-/

namespace QmlExport.Code

open Json (Decoder Value)

/-! ## Names apart -/

namespace Directory

variable {d : Directory}

theorem distinct_iff : d.Distinct ↔ d.names.Nodup ∧ ∀ e ∈ d, e.2.Distinct :=
  and_congr_right fun _ => distinctBelow_iff

/-- A directory in a directory whose names are apart. -/
theorem Distinct.below (h : d.Distinct) {name : String} {es : Directory}
    (hmem : (name, .directory es) ∈ d) : es.Distinct :=
  (distinct_iff.1 h).2 _ hmem

theorem distinct_nil : Directory.Distinct [] := ⟨List.nodup_nil, trivial⟩

/-- **Inserting keeps names apart.** -/
theorem Distinct.insertUnique (h : d.Distinct) {e : Entry} (he : e.Distinct) (base : String) :
    (d.insertUnique base e).Distinct := by
  obtain ⟨hnames, hbelow⟩ := distinct_iff.1 h
  refine distinct_iff.2 ⟨nodup_insertUnique hnames base e, ?_⟩
  rw [insertUnique_eq]
  exact List.forall_mem_append.2 ⟨hbelow, List.forall_mem_singleton.2 he⟩

/-- A name that is in use stays where it is. -/
theorem names_put {name : String} (h : name ∈ d.names) (e : Entry) :
    (d.put name e).names = d.names := by
  induction d with
  | nil => exact absurd h List.not_mem_nil
  | cons f d ih =>
    by_cases hf : f.1 = name
    · simp [put, names, hf]
    · have hmem : name ∈ names d := (List.mem_cons.1 h).resolve_left (Ne.symm hf)
      rw [put, if_neg hf]
      exact congrArg (f.1 :: ·) (ih hmem)

theorem mem_of_mem_put {name : String} {e : Entry} {f : String × Entry}
    (h : f ∈ d.put name e) : f = (name, e) ∨ f ∈ d := by
  induction d with
  | nil => exact .inl (List.mem_singleton.1 h)
  | cons g d ih =>
    rw [put] at h
    split at h
    · exact (List.mem_cons.1 h).imp_right (List.mem_cons_of_mem g)
    · rcases List.mem_cons.1 h with rfl | h
      · exact .inr List.mem_cons_self
      · exact (ih h).imp_right (List.mem_cons_of_mem g)

theorem Distinct.put (h : d.Distinct) (name : String) {e : Entry} (he : e.Distinct) :
    (d.put name e).Distinct := by
  obtain ⟨hnames, hbelow⟩ := distinct_iff.1 h
  refine distinct_iff.2 ⟨?_, fun f hf => ?_⟩
  · by_cases hname : name ∈ d.names
    · rwa [names_put hname]
    · rw [put_append e hname, names, List.map_append]
      exact List.concat_eq_append ▸ hnames.concat hname
  · rcases mem_of_mem_put hf with rfl | hf
    · exact he
    · exact hbelow f hf

/-- Members put one after the other keep names apart, also where a name comes twice. -/
theorem distinct_ofMembers {ms : List (String × Entry)} (h : ∀ m ∈ ms, m.2.Distinct) :
    (ofMembers ms).Distinct := by
  unfold ofMembers
  -- the directory that is built so far is the accumulator, so the invariant is on it
  suffices hfold : ∀ d : Directory, d.Distinct →
      (ms.foldl (fun d m => d.put m.1 m.2) d).Distinct from
    hfold [] distinct_nil
  induction ms with
  | nil => exact fun d hd => hd
  | cons m ms ih =>
    obtain ⟨hm, hms⟩ := List.forall_mem_cons.1 h
    exact fun d hd => ih hms _ (hd.put m.1 hm)

end Directory

theorem Entry.distinct_of_decoder {levels : Nat} {v : Value} {e : Entry}
    (h : Entry.decoder levels v = some e) : e.Distinct := by
  induction levels using Nat.strongRecOn generalizing v e with
  | _ levels ih =>
    cases v with
    | object members =>
      rw [Entry.decoder_object] at h
      obtain ⟨ms, hms, rfl⟩ := Option.map_eq_some_iff.1 h
      apply Directory.distinct_ofMembers
      intro m hm
      obtain ⟨below, w, rfl, hw⟩ := Decoder.exists_of_mem_entries hms m hm
      exact ih below (Nat.lt_succ_self below) hw
    | string s => cases s with
      | none => cases levels <;> cases h
      | some code =>
        obtain rfl : .file code = e := by cases levels <;> exact Option.some.inj h
        trivial
    | _ => cases levels <;> cases h

/-- **Names are apart in every directory that is read.** -/
theorem Directory.distinct_of_decoder {levels : Nat} {v : Value} {d : Directory}
    (h : Directory.decoder levels v = some d) : d.Distinct := by
  obtain ⟨ms, hms, rfl⟩ := Option.map_eq_some_iff.1 h
  apply distinct_ofMembers
  intro m hm
  obtain ⟨below, w, _, hw⟩ := Decoder.exists_of_mem_entries hms m hm
  unfold Decoder.whole at hw
  split at hw
  · exact Entry.distinct_of_decoder hw
  · cases hw

namespace Directory

variable {d : Directory}

/-! ## One path -/

/-- Induction from the directories in a directory to the directory itself. -/
theorem directory_ind {motive : Directory → Prop}
    (step : ∀ d : Directory, (∀ name es, (name, .directory es) ∈ d → motive es) → motive d)
    (d : Directory) : motive d :=
  step d fun name es hmem =>
    have hlt : sizeOf es < sizeOf d := by
      have hentry := List.sizeOf_lt_of_mem hmem
      simp only [Prod.mk.sizeOf_spec, Entry.directory.sizeOf_spec] at hentry
      omega
    directory_ind step es
termination_by sizeOf d

theorem get?_eq_some_iff (h : d.names.Nodup) {name : String} {e : Entry} :
    d.get? name = some e ↔ (name, e) ∈ d := by
  unfold get?
  rw [List.lookup_eq_some_iff]
  constructor
  · rintro ⟨front, back, rfl, _⟩
    simp
  · intro hmem
    obtain ⟨front, back, rfl⟩ := List.append_of_mem hmem
    refine ⟨front, back, rfl, fun f hf => ?_⟩
    -- an entry in front with the same name would use the name twice
    rw [names, List.map_append, List.nodup_append] at h
    exact bne_iff_ne.2 (Ne.symm (h.2.2 f.1 (List.mem_map_of_mem hf) name (by simp)))

theorem directory?_eq_some_iff {name : String} {es : Directory} :
    d.directory? name = some es ↔ d.get? name = some (.directory es) := by
  unfold directory?
  split
  · next hget => simp [hget]
  · next hother => exact ⟨nofun, fun hget => absurd hget (hother es)⟩

theorem file?_eq_some_iff {name code : String} :
    d.file? name = some code ↔ d.get? name = some (.file code) := by
  unfold file?
  split
  · next hget => simp [hget]
  · next hother => exact ⟨nofun, fun hget => absurd hget (hother code)⟩

/-- A path leads to a file by its last name alone, and into a directory by its first name. -/
theorem find?_cons_iff {name : String} {path : List String} {code : String} :
    d.find? (name :: path) = some code ↔
      path = [] ∧ d.get? name = some (.file code) ∨
        ∃ es, d.get? name = some (.directory es) ∧ find? es path = some code := by
  cases path with
  | nil => simp [find?, file?_eq_some_iff]
  | cons next path =>
    have hnext : d.find? (name :: next :: path) =
        (d.directory? name).bind fun es => find? es (next :: path) := by
      rw [find?]
      · cases d.directory? name <;> rfl
      · exact nofun
    simp only [hnext, Option.bind_eq_some_iff, directory?_eq_some_iff, reduceCtorEq, false_and,
      false_or]

/-! ## All paths -/

theorem filesOf_eq_flatMap (d : Directory) :
    filesOf d = d.flatMap fun e => e.2.files.map fun f => (e.1 :: f.1, f.2) := by
  induction d with
  | nil => rfl
  | cons e d ih => rw [filesOf, ih, List.flatMap_cons]

theorem nil_not_mem_filesOf (d : Directory) (code : String) : ([], code) ∉ filesOf d := by
  rw [filesOf_eq_flatMap]
  simp

/-- The files of an entry of a directory. -/
theorem mem_filesOf_cons_iff {name : String} {path : List String} {code : String} :
    (name :: path, code) ∈ filesOf d ↔
      path = [] ∧ (name, .file code) ∈ d ∨
        ∃ es, (name, .directory es) ∈ d ∧ (path, code) ∈ filesOf es := by
  have hentry : (name :: path, code) ∈ filesOf d ↔
      ∃ e, (name, e) ∈ d ∧ (path, code) ∈ e.files := by
    rw [filesOf_eq_flatMap]
    simp
  rw [hentry]
  constructor
  · rintro ⟨e, he, hmem⟩
    cases e with
    | file code' =>
      obtain ⟨rfl, rfl⟩ := Prod.mk.inj (List.mem_singleton.1 hmem)
      exact .inl ⟨rfl, he⟩
    | directory es => exact .inr ⟨es, he, hmem⟩
  · rintro (⟨rfl, he⟩ | ⟨es, he, hmem⟩)
    · exact ⟨_, he, List.mem_singleton_self _⟩
    · exact ⟨_, he, hmem⟩

/-- **The files that are listed are those that a path leads to.** -/
theorem mem_filesOf_iff (h : d.Distinct) (path : List String) (code : String) :
    (path, code) ∈ filesOf d ↔ d.find? path = some code := by
  induction d using directory_ind generalizing path with
  | step d ih =>
    cases path with
    | nil => exact iff_of_false (nil_not_mem_filesOf d code) nofun
    | cons name path =>
      have hget : ∀ e, d.get? name = some e ↔ (name, e) ∈ d :=
        fun _ => get?_eq_some_iff (distinct_iff.1 h).1
      rw [mem_filesOf_cons_iff, find?_cons_iff, hget]
      refine or_congr_right (exists_congr fun es => ?_)
      rw [hget]
      exact and_congr_right fun hmem => ih name es hmem (h.below hmem) path

/-! ## The order of a walk -/

/-- Of two paths, the first one is that whose name stands first in the directory where they part. -/
inductive Before : Directory → List String → List String → Prop
  | parting {d : Directory} {name other : String} (path path' : List String)
      (h : [name, other].Sublist d.names) : Before d (name :: path) (other :: path')
  | within {d es : Directory} {name : String} {path path' : List String}
      (hdir : d.directory? name = some es) (h : Before es path path') :
      Before d (name :: path) (name :: path')

/-- Of two members of a list without repetitions only one stands before the other. -/
theorem not_sublist_of_sublist {α : Type} {a b : α} {l : List α} (hnd : l.Nodup)
    (h : [a, b].Sublist l) : ¬ [b, a].Sublist l := by
  induction l with
  | nil => cases h
  | cons c l ih =>
    obtain ⟨hc, hl⟩ := List.nodup_cons.1 hnd
    intro hback
    cases h with
    | cons _ h =>
      cases hback with
      | cons _ hback => exact ih hl h hback
      | cons_cons _ _ => exact hc (h.subset (by simp))
    | cons_cons _ h =>
      cases hback with
      | cons _ hback => exact hc (hback.subset (by simp))
      | cons_cons _ _ => exact hc (h.subset (by simp))

/-- **Of two paths only one can be the first.** -/
theorem Before.asymm {path path' : List String} (h : Before d path path') (hd : d.Distinct) :
    ¬ Before d path' path := by
  induction h with
  | parting path path' hsub =>
    have hnames := (distinct_iff.1 hd).1
    intro hback
    cases hback with
    | parting _ _ hsub' => exact not_sublist_of_sublist hnames hsub hsub'
    | within _ _ => exact List.nodup_iff_sublist.1 hnames _ hsub
  | within hdir _ ih =>
    have hnames := (distinct_iff.1 hd).1
    intro hback
    cases hback with
    | parting _ _ hsub => exact List.nodup_iff_sublist.1 hnames _ hsub
    | within hdir' hback =>
      obtain rfl := Option.some.inj (hdir.symm.trans hdir')
      have hmem := (get?_eq_some_iff hnames).1 (directory?_eq_some_iff.1 hdir)
      exact ih (hd.below hmem) hback

/-- **The files are listed in the order of a walk.** -/
theorem pairwise_filesOf (h : d.Distinct) :
    (filesOf d).Pairwise fun f g => Before d f.1 g.1 := by
  induction d using directory_ind with
  | step d ih =>
    rw [filesOf_eq_flatMap, List.pairwise_flatMap]
    refine ⟨fun e he => ?_, ?_⟩
    · obtain ⟨name, e⟩ := e
      rw [List.pairwise_map]
      cases e with
      | file code => exact List.pairwise_singleton _ _
      | directory es =>
        have hdir : d.directory? name = some es :=
          directory?_eq_some_iff.2 ((get?_eq_some_iff (distinct_iff.1 h).1).2 he)
        exact (ih name es he (h.below he)).imp fun hbefore => .within hdir hbefore
    · refine List.pairwise_iff_forall_sublist.2 fun {e f} hsub => ?_
      have hnames : [e.1, f.1].Sublist d.names := hsub.map Prod.fst
      rintro _ he _ hf
      obtain ⟨_, _, rfl⟩ := List.mem_map.1 he
      obtain ⟨_, _, rfl⟩ := List.mem_map.1 hf
      exact .parting _ _ hnames

/-! ## Walks -/

/-- What is known of the list of the files of a tree. -/
structure Walk (d : Directory) (files : List (List String × String)) : Prop where
  count : files.length = countFiles d
  /-- The files stand in the order in which a walk comes to them. -/
  ordered : files.Pairwise fun f g => Before d f.1 g.1
  distinct : (files.map (·.1)).Nodup
  nonempty : ∀ f ∈ files, f.1 ≠ []
  /-- What is listed is what a path leads to, with its path. -/
  mem_iff : ∀ path code, (path, code) ∈ files ↔ d.find? path = some code

/-- **The files of a tree make one list, and the walk gives it.** -/
theorem walk_iff (h : d.Distinct) (files : List (List String × String)) :
    Walk d files ↔ files = filesOf d := by
  have hirrefl : ∀ path, ¬ Before d path path := fun path hp => hp.asymm h hp
  constructor
  · intro hwalk
    -- two lists in one order with the same members are the same
    have : Std.Antisymm fun f g : List String × String => Before d f.1 g.1 :=
      ⟨fun f g hfg hgf => absurd hgf (hfg.asymm h)⟩
    have : Std.Irrefl fun f g : List String × String => Before d f.1 g.1 :=
      ⟨fun f => hirrefl f.1⟩
    apply hwalk.ordered.eq_of_mem_iff (pairwise_filesOf h)
    rintro ⟨path, code⟩
    rw [hwalk.mem_iff, mem_filesOf_iff h]
  · rintro rfl
    exact {
      count := length_filesOf d
      ordered := pairwise_filesOf h
      distinct := by
        refine List.pairwise_map.2 ((pairwise_filesOf h).imp ?_)
        intro f g hbefore heq
        rw [heq] at hbefore
        exact hirrefl g.1 hbefore
      nonempty := by
        rintro ⟨path, code⟩ hmem rfl
        exact nil_not_mem_filesOf d code hmem
      mem_iff := mem_filesOf_iff h }

/-- A tree in which a name comes back further down, and with a directory without files. -/
def buttonTree : Directory :=
  [("Home", .file "a"),
    ("Button", .directory [("Button", .directory [("Home", .file "b")]), ("Empty", .directory []),
      ("Home", .file "c")]),
    ("Card", .file "d")]

theorem walk_buttonTree : buttonTree.Distinct ∧
    Walk buttonTree [(["Home"], "a"), (["Button", "Button", "Home"], "b"),
      (["Button", "Home"], "c"), (["Card"], "d")] := by
  have hdistinct : buttonTree.Distinct := by
    simp [buttonTree, Directory.Distinct, Entry.Distinct, DistinctBelow]
  exact ⟨hdistinct, (walk_iff hdistinct _).2 rfl⟩

end Directory

end QmlExport.Code
