import QmlExport.Proofs.Code.Families
import QmlExport.Proofs.Code.Names
import QmlExport.Proofs.Store.Contents

/-!
# Generated trees are tidy

A tree is tidy when every directory has different names, all of them identifiers, and when it is no
deeper than a given number of directories. Insertion under free names keeps a directory tidy, so
**whatever document and options, the generated tree is tidy** (`tidy_generate`). From that follow
what a store and a package ask of it: distinct names, few levels, and names that sanitizing leaves
alone.
-/

namespace QmlExport.Code

open Design Identifier

/-- Below the entry lie at most so many directories inside one another, each with different names,
all identifiers. -/
def Entry.Tidy : Nat → Entry → Prop
  | _, .file _ => True
  | 0, .directory _ => False
  | n + 1, .directory es =>
    (es.map (·.1)).Nodup ∧ ∀ e ∈ es, IsIdentifier e.1 ∧ Tidy n e.2

/-- A directory that is tidy itself, with so many further directories inside one another below. -/
def Directory.Tidy (n : Nat) (d : Directory) : Prop := (Entry.directory d).Tidy (n + 1)

/-! ## Consequences -/

theorem Entry.tidy_file (n : Nat) (code : String) : (Entry.file code).Tidy n := by
  cases n <;> trivial

theorem Entry.Tidy.succ {n : Nat} {e : Entry} (h : e.Tidy n) : e.Tidy (n + 1) := by
  induction n generalizing e with
  | zero =>
    cases e with
    | file code => exact Entry.tidy_file 1 code
    | directory es => exact absurd h id
  | succ n ih =>
    cases e with
    | file code => exact Entry.tidy_file _ code
    | directory es => exact ⟨h.1, fun e he => ⟨(h.2 e he).1, ih (h.2 e he).2⟩⟩

theorem distinctBelow_iff {es : List (String × Entry)} :
    DistinctBelow es ↔ ∀ e ∈ es, e.2.Distinct := by
  induction es with
  | nil => exact ⟨fun _ e he => absurd he List.not_mem_nil, fun _ => trivial⟩
  | cons e es ih => rw [DistinctBelow, ih, List.forall_mem_cons]

theorem Entry.Tidy.distinct {n : Nat} {e : Entry} (h : e.Tidy n) : e.Distinct := by
  induction n generalizing e with
  | zero =>
    cases e with
    | file code => trivial
    | directory es => exact absurd h id
  | succ n ih =>
    cases e with
    | file code => trivial
    | directory es => exact ⟨h.1, distinctBelow_iff.2 fun e he => ih (h.2 e he).2⟩

theorem nestingMembers_le {es : List (String × Entry)} {n : Nat}
    (h : ∀ e ∈ es, e.2.toJson.nesting ≤ n) : Json.Value.nestingMembers (membersOf es) ≤ n := by
  induction es with
  | nil => exact Nat.zero_le n
  | cons e es ih =>
    obtain ⟨he, hes⟩ := List.forall_mem_cons.1 h
    exact Nat.max_le.2 ⟨he, ih hes⟩

theorem Entry.Tidy.nesting_le {n : Nat} {e : Entry} (h : e.Tidy n) : e.toJson.nesting ≤ n := by
  induction n generalizing e with
  | zero =>
    cases e with
    | file code => exact Nat.le_refl 0
    | directory es => exact absurd h id
  | succ n ih =>
    cases e with
    | file code => exact Nat.zero_le _
    | directory es =>
      exact Nat.succ_le_succ (nestingMembers_le fun e he => ih (h.2 e he).2)

/-! ## Insertion -/

theorem Directory.tidy_nil (n : Nat) : Directory.Tidy n [] :=
  ⟨List.nodup_nil, nofun⟩

theorem Directory.Tidy.insertUnique {n : Nat} {d : Directory} (h : d.Tidy n) {e : Entry}
    (he : e.Tidy n) {base : String} (hbase : IsIdentifier base) :
    (Directory.insertUnique d base e).Tidy n := by
  refine ⟨nodup_insertUnique h.1 base e, ?_⟩
  intro f hf
  rw [insertUnique_eq] at hf
  rcases List.mem_append.1 hf with hf | hf
  · exact h.2 f hf
  · obtain rfl : f = (freeName d base, e) := List.mem_singleton.1 hf
    exact ⟨isIdentifier_freeName hbase, he⟩

/-! ## Generated trees -/

namespace Exporter

theorem tidy_artboards (e : Exporter) (depth : Nat) (nodes : List Node) :
    (e.artboards depth nodes).2.Tidy 0 := by
  rw [artboards_eq]
  -- the directory that is built so far is the accumulator, so the invariant is on it
  suffices h : ∀ p : Exporter × Directory, p.2.Tidy 0 →
      (nodes.foldl (addArtboard depth) p).2.Tidy 0 from h (e, []) (Directory.tidy_nil 0)
  induction nodes with
  | nil => exact fun p hp => hp
  | cons n nodes ih =>
    intro p hp
    apply ih
    exact hp.insertUnique (Entry.tidy_file 0 _) (isIdentifier_sanitize _)

theorem tidy_sets (e : Exporter) (sets : List ArtboardSet) : (e.sets sets).2.Tidy 1 := by
  rw [sets_eq]
  suffices h : ∀ p : Exporter × Directory, p.2.Tidy 1 →
      (sets.foldl addSet p).2.Tidy 1 from h (e, []) (Directory.tidy_nil 1)
  induction sets with
  | nil => exact fun p hp => hp
  | cons s sets ih =>
    intro p hp
    apply ih
    exact hp.insertUnique (tidy_artboards p.1 2 s.artboards) (isIdentifier_sanitize _)

theorem tidy_run (e : Exporter) (d : Document) : (e.run d).2.Tidy 2 := by
  have hroot := tidy_artboards { e with families := [] } 1 d.artboards
  have hsets := tidy_sets (artboards { e with families := [] } 1 d.artboards).1 d.artboardSets
  have hrun : (e.run d).2 = Directory.insertUnique
      (Directory.insertUnique [] (sanitize rootDirectory)
        (.directory (artboards { e with families := [] } 1 d.artboards).2))
      (sanitize componentsDirectory)
      (.directory (sets (artboards { e with families := [] } 1 d.artboards).1 d.artboardSets).2) :=
    congrArg Prod.snd (show e.run d = (_, _) from rfl)
  rw [hrun]
  exact ((Directory.tidy_nil 2).insertUnique (Entry.Tidy.succ hroot)
    (isIdentifier_sanitize _)).insertUnique hsets (isIdentifier_sanitize _)

end Exporter

/-- **Every generated tree is tidy.** -/
theorem tidy_generate (o : Options) (d : Document) : (generate o d).1.Tidy 2 :=
  Exporter.tidy_run _ d

/-- A generated tree can be stored and read back. -/
theorem readable_generate (o : Options) (d : Document) :
    (Store.Content.code (generate o d).1).Readable := by
  have htidy := tidy_generate o d
  refine ⟨htidy.distinct, ?_⟩
  have hlevels : (Directory.toJson (generate o d).1).nesting ≤ 3 := htidy.nesting_le
  show (Directory.toJson (generate o d).1).nesting + 2 ≤ 127
  omega

end QmlExport.Code
