/-!
# Catalogs

A catalog maps names to values and lists them in increasing order of the names (by code point).
The order is part of the type, so two catalogs with the same entries are the same catalog. An
insert replaces the value of a name that is already there: `get?_insert_self` and
`get?_insert_of_ne` say what it does.
-/

namespace QmlExport

/-- A finite map from names to values, in increasing order of the names. -/
structure Catalog (α : Type) where
  entries : List (String × α)
  increasing : entries.Pairwise (fun a b => a.1 < b.1)

namespace Catalog

variable {α : Type}

/-- Put an entry where its name belongs, in place of one with the same name. -/
def insertEntry (name : String) (a : α) : List (String × α) → List (String × α)
  | [] => [(name, a)]
  | e :: es =>
    if name < e.1 then (name, a) :: e :: es
    else if name = e.1 then (name, a) :: es
    else e :: insertEntry name a es

theorem mem_insertEntry {name : String} {a : α} {es : List (String × α)} {e : String × α}
    (h : e ∈ insertEntry name a es) : e = (name, a) ∨ e ∈ es := by
  induction es with
  | nil => simp [insertEntry] at h; exact .inl h
  | cons d ds ih =>
    rw [insertEntry] at h
    split at h
    · rcases List.mem_cons.1 h with h | h
      · exact .inl h
      · exact .inr h
    · split at h
      · rcases List.mem_cons.1 h with h | h
        · exact .inl h
        · exact .inr (List.mem_cons_of_mem _ h)
      · rcases List.mem_cons.1 h with h | h
        · exact .inr (h ▸ List.mem_cons_self)
        · rcases ih h with h | h
          · exact .inl h
          · exact .inr (List.mem_cons_of_mem _ h)

theorem increasing_insertEntry {name : String} {a : α} {es : List (String × α)}
    (h : es.Pairwise (fun a b => a.1 < b.1)) :
    (insertEntry name a es).Pairwise (fun a b => a.1 < b.1) := by
  induction es with
  | nil => simp [insertEntry]
  | cons d ds ih =>
    obtain ⟨hd, hds⟩ := List.pairwise_cons.1 h
    rw [insertEntry]
    split
    · next hlt =>
      refine List.pairwise_cons.2 ⟨fun e he => ?_, h⟩
      rcases List.mem_cons.1 he with rfl | he
      · exact hlt
      · exact String.lt_trans hlt (hd e he)
    · split
      · next heq => exact List.pairwise_cons.2 ⟨fun e he => heq ▸ hd e he, hds⟩
      · next hge hne =>
        refine List.pairwise_cons.2 ⟨fun e he => ?_, ih hds⟩
        rcases mem_insertEntry he with rfl | he
        · rcases Std.lt_trichotomy name d.1 with h | h | h
          · exact absurd h hge
          · exact absurd h hne
          · exact h
        · exact hd e he

/-- The catalog without entries. -/
def empty : Catalog α := ⟨[], .nil⟩

instance : Inhabited (Catalog α) := ⟨empty⟩

/-- Map a name to a value. -/
def insert (c : Catalog α) (name : String) (a : α) : Catalog α :=
  ⟨insertEntry name a c.entries, increasing_insertEntry c.increasing⟩

/-- The value of a name. -/
def get? (c : Catalog α) (name : String) : Option α := c.entries.lookup name

/-- The number of names. -/
def size (c : Catalog α) : Nat := c.entries.length

/-- Whether there are no entries. -/
def isEmpty (c : Catalog α) : Bool := c.entries.isEmpty

/-- Insert all entries, from left to right. -/
def insertAll (c : Catalog α) (es : List (String × α)) : Catalog α :=
  es.foldl (fun c e => c.insert e.1 e.2) c

/-- The catalog of a list of entries; the last one with a name wins. -/
def ofList (es : List (String × α)) : Catalog α := empty.insertAll es

theorem ext {c d : Catalog α} (h : c.entries = d.entries) : c = d := by
  cases c; cases d; simpa using h

theorem lookup_insertEntry_self (name : String) (a : α) (es : List (String × α)) :
    (insertEntry name a es).lookup name = some a := by
  induction es with
  | nil => simp [insertEntry]
  | cons e es ih =>
    obtain ⟨k, b⟩ := e
    rw [insertEntry]
    split
    · simp
    · split
      · simp
      · next hne =>
        have : (name == k) = false := by simpa using hne
        simp [List.lookup_cons, this, ih]

theorem lookup_insertEntry_of_ne {name other : String} (a : α) (es : List (String × α))
    (h : other ≠ name) : (insertEntry name a es).lookup other = es.lookup other := by
  have hf : (other == name) = false := by simpa using h
  induction es with
  | nil => simp [insertEntry, List.lookup_cons, hf]
  | cons e es ih =>
    obtain ⟨k, b⟩ := e
    rw [insertEntry]
    split
    · simp [List.lookup_cons, hf]
    · split
      · next heq =>
        obtain rfl : name = k := heq
        simp [List.lookup_cons, hf]
      · simp only [List.lookup_cons, ih]

@[simp] theorem get?_insert_self (c : Catalog α) (name : String) (a : α) :
    (c.insert name a).get? name = some a := lookup_insertEntry_self name a c.entries

theorem get?_insert_of_ne (c : Catalog α) {name other : String} (a : α) (h : other ≠ name) :
    (c.insert name a).get? other = c.get? other := lookup_insertEntry_of_ne a c.entries h

end Catalog

end QmlExport
