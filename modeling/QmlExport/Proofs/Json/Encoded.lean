import QmlExport.Proofs.Decimal.Reread
import QmlExport.Proofs.Json.RoundTrip

/-!
# What encoders make

The values that records and documents are written as are `Encoded`: names and strings are texts, and
numerals are those of finite doubles and of counts. **Such a value can be printed, and is sound**:
readers accept all of it, also what they pass over (`Value.Encoded.writable`,
`Value.Encoded.sound`).
-/

namespace QmlExport.Json

open Decimal

/-- The numeral is that of a finite double, or of a natural number of 64 bits. -/
def IsWritten (n : Numeral) : Prop :=
  (∃ x : Float, x.isFinite ∧ n = .scientific x) ∨ ∃ k, k < significandBound ∧ n = .ofNat k

theorem IsWritten.printable {n : Numeral} (h : IsWritten n) : n.Printable := by
  obtain ⟨x, _, rfl⟩ | ⟨k, _, rfl⟩ := h
  · exact Numeral.printable_scientific x
  · exact Numeral.printable_ofNat k

theorem IsWritten.sound {n : Numeral} (h : IsWritten n) : (Value.number n).sound = true := by
  obtain ⟨x, hfinite, rfl⟩ | ⟨k, hk, rfl⟩ := h
  · rw [Value.sound, Numeral.float?_scientific_isSome hfinite, Bool.or_true]
  · rw [Value.sound, Numeral.nat?_ofNat hk, Option.isSome_some, Bool.true_or]

mutual
/-- Every string is a text and every numeral is that of a finite double or of a count, all the way
down. -/
def Value.Encoded : Value → Prop
  | .number n => IsWritten n
  | .string t => t.isSome
  | .array items => EncodedItems items
  | .object members => EncodedMembers members
  | _ => True

/-- `Encoded` for all items. -/
def EncodedItems : List Value → Prop
  | [] => True
  | v :: vs => v.Encoded ∧ EncodedItems vs

/-- `Encoded` for all members and their names. -/
def EncodedMembers : List (Option String × Value) → Prop
  | [] => True
  | (k, v) :: ms => k.isSome ∧ v.Encoded ∧ EncodedMembers ms
end

/-! ## Readers accept it -/

mutual
/-- **What encoders make can be printed.** -/
theorem Value.Encoded.writable {v : Value} (h : v.Encoded) : v.Writable := by
  match v, h with
  | .null, _ | .bool _, _ => exact trivial
  | .number _, h => exact IsWritten.printable h
  | .string _, h => exact h
  | .array _, h => exact EncodedItems.writable h
  | .object _, h => exact EncodedMembers.writable h

theorem EncodedItems.writable {vs : List Value} (h : EncodedItems vs) : WritableItems vs := by
  match vs, h with
  | [], _ => exact trivial
  | _ :: _, ⟨hv, hvs⟩ => exact ⟨Value.Encoded.writable hv, EncodedItems.writable hvs⟩

theorem EncodedMembers.writable {ms : List (Option String × Value)} (h : EncodedMembers ms) :
    WritableMembers ms := by
  match ms, h with
  | [], _ => exact trivial
  | (_, _) :: _, ⟨hk, hv, hms⟩ =>
    exact ⟨hk, Value.Encoded.writable hv, EncodedMembers.writable hms⟩
end

mutual
/-- **What encoders make is sound.** -/
theorem Value.Encoded.sound {v : Value} (h : v.Encoded) : v.sound = true := by
  match v, h with
  | .null, _ | .bool _, _ => rfl
  | .number _, h => exact IsWritten.sound h
  | .string _, h => exact h
  | .array _, h => exact EncodedItems.sound h
  | .object _, h => exact EncodedMembers.sound h

theorem EncodedItems.sound {vs : List Value} (h : EncodedItems vs) :
    Value.soundItems vs = true := by
  match vs, h with
  | [], _ => rfl
  | _ :: _, ⟨hv, hvs⟩ =>
    rw [Value.soundItems, Value.Encoded.sound hv, EncodedItems.sound hvs, Bool.and_true]

theorem EncodedMembers.sound {ms : List (Option String × Value)} (h : EncodedMembers ms) :
    Value.soundMembers ms = true := by
  match ms, h with
  | [], _ => rfl
  | (_, _) :: _, ⟨hk, hv, hms⟩ =>
    rw [Value.soundMembers, hk, Value.Encoded.sound hv, EncodedMembers.sound hms]
    rfl
end

/-! ## Putting values together -/

theorem encodedItems_iff {vs : List Value} : EncodedItems vs ↔ ∀ v ∈ vs, v.Encoded := by
  induction vs with
  | nil => exact ⟨fun _ v hv => absurd hv List.not_mem_nil, fun _ => trivial⟩
  | cons v vs ih => rw [EncodedItems, ih, List.forall_mem_cons]

theorem encodedMembers_iff {ms : List (Option String × Value)} :
    EncodedMembers ms ↔ ∀ m ∈ ms, m.1.isSome ∧ m.2.Encoded := by
  induction ms with
  | nil => exact ⟨fun _ m hm => absurd hm List.not_mem_nil, fun _ => trivial⟩
  | cons m ms ih =>
    obtain ⟨k, v⟩ := m
    rw [EncodedMembers, ih, List.forall_mem_cons, and_assoc]

theorem encoded_fields {ms : List (String × Value)} (h : ∀ m ∈ ms, m.2.Encoded) :
    (Value.fields ms).Encoded := by
  apply encodedMembers_iff.2
  intro m hm
  obtain ⟨n, hn, rfl⟩ := List.mem_map.1 hm
  exact ⟨rfl, h n hn⟩

theorem encoded_array {α : Type} {f : α → Value} {as : List α} (h : ∀ a ∈ as, (f a).Encoded) :
    (Value.array (as.map f)).Encoded := by
  apply encodedItems_iff.2
  intro v hv
  obtain ⟨a, ha, rfl⟩ := List.mem_map.1 hv
  exact h a ha

theorem encoded_text (s : String) : (Value.text s).Encoded := rfl

theorem encoded_bool (b : Bool) : (Value.bool b).Encoded := trivial

theorem encoded_nat {n : Nat} (h : n < significandBound) : (Value.nat n).Encoded := .inr ⟨n, h, rfl⟩

/-- A double that is not finite is written as null. -/
theorem encoded_float (x : Float) : (Value.float x).Encoded := by
  unfold Value.float
  split
  · next hx => exact .inl ⟨x, hx, rfl⟩
  · trivial

/-! Fields one behind the other. -/

theorem encoded_nil : ∀ m ∈ ([] : List (String × Value)), m.2.Encoded := nofun

theorem encoded_cons {name : String} {v : Value} {ms : List (String × Value)} (hv : v.Encoded)
    (h : ∀ m ∈ ms, m.2.Encoded) : ∀ m ∈ (name, v) :: ms, m.2.Encoded :=
  List.forall_mem_cons.2 ⟨hv, h⟩

theorem encoded_append {ms ns : List (String × Value)} (hm : ∀ m ∈ ms, m.2.Encoded)
    (hn : ∀ m ∈ ns, m.2.Encoded) : ∀ m ∈ ms ++ ns, m.2.Encoded :=
  List.forall_mem_append.2 ⟨hm, hn⟩

theorem encoded_omitNone {α : Type} (name : String) {f : α → Value} {v : Option α}
    (h : ∀ a, (f a).Encoded) : ∀ m ∈ omitNone name f v, m.2.Encoded := by
  cases v with
  | none => exact encoded_nil
  | some a => exact encoded_cons (h a) encoded_nil

theorem encoded_omitEmpty {α : Type} (name : String) {f : α → Value} {as : List α}
    (h : ∀ a ∈ as, (f a).Encoded) : ∀ m ∈ omitEmpty name f as, m.2.Encoded := by
  cases as with
  | nil => exact encoded_nil
  | cons a as => exact encoded_cons (encoded_array h) encoded_nil

end QmlExport.Json
