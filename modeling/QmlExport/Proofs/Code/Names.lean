import QmlExport.Code.Tree
import QmlExport.Identifier
import QmlExport.Proofs.Decimal.Digits

/-!
# Names of the code tree

Two facts about names carry everything that is known of code trees.

* **Sanitizing.** `sanitize` always gives an identifier (`isIdentifier_sanitize`) and leaves
  identifiers alone (`sanitize_of_isIdentifier`), and an identifier with a number behind it is one.
* **Free names.** `freeName` gives a name that is not in use (`freeName_not_mem`): the wanted name
  and its first numbered names are one more than the names in use, so they cannot all be in use.
-/

namespace QmlExport.Identifier

/-! ## Sanitizing -/

theorem isIdentifier_ofList {c : Char} {cs : List Char} (hc : c.isAlpha)
    (hcs : ∀ d ∈ c :: cs, d.isAlphanum) : IsIdentifier (String.ofList (c :: cs)) :=
  ⟨c, cs, String.toList_ofList, hc, hcs⟩

/-- Identifiers are recognized by evaluation. -/
theorem isIdentifier_of_toList {s : String} {c : Char} {cs : List Char} (hs : s.toList = c :: cs)
    (hc : c.isAlpha) (hcs : (c :: cs).all Char.isAlphanum) : IsIdentifier s :=
  ⟨c, cs, hs, hc, List.all_eq_true.1 hcs⟩

/-- A letter is no digit. -/
theorem isDigit_of_isAlpha {c : Char} (h : c.isAlpha) : c.isDigit = false := by
  delta Char.isAlpha Char.isUpper Char.isLower at h
  rw [← Bool.not_eq_true, Char.isDigit_iff_toNat]
  simp only [Bool.or_eq_true, Bool.and_eq_true, decide_eq_true_eq, ge_iff_le,
    UInt32.le_iff_toNat_le] at h
  simp only [Char.toNat] at *
  have hA : 'A'.val.toNat = 65 := rfl
  have ha : 'a'.val.toNat = 97 := rfl
  have h9 : '9'.val.toNat = 57 := rfl
  omega

/-- What holds of the letters and digits among the first characters holds of all letters and digits.
-/
theorem of_isAlphanum {P : Char → Prop}
    (hall : ∀ n < 128, (Char.ofNat n).isAlphanum → P (Char.ofNat n)) {c : Char}
    (h : c.isAlphanum) : P c := by
  have hfirst : c.toNat < 128 := by
    delta Char.isAlphanum Char.isAlpha Char.isUpper Char.isLower Char.isDigit at h
    simp only [Bool.or_eq_true, Bool.and_eq_true, decide_eq_true_eq, ge_iff_le,
      UInt32.le_iff_toNat_le] at h
    rcases h with (h | h) | h
    · exact Nat.lt_of_le_of_lt h.2 (by decide)
    · exact Nat.lt_of_le_of_lt h.2 (by decide)
    · exact Nat.lt_of_le_of_lt h.2 (by decide)
  have hc := hall c.toNat hfirst
  rw [Char.ofNat_toNat] at hc
  exact hc h

/-- A letter in lower case is a small letter. -/
theorem isLower_toLower {c : Char} (h : c.isAlpha) : c.toLower.isLower := by
  have halphanum : c.isAlphanum := by rw [Char.isAlphanum, h, Bool.true_or]
  exact of_isAlphanum (P := fun c => c.isAlpha → c.toLower.isLower) (by decide) halphanum h

theorem isAlphanum_of_isLower {c : Char} (h : c.isLower) : c.isAlphanum := by
  delta Char.isAlphanum Char.isAlpha
  rw [h, Bool.or_true, Bool.true_or]

theorem any_withLetter (cs : List Char) : (withLetter cs).any Char.isAlpha := by
  unfold withLetter
  split
  · assumption
  · rw [List.any_cons]
    rfl

theorem isAlphanum_withLetter {cs : List Char} (h : ∀ c ∈ cs, c.isAlphanum) :
    ∀ c ∈ withLetter cs, c.isAlphanum := by
  unfold withLetter
  split
  · exact h
  · intro c hc
    rcases List.mem_cons.1 hc with rfl | hc
    · rfl
    · exact h c (List.mem_of_mem_drop hc)

/-- Behind the digits at the front stands a letter, if there is one at all. -/
theorem exists_dropWhile_isDigit {cs : List Char} (hall : ∀ c ∈ cs, c.isAlphanum)
    (hany : cs.any Char.isAlpha) :
    ∃ c rest, cs.dropWhile Char.isDigit = c :: rest ∧ c.isAlpha := by
  induction cs with
  | nil => cases hany
  | cons d ds ih =>
    by_cases hd : d.isDigit
    · have hletter : d.isAlpha = false := by
        rw [← Bool.not_eq_true]
        intro halpha
        rw [isDigit_of_isAlpha halpha] at hd
        cases hd
      rw [List.any_cons, hletter, Bool.false_or] at hany
      rw [List.dropWhile_cons_of_pos hd]
      exact ih (fun c hc => hall c (List.mem_cons_of_mem _ hc)) hany
    · refine ⟨d, ds, List.dropWhile_cons_of_neg hd, ?_⟩
      simpa [Char.isAlphanum, hd] using hall d List.mem_cons_self

/-- Rotating letters and digits with a letter among them brings a letter to the front. -/
theorem isIdentifier_rotateDigits {cs : List Char} (hall : ∀ c ∈ cs, c.isAlphanum)
    (hany : cs.any Char.isAlpha) : IsIdentifier (String.ofList (rotateDigits cs)) := by
  have hmem : ∀ d ∈ rotateDigits cs, d.isAlphanum := by
    intro d hd
    apply hall d
    rw [← List.takeWhile_append_dropWhile (p := Char.isDigit) (l := cs)]
    exact List.mem_append.2 (List.mem_append.1 hd).symm
  obtain ⟨c, rest, hdrop, hc⟩ := exists_dropWhile_isDigit hall hany
  rw [rotateDigits, hdrop] at hmem ⊢
  exact isIdentifier_ofList hc hmem

/-- **A sanitized name is an identifier.** -/
theorem isIdentifier_sanitize (name : String) : IsIdentifier (sanitize name) :=
  isIdentifier_rotateDigits
    (isAlphanum_withLetter fun _ hc => (List.mem_filter.1 hc).2) (any_withLetter _)

/-- **Identifiers are left alone.** -/
theorem sanitize_of_isIdentifier {s : String} (h : IsIdentifier s) : sanitize s = s := by
  obtain ⟨c, cs, hs, hc, hall⟩ := h
  have hfilter : (c :: cs).filter Char.isAlphanum = c :: cs := List.filter_eq_self.2 hall
  have hletter : withLetter (c :: cs) = c :: cs := by
    rw [withLetter, if_pos (by rw [List.any_cons, hc, Bool.true_or])]
  have hrotate : rotateDigits (c :: cs) = c :: cs := by
    have hd := isDigit_of_isAlpha hc
    rw [rotateDigits, List.dropWhile_cons_of_neg (by simp [hd]),
      List.takeWhile_cons_of_neg (by simp [hd]), List.append_nil]
  rw [sanitize, sanitizeChars, hs, hfilter, hletter, hrotate, ← hs, String.ofList_toList]

end QmlExport.Identifier

namespace QmlExport.Code

open Identifier Decimal

namespace Directory

/-! ## Free names -/

theorem toList_numbered (base : String) (n : Nat) :
    (numbered base n).toList = base.toList ++ digitsOf n := by
  rw [numbered, String.toList_append, String.toList_ofList]

theorem numbered_injective {base : String} {n m : Nat} (h : numbered base n = numbered base m) :
    n = m := by
  have hlist := congrArg String.toList h
  rw [toList_numbered, toList_numbered] at hlist
  exact digitsOf_injective (List.append_cancel_left hlist)

theorem numbered_ne (base : String) (n : Nat) : numbered base n ≠ base := by
  intro h
  have hlist := congrArg (fun s => s.toList.length) h
  simp only [toList_numbered, List.length_append] at hlist
  have hpos := List.length_pos_iff.2 (digitsOf_ne_nil n)
  omega

theorem isIdentifier_numbered {base : String} (h : IsIdentifier base) (n : Nat) :
    IsIdentifier (numbered base n) := by
  obtain ⟨c, cs, hs, hc, hall⟩ := h
  refine ⟨c, cs ++ digitsOf n, by rw [toList_numbered, hs]; rfl, hc, ?_⟩
  intro d hd
  rw [← List.cons_append] at hd
  rcases List.mem_append.1 hd with hd | hd
  · exact hall d hd
  · simp [Char.isAlphanum, isDigit_of_mem_digitsOf hd]

/-- When the wanted name is in use, one of the first numbered ones is not. -/
theorem find?_numbered_isSome {d : Directory} {base : String} (h : base ∈ d.names) :
    ((List.range d.length).find? fun i => !d.names.contains (numbered base (i + 1))).isSome := by
  rw [List.find?_isSome]
  apply Classical.byContradiction
  intro hnone
  -- otherwise the wanted name and all numbered ones are in use, one more than there are entries
  have hused : ∀ i < d.length, numbered base (i + 1) ∈ d.names := by
    intro i hi
    apply Classical.byContradiction
    intro hn
    apply hnone
    exact ⟨i, List.mem_range.2 hi, by simpa using hn⟩
  have hnd : (base :: (List.range d.length).map fun i => numbered base (i + 1)).Nodup := by
    refine List.nodup_cons.2 ⟨?_, ?_⟩
    · intro hmem
      obtain ⟨i, _, hi⟩ := List.mem_map.1 hmem
      exact numbered_ne base (i + 1) hi
    · refine List.Pairwise.map _ ?_ List.nodup_range
      intro i j hij heq
      exact hij (Nat.succ.inj (numbered_injective heq))
  have hsub : (base :: (List.range d.length).map fun i => numbered base (i + 1)) ⊆ d.names := by
    intro s hs
    rcases List.mem_cons.1 hs with rfl | hs
    · exact h
    · obtain ⟨i, hi, rfl⟩ := List.mem_map.1 hs
      exact hused i (List.mem_range.1 hi)
  have hle := hnd.length_le_of_subset hsub
  simp only [List.length_cons, List.length_map, List.length_range, names] at hle
  omega

/-- **A free name is not in use.** -/
theorem freeName_not_mem (d : Directory) (base : String) : freeName d base ∉ d.names := by
  unfold freeName
  simp only
  split
  · next hused =>
    have hsome := find?_numbered_isSome (List.contains_iff_mem.1 hused)
    split
    · next i hi => simpa using List.find?_some hi
    · next hnone => rw [hnone] at hsome; cases hsome
  · next hfree => simpa using hfree

theorem isIdentifier_freeName {d : Directory} {base : String} (h : IsIdentifier base) :
    IsIdentifier (freeName d base) := by
  unfold freeName
  simp only
  split
  · split
    · exact isIdentifier_numbered h _
    · exact h
  · exact h

/-- A new name is put at the end. -/
theorem put_append {d : Directory} {name : String} (e : Entry) (h : name ∉ d.names) :
    put d name e = d ++ [(name, e)] := by
  induction d with
  | nil => rfl
  | cons f d ih =>
    have hne : f.1 ≠ name := fun hf => h (hf ▸ List.mem_cons_self)
    rw [put, if_neg hne, ih fun hd => h (List.mem_cons_of_mem _ hd)]
    rfl

/-- **What is inserted comes at the end**: its name is a new one. -/
theorem insertUnique_eq (d : Directory) (base : String) (e : Entry) :
    insertUnique d base e = d ++ [(freeName d base, e)] :=
  put_append e (freeName_not_mem d base)

/-- Inserting under a free name keeps names distinct. -/
theorem nodup_insertUnique {d : Directory} (h : d.names.Nodup) (base : String) (e : Entry) :
    (insertUnique d base e).names.Nodup := by
  rw [insertUnique_eq, names, List.map_append, List.nodup_append]
  refine ⟨h, List.nodup_cons.2 ⟨List.not_mem_nil, List.nodup_nil⟩, ?_⟩
  intro a ha b hb hab
  obtain rfl : b = freeName d base := List.mem_singleton.1 hb
  exact freeName_not_mem d base (hab ▸ ha)

end Directory

end QmlExport.Code
