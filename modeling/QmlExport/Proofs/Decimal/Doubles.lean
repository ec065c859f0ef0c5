import QmlExport.Proofs.Decimal.Rounding

/-!
# Products and quotients of doubles

`Near u v k` says that `u` is a normal number that at most `k` roundings separate from the natural
number `v`, upwards. Each rounding adds at most one part in `2 ^ 53`, so the errors multiply along a
product (`Near.mul`), and a number stays finite as long as `v` keeps below `ceiling`. Powers of ten
and natural numbers are near themselves (`near_tenPower`, `near_ofNat`).
-/

namespace QmlExport.Decimal

open Float.Model Float.Model.UnpackedFloat

/-! ## Rounding a number that is long enough -/

/-- Rounding a number of 53 digits or more fills the mantissa, and adds at most one part in
`2 ^ 53`. -/
theorem roundWithAccuracy_exact (s : Sign) {m : Nat} {e : Int} (hm : 2 ^ 52 ≤ m) (he : -1074 ≤ e) :
    ∃ r n : Nat, ∃ hr : 0 < r, 2 ^ 52 ≤ r ∧ r < 2 ^ 53 ∧ m < 2 ^ (n + 53) ∧
      r * 2 ^ n * 2 ^ 53 ≤ m * (2 ^ 53 + 1) ∧
      roundWithAccuracy Format.binary64 s m e .exact = .finite s r (e + n) hr := by
  have hpos : m ≠ 0 := by omega
  have hlog : 52 ≤ m.log2 := (Nat.le_log2 hpos).2 hm
  have hsur : m.log2 = 52 + surplus m e := by
    unfold surplus
    omega
  have hself : 2 ^ 52 * 2 ^ surplus m e ≤ m := by
    rw [← pow_add, ← hsur]
    exact Nat.log2_self_le hpos
  have hfull : 2 ^ 52 ≤ m / 2 ^ surplus m e :=
    (Nat.le_div_iff_mul_le (Nat.two_pow_pos _)).2 hself
  obtain ⟨r, n, hlt, hn, -, hlow, hexact, heq⟩ := roundWithAccuracy_eq s m e .exact
  have hr := hlow hfull
  refine ⟨r, n, by omega, hr, hlt, ?_, ?_, ?_⟩
  · calc m < 2 ^ (m.log2 + 1) := Nat.lt_log2_self
      _ ≤ 2 ^ (n + 53) := Nat.pow_le_pow_right (by decide) (by omega)
  · have := hexact rfl
    rw [Nat.mul_assoc] at this
    omega
  · rw [heq, signed, dif_neg (by omega)]

/-! ## Numbers near a natural number -/

/-- A normal number that exceeds `v` by at most `k` roundings; it is at least one, and at least two
if `v` is. -/
def Near (u : UnpackedFloat) (v k : Nat) : Prop :=
  match u with
  | .finite _ m e _ =>
    2 ^ 52 ≤ m ∧ m < 2 ^ 53 ∧ -52 ≤ e ∧ (2 ≤ v → -51 ≤ e) ∧
      m * 2 ^ (e + 52).toNat * (2 ^ 53) ^ k ≤ v * 2 ^ 52 * (2 ^ 53 + 1) ^ k
  | _ => False

instance (u : UnpackedFloat) (v k : Nat) : Decidable (Near u v k) :=
  match u with
  | .finite _ m e _ => inferInstanceAs (Decidable (2 ^ 52 ≤ m ∧ m < 2 ^ 53 ∧ -52 ≤ e ∧
      (2 ≤ v → -51 ≤ e) ∧
      m * 2 ^ (e + 52).toNat * (2 ^ 53) ^ k ≤ v * 2 ^ 52 * (2 ^ 53 + 1) ^ k))
  | .zero _ | .infinity _ | .notANumber => inferInstanceAs (Decidable False)

theorem Near.mono {u : UnpackedFloat} {v k l : Nat} (h : Near u v k) (hkl : k ≤ l) : Near u v l := by
  cases u with
  | finite s m e hm =>
    obtain ⟨hlow, hhigh, he, htwo, hle⟩ := h
    refine ⟨hlow, hhigh, he, htwo, ?_⟩
    obtain ⟨d, rfl⟩ := Nat.exists_eq_add_of_le hkl
    rw [pow_add, pow_add, ← Nat.mul_assoc, ← Nat.mul_assoc]
    exact Nat.mul_le_mul hle (Nat.pow_le_pow_left (by decide) d)
  | zero => exact h
  | infinity => exact h
  | notANumber => exact h

theorem Near.pos {u : UnpackedFloat} {v k : Nat} (h : Near u v k) : 0 < v := by
  cases u with
  | finite s m e hm =>
    obtain ⟨-, -, -, -, hle⟩ := h
    by_contra hv
    obtain rfl : v = 0 := by omega
    have : 0 < m * 2 ^ (e + 52).toNat * (2 ^ 53) ^ k := by positivity
    simp only [Nat.zero_mul] at hle
    omega
  | zero => exact h.elim
  | infinity => exact h.elim
  | notANumber => exact h.elim

/-- The errors of two factors and that of rounding their product multiply. -/
theorem roundings_mul {v v' k l m₁ m₂ r j₁ j₂ i : Nat}
    (hle : r * 2 ^ (52 + i) * 2 ^ 53 ≤ m₁ * m₂ * (2 ^ 53 + 1))
    (hle₁ : m₁ * 2 ^ j₁ * (2 ^ 53) ^ k ≤ v * 2 ^ 52 * (2 ^ 53 + 1) ^ k)
    (hle₂ : m₂ * 2 ^ j₂ * (2 ^ 53) ^ l ≤ v' * 2 ^ 52 * (2 ^ 53 + 1) ^ l) :
    r * 2 ^ (j₁ + j₂ + i) * (2 ^ 53) ^ (k + l + 1) ≤
      v * v' * 2 ^ 52 * (2 ^ 53 + 1) ^ (k + l + 1) := by
  refine Nat.le_of_mul_le_mul_left ?_ (Nat.two_pow_pos 52)
  calc 2 ^ 52 * (r * 2 ^ (j₁ + j₂ + i) * (2 ^ 53) ^ (k + l + 1))
      = r * 2 ^ (52 + i) * 2 ^ 53 * (2 ^ j₁ * 2 ^ j₂ * ((2 ^ 53) ^ k * (2 ^ 53) ^ l)) := by ring
    _ ≤ m₁ * m₂ * (2 ^ 53 + 1) * (2 ^ j₁ * 2 ^ j₂ * ((2 ^ 53) ^ k * (2 ^ 53) ^ l)) :=
      Nat.mul_le_mul_right _ hle
    _ = m₁ * 2 ^ j₁ * (2 ^ 53) ^ k * (m₂ * 2 ^ j₂ * (2 ^ 53) ^ l) * (2 ^ 53 + 1) := by ring
    _ ≤ v * 2 ^ 52 * (2 ^ 53 + 1) ^ k * (v' * 2 ^ 52 * (2 ^ 53 + 1) ^ l) * (2 ^ 53 + 1) :=
      Nat.mul_le_mul_right _ (Nat.mul_le_mul hle₁ hle₂)
    _ = 2 ^ 52 * (v * v' * 2 ^ 52 * (2 ^ 53 + 1) ^ (k + l + 1)) := by ring

/-- The product of two doubles, rounded. -/
theorem Near.mul {u w : UnpackedFloat} {v v' k l : Nat} (hu : Near u v k) (hw : Near w v' l) :
    Near (UnpackedFloat.mul Format.binary64 u w) (v * v') (k + l + 1) := by
  have hv := hu.pos
  have hv' := hw.pos
  match u, w, hu, hw with
  | .finite s₁ m₁ e₁ _, .finite s₂ m₂ e₂ _, hu, hw =>
    obtain ⟨hlow₁, hhigh₁, he₁, htwo₁, hle₁⟩ := hu
    obtain ⟨hlow₂, hhigh₂, he₂, htwo₂, hle₂⟩ := hw
    have hprod : 2 ^ 52 * 2 ^ 52 ≤ m₁ * m₂ := Nat.mul_le_mul hlow₁ hlow₂
    obtain ⟨r, n, hr, hlow, hhigh, hlt, hle, heq⟩ := roundWithAccuracy_exact (s₁ * s₂)
      (m := m₁ * m₂) (e := e₁ + e₂) (by omega) (by omega)
    -- the product of two mantissas has 105 digits at least, so rounding drops 52 of them
    have hn : 52 ≤ n := by
      rw [← pow_add] at hprod
      have := (Nat.pow_lt_pow_iff_right (a := 2) (by decide)).1 (Nat.lt_of_le_of_lt hprod hlt)
      omega
    obtain ⟨i, rfl⟩ := Nat.exists_eq_add_of_le hn
    change Near (roundWithAccuracy Format.binary64 (s₁ * s₂) (m₁ * m₂) (e₁ + e₂) .exact) _ _
    rw [heq]
    refine ⟨hlow, hhigh, by omega, ?_, ?_⟩
    · intro h
      have hfactor : 2 ≤ v ∨ 2 ≤ v' := by
        by_contra hno
        obtain ⟨rfl, rfl⟩ : v = 1 ∧ v' = 1 := by omega
        omega
      rcases hfactor with h | h
      · have := htwo₁ h
        omega
      · have := htwo₂ h
        omega
    · have hexp : (e₁ + e₂ + ((52 + i : Nat) : Int) + 52).toNat =
          (e₁ + 52).toNat + (e₂ + 52).toNat + i := by omega
      rw [hexp]
      exact roundings_mul hle hle₁ hle₂

/-- The greatest number for which eight roundings stay below the greatest double. -/
def ceiling : Nat := (2 ^ 54 - 21) * 2 ^ 970

theorem ceiling_lt : ceiling * (2 ^ 53 + 1) ^ 8 < 2 ^ 1024 * (2 ^ 53) ^ 8 := by
  decide +kernel

/-- The ceiling has 309 decimal digits. -/
theorem ceiling_decimal : 10 ^ 308 ≤ ceiling ∧ ceiling < 10 ^ 309 := by
  decide +kernel

theorem le_ceiling {n : Nat} (h : n ≤ 2 ^ 64) : n ≤ ceiling := by
  have hpow : 2 ^ 64 ≤ 2 ^ 970 := pow_le_pow_right₀ one_le_two (by decide)
  unfold ceiling
  omega

theorem Near.exponent_le {s : Sign} {m : Nat} {e : Int} {hm : 0 < m} {v k : Nat}
    (h : Near (.finite s m e hm) v k) (hk : k ≤ 8) (hv : v ≤ ceiling) : e ≤ 971 := by
  obtain ⟨hlow, -, -, -, hle⟩ := h.mono hk
  by_contra he
  have hexp : 2 ^ 1024 ≤ 2 ^ (e + 52).toNat := pow_le_pow_right₀ one_le_two (by omega)
  refine Nat.lt_irrefl (v * 2 ^ 52 * (2 ^ 53 + 1) ^ 8) (Nat.lt_of_lt_of_le ?_ hle)
  calc v * 2 ^ 52 * (2 ^ 53 + 1) ^ 8 ≤ ceiling * 2 ^ 52 * (2 ^ 53 + 1) ^ 8 :=
        Nat.mul_le_mul_right _ (Nat.mul_le_mul_right _ hv)
    _ = 2 ^ 52 * (ceiling * (2 ^ 53 + 1) ^ 8) := by ring
    _ < 2 ^ 52 * (2 ^ 1024 * (2 ^ 53) ^ 8) :=
      Nat.mul_lt_mul_of_pos_left ceiling_lt (Nat.two_pow_pos 52)
    _ ≤ 2 ^ 52 * (2 ^ (e + 52).toNat * (2 ^ 53) ^ 8) :=
      Nat.mul_le_mul_left _ (Nat.mul_le_mul_right _ hexp)
    _ = 2 ^ 52 * 2 ^ (e + 52).toNat * (2 ^ 53) ^ 8 := (Nat.mul_assoc ..).symm
    _ ≤ m * 2 ^ (e + 52).toNat * (2 ^ 53) ^ 8 := Nat.mul_le_mul_right _ (Nat.mul_le_mul_right _ hlow)

/-- Below the ceiling, packing keeps a number near `v` as it is. -/
theorem Near.packed {u : UnpackedFloat} {v k : Nat} (h : Near u v k) (hk : k ≤ 8)
    (hv : v ≤ ceiling) : Near (shape (packed u)) v k := by
  cases u with
  | finite s m e hm =>
    obtain ⟨hlow, hhigh, he, -, -⟩ := id h
    rwa [shape_packed_normal hlow hhigh (by omega) (h.exponent_le hk hv)]
  | zero => exact h.elim
  | infinity => exact h.elim
  | notANumber => exact h.elim

theorem Near.isFinite {u : UnpackedFloat} {v k : Nat} (h : Near u v k) : u.isFinite := by
  cases u with
  | finite => rfl
  | zero => exact h.elim
  | infinity => exact h.elim
  | notANumber => exact h.elim

/-! ## Natural numbers and powers of ten -/

/-- A natural number with `s` zeros behind its digits, which the exponent takes back. -/
theorem near_roundWithAccuracy {n s : Nat} (sign : Sign) (hn : 0 < n) (hs : s ≤ 1074)
    (hlong : 2 ^ 52 ≤ n * 2 ^ s) :
    Near (roundWithAccuracy Format.binary64 sign (n * 2 ^ s) (-s) .exact) n 1 := by
  obtain ⟨r, i, hr, hlow, hhigh, hlt, hle, heq⟩ := roundWithAccuracy_exact sign
    (m := n * 2 ^ s) (e := -s) hlong (by omega)
  rw [heq]
  -- a power of two in `n` raises the exponent of the result as much
  have hraise : ∀ d, 2 ^ d ≤ n → d + s < i + 53 := by
    intro d hd
    refine (Nat.pow_lt_pow_iff_right (a := 2) (by decide)).1 (Nat.lt_of_le_of_lt ?_ hlt)
    rw [pow_add]
    exact Nat.mul_le_mul_right _ hd
  have hone := hraise 0 hn
  refine ⟨hlow, hhigh, by omega, ?_, ?_⟩
  · intro h
    have := hraise 1 h
    omega
  · obtain ⟨j, hj⟩ : ∃ j, i + 52 = j + s := ⟨i + 52 - s, by omega⟩
    rw [show (-(s : Int) + i + 52).toNat = j by omega]
    refine Nat.le_of_mul_le_mul_left ?_ (Nat.two_pow_pos s)
    calc 2 ^ s * (r * 2 ^ j * (2 ^ 53) ^ 1) = r * 2 ^ (j + s) * 2 ^ 53 := by ring
      _ = r * 2 ^ i * 2 ^ 53 * 2 ^ 52 := by rw [← hj]; ring
      _ ≤ n * 2 ^ s * (2 ^ 53 + 1) * 2 ^ 52 := Nat.mul_le_mul_right _ hle
      _ = 2 ^ s * (n * 2 ^ 52 * (2 ^ 53 + 1) ^ 1) := by ring

theorem near_ofNat_unpacked {n : Nat} (hn : 0 < n) :
    Near (UnpackedFloat.ofNat Format.binary64 n) n 1 := by
  have hcompare : compare (n : Int) 0 = .gt := by
    rw [Int.compare_eq_gt]
    omega
  have htarget : (0 - Format.binary64.targetExponent (totalExponent n 0)).toNat = 52 - n.log2 := by
    simp only [Format.targetExponent, totalExponent, Format.mantissaBits, Format.minExponent]
    norm_num
    omega
  unfold UnpackedFloat.ofNat UnpackedFloat.ofInt UnpackedFloat.normalize
  rw [hcompare]
  simp only [UnpackedFloat.round, decreaseExponent, Int.toNat_natCast]
  rw [htarget, Nat.shiftLeft_eq, Int.zero_sub]
  refine near_roundWithAccuracy _ hn (by omega) ?_
  calc 2 ^ 52 ≤ 2 ^ (n.log2 + (52 - n.log2)) := Nat.pow_le_pow_right (by decide) (by omega)
    _ = 2 ^ n.log2 * 2 ^ (52 - n.log2) := pow_add ..
    _ ≤ n * 2 ^ (52 - n.log2) := Nat.mul_le_mul_right _ (Nat.log2_self_le (by omega))

theorem near_ofScientific_unpacked {m e : Nat} (hm : 0 < m) (he : e ≤ 2048) :
    Near (UnpackedFloat.ofScientific Format.binary64 m e) (m * 10 ^ e) 1 := by
  have hpos : 0 < m * 10 ^ e := Nat.mul_pos hm (Nat.pow_pos (by decide))
  unfold UnpackedFloat.ofScientific
  rw [dif_neg (by omega), if_neg (by change ¬ (e : Int) > 2048; omega),
    if_neg (by change ¬ (e : Int) < -(2048 + _); omega), if_pos (by omega)]
  change Near (roundWithAccuracy Format.binary64 .positive (m <<< 53 * 10 ^ (e : Int).toNat)
    (-((53 : Nat) : Int)) .exact) _ _
  rw [Int.toNat_natCast, Nat.shiftLeft_eq, Nat.mul_right_comm]
  exact near_roundWithAccuracy _ hpos (by decide)
    (Nat.le_trans (by decide) (Nat.le_mul_of_pos_left (2 ^ 53) hpos))

/-- The powers of ten that doubles hold exactly. -/
theorem near_exactlyRepresentable : ∀ e, (h : e < Float.exactlyRepresentablePowersOfTen.size) →
    Near (shape Float.exactlyRepresentablePowersOfTen[e]) (10 ^ e) 0 := by
  decide +kernel

theorem shape_mul (x y : Float) :
    shape (x * y) = shape (packed (UnpackedFloat.mul Format.binary64 (shape x) (shape y))) := rfl

theorem shape_div (x y : Float) :
    shape (x / y) = shape (packed (UnpackedFloat.div Format.binary64 (shape x) (shape y))) := rfl

theorem near_toFloat {m : Nat} (hm : 0 < m) (hlt : m < 2 ^ 53) :
    Near (shape m.toUInt64.toFloat) m 1 := by
  have hsize : m.toUInt64.toNat = m := UInt64.toNat_ofNat_of_lt' (Nat.lt_trans hlt (by decide))
  change Near (shape (packed (UnpackedFloat.ofNat Format.binary64 m.toUInt64.toNat))) m 1
  rw [hsize]
  exact (near_ofNat_unpacked hm).packed (by decide) (le_ceiling (by omega))

theorem exponent_le_of_ceiling {m e : Nat} (hm : 0 < m) (h : m * 10 ^ e ≤ ceiling) : e ≤ 308 := by
  by_contra he
  have hpow := Nat.pow_le_pow_right (n := 10) (by decide) (show 309 ≤ e by omega)
  have hceiling := ceiling_decimal.2
  have := Nat.le_mul_of_pos_left (10 ^ e) hm
  omega

/-- **Decimals below the ceiling are read as doubles near them.** -/
theorem near_ofScientific {m e : Nat} (hm : 0 < m) (h : m * 10 ^ e ≤ ceiling) :
    Near (shape (Float.ofScientific m false e)) (m * 10 ^ e) 2 := by
  unfold Float.ofScientific
  -- small mantissas and powers of ten are multiplied as doubles, all others are rounded once
  split
  · next hfast =>
    rw [if_neg (by decide), shape_mul]
    have hprod := (near_toFloat hm hfast.1).mul
      (near_exactlyRepresentable e (Nat.lt_succ_of_le hfast.2))
    exact hprod.packed (by decide) h
  · have he := exponent_le_of_ceiling hm h
    have hslow := near_ofScientific_unpacked hm (Nat.le_trans he (by decide))
    exact (hslow.packed (by decide) h).mono (by decide)

theorem near_ofNat {n : Nat} (hn : 0 < n) (h : n ≤ ceiling) : Near (shape (Float.ofNat n)) n 2 := by
  have := near_ofScientific (e := 0) hn (by rwa [pow_zero, Nat.mul_one])
  rwa [pow_zero, Nat.mul_one] at this

theorem near_tenPower {n : Nat} (hn : n ≤ 308) : Near (shape (tenPower n)) (10 ^ n) 2 := by
  have hle : 1 * 10 ^ n ≤ ceiling := by
    rw [Nat.one_mul]
    exact Nat.le_trans (pow_le_pow_right₀ (by decide) hn) ceiling_decimal.1
  have := near_ofScientific Nat.one_pos hle
  rwa [Nat.one_mul] at this

/-! ## Quotients -/

theorem atMost_signed {s : Sign} {m : Nat} {e k : Int} (hm : m < 2 ^ 53) (he : e ≤ k) :
    AtMost k (signed s m e) := by
  unfold signed
  split
  · trivial
  · exact ⟨hm, he⟩

/-- Rounding raises a number below `2 ^ 64` to `2 ^ 64` at most. -/
theorem atMost_roundWithAccuracy (s : Sign) {m p : Nat} {e : Int} (acc : Accuracy)
    (hm : m < 2 ^ p) (hp : p + e ≤ 64) (he : e ≤ 11) :
    AtMost 12 (roundWithAccuracy Format.binary64 s m e acc) := by
  obtain ⟨r, n, hr, -, hn, -, -, heq⟩ := roundWithAccuracy_eq s m e acc
  rw [heq]
  refine atMost_signed hr ?_
  have hlog : m.log2 + 1 ≤ max p 1 := by
    rcases Nat.eq_zero_or_pos m with rfl | hpos
    · exact Nat.le_max_right p 1
    · have := (Nat.log2_lt (Nat.pos_iff_ne_zero.1 hpos)).2 hm
      omega
  have hsur : e + surplus m e ≤ 11 := by
    unfold surplus
    omega
  omega

/-- Dividing by a number near `2` or more keeps a number below `2 ^ 65`. -/
theorem AtMost.div {u w : UnpackedFloat} {v k : Nat} (hu : AtMost 12 u) (hw : Near w v k)
    (hv : 2 ≤ v) : AtMost 12 (UnpackedFloat.div Format.binary64 u w) := by
  match u, w, hu, hw with
  | .zero s₁, .finite s₂ m₂ e₂ _, _, _ => trivial
  | .finite s₁ m₁ e₁ h₁, .finite s₂ m₂ e₂ h₂, hu, hw =>
    obtain ⟨hm₁, he₁⟩ := hu
    obtain ⟨hlow₂, -, -, htwo, -⟩ := hw
    have he₂ := htwo hv
    have hlog₁ := (Nat.log2_lt (Nat.pos_iff_ne_zero.1 h₁)).2 hm₁
    have hlog₂ := (Nat.le_log2 (Nat.pos_iff_ne_zero.1 h₂)).2 hlow₂
    -- the exponent down to which the quotient is computed
    set t := min (e₁ - e₂) (Format.binary64.targetExponent
      (totalExponent m₁ e₁ - totalExponent m₂ e₂)) with ht
    have hsmall : t ≤ 11 := by
      simp only [ht, Format.targetExponent, totalExponent, Format.mantissaBits, Format.minExponent]
      norm_num
      omega
    have hle : t ≤ e₁ - e₂ := Int.min_le_left ..
    change AtMost 12 (roundWithAccuracy Format.binary64 (s₁ / s₂)
      (m₁ <<< (e₁ - e₂ - t).toNat / m₂) t _)
    generalize hd : (e₁ - e₂ - t).toNat = d
    refine atMost_roundWithAccuracy _ (p := d + 1) _ ?_ (by omega) hsmall
    refine Nat.div_lt_of_lt_mul ?_
    rw [Nat.shiftLeft_eq]
    calc m₁ * 2 ^ d < 2 ^ 53 * 2 ^ d := Nat.mul_lt_mul_of_pos_right hm₁ (Nat.two_pow_pos d)
      _ = 2 ^ 52 * 2 ^ (d + 1) := by ring
      _ ≤ m₂ * 2 ^ (d + 1) := Nat.mul_le_mul_right _ hlow₂

end QmlExport.Decimal
