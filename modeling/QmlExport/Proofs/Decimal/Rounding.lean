import QmlExport.Decimal.Reading
import Mathlib

/-!
# Rounding to doubles

What a double is after its bits are taken apart (`shape`) and what rounding does to a number
`m · 2 ^ e` that has more digits than a double has room for: at most one unit is added after the
surplus digits were dropped, and a carry moves the point by one place (`roundWithAccuracy_eq`).
Packing keeps a normal number that is not too great as it is (`shape_packed_normal`).
-/

namespace QmlExport.Decimal

open Float.Model Float.Model.UnpackedFloat

/-- A double as sign, mantissa and exponent. -/
def shape (x : Float) : UnpackedFloat := x.toModel.unpack

/-- The double that a sign, a mantissa and an exponent are packed into. -/
def packed (u : UnpackedFloat) : Float := .ofModel (.pack u)

theorem shape_packed (u : UnpackedFloat) :
    shape (packed u) = UnpackedFloat.unpack Format.binary64 (UnpackedFloat.pack Format.binary64 u) :=
  rfl

/-! ## Dropping digits -/

theorem mantissa_shiftRight (em : ExtendedMantissa) (n : Nat) :
    (em >>> n).mantissa = em.mantissa / 2 ^ n := by
  induction n with
  | zero => simp [HShiftRight.hShiftRight, Nat.repeat]
  | succ n ih =>
    change (em >>> n).mantissa / 2 = _
    rw [ih, Nat.div_div_eq_div_mul, pow_succ]

/-- The first digit that was dropped decides whether rounding may go up. -/
theorem roundBit_shiftRight_succ (em : ExtendedMantissa) (n : Nat) :
    (em >>> (n + 1)).roundBit = (em.mantissa / 2 ^ n % 2 != 0) := by
  rw [← mantissa_shiftRight]
  rfl

theorem le_roundedMantissa (em : ExtendedMantissa) : em.mantissa ≤ em.roundedMantissa := by
  rcases em with ⟨m, r, s⟩
  cases r <;> cases s <;>
    simp [ExtendedMantissa.roundedMantissa, ExtendedMantissa.accuracy, Accuracy.roundToNearestEven]

theorem roundedMantissa_le (em : ExtendedMantissa) :
    em.roundedMantissa ≤ em.mantissa + em.roundBit.toNat := by
  rcases em with ⟨m, r, s⟩
  cases r <;> cases s <;>
    simp [ExtendedMantissa.roundedMantissa, ExtendedMantissa.accuracy, Accuracy.roundToNearestEven]
  omega

theorem mantissa_ofMantissaAndAccuracy (m : Nat) (acc : Accuracy) :
    (ExtendedMantissa.ofMantissaAndAccuracy m acc).mantissa = m := by
  cases acc with
  | exact => rfl
  | inexact o => cases o <;> rfl

/-- Rounding an exact number goes up by half a unit at most. -/
theorem roundedMantissa_exact_le (m n : Nat) :
    2 * (ExtendedMantissa.ofMantissaAndAccuracy m .exact >>> n).roundedMantissa * 2 ^ n ≤
      2 * m + 2 ^ n := by
  set em := ExtendedMantissa.ofMantissaAndAccuracy m .exact with hem
  have hm : em.mantissa = m := mantissa_ofMantissaAndAccuracy m .exact
  cases n with
  | zero =>
    have hle := roundedMantissa_le (em >>> 0)
    have hbit : (em >>> 0).roundBit = false := rfl
    rw [mantissa_shiftRight, hbit, hm] at hle
    simp at hle ⊢
    omega
  | succ n =>
    have hle := roundedMantissa_le (em >>> (n + 1))
    rw [mantissa_shiftRight, roundBit_shiftRight_succ, hm, pow_succ,
      ← Nat.div_div_eq_div_mul] at hle
    -- the round bit is the last digit of `m / 2 ^ n`, so it is counted there once more
    have hhalf : 2 * (em >>> (n + 1)).roundedMantissa ≤ m / 2 ^ n + 1 := by
      rcases Nat.mod_two_eq_zero_or_one (m / 2 ^ n) with h | h
      · simp [h] at hle
        omega
      · simp [h] at hle
        omega
    calc 2 * (em >>> (n + 1)).roundedMantissa * 2 ^ (n + 1)
        ≤ (m / 2 ^ n + 1) * 2 ^ (n + 1) := Nat.mul_le_mul_right _ hhalf
      _ = 2 * (m / 2 ^ n * 2 ^ n) + 2 ^ (n + 1) := by ring
      _ ≤ 2 * m + 2 ^ (n + 1) := by
        have := Nat.div_mul_le_self m (2 ^ n)
        omega

/-! ## Rounding -/

/-- How many digits are dropped from `m · 2 ^ e`: down to 53, and further below the least normal
number. -/
def surplus (m : Nat) (e : Int) : Nat := (max (m.log2 + 1 + e - 53) (-1074) - e).toNat

theorem shiftToTargetExponent_eq (m : Nat) (e : Int) (acc : Accuracy) :
    shiftToTargetExponent Format.binary64 m e acc =
      (ExtendedMantissa.ofMantissaAndAccuracy m acc >>> surplus m e, e + surplus m e) := by
  simp only [shiftToTargetExponent, shiftToExponent, surplus, Format.targetExponent, totalExponent,
    Format.mantissaBits, Format.minExponent]
  norm_num

theorem div_surplus_lt (m : Nat) (e : Int) : m / 2 ^ surplus m e < 2 ^ 53 := by
  have hs : m.log2 + 1 ≤ 53 + surplus m e := by
    unfold surplus
    omega
  refine Nat.div_lt_of_lt_mul ?_
  calc m < 2 ^ (m.log2 + 1) := Nat.lt_log2_self
    _ ≤ 2 ^ (53 + surplus m e) := Nat.pow_le_pow_right (by decide) hs
    _ = 2 ^ surplus m e * 2 ^ 53 := by rw [pow_add, Nat.mul_comm]

/-- A number that fits is not shortened. -/
theorem surplus_of_lt {m : Nat} {e : Int} (hm : m < 2 ^ 53) (he : -1074 ≤ e) :
    surplus m e = 0 := by
  have hlog : m.log2 ≤ 52 := by
    rcases Nat.eq_zero_or_pos m with rfl | hpos
    · decide
    · have := (Nat.log2_lt (Nat.pos_iff_ne_zero.1 hpos)).2 hm
      omega
  unfold surplus
  omega

/-- A carry is shortened by the one digit that it added. -/
theorem surplus_carry {e : Int} (he : -1074 ≤ e) : surplus (2 ^ 53) e = 1 := by
  unfold surplus
  rw [Nat.log2_two_pow]
  omega

/-- The number `± m · 2 ^ e`, which is a signed zero for `m = 0`. -/
def signed (s : Sign) (m : Nat) (e : Int) : UnpackedFloat :=
  if h : m = 0 then .zero s else .finite s m e (Nat.pos_of_ne_zero h)

/-- Digits are dropped, what is left is rounded, and a carry is dropped once more. -/
theorem roundWithAccuracy_eq_signed (s : Sign) (m : Nat) (e : Int) (acc : Accuracy) {r : Nat}
    (hr : (ExtendedMantissa.ofMantissaAndAccuracy m acc >>> surplus m e).roundedMantissa = r) :
    roundWithAccuracy Format.binary64 s m e acc =
      signed s (r / 2 ^ surplus r (e + surplus m e))
        (e + surplus m e + surplus r (e + surplus m e)) := by
  subst hr
  simp only [roundWithAccuracy, shiftToTargetExponent_eq, mantissa_shiftRight,
    mantissa_ofMantissaAndAccuracy, signed]

/-- **What rounding makes of `m · 2 ^ e`**: a mantissa `r` below `2 ^ 53` and an exponent raised by
`n`, which is `surplus m e`, or one more after a carry. A mantissa that filled its place still
does, and an exact number goes up by half a unit at most. -/
theorem roundWithAccuracy_eq (s : Sign) (m : Nat) (e : Int) (acc : Accuracy) :
    ∃ r n : Nat, r < 2 ^ 53 ∧ surplus m e ≤ n ∧ n ≤ surplus m e + 1 ∧
      (2 ^ 52 ≤ m / 2 ^ surplus m e → 2 ^ 52 ≤ r) ∧
      (acc = .exact → 2 * r * 2 ^ n ≤ 2 * m + 2 ^ surplus m e) ∧
      roundWithAccuracy Format.binary64 s m e acc = signed s r (e + n) := by
  have hmin : -1074 ≤ e + surplus m e := by
    unfold surplus
    omega
  have hlt := div_surplus_lt m e
  have hexact : acc = .exact → 2 * (ExtendedMantissa.ofMantissaAndAccuracy m acc >>>
      surplus m e).roundedMantissa * 2 ^ surplus m e ≤ 2 * m + 2 ^ surplus m e := by
    rintro rfl
    exact roundedMantissa_exact_le m _
  -- rounding the digits that are left adds the round bit at most
  have hle := le_roundedMantissa (ExtendedMantissa.ofMantissaAndAccuracy m acc >>> surplus m e)
  have hge := roundedMantissa_le (ExtendedMantissa.ofMantissaAndAccuracy m acc >>> surplus m e)
  have hbit := Bool.toNat_le
    (ExtendedMantissa.ofMantissaAndAccuracy m acc >>> surplus m e).roundBit
  rw [mantissa_shiftRight, mantissa_ofMantissaAndAccuracy] at hle hge
  rw [roundWithAccuracy_eq_signed s m e acc rfl]
  generalize (ExtendedMantissa.ofMantissaAndAccuracy m acc >>> surplus m e).roundedMantissa = r at *
  rcases Nat.lt_or_ge r (2 ^ 53) with hr | hr
  · refine ⟨r, surplus m e, hr, Nat.le_refl _, Nat.le_succ _, fun h => Nat.le_trans h hle, hexact, ?_⟩
    simp [surplus_of_lt hr hmin]
  · -- the carry: all 53 digits were ones, and one more is dropped
    obtain rfl : r = 2 ^ 53 := by omega
    refine ⟨2 ^ 52, surplus m e + 1, by decide, Nat.le_succ _, Nat.le_refl _, fun _ => Nat.le_refl _,
      ?_, ?_⟩
    · intro h
      calc 2 * 2 ^ 52 * 2 ^ (surplus m e + 1) = 2 * 2 ^ 53 * 2 ^ surplus m e := by ring
        _ ≤ _ := hexact h
    · rw [surplus_carry hmin]
      congr 1
      omega

/-! ## Packing -/

theorem one_append_toNat (f : BitVec 52) : (1#1 ++ f).toNat = 2 ^ 52 + f.toNat := by
  rw [BitVec.toNat_append, ← Nat.shiftLeft_add_eq_or_of_lt f.isLt]
  simp [Nat.shiftLeft_eq]

/-- A finite number with at most 53 digits and an exponent of at most `k`. -/
def AtMost (k : Int) : UnpackedFloat → Prop
  | .zero _ => True
  | .finite _ m e _ => m < 2 ^ 53 ∧ e ≤ k
  | _ => False

theorem AtMost.isFinite {k : Int} {u : UnpackedFloat} (h : AtMost k u) : u.isFinite := by
  cases u with
  | zero => rfl
  | finite => rfl
  | infinity => exact h.elim
  | notANumber => exact h.elim

/-- Bits whose exponent field is not all ones stand for a finite number. -/
theorem atMost_unpack {b : BitVec Format.binary64.numBits} {k : Int}
    (hb : unpackExponent b ≠ -1#_) (hk : -1074 ≤ k)
    (he : ((unpackExponent b).toNat : Int) ≤ k + 1075) :
    AtMost k (UnpackedFloat.unpack Format.binary64 b) := by
  have hf := (unpackMantissa b).isLt
  unfold UnpackedFloat.unpack
  simp only [hb, if_false]
  split
  · split
    · trivial
    · next h0 _ =>
      refine ⟨Nat.lt_trans hf (by decide), ?_⟩
      rw [h0]
      exact hk
  · refine ⟨?_, ?_⟩
    · rw [one_append_toNat]
      exact Nat.add_lt_add_left hf _
    · change _ - (((1023 : Nat) : Int) + ((52 : Nat) : Int)) ≤ k
      omega

/-- A finite number that is not too great is packed by its fields. -/
theorem pack_finite {s : Sign} {m : Nat} {e : Int} (hm : 0 < m) (he : e ≤ 971) :
    UnpackedFloat.pack Format.binary64 (.finite s m e hm) =
      packComponents Format.binary64 s
        (BitVec.ofNat 11 (if m.log2 = 52 then (e + 1075).toNat else 0)) (BitVec.ofNat 52 m) := by
  have hb : (e + ((1023 : Nat) : Int) + ((52 : Nat) : Int)).toNat = (e + 1075).toNat := by omega
  have hsmall : ¬ 2 ^ 11 ≤ (e + 1075).toNat + 1 := by omega
  unfold UnpackedFloat.pack
  change (if 2 ^ 11 ≤ (e + ((1023 : Nat) : Int) + ((52 : Nat) : Int)).toNat + 1 then _
    else if m.log2 + 1 = 1 + 52 then _ else _) = _
  rw [hb, if_neg hsmall]
  by_cases hlog : m.log2 = 52
  · rw [if_pos (by omega), if_pos hlog, ← hb]
    rfl
  · rw [if_neg (by omega), if_neg hlog]

theorem ofNat_ne_ones {n : Nat} (hn : n ≤ 2046) : BitVec.ofNat 11 n ≠ -1#11 := by
  intro h
  have := congrArg BitVec.toNat h
  rw [BitVec.toNat_ofNat, Nat.mod_eq_of_lt (by omega)] at this
  simp at this
  omega

/-- Packing a finite number leaves it finite, and raises its exponent at most to the least one. -/
theorem AtMost.packed {k : Int} {u : UnpackedFloat} (h : AtMost k u) (hmin : -1074 ≤ k)
    (hmax : k ≤ 971) : AtMost k (shape (packed u)) := by
  rw [shape_packed]
  cases u with
  | zero s =>
    have hfield : unpackExponent (UnpackedFloat.pack Format.binary64 (.zero s)) = 0#11 :=
      unpackExponent_packComponents
    refine atMost_unpack ?_ hmin ?_
    · rw [hfield]
      decide
    · rw [hfield]
      simp
      omega
  | finite s m e hm =>
    have hfield : (if m.log2 = 52 then (e + 1075).toNat else 0) ≤ 2046 ∧
        ((if m.log2 = 52 then (e + 1075).toNat else 0 : Nat) : Int) ≤ k + 1075 := by
      have := h.2
      split <;> omega
    rw [pack_finite hm (Int.le_trans h.2 hmax)]
    refine atMost_unpack ?_ hmin ?_
    · rw [unpackExponent_packComponents]
      exact ofNat_ne_ones hfield.1
    · rw [unpackExponent_packComponents, BitVec.toNat_ofNat,
        Nat.mod_eq_of_lt (Nat.lt_of_le_of_lt hfield.1 (by decide))]
      exact hfield.2
  | infinity => exact h.elim
  | notANumber => exact h.elim

theorem unpack_packedInfinity (s : Sign) :
    (UnpackedFloat.unpack Format.binary64 (packedInfinity Format.binary64 s)).isInf := by
  cases s <;> decide

/-- A rounded number is finite or infinite after it was packed. -/
theorem isFinite_or_isInf_packed (s : Sign) {m : Nat} {e : Int} (hm : m < 2 ^ 53) :
    (shape (packed (signed s m e))).isFinite ∨ (shape (packed (signed s m e))).isInf := by
  unfold signed
  split
  · have hzero : AtMost 0 (.zero s) := trivial
    exact .inl (hzero.packed (by decide) (by decide)).isFinite
  · next h0 =>
    rcases lt_or_ge 971 e with he | he
    · have hbig : 2 ^ 11 ≤ (e + ((1023 : Nat) : Int) + ((52 : Nat) : Int)).toNat + 1 := by omega
      rw [shape_packed]
      unfold UnpackedFloat.pack
      refine .inr ?_
      change (UnpackedFloat.unpack Format.binary64
        (if 2 ^ 11 ≤ (e + ((1023 : Nat) : Int) + ((52 : Nat) : Int)).toNat + 1 then _
          else if m.log2 + 1 = 1 + 52 then _ else _)).isInf
      rw [if_pos hbig]
      exact unpack_packedInfinity s
    · have hatmost : AtMost 971 (.finite s m e (Nat.pos_of_ne_zero h0)) := ⟨hm, he⟩
      exact .inl (hatmost.packed (by decide) (by decide)).isFinite

theorem ne_ones_of_isFinite {b : BitVec Format.binary64.numBits}
    (h : (UnpackedFloat.unpack Format.binary64 b).isFinite) : unpackExponent b ≠ -1#_ := by
  intro hones
  unfold UnpackedFloat.unpack at h
  simp only [hones, if_true] at h
  split at h <;> cases h

theorem toNat_le_of_ne_ones {f : BitVec 11} (h : f ≠ -1#11) : f.toNat ≤ 2046 := by
  have hne : f.toNat ≠ 2047 := fun heq => h (BitVec.eq_of_toNat_eq heq)
  omega

/-- Finite doubles have exponents of at most 971. -/
theorem atMost_of_isFinite {x : Float} (h : x.isFinite) : AtMost 971 (shape x) := by
  have hfin : (UnpackedFloat.unpack Format.binary64 x.toModel.toBits.toBitVec).isFinite := h
  have hle := toNat_le_of_ne_ones (ne_ones_of_isFinite hfin)
  exact atMost_unpack (ne_ones_of_isFinite hfin) (by decide) (by omega)

/-- **Packing keeps a normal number as it is.** -/
theorem shape_packed_normal {s : Sign} {m : Nat} {e : Int} {hm : 0 < m} (hlow : 2 ^ 52 ≤ m)
    (hhigh : m < 2 ^ 53) (hmin : -1074 ≤ e) (hmax : e ≤ 971) :
    shape (packed (.finite s m e hm)) = .finite s m e hm := by
  have hlog : m.log2 = 52 := by
    have h1 := (Nat.le_log2 (Nat.pos_iff_ne_zero.1 hm)).2 hlow
    have h2 := (Nat.log2_lt (Nat.pos_iff_ne_zero.1 hm)).2 hhigh
    omega
  have hzero : BitVec.ofNat 11 (e + 1075).toNat ≠ 0#11 := by
    intro h
    have := congrArg BitVec.toNat h
    rw [BitVec.toNat_ofNat, Nat.mod_eq_of_lt (by omega)] at this
    simp at this
    omega
  rw [shape_packed, pack_finite hm hmax, if_pos hlog]
  unfold UnpackedFloat.unpack
  simp only [unpackExponent_packComponents, unpackMantissa_packComponents,
    unpackSign_packComponents, Sign.ofBitVec_toBitVec,
    ofNat_ne_ones (n := (e + 1075).toNat) (by omega), hzero, if_false]
  congr 1
  · rw [one_append_toNat, BitVec.toNat_ofNat]
    omega
  · rw [BitVec.toNat_ofNat, Nat.mod_eq_of_lt (by omega)]
    change _ - (((1023 : Nat) : Int) + ((52 : Nat) : Int)) = e
    omega

end QmlExport.Decimal
