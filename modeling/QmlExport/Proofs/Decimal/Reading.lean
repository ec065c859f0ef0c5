import QmlExport.Proofs.Decimal.Digits
import QmlExport.Proofs.Decimal.Doubles

/-!
# Numerals that are read

How many digits a significand takes (`gather_le`, `gather_all`), and for which exponents scaling has
a result: always for negative ones (`isSome_scaleBy_of_neg`), else below the ceiling of doubles
(`isSome_scaleBy`). **What a numeral is read as is finite** (`Numeral.isFinite_of_float?`).
-/

namespace QmlExport.Decimal

open Float.Model Float.Model.UnpackedFloat

/-! ## Significands -/

theorem digitValue_le {c : Char} (h : c.isDigit) : digitValue c ≤ 9 := by
  unfold Char.isDigit at h
  simp only [ge_iff_le, Bool.and_eq_true, decide_eq_true_eq] at h
  have : c.val.toNat ≤ 57 := h.2
  unfold digitValue Char.toNat
  omega

theorem gather_lt {n : Nat} (hn : n < significandBound) :
    ∀ ds, (gather n ds).1 < significandBound := by
  intro ds
  induction ds generalizing n with
  | nil => exact hn
  | cons d ds ih =>
    rw [gather]
    split
    · next h => exact ih h
    · exact hn

theorem length_gather_le (n : Nat) (ds : List Char) : (gather n ds).2.length ≤ ds.length := by
  induction ds generalizing n with
  | nil => exact Nat.le_refl _
  | cons d ds ih =>
    rw [gather]
    split
    · exact Nat.le_succ_of_le (ih _)
    · exact Nat.le_refl _

theorem le_foldl_digits (n : Nat) (ds : List Char) :
    n * 10 ^ ds.length ≤ ds.foldl (fun n d => n * 10 + digitValue d) n := by
  induction ds generalizing n with
  | nil => simp
  | cons d ds ih =>
    calc n * 10 ^ (d :: ds).length = n * 10 * 10 ^ ds.length := by
          rw [List.length_cons, pow_succ]
          ring
      _ ≤ (n * 10 + digitValue d) * 10 ^ ds.length := Nat.mul_le_mul_right _ (Nat.le_add_right ..)
      _ ≤ _ := ih _

/-- The digits that are left over count as zeros. -/
theorem gather_le (n : Nat) (ds : List Char) :
    (gather n ds).1 * 10 ^ (gather n ds).2.length ≤
      ds.foldl (fun n d => n * 10 + digitValue d) n := by
  induction ds generalizing n with
  | nil => simp [gather]
  | cons d ds ih =>
    rw [gather]
    split
    · exact ih _
    · exact le_foldl_digits n (d :: ds)

/-- A row of digits that surely fits is taken as a whole. -/
theorem gather_all {n : Nat} {ds : List Char} (hds : ∀ c ∈ ds, c.isDigit)
    (h : (n + 1) * 10 ^ ds.length ≤ significandBound) : (gather n ds).2 = [] := by
  induction ds generalizing n with
  | nil => rfl
  | cons d ds ih =>
    have hd := digitValue_le (hds d List.mem_cons_self)
    have hfit : (n * 10 + digitValue d + 1) * 10 ^ ds.length ≤ significandBound := by
      refine Nat.le_trans (Nat.mul_le_mul_right _ (show _ ≤ (n + 1) * 10 by omega)) ?_
      rwa [List.length_cons, pow_succ, Nat.mul_comm _ 10, ← Nat.mul_assoc] at h
    have hnext : n * 10 + digitValue d < significandBound :=
      Nat.le_trans (Nat.le_mul_of_pos_right _ (Nat.pow_pos (by decide))) hfit
    rw [gather, if_pos hnext]
    exact ih (fun c hc => hds c (List.mem_cons_of_mem d hc)) hfit

/-! ## Scaling -/

/-- A significand is a finite number below `2 ^ 65`. -/
theorem atMost_ofNat {n : Nat} (hn : n < significandBound) : AtMost 12 (shape (Float.ofNat n)) := by
  rcases Nat.eq_zero_or_pos n with rfl | hpos
  · trivial
  have hnear := near_ofNat hpos (le_ceiling (Nat.le_of_lt hn))
  cases hshape : shape (Float.ofNat n) with
  | finite s m e hm =>
    rw [hshape] at hnear
    obtain ⟨hlow, hhigh, -, -, hle⟩ := hnear
    refine ⟨hhigh, ?_⟩
    by_contra he
    have hpow : 2 ^ 65 ≤ 2 ^ (e + 52).toNat := pow_le_pow_right₀ one_le_two (by omega)
    have := Nat.mul_le_mul hlow hpow
    unfold significandBound at hn
    omega
  | zero => rw [hshape] at hnear; exact hnear.elim
  | infinity => rw [hshape] at hnear; exact hnear.elim
  | notANumber => rw [hshape] at hnear; exact hnear.elim

/-- A product is finite or too great. -/
theorem isFinite_mul {x y : Float} {k : Int} {v l : Nat} (hx : AtMost k (shape x))
    (hy : Near (shape y) v l) (h : (x * y).isInf = false) : (x * y).isFinite := by
  obtain ⟨s, r, hr, e, heq⟩ : ∃ s r, r < 2 ^ 53 ∧ ∃ e,
      UnpackedFloat.mul Format.binary64 (shape x) (shape y) = signed s r e := by
    match shape x, shape y, hx, hy with
    | .zero s₁, .finite s₂ m₂ e₂ _, _, _ => exact ⟨s₁ * s₂, 0, by decide, 0, rfl⟩
    | .finite s₁ m₁ e₁ _, .finite s₂ m₂ e₂ _, _, _ =>
      obtain ⟨r, n, hr, -, -, -, -, heq⟩ := roundWithAccuracy_eq (s₁ * s₂) (m₁ * m₂) (e₁ + e₂) .exact
      exact ⟨s₁ * s₂, r, hr, _, heq⟩
  have hor := isFinite_or_isInf_packed s (e := e) hr
  rw [← heq, ← shape_mul] at hor
  apply hor.resolve_right
  intro hinf
  have : (x * y).isInf = true := hinf
  rw [h] at this
  cases this

/-- Dividing by a power of ten keeps a number below `2 ^ 65`. -/
theorem atMost_div_tenPower {x : Float} {n : Nat} (hx : AtMost 12 (shape x)) (hpos : 0 < n)
    (hn : n ≤ 308) : AtMost 12 (shape (x / tenPower n)) := by
  have htwo : 2 ≤ 10 ^ n :=
    Nat.le_trans (by decide) (Nat.pow_le_pow_right (show 0 < 10 by decide) hpos)
  rw [shape_div]
  exact (hx.div (near_tenPower hn) htwo).packed (by decide) (by decide)

/-- **What scaling results in is finite.** -/
theorem isFinite_of_scaleBy {x r : Float} {e : Int} (hx : AtMost 12 (shape x))
    (h : scaleBy x e = some r) : r.isFinite := by
  induction x, e using scaleBy.induct with
  | case1 x e hsmall hpos y hinf =>
    rw [scaleBy, if_pos hsmall, if_pos hpos] at h
    simp only at h
    rw [if_pos hinf] at h
    cases h
  | case2 x e hsmall hpos y hinf =>
    rw [scaleBy, if_pos hsmall, if_pos hpos] at h
    simp only at h
    rw [if_neg hinf] at h
    cases h
    exact isFinite_mul hx (near_tenPower hsmall) (by simpa using hinf)
  | case3 x e hsmall hneg =>
    rw [scaleBy, if_pos hsmall, if_neg hneg] at h
    cases h
    exact (atMost_div_tenPower hx (by omega) hsmall).isFinite
  | case4 x e hbig hzero =>
    rw [scaleBy, if_neg hbig, if_pos hzero] at h
    cases h
    exact hx.isFinite
  | case5 x e hbig hzero hpos =>
    rw [scaleBy, if_neg hbig, if_neg hzero, if_pos hpos] at h
    cases h
  | case6 x e hbig hzero hneg ih =>
    rw [scaleBy, if_neg hbig, if_neg hzero, if_neg hneg] at h
    exact ih (atMost_div_tenPower hx (by decide) (Nat.le_refl 308)) h

/-- Numbers are divided without end. -/
theorem isSome_scaleBy_of_neg {x : Float} {e : Int} (he : e < 0) : (scaleBy x e).isSome := by
  induction x, e using scaleBy.induct with
  | case1 x e hsmall hpos => omega
  | case2 x e hsmall hpos => omega
  | case3 x e hsmall hneg =>
    rw [scaleBy, if_pos hsmall, if_neg hneg]
    rfl
  | case4 x e hbig hzero =>
    rw [scaleBy, if_neg hbig, if_pos hzero]
    rfl
  | case5 x e hbig hzero hpos => omega
  | case6 x e hbig hzero hneg ih =>
    rw [scaleBy, if_neg hbig, if_neg hzero, if_neg hneg]
    exact ih (by omega)

theorem isSome_scaleBy_of_product {x : Float} {n : Nat} (hn : n ≤ 308)
    (h : (x * tenPower n).isInf = false) : (scaleBy x n).isSome := by
  rw [scaleBy, if_pos (by simpa using hn), if_pos (by omega)]
  simp [h]

/-- A product below the ceiling is not too great. -/
theorem isInf_product {m n : Nat} (h : m * 10 ^ n ≤ ceiling) (hn : n ≤ 308) :
    (Float.ofNat m * tenPower n).isInf = false := by
  have hfinite : (shape (Float.ofNat m * tenPower n)).isFinite := by
    rw [shape_mul]
    rcases Nat.eq_zero_or_pos m with rfl | hm
    · have hzero : AtMost 0 (UnpackedFloat.mul Format.binary64 (.zero .positive)
          (shape (tenPower n))) := by
        have hten := near_tenPower hn
        revert hten
        cases shape (tenPower n) with
        | finite => exact fun _ => trivial
        | zero => exact False.elim
        | infinity => exact False.elim
        | notANumber => exact False.elim
      exact (hzero.packed (by decide) (by decide)).isFinite
    · have hle : m ≤ ceiling := Nat.le_trans (Nat.le_mul_of_pos_right _ (Nat.pow_pos (by decide))) h
      exact (((near_ofNat hm hle).mul (near_tenPower hn)).packed (by decide) h).isFinite
  change (shape (Float.ofNat m * tenPower n)).isInf = false
  cases hshape : shape (Float.ofNat m * tenPower n) with
  | infinity => rw [hshape] at hfinite; cases hfinite
  | zero => rfl
  | finite => rfl
  | notANumber => rfl

theorem isSome_scaleBy {m n : Nat} (h : m * 10 ^ n ≤ ceiling) :
    (scaleBy (Float.ofNat m) n).isSome := by
  rcases Nat.lt_or_ge 308 n with hn | hn
  · -- beyond the greatest power of ten only zero keeps below the ceiling
    obtain rfl : m = 0 := by
      by_contra hm
      have := exponent_le_of_ceiling (Nat.pos_of_ne_zero hm) h
      omega
    rw [scaleBy, if_neg (by simpa using hn), if_pos (by rfl)]
    rfl
  · exact isSome_scaleBy_of_product hn (isInf_product h hn)

/-! ## Numerals -/

/-- The significand of a numeral and how far its point is from the end of the digits. -/
def Numeral.significand (n : Numeral) : Nat × Int :=
  let (whole, surplus) := gather 0 n.whole
  match n.fraction with
  | none => (whole, (surplus.length : Int))
  | some ds =>
    let (all, unread) := gather whole ds
    (all, (surplus.length : Int) - ((ds.length : Int) - unread.length))

theorem Numeral.magnitude?_eq (n : Numeral) :
    n.magnitude? =
      match n.exponent with
      | none => scaleBy (Float.ofNat n.significand.1) n.significand.2
      | some e =>
        let size := valueOf e.digits
        if exponentBound < size then
          if n.significand.1 ≠ 0 && e.sign != .minus then none else some 0
        else
          scaleBy (Float.ofNat n.significand.1)
            (if e.sign == .minus then n.significand.2 - size else n.significand.2 + size) := rfl

theorem Numeral.significand_lt (n : Numeral) : n.significand.1 < significandBound := by
  have hwhole : (gather 0 n.whole).1 < significandBound := gather_lt (by decide) _
  unfold Numeral.significand
  cases n.fraction with
  | none => exact hwhole
  | some ds => exact gather_lt hwhole ds

/-- The magnitude of a numeral is zero or a scaled significand. -/
theorem Numeral.of_magnitude? {n : Numeral} {x : Float} (h : n.magnitude? = some x) :
    x = 0 ∨ ∃ e, scaleBy (Float.ofNat n.significand.1) e = some x := by
  rw [Numeral.magnitude?_eq] at h
  cases hexp : n.exponent with
  | none =>
    rw [hexp] at h
    exact .inr ⟨_, h⟩
  | some e =>
    rw [hexp] at h
    simp only at h
    split at h
    · split at h
      · cases h
      · cases h
        exact .inl rfl
    · exact .inr ⟨_, h⟩

theorem AtMost.neg {k : Int} {u : UnpackedFloat} (h : AtMost k u) : AtMost k u.neg := by
  cases u with
  | zero => trivial
  | finite => exact h
  | infinity => exact h.elim
  | notANumber => exact h.elim

/-- **What a numeral is read as is finite.** -/
theorem Numeral.isFinite_of_float? {n : Numeral} {x : Float} (h : n.float? = some x) :
    x.isFinite := by
  obtain ⟨r, hr, rfl⟩ := Option.map_eq_some_iff.1 h
  have hfinite : r.isFinite := by
    rcases Numeral.of_magnitude? hr with rfl | ⟨e, hscale⟩
    · rfl
    · exact isFinite_of_scaleBy (atMost_ofNat n.significand_lt) hscale
  split
  · exact ((atMost_of_isFinite hfinite).neg.packed (by decide) (by decide)).isFinite
  · exact hfinite

end QmlExport.Decimal
