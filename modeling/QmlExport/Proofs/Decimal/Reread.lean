import QmlExport.Proofs.Decimal.Shortest
import QmlExport.Proofs.Decimal.Reading

/-!
# Written doubles are read again

The shortest decimal of a double is at most half a unit greater than the double, so the two
roundings of its reader stay below the greatest double: at once for all but the ten greatest
doubles (`Scaled.readable_of_below`), and by computation for these (`readable_greatest`). **Every
finite double that a record holds is read again as a finite double**
(`Numeral.float?_scientific_isSome`).
-/

namespace QmlExport.Decimal

/-! ## The size of the shortest decimal -/

/-- The decimal is no greater than the upper end of the interval. -/
def Scaled.Within (d : Scaled) (i : Interval) : Prop :=
  d.digits * 10 ^ d.place.toNat * i.den ≤ i.high * 10 ^ (-d.place).toNat

theorem Interval.within_of_holds {i : Interval} {c : Nat} {place : Int}
    (h : (i.scale place).holds c) : Scaled.Within ⟨c, place⟩ i := by
  have hle : c * (i.den * 10 ^ place.toNat) ≤ i.high * 10 ^ (-place).toNat :=
    (Interval.le_of_holds h).2
  change c * 10 ^ place.toNat * i.den ≤ _
  rwa [Nat.mul_assoc, Nat.mul_comm (10 ^ place.toNat)]

/-- Dropping zeros at the end of the digits keeps the value. -/
theorem Scaled.Within.normalize {i : Interval} {d : Scaled} (h : d.Within i) (fuel : Nat) :
    (d.normalize fuel).Within i := by
  induction fuel generalizing d with
  | zero => exact h
  | succ fuel ih =>
    rw [Scaled.normalize]
    split
    · next hd =>
      refine ih ?_
      obtain ⟨c, hc⟩ := Nat.dvd_of_mod_eq_zero hd.2
      change d.digits / 10 * 10 ^ (d.place + 1).toNat * i.den ≤ i.high * 10 ^ (-(d.place + 1)).toNat
      have h : d.digits * 10 ^ d.place.toNat * i.den ≤ i.high * 10 ^ (-d.place).toNat := h
      rw [hc, Nat.mul_div_cancel_left c (by decide)]
      rw [hc] at h
      rcases lt_or_ge d.place 0 with hneg | hpos
      · rw [show (d.place + 1).toNat = d.place.toNat by omega]
        rw [show (-d.place).toNat = (-(d.place + 1)).toNat + 1 by omega, pow_succ] at h
        refine Nat.le_of_mul_le_mul_left ?_ (show 0 < 10 by decide)
        linarith
      · rw [show (-(d.place + 1)).toNat = (-d.place).toNat by omega,
          show (d.place + 1).toNat = d.place.toNat + 1 by omega, pow_succ]
        linarith
    · exact h

theorem Interval.within_shortest {i : Interval} (hmid : i.mid ≤ i.high) (tie : Tie) :
    (i.shortest tie).Within i := by
  unfold Interval.shortest
  simp only
  split
  · next d hd =>
    obtain ⟨n, _, hn⟩ := List.exists_of_findSome?_eq_some hd
    obtain ⟨c, hc, rfl⟩ := Option.map_eq_some_iff.1 hn
    exact (Interval.within_of_holds (Interval.holds_of_nearest? hc)).normalize 20
  · change i.mid / i.den * 1 * i.den ≤ i.high * 1
    rw [Nat.mul_one, Nat.mul_one]
    exact Nat.le_trans (Nat.div_mul_le_self ..) hmid

/-- The decimal is no greater than the ceiling of doubles. -/
def Scaled.Below (d : Scaled) : Prop :=
  d.digits * 10 ^ d.place.toNat ≤ ceiling * 10 ^ (-d.place).toNat

theorem Scaled.Within.below {i : Interval} {d : Scaled} (h : d.Within i) (hden : 0 < i.den)
    (hhigh : i.high ≤ ceiling) : d.Below :=
  calc d.digits * 10 ^ d.place.toNat ≤ d.digits * 10 ^ d.place.toNat * i.den :=
        Nat.le_mul_of_pos_right _ hden
    _ ≤ i.high * 10 ^ (-d.place).toNat := h
    _ ≤ ceiling * 10 ^ (-d.place).toNat := Nat.mul_le_mul_right _ hhigh

theorem Binary.high_interval_le {b : Binary} (hm : b.m < 2 ^ 53)
    (hq : b.q ≤ 970 ∨ b.q = 971 ∧ b.m + 11 ≤ 2 ^ 53) : b.interval.high ≤ ceiling := by
  change (4 * b.m + 2) * 2 ^ (b.q - 2).toNat ≤ (2 ^ 54 - 21) * 2 ^ 970
  rcases hq with hq | ⟨hq, hm'⟩
  · have hpow : 2 ^ (b.q - 2).toNat ≤ 2 ^ 968 := pow_le_pow_right₀ one_le_two (by omega)
    refine Nat.le_trans (Nat.mul_le_mul (show _ ≤ 2 ^ 55 by omega) hpow) ?_
    rw [show 970 = 968 + 2 from rfl, pow_add]
    omega
  · rw [show (b.q - 2).toNat = 969 by omega, show 970 = 969 + 1 from rfl, pow_add, ← Nat.mul_assoc,
      Nat.mul_right_comm]
    exact Nat.mul_le_mul_right _ (by omega)

/-! ## Layouts that are read again -/

/-- How many places the digits that are read as a significand stand before the point. -/
def Scaled.shift (d : Scaled) : Int := d.place + (gather 0 (digitsOf d.digits)).2.length

/-- The decimal has at most 309 digits before the point, and its significand can be scaled. -/
def Scaled.Readable (d : Scaled) : Prop :=
  (digitsOf d.digits).length + d.place ≤ 309 ∧
    (scaleBy (Float.ofNat (gather 0 (digitsOf d.digits)).1) d.shift).isSome

theorem foldl_digitsOf (n : Nat) :
    (digitsOf n).foldl (fun n d => n * 10 + digitValue d) 0 = n := valueOf_digitsOf n

/-- A positive number is at least the power of ten of its first digit. -/
theorem pow_length_digitsOf_le {n : Nat} (hn : 0 < n) : 10 ^ ((digitsOf n).length - 1) ≤ n := by
  by_contra hlt
  rcases Nat.eq_zero_or_pos ((digitsOf n).length - 1) with h0 | hpos
  · rw [h0] at hlt
    exact hlt hn
  · have hle := (Nat.length_toDigits_le_iff (show 1 < 10 by decide) hpos).2 (Nat.lt_of_not_le hlt)
    change (digitsOf n).length ≤ (digitsOf n).length - 1 at hle
    omega

theorem Scaled.readable_of_below {d : Scaled} (hd : d.digits ≠ 0) (h : d.Below) : d.Readable := by
  have hgather := gather_le 0 (digitsOf d.digits)
  rw [foldl_digitsOf] at hgather
  have hpow := pow_length_digitsOf_le (Nat.pos_of_ne_zero hd)
  -- whatever power of ten the digits hold moves the value below the ceiling
  have hbelow : ∀ m k : Nat, ∀ e : Nat, m * 10 ^ k ≤ d.digits → (e : Int) = d.place + k →
      m * 10 ^ e ≤ ceiling := by
    intro m k e hm he
    refine Nat.le_of_mul_le_mul_right ?_ (Nat.pow_pos (n := (-d.place).toNat) (show 0 < 10 by decide))
    calc m * 10 ^ e * 10 ^ (-d.place).toNat = m * 10 ^ k * 10 ^ d.place.toNat := by
          rw [Nat.mul_assoc, Nat.mul_assoc, ← pow_add, ← pow_add]
          congr 2
          omega
      _ ≤ d.digits * 10 ^ d.place.toNat := Nat.mul_le_mul_right _ hm
      _ ≤ ceiling * 10 ^ (-d.place).toNat := h
  refine ⟨?_, ?_⟩
  · by_contra hlong
    obtain ⟨e, he⟩ := Int.eq_ofNat_of_zero_le
      (show 0 ≤ d.place + ((digitsOf d.digits).length - 1 : Nat) by omega)
    have := exponent_le_of_ceiling Nat.one_pos (hbelow 1 _ e (by rwa [Nat.one_mul]) he.symm)
    omega
  · rcases lt_or_ge d.shift 0 with hneg | hpos
    · exact isSome_scaleBy_of_neg hneg
    · obtain ⟨e, he⟩ := Int.eq_ofNat_of_zero_le hpos
      rw [he]
      exact isSome_scaleBy (hbelow _ _ e hgather he.symm)

/-- Whether the two roundings stay below the greatest double. -/
def Scaled.fits (d : Scaled) : Bool :=
  decide (0 ≤ d.shift ∧ d.shift ≤ 308 ∧ (digitsOf d.digits).length + d.place ≤ 309) &&
    !(Float.ofNat (gather 0 (digitsOf d.digits)).1 * tenPower d.shift.toNat).isInf

theorem Scaled.readable_of_fits {d : Scaled} (h : d.fits) : d.Readable := by
  simp only [Scaled.fits, Bool.and_eq_true, decide_eq_true_eq, Bool.not_eq_true'] at h
  obtain ⟨⟨hpos, hle, hlong⟩, hinf⟩ := h
  refine ⟨hlong, ?_⟩
  rw [← Int.toNat_of_nonneg hpos]
  exact isSome_scaleBy_of_product (by omega) hinf

/-- The ten greatest doubles, of which the digits are rounded up by more than the ceiling allows. -/
theorem readable_greatest : ∀ n < 10,
    ((⟨2 ^ 53 - 1 - n, 971, false⟩ : Binary).interval.shortest .even).Readable := by
  have hfits : ∀ n < 10,
      ((⟨2 ^ 53 - 1 - n, 971, false⟩ : Binary).interval.shortest .even).fits := by decide +kernel
  exact fun n hn => Scaled.readable_of_fits (hfits n hn)

/-! ## Finite doubles -/

open Float.Model Float.Model.UnpackedFloat in
/-- The exponent field of the bits of a finite double is not all ones. -/
theorem exponentBits_le {x : Float} (h : x.isFinite) :
    x.toBits.toNat / 0x10000000000000 % 0x800 ≤ 2046 := by
  have hfin : (UnpackedFloat.unpack Format.binary64 x.toModel.toBits.toBitVec).isFinite := h
  have hle := toNat_le_of_ne_ones (ne_ones_of_isFinite hfin)
  unfold unpackExponent at hle
  rw [BitVec.toNat_cast, BitVec.extractLsb_toNat, Nat.shiftRight_eq_div_pow] at hle
  exact hle

/-- A finite double as mantissa and exponent; the greatest ones are not next to a power of two. -/
theorem Binary.ofFloat_bounds {x : Float} (h : x.isFinite) :
    (Binary.ofFloat x).m < 2 ^ 53 ∧ ((Binary.ofFloat x).q ≤ 970 ∨
      (Binary.ofFloat x).q = 971 ∧ (Binary.ofFloat x).m + 11 ≤ 2 ^ 53 ∨
      ∃ n < 10, Binary.ofFloat x = ⟨2 ^ 53 - 1 - n, 971, false⟩) := by
  have hle := exponentBits_le h
  unfold Binary.ofFloat
  simp only
  generalize x.toBits.toNat / 0x10000000000000 % 0x800 = biased at *
  have hfrac : x.toBits.toNat % 0x10000000000000 < 0x10000000000000 := Nat.mod_lt _ (by decide)
  generalize x.toBits.toNat % 0x10000000000000 = frac at *
  split
  · exact ⟨by simp only; omega, .inl (by simp only; omega)⟩
  · refine ⟨by simp only; omega, ?_⟩
    simp only
    rcases Nat.lt_or_ge biased 2046 with hb | hb
    · exact .inl (by omega)
    obtain rfl : biased = 2046 := by omega
    rcases Nat.lt_or_ge (frac + 0x10000000000000 + 10) (2 ^ 53) with hm | hm
    · exact .inr (.inl ⟨by omega, by omega⟩)
    · refine .inr (.inr ⟨2 ^ 53 - 1 - (frac + 0x10000000000000), by omega, ?_⟩)
      have hne : frac ≠ 0 := by omega
      rw [Binary.mk.injEq]
      exact ⟨by omega, rfl, by simp [hne]⟩

theorem Binary.below_shortest {b : Binary} (hm : b.m < 2 ^ 53)
    (hq : b.q ≤ 970 ∨ b.q = 971 ∧ b.m + 11 ≤ 2 ^ 53) (tie : Tie) :
    (b.interval.shortest tie).Below := by
  have hmid : b.interval.mid ≤ b.interval.high := Nat.mul_le_mul_right _ (Nat.le_add_right ..)
  have hden : 0 < b.interval.den := Nat.pow_pos (by decide)
  exact (Interval.within_shortest hmid tie).below hden (Binary.high_interval_le hm hq)

/-- **The shortest decimal of a finite double can be read again.** -/
theorem readable_shortest {x : Float} (h : x.isFinite) (hd : (shortest x .even).digits ≠ 0) :
    (shortest x .even).Readable := by
  obtain ⟨hm, hq⟩ := Binary.ofFloat_bounds h
  unfold shortest at hd ⊢
  simp only at hd ⊢
  split at hd
  · exact absurd rfl hd
  · next hm0 =>
    rw [if_neg hm0]
    rcases hq with hq | hq | ⟨n, hn, heq⟩
    · exact Scaled.readable_of_below hd (Binary.below_shortest hm (.inl hq) _)
    · exact Scaled.readable_of_below hd (Binary.below_shortest hm (.inr hq) _)
    · rw [heq]
      exact readable_greatest n hn

/-! ## Numerals in records -/

/-- With few digits before the point, no exponent is left over. -/
theorem isSome_magnitude?_positional {n : Numeral} {ds : List Char} (hwhole : Digits n.whole)
    (hlen : n.whole.length ≤ 19) (hfraction : n.fraction = some ds) (hexp : n.exponent = none) :
    n.magnitude?.isSome := by
  have hall : (gather 0 n.whole).2 = [] := by
    refine gather_all hwhole.2 ?_
    rw [Nat.zero_add, Nat.one_mul]
    exact Nat.le_trans (Nat.pow_le_pow_right (by decide) hlen) (by decide)
  have hshift : n.significand.2 ≤ 0 := by
    unfold Numeral.significand
    rw [hfraction]
    have := length_gather_le (gather 0 n.whole).1 ds
    simp only [hall, List.length_nil]
    omega
  rw [Numeral.magnitude?_eq, hexp]
  simp only
  rcases lt_or_eq_of_le hshift with hneg | hzero
  · exact isSome_scaleBy_of_neg hneg
  · rw [hzero]
    refine isSome_scaleBy (n := 0) ?_
    rw [pow_zero, Nat.mul_one]
    exact le_ceiling (Nat.le_of_lt n.significand_lt)

theorem Scaled.length_positional {d : Scaled} (h : d.Proper)
    (hpoint : d.digits = 0 ∨ (digitsOf d.digits).length + d.place ≤ 16) :
    d.positional.1.length ≤ 16 := by
  have hlen : 0 < (digitsOf d.digits).length := List.length_pos_of_ne_nil (digitsOf_ne_nil _)
  unfold Scaled.positional
  simp only
  split
  · rcases hpoint with h0 | hpoint
    · rw [h h0, h0, digitsOf_zero]
      decide
    · simp only [List.length_append, List.length_replicate]
      omega
  · next hneg =>
    have hpoint := hpoint.resolve_left fun h0 => hneg (by rw [h h0])
    split
    · exact Nat.le_of_ble_eq_true rfl
    · simp only [List.length_take]
      omega

/-- One digit before the point: the significand has the digits that are gathered of them all. -/
theorem significand_scientific {negative : Bool} {ds : List Char} {exponent : Option Exponent}
    (hds : Digits ds) :
    (Numeral.mk negative (ds.take 1) (if (ds.drop 1).isEmpty then none else some (ds.drop 1))
      exponent).significand =
      ((gather 0 ds).1, ((gather 0 ds).2.length : Int) - (ds.length - 1)) := by
  obtain ⟨hne, hall⟩ := hds
  cases ds with
  | nil => exact absurd rfl hne
  | cons c cs =>
    have hc := digitValue_le (hall c List.mem_cons_self)
    have hfirst : gather 0 [c] = (digitValue c, []) := by
      rw [gather, if_pos (by unfold significandBound; omega)]
      simp [gather]
    have hgather : gather 0 (c :: cs) = gather (digitValue c) cs := by
      rw [gather, if_pos (by unfold significandBound; omega)]
      simp
    unfold Numeral.significand
    rw [hgather]
    simp only [List.take_succ_cons, List.take_zero, hfirst, List.drop_succ_cons, List.drop_zero]
    cases cs with
    | nil => simp [gather]
    | cons e es =>
      simp only [List.isEmpty_cons, Bool.false_eq_true, if_false, List.length_nil, List.length_cons]
      congr 1
      omega

theorem valueOf_exponent (e : Int) (shift : Int) :
    (if (if e < 0 then ExponentSign.minus else .plus) == .minus then
      shift - valueOf (digitsOf e.natAbs) else shift + valueOf (digitsOf e.natAbs)) = shift + e := by
  rw [valueOf_digitsOf]
  split
  · rw [if_pos (by decide)]
    omega
  · rw [if_neg (by decide)]
    omega

/-- With one digit before the point, the exponent makes up for the others. -/
theorem Scaled.Readable.isSome_magnitude? {d : Scaled} (h : d.Readable) (negative : Bool) :
    (Numeral.mk negative ((digitsOf d.digits).take 1)
      (if ((digitsOf d.digits).drop 1).isEmpty then none else some ((digitsOf d.digits).drop 1))
      (some ⟨if (digitsOf d.digits).length + d.place - 1 < 0 then .minus else .plus,
        digitsOf ((digitsOf d.digits).length + d.place - 1).natAbs⟩)).magnitude?.isSome := by
  obtain ⟨hlong, hscale⟩ := h
  rw [Numeral.magnitude?_eq, significand_scientific (digits_digitsOf _)]
  simp only
  split
  · next hsize =>
    -- an exponent of that size is negative, and the numeral is read as zero
    rw [valueOf_digitsOf] at hsize
    have hneg : ((digitsOf d.digits).length : Int) + d.place - 1 < 0 := by
      unfold exponentBound at hsize
      omega
    simp [hneg]
  · rw [valueOf_exponent]
    have hshift : ((gather 0 (digitsOf d.digits)).2.length : Int) -
        (((digitsOf d.digits).length : Int) - 1) +
        (((digitsOf d.digits).length : Int) + d.place - 1) = d.shift := by
      unfold Scaled.shift
      omega
    rw [hshift]
    exact hscale

/-- **Every finite double that is written into a record is read again.** -/
theorem Numeral.float?_scientific_isSome {x : Float} (h : x.isFinite) :
    ((Numeral.scientific x).float?).isSome := by
  rw [Numeral.float?, Option.isSome_map]
  have hproper := shortest_proper x .even
  unfold Numeral.scientific
  simp only
  split
  · next hpos =>
    simp only [Bool.or_eq_true, Bool.and_eq_true, decide_eq_true_eq] at hpos
    refine isSome_magnitude?_positional (Scaled.positional_digits hproper).1.1 ?_ rfl rfl
    refine Nat.le_trans (Scaled.length_positional hproper ?_) (by decide)
    exact hpos.imp id And.right
  · next hexp =>
    simp only [Bool.or_eq_true, Bool.and_eq_true, decide_eq_true_eq, not_or] at hexp
    exact (readable_shortest h hexp.1).isSome_magnitude? _

/-- A double after it was written into a record and read back. -/
def reread (x : Float) : Float := ((Numeral.scientific x).float?).getD x

end QmlExport.Decimal
