import QmlExport.Proofs.Decimal.Digits

/-!
# Shortest decimals are printable

A grid point that `Interval.nearest?` picks lies in the interval, and the interval of a positive
number lies above zero; so the shortest decimal of a number is zero only as zero itself
(`shortest_proper`), and the numeral that it is laid out as is printable
(`printable_scientific`).
-/

namespace QmlExport.Decimal

/-! ## Grid points of an interval -/

theorem Interval.le_of_holds {i : Interval} {c : Nat} (h : i.holds c) :
    i.low ≤ c * i.den ∧ c * i.den ≤ i.high := by
  unfold Interval.holds at h
  split at h
  · simpa using h
  · have hlt : i.low < c * i.den ∧ c * i.den < i.high := by simpa using h
    exact ⟨Nat.le_of_lt hlt.1, Nat.le_of_lt hlt.2⟩

theorem Interval.holds_of_nearest? {i : Interval} {tie : Tie} {c : Nat}
    (h : i.nearest? tie = some c) : i.holds c := by
  unfold Interval.nearest? at h
  simp only at h
  split at h
  · next hc hc' =>
    split at h
    · cases h; exact hc
    split at h
    · cases h; exact hc'
    · cases tie with
      | up => cases h; exact hc'
      | even =>
        simp only [Option.some.injEq] at h
        split at h
        · rwa [← h]
        · rwa [← h]
  · next hc _ => cases h; exact hc
  · next _ hc' => cases h; exact hc'
  · cases h

theorem Interval.pos_of_nearest? {i : Interval} {tie : Tie} {c : Nat} (hlow : 0 < i.low)
    (h : i.nearest? tie = some c) : 0 < c := by
  have hle := (Interval.le_of_holds (Interval.holds_of_nearest? h)).1
  rcases Nat.eq_zero_or_pos c with rfl | hc
  · rw [Nat.zero_mul] at hle
    omega
  · exact hc

theorem Binary.low_interval_pos {b : Binary} (hm : 0 < b.m) : 0 < b.interval.low := by
  unfold Binary.interval
  have hup : 0 < Nat.pow 2 (b.q - 2).toNat := Nat.pow_pos (by decide)
  simp only
  split
  · exact Nat.mul_pos (by omega) hup
  · exact Nat.mul_pos (by omega) hup

theorem Interval.low_scale_pos {i : Interval} (h : 0 < i.low) (place : Int) :
    0 < (i.scale place).low :=
  Nat.mul_pos h (Nat.pow_pos (by decide))

/-! ## The shortest decimal -/

/-- Dropping zeros at the end keeps what is positive positive. -/
theorem Scaled.digits_normalize_pos {d : Scaled} (h : 0 < d.digits) (fuel : Nat) :
    0 < (d.normalize fuel).digits := by
  induction fuel generalizing d with
  | zero => exact h
  | succ fuel ih =>
    rw [Scaled.normalize]
    split
    · next hd => exact ih (show 0 < d.digits / 10 by omega)
    · exact h

/-- The shortest decimal in an interval above zero is positive, or it is the whole part of the
middle. -/
theorem Interval.shortest_proper {i : Interval} (hlow : 0 < i.low) (tie : Tie) :
    (i.shortest tie).Proper := by
  intro h0
  unfold Interval.shortest at h0 ⊢
  simp only at h0 ⊢
  split
  · next d hd =>
    rw [hd] at h0
    obtain ⟨n, _, hn⟩ := List.exists_of_findSome?_eq_some hd
    obtain ⟨c, hc, rfl⟩ := Option.map_eq_some_iff.1 hn
    have hpos := Interval.pos_of_nearest? (Interval.low_scale_pos hlow _) hc
    have := Scaled.digits_normalize_pos (d := ⟨c, i.leadingPlace - n⟩) hpos 20
    simp only at h0
    omega
  · rfl

theorem shortest_proper (x : Float) (tie : Tie) : (shortest x tie).Proper := by
  unfold shortest
  simp only
  split
  · exact fun _ => rfl
  · next hm =>
    exact Interval.shortest_proper (Binary.low_interval_pos (Nat.pos_of_ne_zero hm)) tie

/-! ## Layouts -/

/-- What stands behind the point of a numeral in records. -/
theorem digits_behind {ds : List Char} (h : ds ≠ [] → Digits ds) :
    Digits (if ds.isEmpty then ['0'] else ds) := by
  split
  · exact ⟨by simp, by simp⟩
  · next hne => exact h (by simpa using hne)

/-- **Doubles are written as printable numerals.** -/
theorem Numeral.printable_scientific (x : Float) : (Numeral.scientific x).Printable := by
  have hp := Scaled.positional_digits (shortest_proper x .even)
  unfold Numeral.scientific
  simp only
  split
  · refine ⟨hp.1, fun ds h => ?_, fun e h => by cases h⟩
    cases h
    exact digits_behind hp.2
  · next hexp =>
    have hd : (shortest x .even).digits ≠ 0 := by
      intro h0
      simp [h0] at hexp
    have hw := wholeDigits_digitsOf (shortest x .even).digits
    refine ⟨hw.take (by decide) (digitsOf_ne_zero hd), fun ds h => ?_, fun e h => ?_⟩
    · simp only at h
      split at h
      · cases h
      · next hne =>
        cases h
        refine hw.1.drop ?_
        simp only [List.isEmpty_iff, List.drop_eq_nil_iff] at hne
        omega
    · cases h
      exact digits_digitsOf _

end QmlExport.Decimal
