/-
  The rational numbers that doubles are, and rounding to the nearest one.
-/
import Conform.Numeric.Double
import Mathlib.Algebra.Order.Field.Power
import Mathlib.Algebra.Order.Ring.Unbundled.Rat
import Mathlib.Tactic.Linarith
import Mathlib.Tactic.Positivity
import Mathlib.Tactic.FieldSimp
import Mathlib.Tactic.Ring

namespace Conform

/-! ## Numerators and denominators -/

theorem cast_scaled (base n : ℕ) (e : ℤ) :
    (scaled base n e : ℚ) = n * (base : ℚ) ^ e.toNat := by
  rw [scaled, Nat.pow_eq]
  push_cast
  rfl

theorem scaled_div_scaled (base m n : ℕ) (e : ℤ) :
    (scaled base m e : ℚ) / scaled base n (-e) = m / n * (base : ℚ) ^ e := by
  rw [cast_scaled, cast_scaled]
  obtain ⟨k, rfl | rfl⟩ := e.eq_nat_or_neg
  · have hneg : (-(k : ℤ)).toNat = 0 := by omega
    rw [hneg, Int.toNat_natCast, pow_zero, mul_one, zpow_natCast, mul_div_right_comm]
  · have hneg : (-(k : ℤ)).toNat = 0 := by omega
    rw [hneg, neg_neg, Int.toNat_natCast, pow_zero, mul_one, zpow_neg, zpow_natCast,
      div_mul_eq_div_div, div_eq_mul_inv]

/-- A number with a sign. -/
def withSign (negative : Bool) (q : ℚ) : ℚ := if negative then -q else q

theorem abs_withSign (negative : Bool) (q : ℚ) : |withSign negative q| = |q| := by
  cases negative <;> simp [withSign]

theorem withSign_mul (negative : Bool) (p q : ℚ) :
    withSign negative (p * q) = withSign negative p * q := by
  cases negative <;> simp [withSign]

theorem eq_zero_of_withSign {a b : Bool} {q : ℚ} (hne : a ≠ b)
    (h : withSign a q = withSign b q) : q = 0 := by
  cases a <;> cases b <;> simp [withSign] at hne h <;> linarith

theorem Double.cast_signed (negative : Bool) (n : ℕ) :
    (signed negative n : ℚ) = withSign negative n := by
  cases negative <;> simp [signed, withSign]

namespace Double

/-! ## Values -/

/-- The number that a double is, without its sign. -/
def magnitude (x : Double) : ℚ := x.mantissa * 2 ^ x.exponent

/-- The number that a double is. -/
def value (x : Double) : ℚ := withSign x.negative x.magnitude

variable {x y : Double} {q : ℚ}

theorem magnitude_nonneg (x : Double) : 0 ≤ x.magnitude := by
  unfold magnitude
  positivity

theorem abs_value (x : Double) : |x.value| = x.magnitude := by
  rw [value, abs_withSign, abs_of_nonneg x.magnitude_nonneg]

theorem value_zero (negative : Bool) : (zero negative).value = 0 := by
  cases negative <;> simp [value, withSign, magnitude, zero]

theorem eq_zero_of_value (h : x.value = 0) : x = zero x.negative := by
  obtain ⟨negative, mantissa, exponent, normal⟩ := x
  have hmagnitude : (mantissa : ℚ) * 2 ^ exponent = 0 := by
    have habs := abs_value ⟨negative, mantissa, exponent, normal⟩
    rw [h, abs_zero] at habs
    exact habs.symm
  have hmantissa : mantissa = 0 := by
    have hpow : (2 : ℚ) ^ exponent ≠ 0 := zpow_ne_zero _ two_ne_zero
    exact_mod_cast (mul_eq_zero.1 hmagnitude).resolve_right hpow
  subst hmantissa
  obtain ⟨-, -, -, hfull | rfl⟩ := normal
  · omega
  · rfl

theorem magnitude_eq_div (x : Double) :
    x.magnitude = (scaled 2 x.mantissa x.exponent : ℚ) / scaled 2 1 (-x.exponent) := by
  rw [scaled_div_scaled, Nat.cast_one, div_one, magnitude]
  rfl

/-- A double is a whole number iff its denominator divides its numerator. -/
theorem magnitude_eq_natCast_iff {n : ℕ} :
    x.magnitude = n ↔ scaled 2 x.mantissa x.exponent = n * scaled 2 1 (-x.exponent) := by
  have hden : (scaled 2 1 (-x.exponent) : ℚ) ≠ 0 :=
    Nat.cast_ne_zero.2 (scaled_pos two_pos one_pos _).ne'
  rw [magnitude_eq_div, div_eq_iff hden]
  norm_cast

/-- **A double is a whole number** iff it has no fraction, and then it is that number. -/
theorem value_eq_intCast_iff {n : ℤ} :
    x.value = n ↔ x.hasFraction = false ∧ x.trunc = n := by
  have hden : 0 < scaled 2 1 (-x.exponent) := scaled_pos two_pos one_pos _
  rw [hasFraction, bne_eq_false_iff_eq, trunc]
  by_cases hmod : scaled 2 x.mantissa x.exponent % scaled 2 1 (-x.exponent) = 0
  · obtain ⟨k, hk⟩ := Nat.dvd_of_mod_eq_zero hmod
    have hvalue : x.value = (signed x.negative k : ℤ) := by
      rw [value, magnitude_eq_natCast_iff.2 (hk.trans (Nat.mul_comm _ _)), cast_signed]
    rw [hvalue, Int.cast_inj, hk, Nat.mul_div_cancel_left k hden]
    exact ⟨fun h => ⟨Nat.mul_mod_right _ _, h⟩, And.right⟩
  · refine iff_of_false (fun h => hmod ?_) fun h => hmod h.1
    have hmagnitude : x.magnitude = n.natAbs := by
      rw [← abs_value, h, Nat.cast_natAbs, Int.cast_abs]
    rw [magnitude_eq_natCast_iff.1 hmagnitude, Nat.mul_mod_left]

/-! ## Comparison -/

/-- Every double is a whole number of units of the smallest one. -/
theorem value_eq_units (x : Double) : x.value = x.units * 2 ^ (-1074 : ℤ) := by
  have hunits : (scaled 2 x.mantissa (x.exponent + 1074) : ℚ) * 2 ^ (-1074 : ℤ) = x.magnitude := by
    have hexponent : ((x.exponent + 1074).toNat : ℤ) = x.exponent + 1074 :=
      Int.toNat_of_nonneg (by have := x.normal.2.1; omega)
    rw [cast_scaled, magnitude, mul_assoc, Nat.cast_two, ← zpow_natCast, hexponent,
      ← zpow_add₀ two_ne_zero, Int.add_neg_cancel_right]
  rw [units, cast_signed, value, ← hunits, withSign_mul]

theorem le_iff : x.le y = true ↔ x.value ≤ y.value := by
  rw [le, decide_eq_true_iff, value_eq_units, value_eq_units, mul_le_mul_iff_left₀ (by positivity),
    Int.cast_le]

theorem lt_iff : x.lt y = true ↔ x.value < y.value := by
  rw [lt, decide_eq_true_iff, value_eq_units, value_eq_units, mul_lt_mul_iff_left₀ (by positivity),
    Int.cast_lt]

/-- Of two equal numbers neither has the larger unit. -/
theorem exponent_le_of_magnitude_eq (h : x.magnitude = y.magnitude) : y.exponent ≤ x.exponent := by
  by_contra hlt
  have hfull : (2 : ℚ) ^ 52 ≤ y.mantissa := by
    obtain ⟨-, -, -, hfull | hleast⟩ := y.normal
    · exact_mod_cast hfull
    · have := x.normal.2.1
      omega
  have hsmall : (x.mantissa : ℚ) < 2 ^ 53 := by exact_mod_cast x.normal.1
  have hstep : (2 : ℚ) ^ (x.exponent + 1) ≤ 2 ^ y.exponent :=
    zpow_le_zpow_right₀ one_le_two (by omega)
  have hpos : (0 : ℚ) < 2 ^ x.exponent := by positivity
  rw [zpow_add_one₀ two_ne_zero] at hstep
  have hlarge : 2 ^ 53 * (2 : ℚ) ^ x.exponent ≤ y.magnitude :=
    calc 2 ^ 53 * (2 : ℚ) ^ x.exponent = (2 : ℚ) ^ 52 * ((2 : ℚ) ^ x.exponent * 2) := by ring
      _ ≤ (y.mantissa : ℚ) * (2 : ℚ) ^ y.exponent :=
        mul_le_mul hfull hstep (by positivity) (by positivity)
  rw [← h, magnitude] at hlarge
  exact absurd (le_of_mul_le_mul_right hlarge hpos) hsmall.not_ge

/-- **Doubles are the same iff their values are.** -/
theorem same_iff : x.same y = true ↔ x.value = y.value := by
  simp only [same, isZero, Bool.and_eq_true, Bool.or_eq_true, beq_iff_eq]
  constructor
  · rintro ⟨⟨hmantissa, hexponent⟩, hsign | hzero⟩
    · rw [value, value, magnitude, magnitude, hmantissa, hexponent, hsign]
    · simp [value, magnitude, withSign, ← hmantissa, hzero]
  · intro h
    have hmagnitude : x.magnitude = y.magnitude := by rw [← abs_value, h, abs_value]
    have hexponent : x.exponent = y.exponent :=
      le_antisymm (exponent_le_of_magnitude_eq hmagnitude.symm)
        (exponent_le_of_magnitude_eq hmagnitude)
    have hpow : (2 : ℚ) ^ y.exponent ≠ 0 := zpow_ne_zero _ two_ne_zero
    have hmantissa : x.mantissa = y.mantissa := by
      rw [magnitude, magnitude, hexponent] at hmagnitude
      exact_mod_cast mul_right_cancel₀ hpow hmagnitude
    refine ⟨⟨hmantissa, hexponent⟩, or_iff_not_imp_left.2 fun hsign => ?_⟩
    have hzero : x.magnitude = 0 := by
      rw [value, value, ← hmagnitude] at h
      exact eq_zero_of_withSign hsign h
    rw [magnitude, hexponent] at hzero
    exact_mod_cast (mul_eq_zero.1 hzero).resolve_right hpow

/-! ## Rounding -/

/-- `x` is a number rounded to a double: no double is nearer to it, and if others are equally near,
    the mantissa of `x` is even. -/
structure Nearest (q : ℚ) (x : Double) : Prop where
  least : ∀ y : Double, |q - x.value| ≤ |q - y.value|
  tie : ∀ y : Double, y.value ≠ x.value → |q - y.value| = |q - x.value| → x.mantissa % 2 = 0

namespace Nearest

/-- A number is not rounded past a double that lies above it. -/
theorem value_le (h : Nearest q x) (hy : q ≤ y.value) : x.value ≤ y.value := by
  by_contra hlt
  have hleast := h.least y
  rw [abs_of_nonpos (by linarith), abs_of_nonpos (by linarith)] at hleast
  linarith

/-- A number is not rounded past a double that lies below it. -/
theorem le_value (h : Nearest q x) (hy : y.value ≤ q) : y.value ≤ x.value := by
  by_contra hlt
  have hleast := h.least y
  rw [abs_of_nonneg (by linarith), abs_of_nonneg (by linarith)] at hleast
  linarith

theorem value_eq (h : Nearest q x) (hy : q = y.value) : x.value = y.value :=
  le_antisymm (h.value_le hy.le) (h.le_value hy.ge)

end Nearest

/-! ## Numbers that are too small -/

/-- The smallest double above zero is `2 ^ (-1074)`. -/
theorem le_magnitude (h : x.value ≠ 0) : 2 ^ (-1074 : ℤ) ≤ x.magnitude := by
  have hmantissa : (1 : ℚ) ≤ x.mantissa := by
    refine Nat.one_le_cast.2 (Nat.one_le_iff_ne_zero.2 fun hzero => h ?_)
    rw [value, magnitude, hzero, Nat.cast_zero, zero_mul]
    cases x.negative <;> simp [withSign]
  have hexponent : (2 : ℚ) ^ (-1074 : ℤ) ≤ 2 ^ x.exponent :=
    zpow_le_zpow_right₀ one_le_two x.normal.2.1
  calc (2 : ℚ) ^ (-1074 : ℤ) ≤ 2 ^ x.exponent := hexponent
    _ ≤ x.mantissa * 2 ^ x.exponent := le_mul_of_one_le_left (by positivity) hmantissa

theorem two_zpow_least : (2 : ℚ) ^ (-1074 : ℤ) = 2 * 2 ^ (-1075 : ℤ) := by
  rw [← zpow_one_add₀ two_ne_zero]
  rfl

/-- Half the smallest double above zero, and all that is less, is rounded to zero. -/
theorem nearest_zero (hq : |q| ≤ 2 ^ (-1075 : ℤ)) (negative : Bool) :
    Nearest q (zero negative) where
  least y := by
    rw [value_zero, sub_zero]
    by_cases hy : y.value = 0
    · rw [hy, sub_zero]
    · have hleast := le_magnitude hy
      rw [← abs_value, two_zpow_least] at hleast
      have htriangle := abs_sub_abs_le_abs_sub y.value q
      rw [abs_sub_comm]
      linarith
  tie _ _ _ := rfl

/-- Only the smallest double above zero is as small as that. -/
theorem mantissa_eq_one (h : x.magnitude = 2 ^ (-1074 : ℤ)) : x.mantissa = 1 := by
  obtain ⟨-, hlow, -, hfull | hlast⟩ := x.normal
  · have hmantissa : (2 : ℚ) ≤ x.mantissa := by
      exact_mod_cast (show 2 ≤ x.mantissa by omega)
    have hexponent : (2 : ℚ) ^ (-1074 : ℤ) ≤ 2 ^ x.exponent :=
      zpow_le_zpow_right₀ one_le_two hlow
    have hpos : (0 : ℚ) < 2 ^ (-1074 : ℤ) := by positivity
    rw [magnitude] at h
    nlinarith
  · rw [magnitude, hlast] at h
    have hone := mul_right_cancel₀ (zpow_ne_zero _ two_ne_zero) (h.trans (one_mul _).symm)
    exact_mod_cast hone

/-- A number that is too small for all other doubles is rounded to a zero. -/
theorem Nearest.eq_zero (h : Nearest q x) (hq : |q| ≤ 2 ^ (-1075 : ℤ)) : x = zero x.negative := by
  refine eq_zero_of_value (by_contra fun hx => ?_)
  have hzero : (zero false).value = 0 := value_zero false
  have hleast := h.least (zero false)
  have hsmallest := le_magnitude hx
  have htriangle := abs_sub_abs_le_abs_sub x.value q
  rw [abs_sub_comm, abs_value] at htriangle
  rw [hzero, sub_zero] at hleast
  rw [two_zpow_least] at hsmallest
  -- `x` lies as far from the number as zero does, and its mantissa is odd
  have hmantissa : x.mantissa = 1 := mantissa_eq_one (by rw [two_zpow_least]; linarith)
  have htie := h.tie (zero false) (by rw [hzero]; exact Ne.symm hx)
    (by rw [hzero, sub_zero]; linarith)
  rw [hmantissa] at htie
  cases htie

end Double

end Conform
