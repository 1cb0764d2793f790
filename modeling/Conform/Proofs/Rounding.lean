/-
  Fractions are rounded correctly. In the unit that fits a fraction the nearest whole
  multiple is the nearest double, for doubles with a finer unit are too small to be
  nearer.
-/
import Conform.Proofs.Double
import Mathlib.Tactic.Ring

namespace Conform

/-! ## Whole numbers -/

/-- `m` is a number rounded to a whole one, a half to the even one. -/
structure RoundsTo (t : ℚ) (m : ℕ) : Prop where
  close : |t - m| ≤ 1 / 2
  even : |t - m| = 1 / 2 → m % 2 = 0

theorem roundsTo_roundDiv (num : ℕ) {den : ℕ} (hden : 0 < den) :
    RoundsTo (num / den) (roundDiv num den) := by
  have hpos : (0 : ℚ) < den := Nat.cast_pos.2 hden
  have hcross : ((num : ℚ) / den - roundDiv num den) * (2 * den) =
      2 * num - 2 * den * roundDiv num den := by
    field_simp
  have habove : (2 * den * roundDiv num den : ℚ) ≤ 2 * num + den := by
    exact_mod_cast two_mul_roundDiv_le num den
  have hbelow : (2 * num : ℚ) ≤ 2 * den * roundDiv num den + den := by
    exact_mod_cast two_mul_le_roundDiv num den hden
  constructor
  · rw [abs_le]
    constructor <;> nlinarith
  · intro hhalf
    refine roundDiv_even hden ?_
    rcases eq_or_eq_neg_of_abs_eq hhalf with h | h
    · rw [h] at hcross
      left
      have heq : (2 * num : ℚ) = 2 * den * roundDiv num den + den := by linarith
      exact_mod_cast heq
    · rw [h] at hcross
      right
      have heq : (2 * num + den : ℚ) = 2 * den * roundDiv num den := by linarith
      exact_mod_cast heq

namespace RoundsTo

variable {t : ℚ} {m a : ℕ}

theorem half_le (h : RoundsTo t m) (hne : a ≠ m) : 1 / 2 ≤ |t - a| := by
  have hone : (1 : ℚ) ≤ |(m : ℚ) - a| := by
    have hint : (1 : ℤ) ≤ |(m : ℤ) - a| := by
      have hsub : (m : ℤ) - a ≠ 0 := by omega
      have hpos := abs_pos.2 hsub
      omega
    exact_mod_cast hint
  have htriangle := abs_sub_le (m : ℚ) t a
  rw [abs_sub_comm (m : ℚ) t] at htriangle
  have hclose := h.close
  linarith

theorem least (h : RoundsTo t m) (a : ℕ) : |t - m| ≤ |t - a| := by
  by_cases ha : a = m
  · rw [ha]
  · exact h.close.trans (h.half_le ha)

theorem tie (h : RoundsTo t m) (hne : a ≠ m) (heq : |t - a| = |t - m|) : m % 2 = 0 :=
  h.even (le_antisymm h.close (heq ▸ h.half_le hne))

theorem le_of_le (h : RoundsTo t m) (ha : (a : ℚ) ≤ t) : a ≤ m := by
  by_contra hlt
  have hsucc : (m : ℚ) + 1 ≤ a := by exact_mod_cast Nat.succ_le_of_lt (Nat.not_le.1 hlt)
  have hclose := (abs_le.1 h.close).2
  linarith

theorem le_of_lt (h : RoundsTo t m) (ha : t < a) : m ≤ a := by
  by_contra hlt
  have hsucc : (a : ℚ) + 1 ≤ m := by exact_mod_cast Nat.succ_le_of_lt (Nat.not_le.1 hlt)
  have hclose := (abs_le.1 h.close).1
  linarith

/-- A number is rounded to an even number, or above it, from half a unit below on. -/
theorem lt_iff (h : RoundsTo t m) (ha : a % 2 = 0) : m < a ↔ t < a - 1 / 2 := by
  constructor
  · intro hlt
    have hsucc : (m : ℚ) + 1 ≤ a := by exact_mod_cast Nat.succ_le_of_lt hlt
    have hclose := (abs_le.1 h.close).2
    refine lt_of_le_of_ne (by linarith) fun heq => ?_
    -- the half would lie between two numbers of which `m` is odd
    have hm : (a : ℚ) = m + 1 := by linarith
    have hm' : a = m + 1 := by exact_mod_cast hm
    have hhalf : |t - m| = 1 / 2 := by
      rw [heq, hm, abs_of_nonneg] <;> linarith
    have := h.even hhalf
    omega
  · intro hlt
    have hclose := (abs_le.1 h.close).1
    have hm : (m : ℚ) < a := by linarith
    exact_mod_cast hm

end RoundsTo

/-! ## Units -/

theorem two_zpow_log2_le {n : ℕ} (h : 0 < n) : (2 : ℚ) ^ (n.log2 : ℤ) ≤ n := by
  rw [zpow_natCast]
  exact_mod_cast Nat.log2_self_le h.ne'

theorem lt_two_zpow_log2 (n : ℕ) : (n : ℚ) < 2 ^ (n.log2 + 1 : ℤ) := by
  have h := Nat.lt_log2_self (n := n)
  exact_mod_cast h

namespace Double

variable {num den : ℕ} {negative : Bool} {x : Double}

/-- The bounds of a fraction by the binary digits of its two parts. -/
theorem div_bounds (hnum : 0 < num) (hden : 0 < den) :
    (2 : ℚ) ^ ((num.log2 : ℤ) - den.log2 - 1) < num / den ∧
      (num / den : ℚ) < 2 ^ ((num.log2 : ℤ) - den.log2 + 1) := by
  have hpos : (0 : ℚ) < den := Nat.cast_pos.2 hden
  constructor
  · rw [lt_div_iff₀ hpos]
    calc (2 : ℚ) ^ ((num.log2 : ℤ) - den.log2 - 1) * den
        < 2 ^ ((num.log2 : ℤ) - den.log2 - 1) * 2 ^ (den.log2 + 1 : ℤ) := by
          gcongr
          exact lt_two_zpow_log2 den
      _ = 2 ^ (num.log2 : ℤ) := by
          rw [← zpow_add₀ two_ne_zero]
          congr 1
          omega
      _ ≤ num := two_zpow_log2_le hnum
  · rw [div_lt_iff₀ hpos]
    calc (num : ℚ) < 2 ^ (num.log2 + 1 : ℤ) := lt_two_zpow_log2 num
      _ = 2 ^ ((num.log2 : ℤ) - den.log2 + 1) * 2 ^ (den.log2 : ℤ) := by
          rw [← zpow_add₀ two_ne_zero]
          congr 1
          omega
      _ ≤ 2 ^ ((num.log2 : ℤ) - den.log2 + 1) * den := by
          gcongr
          exact two_zpow_log2_le hden

/-- A fraction is compared with a power of two by multiplying the right part with it. -/
theorem scaled_lt_scaled_iff (m : ℕ) {n : ℕ} (hn : 0 < n) (e : ℤ) :
    scaled 2 m (-e) < scaled 2 n e ↔ (m / n : ℚ) < 2 ^ e := by
  have hscaled : (0 : ℚ) < scaled 2 n e := Nat.cast_pos.2 (scaled_pos two_pos hn e)
  have hpow : (0 : ℚ) < 2 ^ e := by positivity
  have hdiv := scaled_div_scaled 2 m n (-e)
  rw [neg_neg, Nat.cast_ofNat, zpow_neg, ← div_eq_mul_inv] at hdiv
  rw [← Nat.cast_lt (α := ℚ), ← div_lt_one hscaled, hdiv, div_lt_one hpow]

theorem two_pow_mul_two_zpow {k : ℕ} {e f : ℤ} (h : k + e = f) : (2 : ℚ) ^ k * 2 ^ e = 2 ^ f := by
  rw [← h, zpow_add₀ two_ne_zero, zpow_natCast]

theorem two_pow_succ_mul_two_zpow (k : ℕ) (e : ℤ) :
    (2 : ℚ) ^ (k + 1) * 2 ^ e = 2 ^ k * 2 ^ (e + 1) := by
  rw [pow_succ, mul_assoc, zpow_add₀ two_ne_zero, zpow_one, mul_comm (2 : ℚ) (2 ^ e)]

/-- Before it is bounded, the unit of a fraction is the one in which it has 53 binary digits. -/
theorem exists_unit (hnum : 0 < num) (hden : 0 < den) : ∃ unit,
    unitExponent num den = max (-1074) unit ∧
      2 ^ 52 * 2 ^ unit ≤ (num / den : ℚ) ∧ (num / den : ℚ) < 2 ^ 53 * 2 ^ unit := by
  obtain ⟨hlow, hhigh⟩ := div_bounds hnum hden
  have hunit : ∃ guess : ℤ, guess = (num.log2 : ℤ) - den.log2 - 52 := ⟨_, rfl⟩
  obtain ⟨guess, hguess⟩ := hunit
  have hsmall : scaled 2 num (-guess) < scaled 2 (den * 0x10000000000000) guess ↔
      (num / den : ℚ) < 2 ^ 52 * 2 ^ guess := by
    have hpow : (0 : ℚ) < 2 ^ 52 := by positivity
    have hcast : ((den * 0x10000000000000 : ℕ) : ℚ) = den * 2 ^ 52 := by norm_num
    rw [scaled_lt_scaled_iff num (Nat.mul_pos hden (by decide)), hcast, ← div_div,
      div_lt_iff₀ hpow, mul_comm]
  unfold unitExponent
  dsimp only
  rw [← hguess]
  split_ifs with h
  · refine ⟨guess - 1, rfl, ?_, ?_⟩
    · exact (two_pow_mul_two_zpow (by push_cast; omega)).trans_le hlow.le
    · rw [two_pow_succ_mul_two_zpow 52, sub_add_cancel]
      exact hsmall.1 h
  · refine ⟨guess, rfl, not_lt.1 (hsmall.not.1 h), hhigh.trans_eq ?_⟩
    exact (two_pow_mul_two_zpow (by push_cast; omega)).symm

/-- **The unit of a fraction.** In its unit a fraction has 53 binary digits; only where the unit is
    that of the smallest double, it may have fewer. -/
theorem unitExponent_bounds (hnum : 0 < num) (hden : 0 < den) :
    -1074 ≤ unitExponent num den ∧
      (num / den : ℚ) < 2 ^ 53 * 2 ^ unitExponent num den ∧
      (unitExponent num den = -1074 ∨ 2 ^ 52 * 2 ^ unitExponent num den ≤ (num / den : ℚ)) := by
  obtain ⟨unit, hunit, hfull, hfits⟩ := exists_unit hnum hden
  rcases le_total unit (-1074) with h | h
  · rw [hunit, max_eq_left h]
    have hpow : (2 : ℚ) ^ unit ≤ 2 ^ (-1074 : ℤ) := zpow_le_zpow_right₀ one_le_two h
    refine ⟨le_rfl, hfits.trans_le ?_, Or.inl rfl⟩
    gcongr
  · rw [hunit, max_eq_right h]
    exact ⟨h, hfits, Or.inr hfull⟩

/-! ## Multiples of a unit -/

/-- A double is a whole multiple of a unit, or its own unit is finer, and then it has less than 53
    digits in the other one. -/
theorem magnitude_multiple (y : Double) (e : ℤ) :
    (∃ k : ℕ, y.magnitude = k * 2 ^ e) ∨ e ≠ -1074 ∧ y.magnitude < 2 ^ 52 * 2 ^ e := by
  obtain ⟨hdigits, hlow, -, -⟩ := y.normal
  by_cases hexponent : e ≤ y.exponent
  · left
    refine ⟨y.mantissa * 2 ^ (y.exponent - e).toNat, ?_⟩
    have hsum : ((y.exponent - e).toNat : ℤ) + e = y.exponent := by omega
    rw [magnitude, Nat.cast_mul, Nat.cast_pow, Nat.cast_ofNat, mul_assoc, two_pow_mul_two_zpow hsum]
  · right
    refine ⟨by omega, ?_⟩
    have hmantissa : (y.mantissa : ℚ) < 2 ^ 53 := by
      exact_mod_cast (show y.mantissa < 2 ^ 53 by omega)
    have hpow : (2 : ℚ) ^ y.exponent ≤ 2 ^ (e - 1) := zpow_le_zpow_right₀ one_le_two (by omega)
    calc y.magnitude = y.mantissa * 2 ^ y.exponent := rfl
      _ < 2 ^ 53 * 2 ^ y.exponent := by gcongr
      _ ≤ 2 ^ 53 * 2 ^ (e - 1) := by gcongr
      _ = 2 ^ 52 * 2 ^ e := by rw [two_pow_succ_mul_two_zpow 52, sub_add_cancel]

theorem abs_sub_multiple (q : ℚ) (k : ℕ) (e : ℤ) :
    |q - k * 2 ^ e| = |q / 2 ^ e - k| * 2 ^ e := by
  have hpow : (0 : ℚ) < 2 ^ e := by positivity
  rw [← abs_of_pos hpow, ← abs_mul, abs_of_pos hpow, sub_mul, div_mul_cancel₀ _ hpow.ne']

variable {q : ℚ} {e : ℤ} {m : ℕ}

/-- **The nearest multiple of its unit is the nearest double**, up to the sign. -/
theorem nearest_multiple (hround : RoundsTo (q / 2 ^ e) m)
    (hunit : e = -1074 ∨ 2 ^ 52 * 2 ^ e ≤ q) (y : Double) :
    |q - m * 2 ^ e| ≤ |q - y.magnitude| ∧ (y.magnitude ≠ m * 2 ^ e →
      |q - y.magnitude| = |q - m * 2 ^ e| → m % 2 = 0) := by
  have hpow : (0 : ℚ) < 2 ^ e := by positivity
  rcases magnitude_multiple y e with ⟨k, hk⟩ | ⟨hne, hsmall⟩
  · rw [hk, abs_sub_multiple, abs_sub_multiple]
    refine ⟨mul_le_mul_of_nonneg_right (hround.least k) hpow.le, fun hk hdistance => ?_⟩
    refine hround.tie (fun heq => hk (heq ▸ rfl)) (mul_right_cancel₀ hpow.ne' hdistance)
  · -- the least number of 53 digits is a multiple of the unit that lies between
    have hfull := hunit.resolve_left hne
    have hcloser : |q - m * 2 ^ e| < |q - y.magnitude| := by
      calc |q - m * 2 ^ e| ≤ |q - ((2 ^ 52 : ℕ) : ℚ) * 2 ^ e| := by
            rw [abs_sub_multiple, abs_sub_multiple]
            exact mul_le_mul_of_nonneg_right (hround.least _) hpow.le
        _ = q - 2 ^ 52 * 2 ^ e := by
            push_cast
            exact abs_of_nonneg (by linarith)
        _ < q - y.magnitude := by linarith
        _ ≤ |q - y.magnitude| := le_abs_self _
    exact ⟨hcloser.le, fun _ hdistance => absurd hdistance hcloser.ne'⟩

/-- Of two doubles that differ in sign only, the one with the sign of a number is nearer to it. -/
theorem value_eq_of_distance {y : Double} (hq : 0 < q) (hsame : y.magnitude = x.magnitude)
    (hdistance : |withSign x.negative q - y.value| = |q - x.magnitude|) : y.value = x.value := by
  have hnonneg := x.magnitude_nonneg
  rw [value, value, hsame]
  by_cases hsign : y.negative = x.negative
  · rw [hsign]
  · have hsum : |withSign x.negative q - y.value| = q + x.magnitude := by
      have hpos : 0 ≤ q + x.magnitude := by linarith
      rw [value, hsame, Bool.eq_not.2 hsign]
      cases x.negative
      · have hfar : withSign false q - withSign (!false) x.magnitude = q + x.magnitude :=
          sub_neg_eq_add q _
        rw [hfar, abs_of_nonneg hpos]
      · have hfar : withSign true q - withSign (!true) x.magnitude = -(q + x.magnitude) := by
          rw [neg_add, ← sub_eq_add_neg]
          rfl
        rw [hfar, abs_neg, abs_of_nonneg hpos]
    have hzero : x.magnitude = 0 := by
      rw [hsum] at hdistance
      rcases abs_cases (q - x.magnitude) with ⟨habs, -⟩ | ⟨habs, -⟩ <;> linarith
    rw [hzero]
    cases x.negative <;> cases y.negative <;> simp [withSign]

/-- What is nearest without its sign is nearest with it. -/
theorem nearest_of_magnitude (hq : 0 < q) (hleast : ∀ y, |q - x.magnitude| ≤ |q - magnitude y|)
    (htie : ∀ y, magnitude y ≠ x.magnitude → |q - y.magnitude| = |q - x.magnitude| →
      x.mantissa % 2 = 0) : Nearest (withSign x.negative q) x := by
  have hself : |withSign x.negative q - x.value| = |q - x.magnitude| := by
    rw [value]
    cases x.negative
    · rfl
    · rw [withSign, withSign, if_pos rfl, if_pos rfl, neg_sub_neg, abs_sub_comm]
  have hother : ∀ y : Double, |q - y.magnitude| ≤ |withSign x.negative q - y.value| := fun y => by
    have habs := abs_abs_sub_abs_le (withSign x.negative q) y.value
    rwa [abs_withSign, abs_value, abs_of_pos hq] at habs
  constructor
  · intro y
    rw [hself]
    exact (hleast y).trans (hother y)
  · intro y hne hdistance
    rw [hself] at hdistance
    have hfar : y.magnitude ≠ x.magnitude := fun hsame =>
      hne (value_eq_of_distance hq hsame hdistance)
    exact htie y hfar (le_antisymm ((hother y).trans hdistance.le) (hleast y))

/-! ## Fractions -/

theorem ofParts?_eq_some_iff {mantissa : ℕ} {exponent : ℤ} :
    ofParts? negative mantissa exponent = some x ↔
      x.negative = negative ∧ x.mantissa = mantissa ∧ x.exponent = exponent := by
  unfold ofParts?
  constructor
  · intro h
    split_ifs at h
    cases h
    exact ⟨rfl, rfl, rfl⟩
  · rintro ⟨rfl, rfl, rfl⟩
    rw [dif_pos x.normal]

theorem exists_ofParts?_iff {mantissa : ℕ} {exponent : ℤ} :
    (∃ x, ofParts? negative mantissa exponent = some x) ↔ Normal mantissa exponent := by
  unfold ofParts?
  split_ifs with h <;> simp [h]

theorem ofRatio?_eq_parts (negative : Bool) (hnum : 0 < num) (hden : 0 < den) :
    ∃ (e : ℤ) (m : ℕ), -1074 ≤ e ∧ (num / den : ℚ) < 2 ^ 53 * 2 ^ e ∧
      (e = -1074 ∨ 2 ^ 52 * 2 ^ e ≤ (num / den : ℚ)) ∧ RoundsTo (num / den / 2 ^ e) m ∧
      ofRatio? negative num den =
        if m = 2 ^ 53 then ofParts? negative (2 ^ 52) (e + 1) else ofParts? negative m e := by
  obtain ⟨hlow, hfits, hunit⟩ := unitExponent_bounds hnum hden
  refine ⟨unitExponent num den, roundDiv (scaled 2 num (-unitExponent num den))
    (scaled 2 den (unitExponent num den)), hlow, hfits, hunit, ?_, ?_⟩
  · have hround := roundsTo_roundDiv (scaled 2 num (-unitExponent num den))
      (scaled_pos two_pos hden (unitExponent num den))
    have hdiv := scaled_div_scaled 2 num den (-unitExponent num den)
    rw [neg_neg, Nat.cast_ofNat, zpow_neg, ← div_eq_mul_inv] at hdiv
    rwa [hdiv] at hround
  · have hfull : (2 : ℕ) ^ 52 = 0x10000000000000 := by norm_num
    have hover : (2 : ℕ) ^ 53 = 0x20000000000000 := by norm_num
    rw [ofRatio?, if_neg hnum.ne', hfull, hover]

/-- What a rounded fraction is, with or without the step to the next power of two. -/
theorem of_rounded_parts {e : ℤ} {m : ℕ} (h : (if m = 2 ^ 53 then ofParts? negative (2 ^ 52) (e + 1)
      else ofParts? negative m e) = some x) :
    x.negative = negative ∧ x.magnitude = m * 2 ^ e ∧ (m % 2 = 0 → x.mantissa % 2 = 0) := by
  split_ifs at h with hover
  · obtain ⟨hnegative, hmantissa, hexponent⟩ := ofParts?_eq_some_iff.1 h
    refine ⟨hnegative, ?_, fun _ => by rw [hmantissa]; norm_num⟩
    rw [magnitude, hmantissa, hexponent, hover, Nat.cast_pow, Nat.cast_pow, Nat.cast_ofNat,
      two_pow_succ_mul_two_zpow 52]
  · obtain ⟨hnegative, hmantissa, hexponent⟩ := ofParts?_eq_some_iff.1 h
    exact ⟨hnegative, by rw [magnitude, hmantissa, hexponent], fun heven => by rwa [hmantissa]⟩

/-- **A fraction gives the nearest double**, with the given sign. -/
theorem nearest_of_ofRatio? (hden : 0 < den) (h : ofRatio? negative num den = some x) :
    x.negative = negative ∧ Nearest (withSign negative (num / den)) x := by
  rcases Nat.eq_zero_or_pos num with rfl | hnum
  · rw [ofRatio?, if_pos rfl] at h
    cases h
    refine ⟨rfl, nearest_zero ?_ negative⟩
    rw [abs_withSign, Nat.cast_zero, zero_div, abs_zero]
    positivity
  · obtain ⟨e, m, -, -, hunit, hround, hparts⟩ := ofRatio?_eq_parts negative hnum hden
    rw [hparts] at h
    obtain ⟨rfl, hmagnitude, heven⟩ := of_rounded_parts h
    have hpos : (0 : ℚ) < num / den := div_pos (Nat.cast_pos.2 hnum) (Nat.cast_pos.2 hden)
    refine ⟨rfl, nearest_of_magnitude hpos (fun y => ?_) fun y hne hdistance => heven ?_⟩
    · rw [hmagnitude]
      exact (nearest_multiple hround hunit y).1
    · rw [hmagnitude] at hne hdistance
      exact (nearest_multiple hround hunit y).2 hne hdistance

/-- The greatest numbers that are rounded to a double, in the unit of the greatest doubles. -/
theorem overflow_eq : (2 : ℚ) ^ 1024 - 2 ^ 970 = (2 ^ 53 - 1 / 2) * 2 ^ (971 : ℤ) := by
  have hhalf : (2 : ℚ) ^ (971 : ℤ) = 2 * 2 ^ 970 := by
    rw [← pow_succ']
    exact zpow_natCast 2 971
  have hfull : (2 : ℚ) ^ 1024 = 2 ^ 53 * 2 ^ (971 : ℤ) :=
    (zpow_natCast 2 1024).symm.trans (two_pow_mul_two_zpow (by norm_num)).symm
  have hring : ∀ u : ℚ, 2 ^ 53 * (2 * u) - u = (2 ^ 53 - 1 / 2) * (2 * u) := fun u => by ring
  rw [hfull, hhalf, hring]

theorem lt_overflow (h : q ≤ 2 ^ 970) : q < 2 ^ 1024 - 2 ^ 970 := by
  have hfull : (2 : ℚ) ^ 1024 = 2 ^ 54 * 2 ^ 970 := pow_add 2 54 970
  have hcompare : ∀ u : ℚ, 0 < u → q ≤ u → q < 2 ^ 54 * u - u := fun u hu hq => by linarith
  rw [hfull]
  exact hcompare _ (by positivity) h

/-- A rounded fraction has a normal form iff its unit is not greater than the greatest one, or not
    as great where rounding takes it to the next power of two. -/
theorem normal_parts_iff {e : ℤ} {m : ℕ} (hlow : -1074 ≤ e) (hunder : m ≤ 2 ^ 53)
    (hfull : e = -1074 ∨ 2 ^ 52 ≤ m) :
    (if m = 2 ^ 53 then Normal (2 ^ 52) (e + 1) else Normal m e) ↔
      e < 971 ∨ e = 971 ∧ m < 2 ^ 53 := by
  unfold Normal
  split_ifs <;> omega

/-- What fits a unit less than the greatest one is not rounded beyond the doubles. -/
theorem lt_overflow_of_unit {e : ℤ} (he : e < 971) (hfits : q < 2 ^ 53 * 2 ^ e) :
    q < 2 ^ 1024 - 2 ^ 970 := by
  have hstep : (2 : ℚ) ^ e ≤ 2 ^ (970 : ℤ) := zpow_le_zpow_right₀ one_le_two (by omega)
  have hdouble : (2 : ℚ) ^ (971 : ℤ) = 2 ^ (970 : ℤ) * 2 := zpow_add_one₀ two_ne_zero 970
  have hcompare : ∀ u v : ℚ, 0 < v → u ≤ v → 2 ^ 53 * u ≤ (2 ^ 53 - 1 / 2) * (v * 2) :=
    fun u v hv huv => by linarith
  rw [overflow_eq, hdouble]
  exact hfits.trans_le (hcompare _ _ (by positivity) hstep)

theorem overflow_le_of_unit {e : ℤ} (he : 971 < e) (hfull : 2 ^ 52 * 2 ^ e ≤ q) :
    2 ^ 1024 - 2 ^ 970 ≤ q := by
  have hstep : (2 : ℚ) ^ (972 : ℤ) ≤ 2 ^ e := zpow_le_zpow_right₀ one_le_two (by omega)
  have hdouble : (2 : ℚ) ^ (972 : ℤ) = 2 ^ (971 : ℤ) * 2 := zpow_add_one₀ two_ne_zero 971
  have hcompare : ∀ u v : ℚ, 0 < v → v * 2 ≤ u → (2 ^ 53 - 1 / 2) * v ≤ 2 ^ 52 * u :=
    fun u v hv huv => by linarith
  rw [overflow_eq]
  exact (hcompare _ _ (by positivity) (hdouble ▸ hstep)).trans hfull

/-- **A fraction gives a double iff it is not rounded beyond all of them.** -/
theorem exists_ofRatio?_iff (negative : Bool) (num : ℕ) (hden : 0 < den) :
    (∃ x, ofRatio? negative num den = some x) ↔ (num / den : ℚ) < 2 ^ 1024 - 2 ^ 970 := by
  rcases Nat.eq_zero_or_pos num with rfl | hnum
  · rw [ofRatio?, if_pos rfl, Nat.cast_zero, zero_div]
    exact iff_of_true ⟨_, rfl⟩ (lt_overflow (by positivity))
  · obtain ⟨e, m, hlow, hfits, hunit, hround, hparts⟩ := ofRatio?_eq_parts negative hnum hden
    have hpow : (0 : ℚ) < 2 ^ e := by positivity
    have hunder : m ≤ 2 ^ 53 := hround.le_of_lt (by rw [div_lt_iff₀ hpow]; exact_mod_cast hfits)
    have hfull : e = -1074 ∨ 2 ^ 52 ≤ m := hunit.imp_right fun hunit =>
      hround.le_of_le (by rw [le_div_iff₀ hpow]; exact_mod_cast hunit)
    rw [hparts, apply_ite (fun o => ∃ x, o = some x), exists_ofParts?_iff, exists_ofParts?_iff,
      normal_parts_iff hlow hunder hfull]
    rcases lt_trichotomy e 971 with he | rfl | he
    · exact iff_of_true (Or.inl he) (lt_overflow_of_unit he hfits)
    · -- in the greatest unit it is the rounding that decides
      have hlt := hround.lt_iff (show 2 ^ 53 % 2 = 0 by norm_num)
      rw [div_lt_iff₀ hpow, Nat.cast_pow, Nat.cast_ofNat, ← overflow_eq] at hlt
      simpa only [lt_irrefl, false_or, true_and] using hlt
    · exact iff_of_false (by omega)
        (not_lt.2 (overflow_le_of_unit he (hunit.resolve_left (by omega))))

/-! ## Whole numbers as doubles -/

theorem withSign_natAbs (n : ℤ) : withSign (decide (n < 0)) (n.natAbs / (1 : ℕ)) = n := by
  rw [withSign, Nat.cast_one, div_one, Nat.cast_natAbs]
  by_cases hn : n < 0
  · simp [hn, abs_of_neg hn]
  · simp [hn, abs_of_nonneg (not_lt.1 hn)]

theorem nearest_of_ofInt? {n : ℤ} (h : ofInt? n = some x) : Nearest n x := by
  have hnearest := (nearest_of_ofRatio? Nat.one_pos h).2
  rwa [withSign_natAbs] at hnearest

theorem exists_ofInt? {n : ℤ} (hlow : -2 ^ 64 ≤ n) (hhigh : n ≤ 2 ^ 64) :
    ∃ x, ofInt? n = some x := by
  have habs : (n.natAbs : ℚ) ≤ 2 ^ 64 := by exact_mod_cast (show n.natAbs ≤ 2 ^ 64 by omega)
  refine (exists_ofRatio?_iff _ _ Nat.one_pos).2 (lt_overflow ?_)
  rw [Nat.cast_one, div_one]
  exact habs.trans (pow_le_pow_right₀ one_le_two (by decide))

end Double

end Conform
