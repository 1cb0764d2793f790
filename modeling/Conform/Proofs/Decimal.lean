/-
  Which texts denote decimal numbers (`DecimalText`), and to which doubles they are
  rounded.
-/
import Conform.Numeric.Decimal
import Conform.Proofs.Numeral
import Conform.Proofs.Rounding

namespace Conform

namespace Decimal

open Numeral

variable {cs whole fraction point digits rest exponent : List Char} {negative : Bool} {power : ℤ}
  {q : ℚ} {d : Decimal} {x : Double}

/-! ## Texts -/

/-- The texts between the digits before a point and an exponent, with the digits in them. -/
inductive FractionText : List Char → List Char → Prop
  | none : FractionText [] []
  | point {digits : List Char} (digit : ∀ c ∈ digits, c.isDigit = true) :
    FractionText ('.' :: digits) digits

/-- The texts of exponents: nothing, or a mark and a whole number. -/
inductive ExponentText : List Char → ℤ → Prop
  | none : ExponentText [] 0
  | mark {c : Char} {cs : List Char} {power : ℤ} (isMark : c = 'e' ∨ c = 'E')
    (integerText : IntegerText cs power) : ExponentText (c :: cs) power

/-- The texts of decimal numbers, with their signs and the numbers they denote without a sign: a
    sign or none, digits with at most one point and at least one digit, and an exponent or none. -/
inductive DecimalText : List Char → Bool → ℚ → Prop
  | intro {sign whole point fraction exponent : List Char} {negative : Bool} {power : ℤ}
    (signText : SignText sign negative) (digit : ∀ c ∈ whole, c.isDigit = true)
    (fractionText : FractionText point fraction) (nonempty : whole ++ fraction ≠ [])
    (exponentText : ExponentText exponent power) :
    DecimalText (sign ++ (whole ++ (point ++ exponent))) negative
      ((placeValue whole + placeValue fraction / 10 ^ fraction.length) * 10 ^ power)

/-- The number that a decimal denotes, without its sign. -/
def magnitude (d : Decimal) : ℚ := d.coefficient * 10 ^ d.exponent

theorem magnitude_nonneg (d : Decimal) : 0 ≤ d.magnitude := by
  unfold magnitude
  positivity

theorem magnitude_ofDigits (negative : Bool) (whole fraction : List Char) (power : ℤ) :
    (ofDigits negative whole fraction power).magnitude =
      (placeValue whole + placeValue fraction / 10 ^ fraction.length) * 10 ^ power := by
  have hpow : (10 : ℚ) ^ fraction.length ≠ 0 := by positivity
  rw [magnitude, ofDigits, toNat_eq_placeValue, placeValue_append, zpow_sub₀ (by norm_num),
    zpow_natCast]
  push_cast
  field_simp

/-! ### What is read -/

theorem ExponentText.head? (h : ExponentText exponent power) :
    ∀ c ∈ exponent.head?, c.isDigit = false ∧ c ≠ '.' := by
  cases h with
  | none => simp
  | mark hmark _ =>
    rcases hmark with rfl | rfl <;> simp

theorem splitFraction_append (h : FractionText point fraction)
    (hexponent : ExponentText exponent power) :
    splitFraction (point ++ exponent) = (fraction, exponent) := by
  cases h with
  | none =>
    rw [List.nil_append]
    unfold splitFraction
    split
    · exact absurd rfl (hexponent.head? '.' rfl).2
    · rfl
  | point hdigit =>
    obtain ⟨htake, hdrop⟩ := span_isDigit hdigit fun c hc => (hexponent.head? c hc).1
    rw [List.cons_append, splitFraction, htake, hdrop]

theorem exists_fraction (cs : List Char) :
    ∃ point, FractionText point (splitFraction cs).1 ∧ cs = point ++ (splitFraction cs).2 := by
  unfold splitFraction
  split
  · next cs =>
    refine ⟨'.' :: cs.takeWhile Char.isDigit, .point (List.all_eq_true.1 List.all_takeWhile), ?_⟩
    rw [List.cons_append, List.takeWhile_append_dropWhile]
  · exact ⟨[], .none, rfl⟩

theorem exponent?_eq_some_iff : exponent? cs = some power ↔ ExponentText cs power := by
  constructor
  · intro h
    unfold exponent? at h
    split at h
    · cases h
      exact .none
    · split_ifs at h with hmark
      exact .mark hmark (toInt?_eq_some_iff.1 h)
  · rintro (_ | ⟨hmark, htext⟩)
    · rfl
    · rw [exponent?, if_pos hmark, toInt?_eq_some_iff.2 htext]

/-- Where the digits before a point end. -/
theorem FractionText.head? (h : FractionText point fraction)
    (hexponent : ExponentText exponent power) :
    ∀ c ∈ (point ++ exponent).head?, c.isDigit = false := by
  cases h with
  | none => exact fun c hc => (hexponent.head? c hc).1
  | point _ =>
    rintro _ ⟨⟩
    rfl

/-- Without its sign, no decimal opens with a sign. -/
theorem not_sign_of_decimal (hwhole : ∀ c ∈ whole, c.isDigit = true)
    (hfraction : FractionText point fraction) (hne : whole ++ fraction ≠ []) :
    ∀ c ∈ (whole ++ (point ++ exponent)).head?, c ≠ '+' ∧ c ≠ '-' := by
  cases whole with
  | cons c whole =>
    rintro _ ⟨⟩
    exact not_sign_of_isDigit (hwhole c List.mem_cons_self)
  | nil =>
    cases hfraction with
    | none => exact absurd rfl hne
    | point _ =>
      rintro _ ⟨⟩
      decide

/-- **The texts of decimal numbers** are those that are read, and they are read exactly. -/
theorem decimalText_iff : DecimalText cs negative q ↔
    ∃ d, ofChars? cs = some d ∧ d.negative = negative ∧ d.magnitude = q := by
  constructor
  · rintro ⟨hsign, hwhole, hfraction, hne, hexponent⟩
    rename_i sign whole point fraction exponent power
    refine ⟨ofDigits negative whole fraction power, ?_, rfl, magnitude_ofDigits _ _ _ _⟩
    obtain ⟨htake, hdrop⟩ := span_isDigit hwhole (hfraction.head? hexponent)
    have hdigits : ¬ (whole.isEmpty && fraction.isEmpty) = true := by simpa using hne
    simp only [ofChars?, splitSign_append hsign (not_sign_of_decimal hwhole hfraction hne), htake,
      hdrop, splitFraction_append hfraction hexponent, if_neg hdigits,
      exponent?_eq_some_iff.2 hexponent, Option.map_some]
  · rintro ⟨d, h, rfl, rfl⟩
    obtain ⟨sign, hsign, hcs⟩ := exists_sign cs
    unfold ofChars? at h
    generalize splitSign cs = split at h hsign hcs
    obtain ⟨negative, unsigned⟩ := split
    dsimp only at h hsign hcs
    have hunsigned : unsigned.takeWhile Char.isDigit ++ unsigned.dropWhile Char.isDigit =
      unsigned := List.takeWhile_append_dropWhile
    obtain ⟨point, hfraction, hpoint⟩ := exists_fraction (unsigned.dropWhile Char.isDigit)
    generalize splitFraction (unsigned.dropWhile Char.isDigit) = split at h hfraction hpoint
    obtain ⟨fraction, tail⟩ := split
    dsimp only at h hfraction hpoint
    split_ifs at h with hempty
    obtain ⟨power, hpower, rfl⟩ := Option.map_eq_some_iff.1 h
    have htext : cs = sign ++ (unsigned.takeWhile Char.isDigit ++ (point ++ tail)) := by
      rw [← hpoint, hunsigned, hcs]
    rw [magnitude_ofDigits, htext]
    exact .intro hsign (List.all_eq_true.1 List.all_takeWhile) hfraction (by simpa using hempty)
      (exponent?_eq_some_iff.1 hpower)

theorem FractionText.solid (h : FractionText point fraction) : Text.Solid point := by
  cases h with
  | none => exact List.forall_mem_nil _
  | point hdigit =>
    exact List.forall_mem_cons.2 ⟨rfl, fun c hc => Text.isBlank_of_isDigit (hdigit c hc)⟩

theorem ExponentText.solid (h : ExponentText exponent power) : Text.Solid exponent := by
  cases h with
  | none => exact List.forall_mem_nil _
  | mark hmark htext =>
    refine List.forall_mem_cons.2 ⟨?_, htext.solid⟩
    rcases hmark with rfl | rfl <;> rfl

theorem DecimalText.solid (h : DecimalText cs negative q) : Text.Solid cs := by
  obtain ⟨hsign, hwhole, hfraction, -, hexponent⟩ := h
  simp only [Text.Solid, List.forall_mem_append]
  exact ⟨hsign.solid, fun c hc => Text.isBlank_of_isDigit (hwhole c hc), hfraction.solid,
    hexponent.solid⟩

/-! ## Rounding -/

theorem magnitude_eq_div (d : Decimal) :
    d.magnitude = (scaled 10 d.coefficient d.exponent : ℚ) / scaled 10 1 (-d.exponent) := by
  rw [scaled_div_scaled, Nat.cast_one, div_one, magnitude]
  rfl

theorem two_zpow_mul (bits : ℕ) (e : ℤ) : (2 : ℚ) ^ (bits + 3 * e) = 2 ^ (bits : ℤ) * 8 ^ e := by
  have height : (2 : ℚ) ^ (3 : ℤ) = 8 := by norm_num
  rw [zpow_add₀ two_ne_zero, zpow_mul, height]

/-- As `10 ^ k` is at least `2 ^ (3 * k)`, a decimal has at least three binary digits more than its
    coefficient for each power of ten. -/
theorem two_zpow_le_magnitude (hcoefficient : 0 < d.coefficient) (hexponent : 0 ≤ d.exponent) :
    2 ^ (d.coefficient.log2 + 3 * d.exponent) ≤ d.magnitude := by
  have hten : (8 : ℚ) ^ d.exponent ≤ 10 ^ d.exponent :=
    zpow_le_zpow_left₀ hexponent (by norm_num) (by norm_num)
  rw [two_zpow_mul, magnitude]
  exact mul_le_mul (two_zpow_log2_le hcoefficient) hten (by positivity) (by positivity)

/-- With a negative exponent, it has at least three binary digits less for each power of ten. -/
theorem magnitude_lt_two_zpow (hexponent : d.exponent ≤ 0) :
    d.magnitude < 2 ^ ((d.coefficient.log2 + 1 : ℕ) + 3 * d.exponent) := by
  have hten : (10 : ℚ) ^ d.exponent ≤ 8 ^ d.exponent := by
    have hinv := zpow_le_zpow_left₀ (neg_nonneg.2 hexponent) (show (0 : ℚ) ≤ 8 by norm_num)
      (show (8 : ℚ) ≤ 10 by norm_num)
    rw [zpow_neg, zpow_neg] at hinv
    exact (inv_le_inv₀ (by positivity) (by positivity)).1 hinv
  have hbits : (d.coefficient : ℚ) < 2 ^ ((d.coefficient.log2 + 1 : ℕ) : ℤ) :=
    lt_two_zpow_log2 d.coefficient
  rw [two_zpow_mul, magnitude]
  exact mul_lt_mul hbits hten (by positivity) (by positivity)

/-- **How a decimal is rounded.** It is rounded as a fraction, unless it is so small or so great
    that its digits do not matter. -/
theorem toDouble?_cases (d : Decimal) :
    (∃ num den : ℕ, 0 < den ∧ d.magnitude = num / den ∧
      d.toDouble? = Double.ofRatio? d.negative num den) ∨
    d.magnitude ≤ 2 ^ (-1075 : ℤ) ∧ d.toDouble? = some (.zero d.negative) ∨
    2 ^ 1024 ≤ d.magnitude ∧ d.toDouble? = none := by
  have hdiv := d.magnitude_eq_div
  unfold toDouble?
  dsimp only
  by_cases hzero : d.coefficient = 0
  · right; left
    rw [if_pos hzero, magnitude, hzero, Nat.cast_zero, zero_mul]
    exact ⟨by positivity, rfl⟩
  rw [if_neg hzero]
  by_cases hexponent : 0 ≤ d.exponent
  · rw [if_pos hexponent]
    split_ifs with hgreat
    · right; right
      refine ⟨?_, rfl⟩
      calc (2 : ℚ) ^ 1024 = 2 ^ (1024 : ℤ) := (zpow_natCast 2 1024).symm
        _ ≤ 2 ^ (d.coefficient.log2 + 3 * d.exponent) := zpow_le_zpow_right₀ one_le_two hgreat
        _ ≤ d.magnitude := two_zpow_le_magnitude (Nat.pos_of_ne_zero hzero) hexponent
    · rw [scaled_of_nonpos 10 1 (neg_nonpos.2 hexponent)] at hdiv
      exact Or.inl ⟨_, 1, Nat.one_pos, hdiv, rfl⟩
  · rw [if_neg hexponent]
    have hnonpos : d.exponent ≤ 0 := (not_le.1 hexponent).le
    split_ifs with hsmall
    · right; left
      refine ⟨?_, rfl⟩
      calc d.magnitude ≤ 2 ^ ((d.coefficient.log2 + 1 : ℕ) + 3 * d.exponent) :=
            (magnitude_lt_two_zpow hnonpos).le
        _ ≤ 2 ^ (-1075 : ℤ) := zpow_le_zpow_right₀ one_le_two (by omega)
    · rw [scaled_of_nonpos 10 d.coefficient hnonpos] at hdiv
      exact Or.inl ⟨_, _, scaled_pos (by decide) Nat.one_pos _, hdiv, rfl⟩

/-- **A decimal gives the nearest double**, with its sign. -/
theorem nearest_of_toDouble? (h : d.toDouble? = some x) :
    x.negative = d.negative ∧ Double.Nearest (withSign d.negative d.magnitude) x := by
  rcases toDouble?_cases d with ⟨num, den, hden, hmagnitude, hratio⟩ | ⟨hsmall, hzero⟩ | ⟨-, hnone⟩
  · rw [hratio] at h
    rw [hmagnitude]
    exact Double.nearest_of_ofRatio? hden h
  · rw [hzero] at h
    cases h
    refine ⟨rfl, Double.nearest_zero ?_ _⟩
    rwa [abs_withSign, abs_of_nonneg d.magnitude_nonneg]
  · rw [hnone] at h
    cases h

theorem lt_overflow_of_small (h : q ≤ 2 ^ (-1075 : ℤ)) : q < 2 ^ 1024 - 2 ^ 970 := by
  refine Double.lt_overflow (h.trans ?_)
  calc (2 : ℚ) ^ (-1075 : ℤ) ≤ 2 ^ (970 : ℤ) := zpow_le_zpow_right₀ one_le_two (by norm_num)
    _ = 2 ^ 970 := zpow_natCast 2 970

/-- **A decimal gives a double iff it is not rounded beyond all of them.** -/
theorem exists_toDouble?_iff (d : Decimal) :
    (∃ x, d.toDouble? = some x) ↔ d.magnitude < 2 ^ 1024 - 2 ^ 970 := by
  rcases toDouble?_cases d with ⟨num, den, hden, hmagnitude, hratio⟩ | ⟨hsmall, hzero⟩ |
    ⟨hgreat, hnone⟩
  · rw [hratio, hmagnitude]
    exact Double.exists_ofRatio?_iff _ _ hden
  · exact iff_of_true ⟨_, hzero⟩ (lt_overflow_of_small hsmall)
  · refine iff_of_false (by simp [hnone]) (not_lt.2 (le_trans ?_ hgreat))
    exact sub_le_self _ (by positivity)

/-- A decimal that is too small for all other doubles gives the zero of its sign. -/
theorem toDouble?_of_small (h : d.magnitude ≤ 2 ^ (-1075 : ℤ)) :
    d.toDouble? = some (.zero d.negative) := by
  obtain ⟨x, hx⟩ := (exists_toDouble?_iff d).2 (lt_overflow_of_small h)
  obtain ⟨hnegative, hnearest⟩ := nearest_of_toDouble? hx
  have hzero := hnearest.eq_zero (by rwa [abs_withSign, abs_of_nonneg d.magnitude_nonneg])
  rw [hx, hzero, hnegative]

theorem toDouble?_whole (negative : Bool) (n : ℕ) :
    toDouble? ⟨negative, n, 0⟩ = Double.ofRatio? negative n 1 := by
  by_cases hzero : n = 0
  · subst hzero
    rfl
  have hround : toDouble? ⟨negative, n, 0⟩ =
      if 1024 ≤ (n.log2 : ℤ) + 3 * 0 then none else Double.ofRatio? negative n 1 := by
    rw [toDouble?, if_neg hzero, if_pos le_rfl, scaled_of_nonpos 10 n le_rfl]
  split_ifs at hround with hgreat
  · -- a number of so many binary digits is no double as a fraction either
    have hmagnitude : magnitude ⟨negative, n, 0⟩ = n / (1 : ℕ) := by simp [magnitude]
    have hexists := (exists_toDouble?_iff ⟨negative, n, 0⟩).trans
      (hmagnitude ▸ (Double.exists_ofRatio?_iff negative n Nat.one_pos).symm)
    rw [hround, Eq.comm, Option.eq_none_iff_forall_ne_some]
    intro x hx
    obtain ⟨y, hy⟩ := hexists.2 ⟨x, hx⟩
    rw [hround] at hy
    cases hy
  · exact hround

end Decimal

end Conform
