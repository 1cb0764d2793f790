/-
  The leaves that convert numbers do not round: they give the whole number or the
  truth value that the number is, or refuse it.
-/
import Conform.Proofs.Check
import Conform.Proofs.Leaf
import Conform.Proofs.Rounding

namespace Conform

/-! ## Whole numbers as doubles -/

namespace Double

variable {x y below above : Double} {n k : ℤ}

/-- A power of two with a sign. -/
def powerOfTwo (negative : Bool) (e : ℤ) (hlow : -1022 ≤ e) (hhigh : e ≤ 1023) : Double where
  negative := negative
  mantissa := 0x10000000000000
  exponent := e - 52
  normal := by
    unfold Normal
    omega

theorem value_powerOfTwo (negative : Bool) {e : ℤ} (hlow : -1022 ≤ e) (hhigh : e ≤ 1023) :
    (powerOfTwo negative e hlow hhigh).value = withSign negative (2 ^ e) := by
  have hmantissa : ((0x10000000000000 : ℕ) : ℚ) = 2 ^ 52 := by norm_num
  have hexponent : ((52 : ℕ) : ℤ) + (e - 52) = e := by omega
  rw [value, magnitude, powerOfTwo, hmantissa, two_pow_mul_two_zpow hexponent]

theorem value_one : one.value = 1 := by
  rw [show one = powerOfTwo false 0 (by decide) (by decide) from rfl, value_powerOfTwo]
  rfl

theorem exists_value_eq (k : ℤ) (hlow : -1 ≤ k) (hhigh : k ≤ 2) : ∃ y : Double, y.value = k := by
  obtain rfl | rfl | rfl | rfl : k = -1 ∨ k = 0 ∨ k = 1 ∨ k = 2 := by omega
  · exact ⟨powerOfTwo true 0 (by decide) (by decide), by simp [value_powerOfTwo, withSign]⟩
  · exact ⟨zero false, by simp [value_zero]⟩
  · exact ⟨powerOfTwo false 0 (by decide) (by decide), by simp [value_powerOfTwo, withSign]⟩
  · exact ⟨powerOfTwo false 1 (by decide) (by decide), by simp [value_powerOfTwo, withSign]⟩

/-- No number from `2 ^ 63` on is rounded below it. -/
theorem Nearest.two_pow_63_le (h : Nearest n x) (hn : 2 ^ 63 ≤ n) (hx : x.value = k) :
    2 ^ 63 ≤ k := by
  have hbound : (powerOfTwo false 63 (by decide) (by decide)).value = (2 ^ 63 : ℤ) := by
    rw [value_powerOfTwo]
    norm_num [withSign]
  have hvalue := h.le_value (hbound.le.trans (by exact_mod_cast hn))
  rw [hbound, hx] at hvalue
  exact_mod_cast hvalue

/-- No other number is rounded to a whole one if its neighbours are doubles. -/
theorem Nearest.value_eq_iff (h : Nearest n x) (hbelow : below.value = (k - 1 : ℤ))
    (hat : y.value = k) (habove : above.value = (k + 1 : ℤ)) : x.value = k ↔ n = k := by
  constructor
  · intro hx
    rcases lt_trichotomy n k with hn | hn | hn
    · have hlow : (n : ℚ) ≤ below.value := by
        rw [hbelow]
        exact_mod_cast (show n ≤ k - 1 by omega)
      have hvalue := h.value_le hlow
      rw [hx, hbelow] at hvalue
      have : k ≤ k - 1 := by exact_mod_cast hvalue
      omega
    · exact hn
    · have hhigh : above.value ≤ (n : ℚ) := by
        rw [habove]
        exact_mod_cast (show k + 1 ≤ n by omega)
      have hvalue := h.le_value hhigh
      rw [hx, habove] at hvalue
      have : k + 1 ≤ k := by exact_mod_cast hvalue
      omega
  · rintro rfl
    rw [h.value_eq hat.symm, hat]

end Double

namespace Number

/-- The rational number that a whole number or a double stands for. -/
def value : Number → ℚ
  | .int n => n
  | .float x => x.value

/-- Whole numbers have 64 bits, signed or unsigned, as in JSON text; all doubles count. -/
def InRange : Number → Prop
  | .int n => -2 ^ 63 ≤ n ∧ n < 2 ^ 64
  | .float _ => True

end Number

theorem Json.inInt64_iff {n : ℤ} : inInt64 n = true ↔ -2 ^ 63 ≤ n ∧ n < 2 ^ 63 := by
  simp [inInt64]

namespace Leaf

variable {number : Number} {n : ℤ} {b : Bool}

theorem value_int64Least : int64Least.value = (-2 ^ 63 : ℤ) := by
  rw [show int64Least = Double.powerOfTwo true 63 (by decide) (by decide) from rfl,
    Double.value_powerOfTwo]
  norm_num [withSign]

theorem value_int64Greatest : int64Greatest.value = (2 ^ 63 : ℤ) := by
  rw [show int64Greatest = Double.powerOfTwo false 63 (by decide) (by decide) from rfl,
    Double.value_powerOfTwo]
  norm_num [withSign]

theorem toInt64_eq {x : Double} (hlow : -2 ^ 63 ≤ x.trunc) (hhigh : x.trunc < 2 ^ 63) :
    toInt64 x = x.trunc := by
  unfold toInt64
  omega

/-- **A double becomes the whole number that it is**, in the signed 64-bit range. -/
theorem integral?_eq_some_iff {x : Double} :
    integral? x = some n ↔ x.value = n ∧ -2 ^ 63 ≤ n ∧ n < 2 ^ 63 := by
  rw [integral?, Option.ite_none_right_eq_some, Option.some.injEq]
  simp only [Bool.and_eq_true, Bool.not_eq_true', Double.le_iff, Double.lt_iff, value_int64Least,
    value_int64Greatest]
  constructor
  · rintro ⟨⟨⟨hwhole, hlow⟩, hhigh⟩, rfl⟩
    have hvalue : x.value = x.trunc := Double.value_eq_intCast_iff.2 ⟨hwhole, rfl⟩
    rw [hvalue, Int.cast_le] at hlow
    rw [hvalue, Int.cast_lt] at hhigh
    rw [toInt64_eq hlow hhigh]
    exact ⟨hvalue, hlow, hhigh⟩
  · rintro ⟨hvalue, hlow, hhigh⟩
    obtain ⟨hwhole, rfl⟩ := Double.value_eq_intCast_iff.1 hvalue
    rw [hvalue, Int.cast_le, Int.cast_lt]
    exact ⟨⟨⟨hwhole, hlow⟩, hhigh⟩, toInt64_eq hlow hhigh⟩

/-- **The whole number of a number** is the number itself, in the signed 64-bit range. -/
theorem int64OfNumber?_eq_some_iff (h : number.InRange) :
    int64OfNumber? number = some n ↔ number.value = n ∧ -2 ^ 63 ≤ n ∧ n < 2 ^ 63 := by
  cases number with
  | float x => exact integral?_eq_some_iff
  | int m =>
    by_cases hm : Json.inInt64 m = true
    · rw [int64OfNumber?_int hm, Number.value, Option.some.injEq, Int.cast_inj, ← Json.inInt64_iff]
      exact ⟨fun hn => ⟨hn, hn ▸ hm⟩, And.left⟩
    · rw [Json.inInt64_iff] at hm
      refine iff_of_false (fun hsome => ?_) fun ⟨hvalue, hn⟩ => hm (Int.cast_inj.1 hvalue ▸ hn)
      -- the double nearest to a number above the range is above it too
      rw [int64OfNumber?, Json.asInt64?, if_neg (mt Json.inInt64_iff.1 hm), Option.none_or] at hsome
      obtain ⟨x, hx, hint⟩ := Option.bind_eq_some_iff.1 hsome
      obtain ⟨hvalue, -, hn⟩ := integral?_eq_some_iff.1 hint
      have habove := (Double.nearest_of_ofInt? hx).two_pow_63_le
        (by obtain ⟨hlow, -⟩ := h; omega) hvalue
      omega

/-- What a number is rounded to is zero or one only if the number is. -/
theorem value_toDouble?_iff (hn : n = 0 ∨ n = 1) :
    (∃ x, number.toDouble? = some x ∧ x.value = n) ↔ number.value = n := by
  cases number with
  | float x => simp [Number.toDouble?, Number.value]
  | int m =>
    have hvalue : (Number.int m).value = n ↔ m = n := Int.cast_inj
    rw [hvalue, Number.toDouble?]
    constructor
    · rintro ⟨x, hx, hn'⟩
      obtain ⟨below, hbelow⟩ := Double.exists_value_eq (n - 1) (by omega) (by omega)
      obtain ⟨y, hat⟩ := Double.exists_value_eq n (by omega) (by omega)
      obtain ⟨above, habove⟩ := Double.exists_value_eq (n + 1) (by omega) (by omega)
      exact ((Double.nearest_of_ofInt? hx).value_eq_iff hbelow hat habove).1 hn'
    · rintro rfl
      obtain ⟨x, hx⟩ : ∃ x, Double.ofInt? m = some x := Double.exists_ofInt? (by omega) (by omega)
      obtain ⟨y, hat⟩ := Double.exists_value_eq m (by omega) (by omega)
      exact ⟨x, hx, ((Double.nearest_of_ofInt? hx).value_eq hat.symm).trans hat⟩

theorem boolOfDouble?_eq_some_iff {x : Double} :
    boolOfDouble? x = some b ↔ x.value = ((if b then 1 else 0 : ℤ) : ℚ) := by
  unfold boolOfDouble?
  simp only [Double.same_iff, Double.value_zero, Double.value_one]
  cases b <;> split_ifs <;> simp_all

/-- **The truth value of a number**: one is true and zero is false. -/
theorem boolOfNumber?_eq_some_iff :
    boolOfNumber? number = some b ↔ number.value = if b then 1 else 0 := by
  rw [boolOfNumber?, Option.bind_eq_some_iff]
  simp only [boolOfDouble?_eq_some_iff]
  rw [value_toDouble?_iff (by cases b <;> simp)]
  cases b <;> simp

end Leaf

namespace Schema

variable {order : KeyOrder} {number : Number} {output : Json}

theorem leaf_ok_iff {l : Leaf} {value : Json} :
    ((leaf l).check order (some value)).result = .ok output ↔ l.accept value = some output := by
  rw [check, Leaf.check_ok_iff]
  simp

theorem asInteger_number_iff (h : number.InRange) :
    ((leaf .asInteger).check order (some (.num number))).result = .ok output ↔
      ∃ n : ℤ, number.value = n ∧ -2 ^ 63 ≤ n ∧ n < 2 ^ 63 ∧ output = .int n := by
  simp only [leaf_ok_iff, Leaf.accept, Option.map_eq_some_iff, Leaf.int64OfNumber?_eq_some_iff h,
    and_assoc, @eq_comm Json output]

theorem integer_number_iff :
    ((leaf .integer).check order (some (.num number))).result = .ok output ↔
      ∃ n : ℤ, number = .int n ∧ -2 ^ 63 ≤ n ∧ n < 2 ^ 63 ∧ output = .int n := by
  simp only [leaf_ok_iff, Leaf.accept, Option.map_eq_some_iff, Json.asInt64?_eq_some,
    Json.num.injEq, Json.inInt64_iff, and_assoc, @eq_comm Json output]

theorem asBoolean_number_iff :
    ((leaf .asBoolean).check order (some (.num number))).result = .ok output ↔
      ∃ b : Bool, number.value = (if b then 1 else 0) ∧ output = .bool b := by
  simp only [leaf_ok_iff, Leaf.accept, Option.map_eq_some_iff, Leaf.boolOfNumber?_eq_some_iff,
    @eq_comm Json output]

/-- **The leaves that convert numbers.** A number is accepted as a whole one iff its value is whole
    and in the signed 64-bit range, and the result is that value, never a rounded one; the strict
    leaf accepts the same numbers but for doubles. A number is accepted as a truth value iff its
    value is zero or one, and so iff it is accepted as one of these two whole numbers. -/
theorem check_number (h : number.InRange) (order : KeyOrder) :
    (∀ output, ((leaf .asInteger).check order (some (.num number))).result = .ok output ↔
      ∃ n : ℤ, number.value = n ∧ -2 ^ 63 ≤ n ∧ n < 2 ^ 63 ∧ output = .int n) ∧
    (∀ output, ((leaf .integer).check order (some (.num number))).result = .ok output ↔
      ((leaf .asInteger).check order (some (.num number))).result = .ok output ∧
        ∀ x, number ≠ .float x) ∧
    (∀ output, ((leaf .asBoolean).check order (some (.num number))).result = .ok output ↔
      ∃ b : Bool, number.value = (if b then 1 else 0) ∧ output = .bool b) ∧
    ∀ b : Bool, ((leaf .asBoolean).check order (some (.num number))).result = .ok (.bool b) ↔
      ((leaf .asInteger).check order (some (.num number))).result =
        .ok (.int (if b then 1 else 0)) := by
  refine ⟨fun _ => asInteger_number_iff h, fun output => ?_, fun _ => asBoolean_number_iff,
    fun b => ?_⟩
  · rw [integer_number_iff, asInteger_number_iff h]
    cases number with
    | float x => simp
    | int m => simp [Number.value]
  · rw [asBoolean_number_iff, asInteger_number_iff h]
    cases b <;> simp

/-- The two ends of the signed 64-bit range, where `2 ^ 63` is out of it as a whole number and as a
    double, and the zero with a sign. -/
theorem check_number_ends :
    (∀ output, ((leaf .asInteger).check .sorted (some (.int (2 ^ 63)))).result ≠ .ok output) ∧
    (∀ output, ((leaf .asInteger).check .sorted (some (.float
      (.powerOfTwo false 63 (by decide) (by decide))))).result ≠ .ok output) ∧
    ((leaf .asInteger).check .sorted (some (.float
      (.powerOfTwo true 63 (by decide) (by decide))))).result = .ok (.int (-2 ^ 63)) ∧
    ((leaf .asBoolean).check .sorted (some (.float (.zero true)))).result =
      .ok (.bool false) := by
  have hvalue : ∀ negative, (Number.float (.powerOfTwo negative 63 (by decide) (by decide))).value =
      withSign negative (2 ^ 63 : ℤ) := by
    intro negative
    rw [Number.value, Double.value_powerOfTwo]
    norm_num
  have hdouble : ∀ x, (Number.float x).InRange := fun _ => trivial
  have hwhole : (Number.int (2 ^ 63)).InRange := ⟨by decide, by decide⟩
  refine ⟨fun output h => ?_, fun output h => ?_, ?_, ?_⟩
  · obtain ⟨n, hn, -, hhigh, -⟩ := ((check_number hwhole .sorted).1 output).1 h
    obtain rfl : 2 ^ 63 = n := Int.cast_inj.1 hn
    exact absurd hhigh (by decide)
  · obtain ⟨n, hn, -, hhigh, -⟩ := ((check_number (hdouble _) .sorted).1 output).1 h
    obtain rfl : 2 ^ 63 = n := Int.cast_inj.1 ((hvalue false).symm.trans hn)
    exact absurd hhigh (by decide)
  · refine ((check_number (hdouble _) .sorted).1 _).2 ⟨-2 ^ 63, ?_, ?_⟩
    · rw [hvalue]
      norm_num [withSign]
    · exact ⟨by decide, by decide, rfl⟩
  · exact ((check_number (hdouble _) .sorted).2.2.1 _).2 ⟨false, Double.value_zero true, rfl⟩

end Schema

end Conform
