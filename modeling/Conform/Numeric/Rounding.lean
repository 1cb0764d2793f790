/-
  Whole numbers times powers, and quotients rounded to the nearest whole number, a
  half going to the even one.
-/

namespace Conform

/-! ## Whole numbers times powers -/

/-- The numerator of `n * base ^ e`: a power below one is left to the denominator. -/
def scaled (base n : Nat) (e : Int) : Nat := n * Nat.pow base e.toNat

theorem scaled_of_nonpos (base n : Nat) {e : Int} (h : e ≤ 0) : scaled base n e = n := by
  have he : e.toNat = 0 := by omega
  rw [scaled, he]
  exact Nat.mul_one n

theorem scaled_pos {base n : Nat} (hbase : 0 < base) (hn : 0 < n) (e : Int) :
    0 < scaled base n e :=
  Nat.mul_pos hn (Nat.pow_pos hbase)

/-! ## Quotients -/

/-- The whole number nearest to `num / den`; a half goes to the even neighbour. -/
def roundDiv (num den : Nat) : Nat :=
  let whole := num / den
  let rest := num % den
  if 2 * rest < den then whole
  else if den < 2 * rest then whole + 1
  else whole + whole % 2

/-- The result is at most half a unit above the quotient. -/
theorem two_mul_roundDiv_le (num den : Nat) : 2 * den * roundDiv num den ≤ 2 * num + den := by
  have hsplit : den * (num / den) + num % den = num := Nat.div_add_mod num den
  have hmul : 2 * den * (num / den) = 2 * (den * (num / den)) := Nat.mul_assoc 2 den _
  unfold roundDiv
  dsimp only
  split
  · omega
  · split
    · rw [Nat.mul_add]; omega
    · rcases Nat.mod_two_eq_zero_or_one (num / den) with h | h <;> rw [h, Nat.mul_add] <;> omega

/-- The result is at most half a unit below the quotient. -/
theorem two_mul_le_roundDiv (num den : Nat) (h : 0 < den) :
    2 * num ≤ 2 * den * roundDiv num den + den := by
  have hsplit : den * (num / den) + num % den = num := Nat.div_add_mod num den
  have hmul : 2 * den * (num / den) = 2 * (den * (num / den)) := Nat.mul_assoc 2 den _
  have hlt : num % den < den := Nat.mod_lt num h
  unfold roundDiv
  dsimp only
  split
  · omega
  · split
    · rw [Nat.mul_add]; omega
    · rcases Nat.mod_two_eq_zero_or_one (num / den) with h' | h' <;> rw [h', Nat.mul_add] <;> omega

/-- A half goes to the even neighbour. -/
theorem roundDiv_even {num den : Nat} (hden : 0 < den)
    (h : 2 * num = 2 * den * roundDiv num den + den ∨
      2 * num + den = 2 * den * roundDiv num den) : roundDiv num den % 2 = 0 := by
  have hsplit : den * (num / den) + num % den = num := Nat.div_add_mod num den
  have hmul : 2 * den * (num / den) = 2 * (den * (num / den)) := Nat.mul_assoc 2 den _
  have hlt : num % den < den := Nat.mod_lt num hden
  unfold roundDiv at h ⊢
  dsimp only at h ⊢
  by_cases hbelow : 2 * (num % den) < den
  · rw [if_pos hbelow] at h
    omega
  · rw [if_neg hbelow] at h ⊢
    by_cases habove : den < 2 * (num % den)
    · rw [if_pos habove, Nat.mul_add] at h
      omega
    · rw [if_neg habove]
      omega

end Conform
