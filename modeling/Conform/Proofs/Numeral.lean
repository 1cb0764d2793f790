/-
  Which texts denote whole numbers, and which ones (`IntegerText`).
-/
import Conform.Numeric.Numeral
import Conform.Text.Blank
import Mathlib.Data.Nat.Digits.Defs

namespace Conform

namespace Numeral

variable {cs sign rest digits : List Char} {negative : Bool} {n : ℤ}

/-! ## Digits -/

/-- The number that a row of digits denotes by the places of its digits. -/
def placeValue (digits : List Char) : ℕ :=
  Nat.ofDigits 10 (digits.reverse.map fun c => c.toNat - '0'.toNat)

theorem placeValue_append (first second : List Char) :
    placeValue (first ++ second) = placeValue first * 10 ^ second.length + placeValue second := by
  rw [placeValue, List.reverse_append, List.map_append, Nat.ofDigits_append, List.length_map,
    List.length_reverse, Nat.add_comm, Nat.mul_comm]
  rfl

/-- Reading digits after a number moves that number up by their places. -/
theorem ofDigitChars_eq_placeValue (digits : List Char) (value : ℕ) :
    Nat.ofDigitChars 10 digits value = value * 10 ^ digits.length + placeValue digits := by
  induction digits generalizing value with
  | nil => simp [placeValue]
  | cons c digits ih =>
    have hdigit : placeValue [c] = c.toNat - '0'.toNat := Nat.ofDigits_singleton
    rw [Nat.ofDigitChars_cons, ih, ← List.singleton_append, placeValue_append, hdigit,
      List.length_append, List.length_singleton]
    ring

/-- Digits are read by their places. -/
theorem toNat_eq_placeValue (digits : List Char) : toNat digits = placeValue digits := by
  rw [toNat, ofDigitChars_eq_placeValue, Nat.zero_mul, Nat.zero_add]

theorem not_sign_of_isDigit {c : Char} (h : c.isDigit = true) : c ≠ '+' ∧ c ≠ '-' := by
  constructor <;> rintro rfl <;> cases h

theorem not_sign_of_digits (h : ∀ c ∈ digits, c.isDigit = true) :
    ∀ c ∈ digits.head?, c ≠ '+' ∧ c ≠ '-' :=
  fun c hc => not_sign_of_isDigit (h c (List.mem_of_mem_head? hc))

/-! ## Signs -/

/-- The texts of signs; `true` stands for a negative one. -/
inductive SignText : List Char → Bool → Prop
  | none : SignText [] false
  | plus : SignText ['+'] false
  | minus : SignText ['-'] true

theorem SignText.solid (h : SignText sign negative) : Text.Solid sign := by
  cases h with
  | none => exact List.forall_mem_nil _
  | plus => exact List.forall_mem_singleton.2 rfl
  | minus => exact List.forall_mem_singleton.2 rfl

theorem splitSign_append (h : SignText sign negative)
    (hrest : ∀ c ∈ rest.head?, c ≠ '+' ∧ c ≠ '-') :
    splitSign (sign ++ rest) = (negative, rest) := by
  cases h with
  | plus => rfl
  | minus => rfl
  | none =>
    rw [List.nil_append]
    unfold splitSign
    split
    · exact absurd rfl (hrest '-' rfl).2
    · exact absurd rfl (hrest '+' rfl).1
    · rfl

/-- What is split off is a sign. -/
theorem exists_sign (cs : List Char) :
    ∃ sign, SignText sign (splitSign cs).1 ∧ cs = sign ++ (splitSign cs).2 := by
  unfold splitSign
  split
  · exact ⟨['-'], .minus, rfl⟩
  · exact ⟨['+'], .plus, rfl⟩
  · exact ⟨[], .none, rfl⟩

/-! ## Whole numbers -/

/-- The texts of whole numbers: a sign or none, and one or more digits. -/
inductive IntegerText : List Char → ℤ → Prop
  | intro {sign digits : List Char} {negative : Bool} (signText : SignText sign negative)
    (nonempty : digits ≠ []) (digit : ∀ c ∈ digits, c.isDigit = true) :
    IntegerText (sign ++ digits) (signed negative (placeValue digits))

/-- **The texts of whole numbers** are those that are read, and they are read exactly. -/
theorem toInt?_eq_some_iff : toInt? cs = some n ↔ IntegerText cs n := by
  constructor
  · intro h
    obtain ⟨sign, hsign, hcs⟩ := exists_sign cs
    unfold toInt? at h
    generalize splitSign cs = split at h hsign hcs
    obtain ⟨negative, digits⟩ := split
    dsimp only at h hsign hcs
    split_ifs at h with hdigits
    obtain ⟨hne, hall⟩ := isDigits_iff.1 hdigits
    cases h
    rw [hcs, toNat_eq_placeValue]
    exact .intro hsign hne hall
  · rintro ⟨hsign, hne, hall⟩
    simp only [toInt?, splitSign_append hsign (not_sign_of_digits hall),
      if_pos (isDigits_iff.2 ⟨hne, hall⟩), toNat_eq_placeValue]

theorem IntegerText.solid (h : IntegerText cs n) : Text.Solid cs := by
  obtain ⟨hsign, -, hall⟩ := h
  exact List.forall_mem_append.2 ⟨hsign.solid, fun c hc => Text.isBlank_of_isDigit (hall c hc)⟩

end Numeral

end Conform
