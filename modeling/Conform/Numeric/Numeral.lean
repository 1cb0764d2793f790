/-
  Conform numerics: whole numbers as decimal text.

  * `Numeral.ofNat`, `Numeral.ofInt`, `Numeral.text`: the digits of a number, with
    `-` before a negative one and no leading zero.
  * `Numeral.toInt?`: an optional sign and one or more digits, of any length.
  * `Numeral.span_isDigit`: where a row of digits ends.
  * `Numeral.toInt?_ofInt`: what is written reads back.
-/

namespace Conform.Numeral

/-- The decimal digits of `n`, without leading zeros. -/
def ofNat (n : Nat) : List Char := Nat.toDigits 10 n

/-- The decimal digits of `n` as a text. -/
def text (n : Nat) : String := String.ofList (ofNat n)

/-- A whole number in decimal, with `-` before a negative one. -/
def ofInt : Int → List Char
  | .ofNat n => ofNat n
  | .negSucc n => '-' :: ofNat (n + 1)

/-- The number that a row of decimal digits denotes. -/
def toNat (digits : List Char) : Nat := Nat.ofDigitChars 10 digits 0

/-- One or more decimal digits. -/
def isDigits (cs : List Char) : Bool := !cs.isEmpty && cs.all Char.isDigit

/-- The sign that `cs` opens with, as `true` for `-`, and what follows it. -/
def splitSign : List Char → Bool × List Char
  | '-' :: cs => (true, cs)
  | '+' :: cs => (false, cs)
  | cs => (false, cs)

/-- The number of a magnitude and a sign. -/
def signed (negative : Bool) (magnitude : Nat) : Int :=
  if negative then -(magnitude : Int) else magnitude

/-- An optional sign and one or more digits, read exactly. -/
def toInt? (cs : List Char) : Option Int :=
  let (negative, digits) := splitSign cs
  if isDigits digits then some (signed negative (toNat digits)) else none

@[simp] theorem toNat_ofNat (n : Nat) : toNat (ofNat n) = n :=
  Nat.ofDigitChars_toDigits (by decide) (by decide)

theorem isDigits_ofNat (n : Nat) : isDigits (ofNat n) = true := by
  have hne : ofNat n ≠ [] := List.length_pos_iff.1 Nat.length_toDigits_pos
  have hall : ∀ c ∈ ofNat n, c.isDigit = true := fun c hc =>
    Nat.isDigit_of_mem_toDigits (by decide) (by decide) hc
  simp [isDigits, hne, List.all_eq_true.2 hall]

theorem isDigits_iff {digits : List Char} :
    isDigits digits = true ↔ digits ≠ [] ∧ ∀ c ∈ digits, c.isDigit = true := by
  simp [isDigits]

/-- A row of characters of one class ends where none of the class follows. -/
theorem span_of_class {p : Char → Bool} {row rest : List Char} (h : ∀ c ∈ row, p c = true)
    (hrest : ∀ c ∈ rest.head?, p c = false) :
    (row ++ rest).takeWhile p = row ∧ (row ++ rest).dropWhile p = rest := by
  rw [List.takeWhile_append_of_pos h, List.dropWhile_append_of_pos h]
  cases rest with
  | nil => simp
  | cons c rest => simp [hrest c rfl]

theorem span_isDigit {digits rest : List Char} (h : ∀ c ∈ digits, c.isDigit = true)
    (hrest : ∀ c ∈ rest.head?, c.isDigit = false) :
    (digits ++ rest).takeWhile Char.isDigit = digits ∧
      (digits ++ rest).dropWhile Char.isDigit = rest :=
  span_of_class h hrest

theorem splitSign_of_isDigits {cs : List Char} (h : isDigits cs = true) :
    splitSign cs = (false, cs) := by
  unfold splitSign
  split
  · simp [isDigits] at h
  · simp [isDigits] at h
  · rfl

/-- **Writing and reading whole numbers.** The text of a number reads back as that number. -/
theorem toInt?_ofInt (n : Int) : toInt? (ofInt n) = some n := by
  cases n with
  | ofNat n => simp [toInt?, ofInt, splitSign_of_isDigits, isDigits_ofNat, signed]
  | negSucc n =>
    simp only [toInt?, ofInt, splitSign, isDigits_ofNat, signed, toNat_ofNat, if_true]
    rfl

end Conform.Numeral
