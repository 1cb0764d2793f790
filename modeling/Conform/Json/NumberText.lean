/-
  Conform JSON: numbers in JSON text.

  * `scanWhole`, `scanFraction`, `scanExponent`: the parts of a number.
  * `number?`: the number that some parts denote.
  * `scanNumber`: a number at the start of a text, and what follows it.

  A number without point and exponent is whole if it fits 64 bits; any other one is
  the nearest double. Lemmas say that a number takes something off the text.
-/
import Conform.Json.Basic
import Conform.Json.Fault
import Conform.Numeric.Decimal

namespace Conform.Json

/-! ## Parts -/

/-- The exponents that are read exactly; a greater one takes a number out of range or to zero. -/
def maxExponent : Nat := 0x7fffffff

/-- The text after the first digit that takes a row of digits above `maxExponent`. -/
def afterExcess? (value : Nat) : List Char → Option (List Char)
  | [] => none
  | c :: cs =>
    if c.isDigit then
      let value := 10 * value + (c.toNat - '0'.toNat)
      if maxExponent < value then some cs else afterExcess? value cs
    else none

/-- A row of one or more digits at the start of `cs`, and what follows it. -/
def scanDigits (cs : List Char) : Except Flaw (List Char × List Char) :=
  match cs with
  | [] => .error (.atEnd .eofInValue)
  | c :: _ =>
    if c.isDigit then .ok (cs.takeWhile Char.isDigit, cs.dropWhile Char.isDigit)
    else .error (.after .invalidNumber cs)

/-- The digits before the point: a zero stands alone. -/
def scanWhole (cs : List Char) : Except Flaw (List Char × List Char) :=
  match scanDigits cs with
  | .ok ('0' :: d :: digits, rest) => .error (.after .invalidNumber (d :: digits ++ rest))
  | scanned => scanned

/-- The digits after a point, none without a point. -/
def scanFraction : List Char → Except Flaw (Option (List Char) × List Char)
  | '.' :: cs => do
    let (digits, rest) ← scanDigits cs
    .ok (some digits, rest)
  | cs => .ok (none, cs)

/-- An exponent: its sign, its digits, and the text from its first digit on. -/
structure Exponent where
  negative : Bool
  digits : List Char
  text : List Char

/-- The power of ten that an exponent denotes. -/
def Exponent.power (e : Exponent) : Int := Numeral.signed e.negative (Numeral.toNat e.digits)

/-- An exponent after its mark, none without a mark. -/
def scanExponent : List Char → Except Flaw (Option Exponent × List Char)
  | [] => .ok (none, [])
  | c :: cs =>
    if c = 'e' ∨ c = 'E' then do
      let signed := Numeral.splitSign cs
      let (digits, rest) ← scanDigits signed.2
      .ok (some ⟨signed.1, digits, signed.2⟩, rest)
    else .ok (none, c :: cs)

/-! ## Numbers -/

/-- A number without point and exponent: whole in the 64-bit ranges, except for minus zero. -/
def wholeNumber? (negative : Bool) (magnitude : Nat) : Option Number :=
  if negative then
    if 0 < magnitude ∧ magnitude ≤ 0x8000000000000000 then some (.int (-magnitude)) else none
  else if magnitude < 0x10000000000000000 then some (.int magnitude) else none

/-- The number with these parts: whole if it has neither point nor exponent and fits; else the
    nearest double, if there is one. -/
def number? (negative : Bool) (whole : List Char) (fraction : Option (List Char))
    (exponent : Option Exponent) : Option Number :=
  let float (_ : Unit) := ((Decimal.ofDigits negative whole (fraction.getD [])
    ((exponent.map Exponent.power).getD 0)).toDouble?).map Number.float
  match fraction, exponent with
  | none, none => (wholeNumber? negative (Numeral.toNat whole)).or (float ())
  | _, _ => float ()

/-- The number of a sign and the unsigned text after it, and what follows. A number out of range is
    noticed at its end, or at the digit that takes its exponent above `maxExponent`. -/
def scanUnsigned (negative : Bool) (cs : List Char) : Except Flaw (Number × List Char) := do
  let (whole, rest) ← scanWhole cs
  let (fraction, rest) ← scanFraction rest
  let (exponent, rest) ← scanExponent rest
  match number? negative whole fraction exponent with
  | some n => .ok (n, rest)
  | none =>
    let excess := exponent.bind fun e => afterExcess? 0 e.text
    .error ⟨.numberOutOfRange, excess.getD rest, 0⟩

/-- A number at the start of `cs`, and what follows it. -/
def scanNumber : List Char → Except Flaw (Number × List Char)
  | '-' :: cs => scanUnsigned true cs
  | cs => scanUnsigned false cs

/-! ## What is left -/

theorem scanDigits_length {cs digits rest : List Char} (h : scanDigits cs = .ok (digits, rest)) :
    rest.length < cs.length := by
  unfold scanDigits at h
  split at h
  · cases h
  · next c cs =>
    split at h
    · next hc =>
      cases h
      have hle := (List.dropWhile_sublist (l := cs) Char.isDigit).length_le
      rw [List.dropWhile_cons_of_pos hc, List.length_cons]
      omega
    · cases h

theorem scanWhole_length {cs digits rest : List Char} (h : scanWhole cs = .ok (digits, rest)) :
    rest.length < cs.length := by
  unfold scanWhole at h
  split at h
  · cases h
  · exact scanDigits_length h

theorem scanFraction_length {cs rest : List Char} {digits : Option (List Char)}
    (h : scanFraction cs = .ok (digits, rest)) : rest.length ≤ cs.length := by
  unfold scanFraction at h
  split at h
  · obtain ⟨⟨ds, tail⟩, hdigits, h⟩ := bind_eq_ok.1 h
    have := scanDigits_length hdigits
    cases h
    simp only [List.length_cons]
    omega
  · cases h
    exact Nat.le_refl _

theorem splitSign_length (cs : List Char) : (Numeral.splitSign cs).2.length ≤ cs.length := by
  unfold Numeral.splitSign
  split <;> simp

theorem scanExponent_length {cs rest : List Char} {exponent : Option Exponent}
    (h : scanExponent cs = .ok (exponent, rest)) : rest.length ≤ cs.length := by
  unfold scanExponent at h
  split at h
  · cases h
    exact Nat.le_refl _
  · next c cs =>
    split at h
    · obtain ⟨⟨ds, tail⟩, hdigits, h⟩ := bind_eq_ok.1 h
      have := scanDigits_length hdigits
      have := splitSign_length cs
      cases h
      simp only [List.length_cons]
      omega
    · cases h
      exact Nat.le_refl _

theorem scanUnsigned_length {negative : Bool} {cs rest : List Char} {n : Number}
    (h : scanUnsigned negative cs = .ok (n, rest)) : rest.length < cs.length := by
  obtain ⟨⟨whole, tail⟩, hwhole, h⟩ := bind_eq_ok.1 h
  obtain ⟨⟨fraction, tail'⟩, hfraction, h⟩ := bind_eq_ok.1 h
  obtain ⟨⟨exponent, tail''⟩, hexponent, h⟩ := bind_eq_ok.1 h
  have := scanWhole_length hwhole
  have := scanFraction_length hfraction
  have := scanExponent_length hexponent
  dsimp only at h
  split at h <;> cases h
  omega

theorem scanNumber_length {cs rest : List Char} {n : Number} (h : scanNumber cs = .ok (n, rest)) :
    rest.length < cs.length := by
  unfold scanNumber at h
  split at h
  · have := scanUnsigned_length h
    simp only [List.length_cons]
    omega
  · exact scanUnsigned_length h

end Conform.Json
