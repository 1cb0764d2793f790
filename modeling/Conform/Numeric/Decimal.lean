/-
  Conform numerics: decimal numerals with a point and an exponent.

  * `Decimal`: a sign, a coefficient and a power of ten, of any size.
  * `Decimal.ofChars?`: an optional sign, digits with at most one point and at
    least one digit, and an optional exponent.
  * `Decimal.toDouble?`: the double nearest to a numeral; `none` when the numeral
    rounds beyond the largest double. A power of ten is computed only when it can
    matter, so that no exponent is too large to read.
  * `AnyDouble`: with infinities and NaN. `AnyDouble.ofChars?` reads their names too.
-/
import Conform.Numeric.Double
import Conform.Numeric.Numeral

namespace Conform

/-- The number `coefficient * 10 ^ exponent` with a sign; zero keeps its sign. -/
structure Decimal where
  negative : Bool
  coefficient : Nat
  exponent : Int
deriving DecidableEq

namespace Decimal

/-- The numeral with these digits before and after the point, and this exponent. -/
def ofDigits (negative : Bool) (whole fraction : List Char) (exponent : Int) : Decimal :=
  ⟨negative, Numeral.toNat (whole ++ fraction), exponent - fraction.length⟩

/-! ## Reading -/

/-- The digits after a point, and what follows them; no digits where there is no point. -/
def splitFraction : List Char → List Char × List Char
  | '.' :: cs => (cs.takeWhile Char.isDigit, cs.dropWhile Char.isDigit)
  | cs => ([], cs)

/-- The exponent at the end of a numeral: nothing, or a mark and a whole number. -/
def exponent? : List Char → Option Int
  | [] => some 0
  | c :: cs => if c = 'e' ∨ c = 'E' then Numeral.toInt? cs else none

/-- An optional sign, digits with at most one point and at least one digit, and an optional
    exponent. -/
def ofChars? (cs : List Char) : Option Decimal :=
  let (negative, unsigned) := Numeral.splitSign cs
  let whole := unsigned.takeWhile Char.isDigit
  let (fraction, tail) := splitFraction (unsigned.dropWhile Char.isDigit)
  if whole.isEmpty && fraction.isEmpty then none
  else (exponent? tail).map (ofDigits negative whole fraction)

/-! ## Rounding -/

/-- The double nearest to a numeral. As `10 ^ k` is at least `2 ^ (3 * k)`, the first test finds
    only numerals of at least `2 ^ 1024`, and the second only those below `2 ^ (-1076)`. -/
def toDouble? (d : Decimal) : Option Double :=
  let bits : Int := d.coefficient.log2
  if d.coefficient = 0 then
    some (.zero d.negative)
  else if 0 ≤ d.exponent then
    if 1024 ≤ bits + 3 * d.exponent then none
    else Double.ofRatio? d.negative (scaled 10 d.coefficient d.exponent) 1
  else
    if bits + 1 + 3 * d.exponent ≤ -1076 then some (.zero d.negative)
    else Double.ofRatio? d.negative d.coefficient (scaled 10 1 (-d.exponent))

end Decimal

/-! ## Numbers beyond the finite ones -/

/-- What a text may denote: a finite number, an infinity, or no number. -/
inductive AnyDouble
  | finite (x : Double)
  | infinite (negative : Bool)
  | nan (negative : Bool)
deriving DecidableEq

namespace AnyDouble

/-- The number nearest to a numeral, which is infinite beyond the largest double. -/
def ofDecimal (d : Decimal) : AnyDouble :=
  match d.toDouble? with
  | some x => finite x
  | none => infinite d.negative

/-- The infinity or the NaN of a name, in any case. -/
def ofName? (negative : Bool) (cs : List Char) : Option AnyDouble :=
  match String.ofList (cs.map Char.toLower) with
  | "inf" | "infinity" => some (infinite negative)
  | "nan" => some (nan negative)
  | _ => none

/-- A numeral, or a name after an optional sign. -/
def ofChars? (cs : List Char) : Option AnyDouble :=
  match Decimal.ofChars? cs with
  | some d => some (ofDecimal d)
  | none => ofName? (Numeral.splitSign cs).1 (Numeral.splitSign cs).2

/-- The double, if it is finite. -/
def finite? : AnyDouble → Option Double
  | finite x => some x
  | _ => none

theorem finite?_ofDecimal (d : Decimal) : (ofDecimal d).finite? = d.toDouble? := by
  unfold ofDecimal
  cases d.toDouble? <;> rfl

theorem finite?_of_ofName? {negative : Bool} {cs : List Char} {x : AnyDouble}
    (h : ofName? negative cs = some x) : x.finite? = none := by
  unfold ofName? at h
  split at h <;> cases h <;> rfl

/-- **Only numerals denote finite numbers.** -/
theorem bind_finite? (cs : List Char) :
    (ofChars? cs).bind finite? = (Decimal.ofChars? cs).bind Decimal.toDouble? := by
  unfold ofChars?
  split
  · next d hd => rw [hd, Option.bind_some, Option.bind_some, finite?_ofDecimal]
  · next hd =>
    rw [hd, Option.bind_none, Option.bind_eq_none_iff]
    exact fun x hx => finite?_of_ofName? hx

end AnyDouble

end Conform
