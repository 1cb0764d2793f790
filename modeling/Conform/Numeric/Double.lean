/-
  Conform numerics: finite binary floating-point numbers of double precision.

  * `Double`: a sign, a mantissa of at most 53 binary digits and the exponent of its
    unit, in the one normal form each number has; the two zeros differ in sign only.
  * `Double.ofRatio?`: the double nearest to a fraction, a half going to the even
    mantissa; `none` when the fraction rounds beyond the largest double.
  * `Double.ofInt?`: the same for a whole number.
  * `Double.trunc`, `Double.hasFraction`: a double as a whole number and a fraction.
  * `Double.le`, `Double.lt`: the order of values.
  * `Double.recip?`: the double nearest to one over a double.
  * `Double.same`: equality of values, under which the two zeros are one.
-/
import Conform.Numeric.Rounding

namespace Conform

/-- The normal form of a magnitude `mantissa * 2 ^ exponent`: 53 binary digits, or fewer with the
    smallest exponent. -/
def Double.Normal (mantissa : Nat) (exponent : Int) : Prop :=
  mantissa < 0x20000000000000 ∧ -1074 ≤ exponent ∧ exponent ≤ 971 ∧
    (0x10000000000000 ≤ mantissa ∨ exponent = -1074)

instance (mantissa : Nat) (exponent : Int) : Decidable (Double.Normal mantissa exponent) := by
  unfold Double.Normal; infer_instance

/-- A finite double-precision number: `mantissa * 2 ^ exponent` with a sign. -/
structure Double where
  negative : Bool
  mantissa : Nat
  exponent : Int
  normal : Double.Normal mantissa exponent
deriving DecidableEq

namespace Double

/-- Zero, with either sign. -/
def zero (negative : Bool) : Double := ⟨negative, 0, -1074, by decide⟩

/-- One. -/
def one : Double := ⟨false, 0x10000000000000, -52, by decide⟩

/-- The double with these parts, if they are in normal form. -/
def ofParts? (negative : Bool) (mantissa : Nat) (exponent : Int) : Option Double :=
  if h : Normal mantissa exponent then some ⟨negative, mantissa, exponent, h⟩ else none

/-- The exponent of the unit in which a positive fraction has 53 binary digits, but not below
    that of the smallest double. -/
def unitExponent (num den : Nat) : Int :=
  let guess : Int := (num.log2 : Int) - (den.log2 : Int) - 52
  let small := scaled 2 num (-guess) < scaled 2 (den * 0x10000000000000) guess
  max (-1074) (if small then guess - 1 else guess)

/-- The double nearest to `num / den`, a half going to the even mantissa. -/
def ofRatio? (negative : Bool) (num den : Nat) : Option Double :=
  if num = 0 then
    some (zero negative)
  else
    let exponent := unitExponent num den
    let mantissa := roundDiv (scaled 2 num (-exponent)) (scaled 2 den exponent)
    if mantissa = 0x20000000000000 then ofParts? negative 0x10000000000000 (exponent + 1)
    else ofParts? negative mantissa exponent

/-- The double nearest to a whole number. -/
def ofInt? (n : Int) : Option Double := ofRatio? (decide (n < 0)) n.natAbs 1

/-! ## Parts and comparison -/

/-- A whole number with a sign. -/
def signed (negative : Bool) (n : Nat) : Int := if negative then -n else n

/-- The whole number next to `x` on the side of zero. -/
def trunc (x : Double) : Int :=
  signed x.negative (scaled 2 x.mantissa x.exponent / scaled 2 1 (-x.exponent))

/-- There is a fraction besides the whole number. -/
def hasFraction (x : Double) : Bool :=
  scaled 2 x.mantissa x.exponent % scaled 2 1 (-x.exponent) != 0

/-- The number of units of the smallest double that make up `x`. -/
def units (x : Double) : Int := signed x.negative (scaled 2 x.mantissa (x.exponent + 1074))

/-- Below or equal. -/
def le (x y : Double) : Bool := x.units ≤ y.units

/-- Below. -/
def lt (x y : Double) : Bool := x.units < y.units

/-- Zero, of either sign. -/
def isZero (x : Double) : Bool := x.mantissa == 0

/-- Above zero. -/
def isPositive (x : Double) : Bool := !x.negative && !x.isZero

/-- Equality of values: the sign of a zero does not count. -/
def same (x y : Double) : Bool :=
  x.mantissa == y.mantissa && x.exponent == y.exponent && (x.negative == y.negative || x.isZero)

/-- The double nearest to `1 / x`; none where the quotient is not finite. -/
def recip? (x : Double) : Option Double :=
  if x.isZero then none
  else ofRatio? x.negative (scaled 2 1 (-x.exponent)) (scaled 2 x.mantissa x.exponent)

end Double

end Conform
