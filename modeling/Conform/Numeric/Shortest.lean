/-
  Conform numerics: the fewest decimal digits that determine a double.

  * `Digits`: a row of digits with the place of its point.
  * `Double.readsBack`: a decimal rounds to a given double.
  * `Double.shortest`: of the decimals with the fewest digits that round to a
    double, the one nearest to it.
  * `Tie`: the choice where two are equally near. 879511666365179.25, for one, is
    midway between two decimals of 16 digits that both round to it.

  On each grid of decimals only the two neighbours of the double are tried: if any
  point of the grid rounds to the double, one of these two does. All comparisons are
  between whole numbers.
-/
import Conform.Numeric.Double
import Conform.Numeric.Numeral

namespace Conform

/-- The number `0.d₁d₂… * 10 ^ point`, for digits `d₁`, `d₂`, …. -/
structure Digits where
  digits : List Char
  point : Int
deriving DecidableEq

/-- The number `coefficient * 10 ^ exponent`, without zeros at its end. -/
def Digits.ofDecimal (coefficient : Nat) (exponent : Int) : Digits :=
  let all := Numeral.ofNat coefficient
  ⟨(all.reverse.dropWhile (· == '0')).reverse, exponent + all.length⟩

/-- Where a double lies midway between two candidates, the one that is written. -/
inductive Tie
  /-- the candidate with an even last digit -/
  | toEven
  /-- the candidate of greater magnitude -/
  | up
deriving DecidableEq

namespace Double

/-- The unit of a grid of decimals, `10 ^ k`, as a whole multiple of a common measure. -/
def decimalUnit (x : Double) (k : Int) : Nat := scaled 10 (scaled 2 1 (2 - x.exponent)) k

/-- A quarter of the unit of `x` in the same measure. -/
def binaryUnit (x : Double) (k : Int) : Nat := scaled 10 (scaled 2 1 (x.exponent - 2)) (-k)

/-- The lower end of the numbers that round to `x`, in quarters of its unit: the gap below a power
    of two is half as wide. -/
def lowerEnd (x : Double) : Nat :=
  if x.mantissa = 0x10000000000000 ∧ x.exponent ≠ -1074 then 4 * x.mantissa - 1
  else 4 * x.mantissa - 2

/-- The upper end of the numbers that round to `x`, in quarters of its unit. -/
def upperEnd (x : Double) : Nat := 4 * x.mantissa + 2

/-- The decimal `d * 10 ^ k` rounds to the magnitude of `x`; the ends do when the mantissa is
    even. -/
def readsBack (x : Double) (k : Int) (d : Nat) : Bool :=
  let decimal := d * x.decimalUnit k
  let lower := x.lowerEnd * x.binaryUnit k
  let upper := x.upperEnd * x.binaryUnit k
  if x.mantissa % 2 = 0 then lower ≤ decimal && decimal ≤ upper
  else lower < decimal && decimal < upper

/-- The nearer of the decimals `d` and `d + 1`, in units of `10 ^ k`, to the magnitude of `x`. -/
def nearer (tie : Tie) (x : Double) (k : Int) (d : Nat) : Nat :=
  let double := 2 * (4 * x.mantissa * x.binaryUnit k)
  let middle := (2 * d + 1) * x.decimalUnit k
  if double < middle then d
  else if middle < double then d + 1
  else match tie with
    | .toEven => d + d % 2
    | .up => d + 1

/-- The multiple of `10 ^ k` that is written for `x`, if one rounds to it. -/
def onGrid? (tie : Tie) (x : Double) (k : Int) : Option Nat :=
  let below := 4 * x.mantissa * x.binaryUnit k / x.decimalUnit k
  match x.readsBack k below, x.readsBack k (below + 1) with
  | true, true => some (x.nearer tie k below)
  | true, false => some below
  | false, true => some (below + 1)
  | false, false => none

/-- The least power of ten above the magnitude of `x`: its exponent. -/
def decimalPoint (x : Double) : Int :=
  let num := scaled 2 x.mantissa x.exponent
  let den := scaled 2 1 (-x.exponent)
  if den ≤ num then (Numeral.ofNat (num / den)).length
  else 1 - ((Numeral.ofNat ((den - 1) / num)).length : Int)

/-- The fewest digits that determine `x`, nearest to it; zero is one digit `0`. -/
def shortest (tie : Tie) (x : Double) : Digits :=
  if x.isZero then ⟨['0'], 1⟩
  else
    let point := x.decimalPoint
    let found := (List.range 17).findSome? fun (n : Nat) =>
      (x.onGrid? tie (point - (n + 1))).map (Digits.ofDecimal · (point - (n + 1)))
    found.getD (Digits.ofDecimal (scaled 5 (scaled 2 x.mantissa x.exponent) (-x.exponent))
      (min 0 x.exponent))

end Double

end Conform
