/-
  Conform numerics: doubles as text.

  * `Layout`: the decisions that a way of writing doubles leaves open.
  * `Layout.write`: a double under a layout, always from its shortest digits.
  * `Layout.json`: the layout of numbers in JSON text.
  * `Layout.plain`: positional notation for messages.
-/
import Conform.Numeric.Shortest

namespace Conform

/-- What a way of writing doubles decides. -/
structure Layout where
  /-- the powers of ten of the first digit that are written without an exponent -/
  positional : Int → Bool
  /-- what follows a whole number written without an exponent -/
  wholeMark : List Char
  /-- the choice between two equally near candidates -/
  tie : Tie

namespace Layout

/-- Digits in positional notation, zeros filling the places up to the point. -/
def writePositional (layout : Layout) (d : Digits) : List Char :=
  let size : Int := d.digits.length
  if d.point ≤ 0 then '0' :: '.' :: List.replicate (-d.point).toNat '0' ++ d.digits
  else if size ≤ d.point then
    d.digits ++ List.replicate (d.point - size).toNat '0' ++ layout.wholeMark
  else d.digits.take d.point.toNat ++ '.' :: d.digits.drop d.point.toNat

/-- Digits with an exponent: a point after the first digit if others follow it, and a sign always
    before the exponent. -/
def writeScientific (d : Digits) : List Char :=
  let power := d.point - 1
  let sign := if power < 0 then '-' else '+'
  let rest := d.digits.drop 1
  let fraction := if rest.isEmpty then [] else '.' :: rest
  d.digits.take 1 ++ fraction ++ 'e' :: sign :: Numeral.ofNat power.natAbs

/-- A double under a layout; minus zero keeps its sign. -/
def write (layout : Layout) (x : Double) : List Char :=
  let d := x.shortest layout.tie
  let body :=
    if layout.positional (d.point - 1) then layout.writePositional d else writeScientific d
  if x.negative then '-' :: body else body

/-- Numbers in JSON text: positional from `0.00001` to below `10 ^ 16`, always with a point or an
    exponent, so that a double never reads as a whole number. -/
def json : Layout where
  positional power := -5 ≤ power && power ≤ 15
  wholeMark := ['.', '0']
  tie := .toEven

/-- Numbers in messages: never an exponent, and a whole number without a point. -/
def plain : Layout where
  positional _ := true
  wholeMark := []
  tie := .up

end Layout

end Conform
