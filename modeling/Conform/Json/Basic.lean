/-
  Conform JSON: values.

  * `Number`: a whole number or a double. The two never count as equal.
  * `Json`: a value; the entries of an object stay in the order they were put in.
  * `Json.same`: equality of values. The order of entries does not count, nor
    does the sign of a zero.
  * `Json.asInt64?`, `Json.asNat64?`, `Json.asDouble?`, `Json.asString?`: views of
    a value as another type.
-/
import Conform.Numeric.Double

namespace Conform

/-- A number in a JSON value. -/
inductive Number
  /-- a whole number -/
  | int (value : Int)
  /-- a finite double -/
  | float (value : Double)
deriving DecidableEq

namespace Number

/-- Equality of numbers: of whole numbers or of doubles, never across. -/
def same : Number → Number → Bool
  | .int m, .int n => m == n
  | .float x, .float y => x.same y
  | _, _ => false

/-- The double nearest to a number; a whole number may lie beyond all doubles. -/
def toDouble? : Number → Option Double
  | .int n => Double.ofInt? n
  | .float x => some x

end Number

/-- A JSON value. -/
inductive Json
  | null
  | bool (value : Bool)
  | num (value : Number)
  | str (value : String)
  | arr (items : List Json)
  | obj (entries : List (String × Json))

namespace Json

/-- A whole number as a value. -/
abbrev int (n : Int) : Json := .num (.int n)

/-- A double as a value. -/
abbrev float (x : Double) : Json := .num (.float x)

/-- A double as a value, `null` where there is none. -/
def ofDouble? : Option Double → Json
  | some x => .float x
  | none => .null

/-- The value is `null`. -/
def isNull : Json → Bool
  | .null => true
  | _ => false

/-! ## Views -/

/-- The range of signed 64-bit words. -/
def inInt64 (n : Int) : Bool := -0x8000000000000000 ≤ n && n < 0x8000000000000000

/-- A whole number in the signed 64-bit range; never a double. -/
def asInt64? : Json → Option Int
  | .num (.int n) => if inInt64 n then some n else none
  | _ => none

/-- A whole number in the unsigned 64-bit range; never a double. -/
def asNat64? : Json → Option Nat
  | .num (.int n) => if 0 ≤ n ∧ n < 0x10000000000000000 then some n.toNat else none
  | _ => none

/-- The double nearest to a number. -/
def asDouble? : Json → Option Double
  | .num n => n.toDouble?
  | _ => none

/-- The text of a string. -/
def asString? : Json → Option String
  | .str s => some s
  | _ => none

/-! ## Equality -/

mutual

/-- Equality of values: the order of entries and the sign of a zero do not count. -/
def same : Json → Json → Bool
  | .null, .null => true
  | .bool a, .bool b => a == b
  | .num a, .num b => a.same b
  | .str a, .str b => a == b
  | .arr as, .arr bs => sameItems as bs
  | .obj as, .obj bs => as.length == bs.length && sameEntries as bs
  | _, _ => false

/-- Lists of the same length with equal items at each place. -/
def sameItems : List Json → List Json → Bool
  | [], [] => true
  | a :: as, b :: bs => same a b && sameItems as bs
  | _, _ => false

/-- Each entry of the first list has its key in the second, with an equal value. -/
def sameEntries : List (String × Json) → List (String × Json) → Bool
  | [], _ => true
  | (key, a) :: as, bs =>
    (match bs.lookup key with
    | some b => same a b
    | none => false) && sameEntries as bs

end

end Json

end Conform
