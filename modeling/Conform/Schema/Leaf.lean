/-
  Conform schemas: leaves, which look at a value and not at its parts.

  * `Leaf`: strict leaves, leaves that convert, and leaves of one's own.
  * `Leaf.doubleOfText?`, `Leaf.integral?` and those beside them: the conversions.
  * `Leaf.accept`: what a leaf makes of a present value.
  * `Leaf.check`: the check of a leaf. An absent value is refused like one of the
    wrong kind.
-/
import Conform.Outcome
import Conform.Numeric.Decimal
import Conform.Text.Blank

namespace Conform

/-- A schema that looks at a value and not at its parts. -/
inductive Leaf
  /-- a string -/
  | string
  /-- a number, as a double -/
  | number
  /-- a whole number in the signed 64-bit range -/
  | integer
  /-- `true` or `false` -/
  | boolean
  | null
  /-- any present value -/
  | any
  /-- a number, or text that denotes one -/
  | asNumber
  /-- a whole number, or text that denotes one -/
  | asInteger
  /-- `true`, `false`, zero or one, or text that denotes `true` or `false` -/
  | asBoolean
  /-- a string, a number or `true` or `false`, as text -/
  | asString
  /-- a leaf of one's own: what it expects, and what it makes of a value -/
  | custom (expected : String) (accept : Json → Option Json)

namespace Leaf

/-! ## Conversions -/

/-- The finite number that a text denotes, white space around it left out. -/
def doubleOfText? (s : String) : Option Double :=
  let trimmed := Text.trim s.toList
  if trimmed.isEmpty then none else (AnyDouble.ofChars? trimmed).bind AnyDouble.finite?

theorem doubleOfText?_eq (s : String) :
    doubleOfText? s = (Decimal.ofChars? (Text.trim s.toList)).bind Decimal.toDouble? := by
  unfold doubleOfText?
  dsimp only
  split
  · next hempty =>
    rw [List.isEmpty_iff.1 hempty]
    rfl
  · exact AnyDouble.bind_finite? _

/-- The whole number in the signed 64-bit range that a text denotes. -/
def int64OfText? (s : String) : Option Int :=
  (Numeral.toInt? (Text.trim s.toList)).filter Json.inInt64

/-- The least whole number of 64 bits, `-2 ^ 63`, as a double. -/
def int64Least : Double := ⟨true, 0x10000000000000, 11, by decide⟩

/-- The greatest whole number of 64 bits as a double. It is rounded up to `2 ^ 63`. -/
def int64Greatest : Double := ⟨false, 0x10000000000000, 11, by decide⟩

example : Double.ofInt? (-0x8000000000000000) = some int64Least ∧
    Double.ofInt? 0x7fffffffffffffff = some int64Greatest := by decide

/-- The whole number of 64 bits next to a double on the side of zero. -/
def toInt64 (x : Double) : Int := max (-0x8000000000000000) (min 0x7fffffffffffffff x.trunc)

/-- A double without a fraction as a whole number of 64 bits. -/
def integral? (x : Double) : Option Int :=
  if !x.hasFraction && int64Least.le x && x.lt int64Greatest then some (toInt64 x) else none

/-- The whole number of 64 bits that a number is. -/
def int64OfNumber? (n : Number) : Option Int :=
  (Json.asInt64? (.num n)).or (n.toDouble?.bind integral?)

/-- The truth value that a text denotes. -/
def boolOfText? (s : String) : Option Bool :=
  let cs := Text.trim s.toList
  if cs = ['t', 'r', 'u', 'e'] then some true
  else if cs = ['f', 'a', 'l', 's', 'e'] then some false
  else none

/-- Zero is false and one is true. -/
def boolOfDouble? (x : Double) : Option Bool :=
  if x.same (.zero false) then some false
  else if x.same .one then some true
  else none

/-- The truth value that a number stands for. -/
def boolOfNumber? (n : Number) : Option Bool := n.toDouble?.bind boolOfDouble?

/-- What a leaf makes of a present value. -/
def accept : Leaf → Json → Option Json
  | string, .str s => some (.str s)
  | number, value => value.asDouble?.map .float
  | integer, value => value.asInt64?.map .int
  | boolean, .bool b => some (.bool b)
  | null, .null => some .null
  | any, value => some value
  | asNumber, .num n => n.toDouble?.map .float
  | asNumber, .str s => (doubleOfText? s).map .float
  | asInteger, .num n => (int64OfNumber? n).map .int
  | asInteger, .str s => (int64OfText? s).map .int
  | asBoolean, .bool b => some (.bool b)
  | asBoolean, .str s => (boolOfText? s).map .bool
  | asBoolean, .num n => (boolOfNumber? n).map .bool
  | asString, .str s => some (.str s)
  | asString, .num n => some (.str (String.ofList n.chars))
  | asString, .bool true => some (.str "true")
  | asString, .bool false => some (.str "false")
  | custom _ f, value => f value
  | _, _ => none

/-- What a leaf expects, in the words of its failures. -/
def expected : Leaf → String
  | string | asString => "string"
  | number | asNumber => "number"
  | integer | asInteger => "integer"
  | boolean | asBoolean => "boolean"
  | null => "null"
  | any => "any value"
  | custom expected _ => expected

/-- The check of a leaf. -/
def check (leaf : Leaf) (input : Option Json) : Outcome Json :=
  match input.bind leaf.accept with
  | some output => .ok output
  | none => .fail (.typeMismatch leaf.expected input)

/-- The name of a leaf in outlines. -/
def name : Leaf → String
  | string => "Str"
  | number => "Number"
  | integer => "Integer"
  | boolean => "Boolean"
  | null => "Null"
  | any => "AnyValue"
  | asNumber => "AsNumber"
  | asInteger => "AsInteger"
  | asBoolean => "AsBoolean"
  | asString => "AsString"
  | custom expected _ => expected

end Leaf

end Conform
