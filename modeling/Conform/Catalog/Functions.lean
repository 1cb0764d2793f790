/-
  Conform catalog: functions on results.

  * Steps, which take a value to one of the same kind and leave others alone;
    arithmetic on whole numbers wraps in the signed 64-bit range.
  * Maps, which take a value to any other, or to one that is no JSON value.
  * Further checks, which may refuse a value.
  * `Catalog.step?`, `Catalog.map?`, `Catalog.refine?`: functions by their names.
-/
import Conform.Schema.Basic

namespace Conform.Catalog

/-- The number in the signed 64-bit range that differs by a multiple of `2 ^ 64`. -/
def wrap64 (n : Int) : Int := n.bmod 0x10000000000000000

/-- A function on the text of strings. -/
def onString (f : String → String) : Json → Json
  | .str s => .str (f s)
  | value => value

/-- A function on whole numbers, wrapped. -/
def onInt64 (f : Int → Int) (value : Json) : Json :=
  match value.asInt64? with
  | some n => .int (wrap64 (f n))
  | none => value

/-! ## Steps -/

/-- The text without the white space at its ends. -/
def trimmed (s : String) : String := String.ofList (Text.trim s.toList)

/-- The letters from A to Z in lower case. -/
def lower (s : String) : String := String.ofList (s.toList.map Char.toLower)

/-- The letters from a to z in upper case. -/
def upper (s : String) : String := String.ofList (s.toList.map Char.toUpper)

/-- The steps by their names. -/
def step? (name : String) : Option (Json → Json) :=
  match name with
  | "trim" => some (onString trimmed)
  | "lower" => some (onString lower)
  | "upper" => some (onString upper)
  | "exclaim" => some (onString (· ++ "!"))
  | "inc" => some (onInt64 (· + 1))
  | "dec" => some (onInt64 (· - 1))
  | "times10" => some (onInt64 (· * 10))
  | "square" => some (onInt64 fun n => n * n)
  | _ => none

/-! ## Maps -/

/-- The bytes of a string; other values are left alone. -/
def byteLength : Json → Json
  | .str s => .int s.utf8ByteSize
  | value => value

/-- One over a number; `null` where there is no such number. -/
def reciprocal (value : Json) : Json := Json.ofDouble? (value.asDouble?.bind Double.recip?)

/-- The maps by their names; `none` is a result that is no JSON value. -/
def map? (name : String) : Option (Json → Option Json) :=
  match name with
  | "len" => some fun value => some (byteLength value)
  | "double" => some fun value => some (onInt64 (· * 2) value)
  | "kind" => some fun value => some (.str (Kind.of (some value)).name)
  | "recip" => some fun value => some (reciprocal value)
  | "wrap" => some fun value => some (.arr [value])
  | "pair" => some fun value => some (.arr [value, value])
  | "to_unit" => some fun _ => some .null
  | "tuple_keys" => some fun _ => none
  | _ => none

/-! ## Further checks -/

/-- Refuses numbers that are not above zero. -/
def positive (value : Json) : Outcome Json :=
  match value.asDouble? with
  | some x =>
    if x.isPositive then .ok value
    else .fail (.custom (String.ofList (Layout.plain.write x) ++ " is not positive"))
  | none => .ok value

/-- Refuses all but whole numbers of sixteen bits. -/
def onlyWord16 (value : Json) : Outcome Json :=
  match value.asInt64? with
  | some n =>
    if 0 ≤ n ∧ n ≤ 65535 then .ok value else .fail (.custom "port out of range")
  | none => .fail (.custom "port out of range")

/-- Refuses every value, at a place inside it. -/
def reject (value : Json) : Outcome Json :=
  .fail ((((Failure.new "rejected" "always rejected").withInput (some value)).atIndex 3).atKey
    "inner")

/-- Refuses strings of fewer bytes. -/
def minBytes (least : Nat) (value : Json) : Outcome Json :=
  match value with
  | .str s => if s.utf8ByteSize < least then .fail (.custom "too short") else .ok value
  | _ => .ok value

/-- The further checks without parameters by their names. -/
def refine? (name : String) : Option (Json → Outcome Json) :=
  match name with
  | "positive" => some positive
  | "port" => some onlyWord16
  | "reject" => some reject
  | _ => none

/-- What stands in for the value of a failure: its code and the bytes of its message. -/
def standIn (failure : Failure) : Json :=
  .arr [.str failure.code, .int failure.message.utf8ByteSize]

end Conform.Catalog
