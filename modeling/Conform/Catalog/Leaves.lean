/-
  Conform catalog: schemas for common values.

  * `Catalog.even`, `Catalog.nonEmpty`, `Catalog.hexColor`: leaves of their own.
  * `Catalog.word16`, `Catalog.present`: rules, which see whether there is a value.
  * `Catalog.numberOrNull`: a number, `null` where there is none.
  * `Catalog.leaf?`: the schemas without parameters by their names.
-/
import Conform.Schema.Basic

namespace Conform.Catalog

/-- An even whole number. -/
def even : Leaf :=
  .custom "even integer" fun value =>
    (value.asInt64?.filter fun (n : Int) => n % 2 == 0).map .int

/-- A string that is not empty. -/
def nonEmpty : Leaf :=
  .custom "non-empty string" fun value =>
    (value.asString?.filter fun (s : String) => !s.isEmpty).map .str

/-- A string of seven bytes that opens with a `#`. -/
def hexColor : Leaf :=
  .custom "hex color" fun value =>
    (value.asString?.filter fun (s : String) =>
      s.utf8ByteSize == 7 && s.toList.head? == some '#').map .str

/-- A whole number of sixteen bits. -/
def word16 : Schema :=
  .rule fun input =>
    match input.bind Json.asNat64? with
    | some n => if n ≤ 65535 then .ok (.int n) else .fail (.typeMismatch "port" input)
    | none => .fail (.typeMismatch "port" input)

/-- Whether there is a value. -/
def present : Schema := .rule fun input => .ok (.bool input.isSome)

/-- A number; an absent value results in no number, which is `null`. -/
def numberOrNull : Schema := .withDefault (.leaf .number) .null

/-- The schemas without parameters by their names. -/
def leaf? (name : String) : Option Schema :=
  match name with
  | "string" => some (.leaf .string)
  | "number" => some (.leaf .number)
  | "integer" => some (.leaf .integer)
  | "boolean" => some (.leaf .boolean)
  | "null" => some (.leaf .null)
  | "any" => some (.leaf .any)
  | "as_number" => some (.leaf .asNumber)
  | "as_integer" => some (.leaf .asInteger)
  | "as_boolean" => some (.leaf .asBoolean)
  | "as_string" => some (.leaf .asString)
  | "even" => some (.leaf even)
  | "non_empty" => some (.leaf nonEmpty)
  | "hex_color" => some (.leaf hexColor)
  | "port" => some word16
  | "present" => some present
  | "number_or_nan" => some numberOrNull
  | _ => none

end Conform.Catalog
