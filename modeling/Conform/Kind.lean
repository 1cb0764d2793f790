/-
  Conform: the kinds of values that messages tell apart.

  * `Kind`: the six kinds of JSON values, and the absent value.
  * `Kind.of`: the kind of a value that may be absent.
-/
import Conform.Json.Basic

namespace Conform

/-- The kinds of values; a value may also be absent, which is not the same as `null`. -/
inductive Kind
  | absent
  | null
  | boolean
  | number
  | string
  | array
  | object
deriving DecidableEq

namespace Kind

/-- The kind of a value that may be absent. -/
def of : Option Json → Kind
  | none => absent
  | some .null => null
  | some (.bool _) => boolean
  | some (.num _) => number
  | some (.str _) => string
  | some (.arr _) => array
  | some (.obj _) => object

/-- The name of a kind. -/
def name : Kind → String
  | absent => "absent"
  | null => "null"
  | boolean => "boolean"
  | number => "number"
  | string => "string"
  | array => "array"
  | object => "object"

end Kind

end Conform
