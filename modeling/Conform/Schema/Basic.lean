/-
  Conform schemas: what they consist of.

  * `Schema`: leaves, choices of values, parts of arrays and objects, presence,
    wording, functions on results, and alternatives.
  * `Schema.erased`: a check with results of any type as a schema.
  * `Schema.children`: the schemas that a schema is directly made of.
-/
import Conform.Check
import Conform.Regex.Reader
import Conform.Schema.Leaf

namespace Conform

/-- A schema: a check of values that may be absent, whose results are made JSON values at once. -/
inductive Schema
  | leaf (leaf : Leaf)
  /-- exactly this value -/
  | literal (expected : Json)
  /-- one of these strings -/
  | enums (variants : List String)
  /-- a string in which a pattern has a match -/
  | pattern (pattern : Pattern)
  /-- any check at all that results in JSON values -/
  | rule (check : Check Json)
  /-- a string of JSON text whose value is checked -/
  | jsonString (inner : Schema)
  /-- an array with equal items -/
  | array (item : Schema)
  /-- an array with one schema for each item -/
  | tuple (items : List Schema)
  /-- an object with equal values, in the order of its keys -/
  | record (value : Schema)
  /-- an object with one schema for each declared key; other keys are dropped, or refused -/
  | object (fields : List (String × Schema)) (denyUnknown : Bool)
  /-- an object with one schema for each declared key, all of which the result has -/
  | typedRecord (fields : List (String × Schema))
  /-- accepts an absent value, as `null` -/
  | optional (inner : Schema)
  /-- accepts `null` -/
  | nullable (inner : Schema)
  /-- accepts an absent value, as a given one -/
  | withDefault (inner : Schema) (fallback : Json)
  /-- words a failure anew, and may give it another code -/
  | withMessage (inner : Schema) (message : String) (code : Option String)
  /-- a function on the result, whose value is made JSON at once; `none` is a map whose keys are no
  strings -/
  | map (inner : Schema) (f : Json → Option Json)
  /-- a further check on the result -/
  | tryMap (inner : Schema) (f : Json → Outcome Json)
  /-- functions on the result, one after the other -/
  | chain (base : Schema) (steps : List (Json → Json))
  /-- the first alternative that accepts -/
  | union (alternatives : List Schema)
  /-- the left schema or else the right one -/
  | orElse (left right : Schema)

/-- A check with other results, which are made JSON values, as the fields of objects hold it. -/
def Schema.erased {α : Type} (check : Check α) (encode : Encoder α) : Schema :=
  .rule (check.erase encode)

/-- The schemas that a schema is directly made of, in order. -/
def Schema.children : Schema → List Schema
  | leaf _ | literal _ | enums _ | pattern _ | rule _ => []
  | jsonString inner | array inner | record inner => [inner]
  | tuple items => items
  | object fields _ | typedRecord fields => fields.map Prod.snd
  | optional inner | nullable inner | withDefault inner _ | withMessage inner _ _ => [inner]
  | map inner _ | tryMap inner _ | chain inner _ => [inner]
  | union alternatives => alternatives
  | orElse left right => [left, right]

end Conform
