/-
  Conform schemas: the declared fields of an object.

  * `Shape`: fields with different keys, in the order of their first declaration.
  * `Shape.field`: declares a field; a key that is declared already gets the new
    schema at its old place.
  * `Shape.object`: the schema of objects with these fields.
  * `Steps`: a schema with functions on its result, to which more can be added.
-/
import Conform.Schema.Basic

namespace Conform

/-- Fields of an object with different keys. -/
structure Shape where
  fields : List (String × Schema)
  distinct : (Entries.keys fields).Nodup

namespace Shape

/-- No fields. -/
def empty : Shape := ⟨[], List.nodup_nil⟩

/-- Declares a field; a key that is declared already gets the new schema at its old place. -/
def field (shape : Shape) (key : String) (schema : Schema) : Shape :=
  ⟨Entries.insertLast key schema shape.fields,
    Entries.nodup_keys_insertLast key schema shape.distinct⟩

/-- The fields of a list, declared one after the other. -/
def ofList (fields : List (String × Schema)) : Shape :=
  fields.foldl (fun shape field => shape.field field.1 field.2) empty

/-- The declared keys, in order. -/
def keys (shape : Shape) : List String := Entries.keys shape.fields

/-- The key is declared. -/
def contains (shape : Shape) (key : String) : Bool := Entries.hasKey key shape.fields

/-- The number of declared keys. -/
def size (shape : Shape) : Nat := shape.fields.length

/-- No key is declared. -/
def isEmpty (shape : Shape) : Bool := shape.fields.isEmpty

/-- The schema of objects with these fields; other keys are dropped, or refused. -/
def object (shape : Shape) (denyUnknown : Bool) : Schema := .object shape.fields denyUnknown

end Shape

/-- A schema with functions on its result, one after the other. -/
structure Steps where
  base : Schema
  steps : List (Json → Json)

namespace Steps

/-- A further function, after all others. -/
def push (s : Steps) (step : Json → Json) : Steps := { s with steps := s.steps ++ [step] }

/-- The number of functions. -/
def size (s : Steps) : Nat := s.steps.length

/-- There are no functions. -/
def isEmpty (s : Steps) : Bool := s.steps.isEmpty

/-- The schema that runs the functions in order. -/
def schema (s : Steps) : Schema := .chain s.base s.steps

end Steps

end Conform
