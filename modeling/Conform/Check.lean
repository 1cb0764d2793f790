/-
  Conform: checks with results of any type.

  * `Check`: what looks at a value that may be absent, and results in something.
  * `Check.map`: a function on the result, which refuses nothing.
  * `Check.array`, `Check.tuple`, `Check.record`: checks of the parts of a value.
  * `Encoder`, `Check.erase`: results become JSON values, and those that cannot are refused.
-/
import Conform.Outcome

namespace Conform

/-- A check of values that may be absent. -/
abbrev Check (α : Type) := Option Json → Outcome α

/-- How a result is written as a JSON value, or why it cannot be. -/
abbrev Encoder (α : Type) := α → Except String Json

variable {α β : Type}

namespace Encoder

/-- Results in a row, up to the first that cannot be written. -/
def list (encode : Encoder α) (outputs : List α) : Except String Json :=
  (outputs.mapM encode).map .arr

/-- Results with keys, up to the first that cannot be written. -/
def entries (encode : Encoder α) (outputs : Entries α) : Except String Json :=
  (outputs.mapM fun output => (encode output.2).map (output.1, ·)).map .obj

/-- Why a map has no JSON value whose keys are no strings. -/
def unkeyed : String := "key must be a string"

/-- JSON values; `none` is a map whose keys are no strings. -/
def keyed : Encoder (Option Json)
  | some value => .ok value
  | none => .error unkeyed

end Encoder

namespace Check

/-! ## Results -/

/-- A function on the result. -/
def map (check : Check α) (f : α → β) : Check β := fun input => (check input).map f

/-- The result becomes a JSON value; one that cannot is refused, with the whole input. -/
def erase (check : Check α) (encode : Encoder α) : Check Json := fun input =>
  (check input).bind fun output =>
    match encode output with
    | .ok value => .ok value
    | .error reason => .fail (.unrepresentable reason input)

/-! ## Parts -/

/-- One check on all items of an array from a position on, up to the first failure. -/
def eachItem (check : Check α) : Nat → List Json → Outcome (List α)
  | _, [] => .ok []
  | index, item :: rest =>
    ((check (some item)).atIndex index).bind fun output =>
      (eachItem check (index + 1) rest).map (output :: ·)

/-- A check for each item of an array from a position on, up to the first failure. -/
def eachPart : List (Check α) → Nat → List Json → Outcome (List α)
  | check :: checks, index, item :: rest =>
    ((check (some item)).atIndex index).bind fun output =>
      (eachPart checks (index + 1) rest).map (output :: ·)
  | _, _, _ => .ok []

/-- One check on the values of keys of an object, up to the first failure. -/
def eachKey (check : Check α) (entries : Entries Json) : List String → Outcome (Entries α)
  | [] => .ok []
  | key :: rest =>
    ((check (entries.lookup key)).atKey key).bind fun output =>
      (eachKey check entries rest).map ((key, output) :: ·)

/-- An array with equal items. -/
def array (item : Check α) : Check (List α)
  | some (.arr values) => eachItem item 0 values
  | input => .fail (.typeMismatch "array" input)

/-- An array with one check for each item. -/
def tuple (items : List (Check α)) : Check (List α)
  | some (.arr values) =>
    if values.length = items.length then eachPart items 0 values
    else .fail (.tupleLength items.length values.length (some (.arr values)))
  | input => .fail (.typeMismatch "array" input)

/-- An object with equal values, in the order of its keys. -/
def record (value : Check α) : Check (Entries α)
  | some (.obj entries) => eachKey value entries (Entries.sortedKeys entries)
  | input => .fail (.typeMismatch "object" input)

end Check

end Conform
