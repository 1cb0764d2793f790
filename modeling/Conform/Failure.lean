/-
  Conform: failed validations.

  * `Segment`: one step from a value to a part of it.
  * `Failure`: a code, a message, the value that was refused, the path from the
    checked value to that value, and the failures behind this one.
  * `Failure.atKey`, `Failure.atIndex`: the failure of a part as a failure of the
    whole; only the outer path grows, not those of the causes.
  * `Failure.reworded`: a failure as the cause of one with another message.
  * `Failure.typeMismatch` and the functions after it: one for each way in which a
    check refuses a value, with its wording.
  * `Failure.display`: a failure as one line of text.
-/
import Conform.Kind
import Conform.Json.Entries
import Conform.Json.Fault
import Conform.Json.Printer

namespace Conform

/-- A step from a value to a part of it. -/
inductive Segment
  /-- the value of an entry of an object -/
  | key (name : String)
  /-- an item of an array -/
  | index (position : Nat)
deriving DecidableEq

/-- A step as text; a key stands as it is. -/
def Segment.text : Segment → String
  | .key name => "." ++ name
  | .index position => "[" ++ Numeral.text position ++ "]"

/-- Steps as text, one after the other. -/
def stepsText : List Segment → String
  | [] => ""
  | segment :: rest => segment.text ++ stepsText rest

/-- A path as text, from the checked value `$` on. -/
def pathText (path : List Segment) : String := "$" ++ stepsText path

/-- A failed validation. -/
structure Failure where
  /-- the kind of failure, as one word -/
  code : String
  message : String
  /-- the refused value, if there was one -/
  input : Option Json := none
  /-- the steps from the checked value to the refused one -/
  path : List Segment := []
  /-- the failures behind this one, in order -/
  causes : List Failure := []

namespace Failure

/-- A failure with nothing but a code and a message. -/
def new (code message : String) : Failure := { code, message }

/-! ## Wordings -/

/-- A value of the wrong kind. -/
def typeMismatch (expected : String) (input : Option Json) : Failure where
  code := "type_mismatch"
  message := "expected " ++ expected ++ ", found " ++ (Kind.of input).name
  input := input

/-- A failure of a custom check. -/
def custom (message : String) : Failure := new "custom" message

/-- A value other than the one that is expected. -/
def literal (expected : Json) (input : Option Json) : Failure where
  code := "literal"
  message := "expected literal " ++ expected.text
  input := input

/-- A string that is none of the given ones. -/
def notEnumerated (variants : List String) (input : Option Json) : Failure where
  code := "enum"
  message := "expected one of: " ++ String.intercalate ", " variants
  input := input

/-- A string in which a pattern has no match. -/
def noMatch (pattern : String) (input : Option Json) : Failure where
  code := "pattern"
  message := "expected a string matching `" ++ pattern ++ "`"
  input := input

/-- A string that is no JSON text. -/
def badJson (fault : Json.Fault) (input : Option Json) : Failure where
  code := "json"
  message := "invalid JSON: " ++ fault.message
  input := input

/-- An array of the wrong length. -/
def tupleLength (expected found : Nat) (input : Option Json) : Failure where
  code := "tuple_length"
  message := "expected " ++ Numeral.text expected ++ " elements, found " ++ Numeral.text found
  input := input

/-- A key that no field declares. -/
def unknownKey (key : String) (value : Json) : Failure where
  code := "unknown_key"
  message := "unexpected key `" ++ key ++ "`"
  input := some value
  path := [.key key]

/-- A value that no alternative accepts. -/
def noAlternative (input : Option Json) (causes : List Failure) : Failure where
  code := "union"
  message := "no alternative matched"
  input := input
  causes := causes

/-- A result that has no JSON value, for a reason. -/
def unrepresentable (reason : String) (input : Option Json) : Failure where
  code := "output"
  message := "validated value is not representable: " ++ reason
  input := input

/-! ## Changes -/

/-- The failure with another refused value. -/
def withInput (failure : Failure) (input : Option Json) : Failure := { failure with input }

/-- The failure with another message. -/
def withMessage (failure : Failure) (message : String) : Failure := { failure with message }

/-- The failure with other causes in place of its own. -/
def withCauses (failure : Failure) (causes : List Failure) : Failure := { failure with causes }

/-- The failure of a part as a failure of the whole. -/
def within (failure : Failure) (segment : Segment) : Failure :=
  { failure with path := segment :: failure.path }

/-- The failure of an entry as a failure of the object. -/
def atKey (failure : Failure) (key : String) : Failure := failure.within (.key key)

/-- The failure of an item as a failure of the array. -/
def atIndex (failure : Failure) (index : Nat) : Failure := failure.within (.index index)

/-- A failure behind another that has its own message, and its own code if there is one. -/
def reworded (failure : Failure) (message : String) (code : Option String) : Failure where
  code := code.getD failure.code
  message := message
  input := failure.input
  path := failure.path
  causes := [failure]

/-! ## Views -/

/-- The path as text. -/
def pathString (failure : Failure) : String := pathText failure.path

/-- The message, after the path unless that is empty. -/
def display (failure : Failure) : String :=
  if failure.path.isEmpty then failure.message else failure.pathString ++ ": " ++ failure.message

/-- There are failures behind this one. -/
def hasCauses (failure : Failure) : Bool := !failure.causes.isEmpty

end Failure

end Conform
