/-
  Conform schemas: outlines for people who look for mistakes in them.

  * `quote`: a text in quotes, with escapes where it would not show.
  * `Schema.outline`: a schema as one line of text. Functions have no outline of
    their own; of the fields of an object only the keys are shown.
  * `Shape.outline`, `Shape.objectOutline`: the same for declared fields.
-/
import Conform.Schema.Shape
import Conform.Text.CharClass

namespace Conform

/-! ## Pieces of text -/

/-- One character inside quotes. -/
def escapeQuoted (c : Char) : List Char :=
  if c = '"' then ['\\', '"']
  else if c = '\\' then ['\\', '\\']
  else if c = '\n' then ['\\', 'n']
  else if c = '\r' then ['\\', 'r']
  else if c = '\t' then ['\\', 't']
  else if c.toNat = 0 then ['\\', '0']
  else if Text.isUnshown c || Text.isExtender c then
    '\\' :: 'u' :: '\x7b' :: Nat.toDigits 16 c.toNat ++ ['\x7d']
  else [c]

/-- A text in quotes. -/
def quote (s : String) : String :=
  String.ofList ('"' :: s.toList.flatMap escapeQuoted ++ ['"'])

/-- A name with its named parts. -/
def outlineOf (name : String) (parts : List (String × String)) : String :=
  let inside := parts.map fun (part, text) => part ++ ": " ++ text
  name ++ " \x7b " ++ String.intercalate ", " inside ++ " \x7d"

/-- Texts in brackets. -/
def outlineList (texts : List String) : String :=
  "[" ++ String.intercalate ", " texts ++ "]"

/-- What stands for a function. -/
def outlineFunction : String := quote "<function>"

/-- Declared keys. -/
def outlineKeys (keys : List String) : String :=
  outlineOf "Shape" [("keys", outlineList (keys.map quote))]

/-! ## Schemas and shapes -/

namespace Schema

mutual

/-- A schema as one line of text. -/
def outline : Schema → String
  | leaf l => l.name
  | literal expected => outlineOf "Literal" [("expected", expected.text)]
  | enums variants => outlineOf "Enums" [("variants", outlineList (variants.map quote))]
  | pattern p => outlineOf "Pattern" [("regex", quote p.source)]
  | rule _ => outlineOf "FromFn" [("check", outlineFunction)]
  | jsonString inner => outlineOf "JsonString" [("inner", outline inner)]
  | array item => outlineOf "Array" [("item", outline item)]
  | tuple items => outlineOf "Tuple" [("items", outlineList (outlineAll items))]
  | record value => outlineOf "Record" [("value", outline value)]
  | object fields denyUnknown =>
    outlineOf "Object" [("shape", outlineKeys (Entries.keys fields)),
      ("deny_unknown_keys", if denyUnknown then "true" else "false")]
  | typedRecord _ => outlineOf "FromFn" [("check", outlineFunction)]
  | optional inner => outlineOf "Optional" [("inner", outline inner)]
  | nullable inner => outlineOf "Nullable" [("inner", outline inner)]
  | withDefault inner fallback =>
    outlineOf "Defaulted" [("inner", outline inner), ("fallback", fallback.text)]
  | withMessage inner message _ =>
    outlineOf "WithMessage" [("inner", outline inner), ("message", quote message)]
  | map inner _ => outlineOf "Map" [("inner", outline inner), ("f", outlineFunction)]
  | tryMap inner _ => outlineOf "TryMap" [("inner", outline inner), ("f", outlineFunction)]
  | chain base steps =>
    outlineOf "Chain" [("base", outline base), ("steps", Numeral.text steps.length)]
  | union alternatives =>
    outlineOf "Union" [("alternatives", outlineList (outlineAll alternatives))]
  | orElse left right => outlineOf "Or" [("left", outline left), ("right", outline right)]

/-- Each of some schemas as one line of text. -/
def outlineAll : List Schema → List String
  | [] => []
  | schema :: rest => outline schema :: outlineAll rest

end

end Schema

/-- The declared keys as one line of text. -/
def Shape.outline (shape : Shape) : String := outlineKeys shape.keys

/-- The schema of objects with these fields as one line of text. -/
def Shape.objectOutline (shape : Shape) (denyUnknown : Bool) : String :=
  (shape.object denyUnknown).outline

end Conform
