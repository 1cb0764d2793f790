/-
  Conform JSON: values as compact text.

  * `Json.chars`, `Json.text`: a value without spaces, entries in the order in
    which they stand.
  * `Json.escape`: one character of a string. Quote, backslash and the characters
    below U+0020 are escaped, all others are written as they are.
-/
import Conform.Json.Basic
import Conform.Numeric.Layout

namespace Conform

/-- A number: digits of a whole number, or a double with a point or an exponent. -/
def Number.chars : Number → List Char
  | .int n => Numeral.ofInt n
  | .float x => Layout.json.write x

namespace Json

/-- One lower-case hexadecimal digit. -/
def hexDigit (n : Nat) : Char := Nat.digitChar n

/-- One character inside a string. -/
def escape (c : Char) : List Char :=
  if c = '"' then ['\\', '"']
  else if c = '\\' then ['\\', '\\']
  else if c = '\x08' then ['\\', 'b']
  else if c = '\x0c' then ['\\', 'f']
  else if c = '\n' then ['\\', 'n']
  else if c = '\r' then ['\\', 'r']
  else if c = '\t' then ['\\', 't']
  else if c.toNat < 0x20 then
    ['\\', 'u', '0', '0', hexDigit (c.toNat / 16), hexDigit (c.toNat % 16)]
  else [c]

/-- A string in quotes. -/
def stringChars (s : String) : List Char := '"' :: s.toList.flatMap escape ++ ['"']

mutual

/-- A value as compact text. -/
def chars : Json → List Char
  | .null => ['n', 'u', 'l', 'l']
  | .bool true => ['t', 'r', 'u', 'e']
  | .bool false => ['f', 'a', 'l', 's', 'e']
  | .num n => n.chars
  | .str s => stringChars s
  | .arr items => '[' :: itemChars items ++ [']']
  | .obj entries => '\x7b' :: entryChars entries ++ ['\x7d']

/-- Items with commas between them. -/
def itemChars : List Json → List Char
  | [] => []
  | [item] => chars item
  | item :: rest => chars item ++ ',' :: itemChars rest

/-- Entries with commas between them. -/
def entryChars : List (String × Json) → List Char
  | [] => []
  | [(key, value)] => stringChars key ++ ':' :: chars value
  | (key, value) :: rest => stringChars key ++ ':' :: chars value ++ ',' :: entryChars rest

end

/-- A value as compact text. -/
def text (value : Json) : String := String.ofList value.chars

end Json

end Conform
