/-
  Conform JSON: what can be wrong with JSON text, and where.

  * `Flaw.Reason`: the ways in which a text fails to be JSON, with their wording.
  * `Flaw`: a reason with its place, given by what is left of the text there.
  * `Fault`: a reason with the line and the column of its place; columns count
    bytes.
  * `Flaw.locate`: from a flaw in a text to a fault.
-/
import Conform.Numeric.Numeral

namespace Conform.Json

/-- The ways in which a text fails to be JSON. -/
inductive Flaw.Reason
  /-- the text ends where a value is due or has begun -/
  | eofInValue
  /-- the text ends inside a list -/
  | eofInList
  /-- the text ends inside an object -/
  | eofInObject
  /-- the text ends inside a string -/
  | eofInString
  /-- no value begins here -/
  | expectedValue
  /-- a word other than `null`, `true` and `false` -/
  | expectedIdent
  /-- no comma or bracket after an item -/
  | expectedListComma
  /-- no comma or brace after an entry -/
  | expectedObjectComma
  /-- no colon after a key -/
  | expectedColon
  /-- a key that is no string -/
  | keyNotString
  /-- a comma with nothing after it -/
  | trailingComma
  /-- text after the document -/
  | trailingText
  /-- brackets too deep -/
  | tooDeep
  /-- a number that breaks off or has a leading zero -/
  | invalidNumber
  /-- a number beyond the largest double -/
  | numberOutOfRange
  /-- a raw control character in a string -/
  | controlInString
  /-- an escape that means nothing -/
  | invalidEscape
  /-- half of a surrogate pair in a wrong place -/
  | loneSurrogate
  /-- a first half of a surrogate pair without an escape after it -/
  | endOfSurrogate
deriving DecidableEq

/-- The wording of a reason. -/
def Flaw.Reason.message : Flaw.Reason → String
  | .eofInValue => "EOF while parsing a value"
  | .eofInList => "EOF while parsing a list"
  | .eofInObject => "EOF while parsing an object"
  | .eofInString => "EOF while parsing a string"
  | .expectedValue => "expected value"
  | .expectedIdent => "expected ident"
  | .expectedListComma => "expected `,` or `]`"
  | .expectedObjectComma => "expected `,` or `\x7d`"
  | .expectedColon => "expected `:`"
  | .keyNotString => "key must be a string"
  | .trailingComma => "trailing comma"
  | .trailingText => "trailing characters"
  | .tooDeep => "recursion limit exceeded"
  | .invalidNumber => "invalid number"
  | .numberOutOfRange => "number out of range"
  | .controlInString => "control character (\\u0000-\\u001F) found while parsing a string"
  | .invalidEscape => "invalid escape"
  | .loneSurrogate => "lone leading surrogate in hex escape"
  | .endOfSurrogate => "unexpected end of hex escape"

/-- A reason and its place: `bytes` bytes into `rest`, the end of the text that begins there. -/
structure Flaw where
  reason : Flaw.Reason
  rest : List Char
  bytes : Nat

theorem bind_eq_ok {α β : Type} {x : Except Flaw α} {f : α → Except Flaw β} {b : β} :
    x >>= f = .ok b ↔ ∃ a, x = .ok a ∧ f a = .ok b := by
  cases x <;> simp [bind, Except.bind]

/-- A flaw at the end of the text. -/
def Flaw.atEnd (reason : Flaw.Reason) : Flaw := ⟨reason, [], 0⟩

/-- A flaw just after the first byte of `rest`, or at the end of the text. -/
def Flaw.after (reason : Flaw.Reason) (rest : List Char) : Flaw := ⟨reason, rest, 1⟩

/-- A reason with its line, counted from 1, and its column, the bytes before it in the line. -/
structure Fault where
  reason : Flaw.Reason
  line : Nat
  column : Nat
deriving DecidableEq

/-- The wording of a fault. -/
def Fault.message (fault : Fault) : String :=
  fault.reason.message ++ " at line " ++ Numeral.text fault.line
    ++ " column " ++ Numeral.text fault.column

/-- The size of a text in bytes of UTF-8. -/
def byteSize : List Char → Nat
  | [] => 0
  | c :: cs => c.utf8Size + byteSize cs

/-- The line and the column after `bytes` more bytes of `cs`, starting from a given place. -/
def advance (line column : Nat) : Nat → List Char → Nat × Nat
  | 0, _ => (line, column)
  | _, [] => (line, column)
  | bytes + 1, c :: cs =>
    if c = '\n' then advance (line + 1) 0 bytes cs
    else if bytes + 1 < c.utf8Size then (line, column + bytes + 1)
    else advance line (column + c.utf8Size) (bytes + 1 - c.utf8Size) cs

/-- The line and column of a flaw in `text`. -/
def Flaw.locate (text : List Char) (flaw : Flaw) : Fault :=
  let (line, column) := advance 1 0 (byteSize text - byteSize flaw.rest + flaw.bytes) text
  ⟨flaw.reason, line, column⟩

end Conform.Json
