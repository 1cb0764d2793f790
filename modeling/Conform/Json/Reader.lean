/-
  Conform JSON: reading text.

  * `Due`, `Frame`, `State`: what may follow, the brackets that are open with what
    they hold so far, and the two together.
  * `State.step`: one lexeme moves a state on or has a flaw; `State.finish` is the
    end of the text. Reading is a fold of `step` over the lexemes.
  * `Json.read`: the value of a text, or its fault.
  * `maxDepth`: brackets nest at most 127 deep, which is the number of frames.
-/
import Conform.Json.Entries
import Conform.Json.Lexeme

namespace Conform.Json

/-- The greatest number of brackets that may be open at once. -/
def maxDepth : Nat := 127

/-- What may follow in a text. -/
inductive Due
  /-- a value -/
  | value
  /-- a value, or the end of an empty array -/
  | firstItem
  /-- a value after a comma -/
  | nextItem
  /-- a key, or the end of an empty object -/
  | firstKey
  /-- a key after a comma -/
  | nextKey
  /-- a colon after a key -/
  | colon (key : String)
  /-- a comma or a closing bracket -/
  | separator
  /-- nothing after the document -/
  | nothing (document : Json)

/-- An open bracket with what it holds so far. -/
inductive Frame
  /-- an array, its items in reverse -/
  | array (items : List Json)
  /-- an object -/
  | object (entries : Entries Json)
  /-- an object that waits for the value of a key -/
  | member (entries : Entries Json) (key : String)

/-- What may follow, and the open brackets from the innermost outwards. -/
structure State where
  due : Due
  frames : List Frame

namespace State

/-- At the start of a text a value is due. -/
def start : State := ⟨.value, []⟩

/-- A value is complete and goes into the innermost bracket. -/
def settle (order : KeyOrder) (value : Json) : List Frame → State
  | [] => ⟨.nothing value, []⟩
  | .array items :: outer => ⟨.separator, .array (value :: items) :: outer⟩
  | .object entries :: outer => ⟨.separator, .object entries :: outer⟩
  | .member entries key :: outer =>
    ⟨.separator, .object (order.insert key value entries) :: outer⟩

/-- The innermost bracket closes. -/
def close (order : KeyOrder) : List Frame → State
  | [] => ⟨.nothing .null, []⟩
  | .array items :: outer => settle order (.arr items.reverse) outer
  | .object entries :: outer => settle order (.obj entries) outer
  | .member entries _ :: outer => settle order (.obj entries) outer

/-- A bracket opens, unless too many are open. -/
def openBracket (lexeme : Lexeme) (due : Due) (frame : Frame) (frames : List Frame) :
    Except Flaw State :=
  if frames.length < maxDepth then .ok ⟨due, frame :: frames⟩
  else .error (.after .tooDeep lexeme.text)

/-- A lexeme where a value is due. -/
def beginValue (order : KeyOrder) (frames : List Frame) (lexeme : Lexeme) : Except Flaw State :=
  match lexeme.token with
  | .scalar value => .ok (settle order value frames)
  | .string s => .ok (settle order (.str s) frames)
  | .arrayOpen => openBracket lexeme .firstItem (.array []) frames
  | .objectOpen => openBracket lexeme .firstKey (.object []) frames
  | .bad flaw => .error flaw
  | .badString flaw => .error flaw
  | _ => .error (.after .expectedValue lexeme.text)

/-- A lexeme where a key is due. -/
def beginMember (frames : List Frame) (lexeme : Lexeme) : Except Flaw State :=
  match lexeme.token with
  | .string key => .ok ⟨.colon key, frames⟩
  | .badString flaw => .error flaw
  | _ => .error (.after .keyNotString lexeme.text)

/-- A value is due for `key`. -/
def awaitValue (key : String) : List Frame → State
  | .object entries :: outer => ⟨.value, .member entries key :: outer⟩
  | frames => ⟨.value, frames⟩

/-- A lexeme after an item or an entry. -/
def separate (order : KeyOrder) (frames : List Frame) (lexeme : Lexeme) : Except Flaw State :=
  match frames with
  | .array _ :: _ =>
    match lexeme.token with
    | .comma => .ok ⟨.nextItem, frames⟩
    | .arrayClose => .ok (close order frames)
    | _ => .error (.after .expectedListComma lexeme.text)
  | _ =>
    match lexeme.token with
    | .comma => .ok ⟨.nextKey, frames⟩
    | .objectClose => .ok (close order frames)
    | _ => .error (.after .expectedObjectComma lexeme.text)

/-- One lexeme moves a state on, or has a flaw. -/
def step (order : KeyOrder) (state : State) (lexeme : Lexeme) : Except Flaw State :=
  match state.due, lexeme.token with
  | .value, _ => beginValue order state.frames lexeme
  | .firstItem, .arrayClose => .ok (close order state.frames)
  | .firstItem, _ => beginValue order state.frames lexeme
  | .nextItem, .arrayClose => .error (.after .trailingComma lexeme.text)
  | .nextItem, _ => beginValue order state.frames lexeme
  | .firstKey, .objectClose => .ok (close order state.frames)
  | .firstKey, _ => beginMember state.frames lexeme
  | .nextKey, .objectClose => .error (.after .trailingComma lexeme.text)
  | .nextKey, _ => beginMember state.frames lexeme
  | .colon key, .colon => .ok (awaitValue key state.frames)
  | .colon _, _ => .error (.after .expectedColon lexeme.text)
  | .separator, _ => separate order state.frames lexeme
  | .nothing _, _ => .error (.after .trailingText lexeme.text)

/-- The end of the text. -/
def finish (state : State) : Except Flaw Json :=
  match state.due, state.frames with
  | .nothing document, _ => .ok document
  | .firstItem, _ => .error (.atEnd .eofInList)
  | .separator, .array _ :: _ => .error (.atEnd .eofInList)
  | .firstKey, _ => .error (.atEnd .eofInObject)
  | .colon _, _ => .error (.atEnd .eofInObject)
  | .separator, _ => .error (.atEnd .eofInObject)
  | .value, _ => .error (.atEnd .eofInValue)
  | .nextItem, _ => .error (.atEnd .eofInValue)
  | .nextKey, _ => .error (.atEnd .eofInValue)

end State

/-- The value of a row of lexemes. -/
def ofLexemes (order : KeyOrder) (lexemes : List Lexeme) : Except Flaw Json := do
  let state ← lexemes.foldlM (State.step order) State.start
  state.finish

/-- The value of a text, its objects in the given key order, or the fault that the text has. -/
def read (order : KeyOrder) (text : String) : Except Fault Json :=
  match ofLexemes order (scan text.toList) with
  | .ok value => .ok value
  | .error flaw => .error (flaw.locate text.toList)

end Conform.Json
