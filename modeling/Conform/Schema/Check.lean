/-
  Conform schemas: checking a value.

  * `Schema.check`: the outcome of a schema on a value that may be absent.
  * `Attempts`: what came of trying alternatives in order.
  * `Schema.checks`, `Schema.checkFields`, `Schema.checkAlternatives`: the checks of
    schemas in a row, of fields, and of alternatives.

  All recursion is on the schema. Failures of parts are moved outwards by
  `Outcome.atIndex` and `Outcome.atKey`, which report them and extend their paths.
-/
import Conform.Json.Reader
import Conform.Schema.Basic

namespace Conform

/-! ## Leaves with parameters -/

/-- The text of a string goes on; anything else is refused. -/
def withString (expected : String) (input : Option Json) (next : String → Outcome Json) :
    Outcome Json :=
  match input with
  | some (.str s) => next s
  | _ => .fail (.typeMismatch expected input)

/-- Exactly one value; the result is the checked value itself. -/
def checkLiteral (expected : Json) (input : Option Json) : Outcome Json :=
  match input with
  | some value => if value.same expected then .ok value else .fail (.literal expected input)
  | none => .fail (.literal expected input)

/-- One of some strings. -/
def checkEnums (variants : List String) (input : Option Json) : Outcome Json :=
  withString "string" input fun s =>
    if s ∈ variants then .ok (.str s) else .fail (.notEnumerated variants input)

/-- A string in which a pattern has a match. -/
def checkPattern (pattern : Pattern) (input : Option Json) : Outcome Json :=
  withString "string" input fun s =>
    if pattern.search s then .ok (.str s) else .fail (.noMatch pattern.source input)

/-! ## Objects -/

/-- An entry of a result is left out if it is `null` and the object has no such key. -/
def dropAbsent (entries outputs : Entries Json) : Entries Json :=
  outputs.filter fun (key, output) => !output.isNull || entries.hasKey key

/-- The first entry whose key is not declared is refused. -/
def refuseUndeclared (declared : List String) (entries : Entries Json) : Outcome Unit :=
  match entries.find? fun entry => !declared.contains entry.1 with
  | none => .ok ()
  | some (key, value) => ⟨[.undeclaredKey key], .error (.unknownKey key value)⟩

/-! ## Alternatives -/

/-- The value of the first alternative that accepted, or the failures of all. -/
abbrev Attempts := Traced (Except (List Failure) Json)

namespace Attempts

/-- No alternative is left. -/
def none : Attempts := ⟨[], .error []⟩

/-- An alternative, and the later ones if it refuses. -/
def before (first : Outcome Json) (later : Unit → Attempts) : Attempts :=
  match first.result with
  | .ok output => ⟨first.events, .ok output⟩
  | .error failure => ((later ()).map (Except.mapError (failure :: ·))).after first.events

/-- Where all alternatives refused, their failures are the causes of one. -/
def settle (input : Option Json) (attempts : Attempts) : Outcome Json :=
  match attempts.result with
  | .ok output => ⟨attempts.events, .ok output⟩
  | .error causes =>
    ⟨attempts.events ++ [.noAlternative causes.length], .error (.noAlternative input causes)⟩

end Attempts

namespace Schema

mutual

/-- The outcome of a schema on a value that may be absent. Objects in results, and those read from
    JSON text, keep their keys in the given order. -/
def check (order : KeyOrder) : Schema → Check Json
  | leaf l, input => l.check input
  | literal expected, input => checkLiteral expected input
  | enums variants, input => checkEnums variants input
  | pattern p, input => checkPattern p input
  | rule f, input => f input
  | jsonString inner, input =>
    withString "JSON string" input fun s =>
      match Json.read order s with
      | .ok value => check order inner (some value)
      | .error fault => .fail (.badJson fault input)
  | array item, input => (Check.array (check order item)).map .arr input
  | tuple items, input => (Check.tuple (checks order items)).map .arr input
  | record value, input => (Check.record (check order value)).map .obj input
  | object fields denyUnknown, input =>
    match input with
    | some (.obj entries) =>
      let unknown :=
        if denyUnknown then refuseUndeclared (fields.map Prod.fst) entries else .ok ()
      (checkFields order fields entries).bind fun outputs =>
        unknown.map fun _ => .obj (order.ofList (dropAbsent entries outputs))
    | _ => .fail (.typeMismatch "object" input)
  | typedRecord fields, input =>
    match input with
    | some (.obj entries) =>
      (checkFields order fields entries).map fun outputs => .obj (order.ofList outputs)
    | _ => .fail (.typeMismatch "object" input)
  | optional inner, input =>
    match input with
    | none => .ok .null
    | some _ => check order inner input
  | nullable inner, input =>
    match input with
    | some .null => .ok .null
    | _ => check order inner input
  | withDefault inner fallback, input =>
    match input with
    | none => .ok fallback
    | some _ => check order inner input
  | withMessage inner message code, input =>
    (check order inner input).mapFailure (·.reworded message code)
  | map inner f, input => (Check.map (check order inner) f).erase .keyed input
  | tryMap inner f, input => (check order inner input).bind f
  | chain base steps, input =>
    (check order base input).map fun output => steps.foldl (fun value step => step value) output
  | union alternatives, input => (checkAlternatives order alternatives input).settle input
  | orElse left right, input =>
    (Attempts.before (check order left input) fun _ =>
      .before (check order right input) fun _ => .none).settle input

/-- The checks of schemas, one after the other. -/
def checks (order : KeyOrder) : List Schema → List (Check Json)
  | [] => []
  | schema :: rest => check order schema :: checks order rest

/-- A schema for each field, on the value of its key, up to the first failure. -/
def checkFields (order : KeyOrder) : List (String × Schema) → Entries Json → Outcome (Entries Json)
  | [], _ => .ok []
  | (key, field) :: fields, entries =>
    ((check order field (entries.lookup key)).atKey key).bind fun output =>
      (checkFields order fields entries).map ((key, output) :: ·)

/-- The alternatives one after the other, up to the first that accepts. -/
def checkAlternatives (order : KeyOrder) : List Schema → Option Json → Attempts
  | [], _ => .none
  | alternative :: rest, input =>
    .before (check order alternative input) fun _ => checkAlternatives order rest input

end

end Schema

end Conform
