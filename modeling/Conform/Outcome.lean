/-
  Conform: results of checks, with what the checks report on their way.

  * `Event`: what a check reports while it runs, with the wording of its record.
  * `Traced`: a value and the events before it, in order.
  * `Outcome`: a traced value or failure. `Outcome.bind` goes on after a success
    and keeps the events of both parts.
  * `Outcome.unwrap`, `Outcome.valueOr`, `Outcome.valueOrElse`: the value of an
    outcome, and what to do where there is none.
-/
import Conform.Failure

namespace Conform

/-! ## Events -/

/-- What a check reports while it runs. -/
inductive Event
  /-- an item of an array was refused -/
  | elementRejected (index : Nat) (code : String)
  /-- an entry of an object was refused -/
  | fieldRejected (key : String) (code : String)
  /-- an object has a key that no field declares -/
  | undeclaredKey (key : String)
  /-- all of so many alternatives were refused -/
  | noAlternative (count : Nat)
  /-- the value of a failed validation was asked for -/
  | unwrapped (code : String) (path : String)
deriving DecidableEq

namespace Event

/-- How grave an event is. -/
def level : Event → String
  | unwrapped _ _ => "ERROR"
  | _ => "TRACE"

/-- What happened. -/
def message : Event → String
  | elementRejected _ _ => "element rejected"
  | fieldRejected _ _ => "object field rejected"
  | undeclaredKey _ => "object rejected undeclared key"
  | noAlternative _ => "no union alternative matched"
  | unwrapped _ _ => "unwrapped a failed validation"

/-- The details of an event. -/
def fields : Event → List (String × String)
  | elementRejected index code => [("index", Numeral.text index), ("code", code)]
  | fieldRejected key code => [("key", key), ("code", code)]
  | undeclaredKey key => [("key", key)]
  | noAlternative count => [("alternatives", Numeral.text count)]
  | unwrapped code path => [("code", code), ("path", path)]

end Event

/-! ## Traced values -/

/-- A value and the events before it. -/
structure Traced (α : Type) where
  events : List Event
  result : α

/-- The value or the failure of a check, and the events before it. -/
abbrev Outcome (α : Type) := Traced (Except Failure α)

/-- The same events with another result. -/
def Traced.map {α β : Type} (f : α → β) (traced : Traced α) : Traced β :=
  ⟨traced.events, f traced.result⟩

/-- Events that come before a traced value. -/
def Traced.after {α : Type} (events : List Event) (traced : Traced α) : Traced α :=
  ⟨events ++ traced.events, traced.result⟩

namespace Outcome

variable {α β : Type}

/-- A success without events. -/
def ok (value : α) : Outcome α := ⟨[], .ok value⟩

/-- A failure without events. -/
def fail (failure : Failure) : Outcome α := ⟨[], .error failure⟩

/-- Goes on after a success. -/
def bind (outcome : Outcome α) (next : α → Outcome β) : Outcome β :=
  match outcome.result with
  | .ok value => (next value).after outcome.events
  | .error failure => ⟨outcome.events, .error failure⟩

/-- The value of a success changed. -/
def map (f : α → β) (outcome : Outcome α) : Outcome β := Traced.map (Except.map f) outcome

/-- The failure changed. -/
def mapFailure (f : Failure → Failure) (outcome : Outcome α) : Outcome α :=
  Traced.map (Except.mapError f) outcome

/-- The outcome of a part as that of the whole: a failure is reported and its path extended. -/
def within (outcome : Outcome α) (segment : Segment) (event : String → Event) : Outcome α :=
  match outcome.result with
  | .ok _ => outcome
  | .error failure => ⟨outcome.events ++ [event failure.code], .error (failure.within segment)⟩

/-- The outcome of an item as that of its array. -/
def atIndex (outcome : Outcome α) (index : Nat) : Outcome α :=
  outcome.within (.index index) (.elementRejected index)

/-- The outcome of an entry as that of its object. -/
def atKey (outcome : Outcome α) (key : String) : Outcome α :=
  outcome.within (.key key) (.fieldRejected key)

/-- The check succeeded. -/
def isOk (outcome : Outcome α) : Bool :=
  match outcome.result with
  | .ok _ => true
  | .error _ => false

/-! ## Leaving the outcome -/

/-- The value, or the text with which a program stops that asked for the value of a failure. -/
def unwrap (outcome : Outcome α) : Traced (Except String α) :=
  match outcome.result with
  | .ok value => ⟨[], .ok value⟩
  | .error failure =>
    ⟨[.unwrapped failure.code failure.pathString],
      .error ("validation failed: " ++ failure.display)⟩

/-- The value, or a given one. -/
def valueOr (outcome : Outcome α) (fallback : α) : α :=
  match outcome.result with
  | .ok value => value
  | .error _ => fallback

/-- The value, or one made from the failure. -/
def valueOrElse (outcome : Outcome α) (fallback : Failure → α) : α :=
  match outcome.result with
  | .ok value => value
  | .error failure => fallback failure

end Outcome

end Conform
