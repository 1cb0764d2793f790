/-
  Conform regular expressions: reading their text.

  * `Regex.ofString?`: the expression that a text denotes. It knows literals, `.`,
    classes in brackets, `^`, `$`, `*`, `+`, `?`, counts in braces, groups, `|`,
    the switch `(?i)`, the classes `d`, `w`, `s` and the boundary `b` after a
    backslash with their opposites, and escapes of punctuation.
  * `Pattern`: an expression with its text.

  Reading is a fold of `Regex.State.step` over the characters, with the open groups
  in a list.
-/
import Conform.Numeric.Numeral
import Conform.Regex.Bracket
import Conform.Regex.Search

namespace Conform

namespace Regex

/-- A group that is being read: alternatives that are complete, and the parts of the last one in
    reverse. -/
structure Group where
  alternatives : List (Regex CharSet)
  parts : List (Regex CharSet)
  caseless : Bool

/-- Where in an expression a reader is. -/
inductive Mode
  /-- between parts -/
  | plain
  /-- after a repetition, which a `?` may make a lazy one -/
  | repeated
  /-- after a backslash -/
  | escape
  /-- after an opening parenthesis -/
  | opened
  /-- after an opening parenthesis and a `?`, with the switches so far, and whether they are
      switched off -/
  | switches (caseless : Option Bool) (off : Bool)
  /-- inside brackets -/
  | bracket (inside : Bracket)
  /-- inside braces: the digits before and, after a comma, behind it -/
  | count (least : List Char) (most : Option (List Char))

/-- Where a reader is, the group it reads, and the groups around that one. -/
structure State where
  mode : Mode
  group : Group
  outer : List Group

/-! ## Groups -/

/-- A sequence of parts given in reverse. -/
def ofParts (parts : List (Regex CharSet)) : Regex CharSet :=
  parts.foldl (fun rest part => if rest = .empty then part else .seq part rest) .empty

/-- The expression of a group. -/
def Group.close (group : Group) : Regex CharSet :=
  group.alternatives.foldl (fun right left => .alt left right) (ofParts group.parts)

/-- A further part. -/
def Group.push (group : Group) (part : Regex CharSet) : Group :=
  { group with parts := part :: group.parts }

/-- A further part that is one character of a set. -/
def Group.pushSet (group : Group) (set : CharSet) : Group :=
  group.push (.char (if group.caseless then .caseless set else set))

/-- The last part repeated. -/
def Group.repeatLast? (group : Group) (least : Nat) (most : Option Nat) : Option Group :=
  match group.parts with
  | [] => none
  | part :: parts => some { group with parts := .times part least most :: parts }

/-! ## Places -/

/-- The place that a letter after a backslash denotes. -/
def escapedPlace? (c : Char) : Option (Regex CharSet) :=
  match c with
  | 'b' => some .wordBoundary
  | 'B' => some .noWordBoundary
  | 'A' => some .textStart
  | 'z' => some .textEnd
  | _ => none

/-! ## Counts -/

/-- The least and the greatest number of repetitions; without a comma they are equal. -/
def bounds? (least : List Char) (most : Option (List Char)) : Option (Nat × Option Nat) :=
  if Numeral.isDigits least = false then none
  else
    let least := Numeral.toNat least
    match most with
    | none => some (least, some least)
    | some [] => some (least, none)
    | some digits =>
      let most := Numeral.toNat digits
      if least ≤ most then some (least, some most) else none

/-! ## Steps -/

namespace State

/-- At the start of an expression. -/
def start : State := ⟨.plain, ⟨[], [], false⟩, []⟩

/-- A group opens. -/
def openGroup (state : State) (caseless : Bool) : State :=
  ⟨.plain, ⟨[], [], caseless⟩, state.group :: state.outer⟩

/-- The last part is repeated. -/
def repeatLast? (state : State) (least : Nat) (most : Option Nat) : Option State :=
  (state.group.repeatLast? least most).map fun group => { state with mode := .repeated, group }

/-- A further part. -/
def push (state : State) (part : Regex CharSet) : State :=
  { state with mode := .plain, group := state.group.push part }

/-- A further part that is one character of a set. -/
def pushSet (state : State) (set : CharSet) : State :=
  { state with mode := .plain, group := state.group.pushSet set }

/-- One character between parts. -/
def plainStep (state : State) (c : Char) : Option State :=
  if c = '\\' then some { state with mode := .escape }
  else if c = '[' then some { state with mode := .bracket .start }
  else if c = '(' then some { state with mode := .opened }
  else if c = ')' then
    match state.outer with
    | [] => none
    | group :: outer => some ⟨.plain, group.push state.group.close, outer⟩
  else if c = '|' then
    let group := state.group
    some { state with
      mode := .plain
      group := ⟨ofParts group.parts :: group.alternatives, [], group.caseless⟩ }
  else if c = '*' then state.repeatLast? 0 none
  else if c = '+' then state.repeatLast? 1 none
  else if c = '?' then state.repeatLast? 0 (some 1)
  else if c = '\x7b' then some { state with mode := .count [] none }
  else if c = '^' then some (state.push .textStart)
  else if c = '$' then some (state.push .textEnd)
  else if c = '.' then some (state.push (.char .dot))
  else some (state.pushSet (.single c))

/-- One character after a backslash. -/
def escapeStep (state : State) (c : Char) : Option State :=
  match escapedSet? c, escapedPlace? c, escapedChar? c with
  | some set, _, _ => some (state.pushSet set)
  | _, some place, _ => some (state.push place)
  | _, _, some c => some (state.pushSet (.single c))
  | _, _, _ => none

/-- One character after an opening parenthesis and a `?`. -/
def switchStep (state : State) (caseless : Option Bool) (off : Bool) (c : Char) : Option State :=
  let chosen := caseless.getD state.group.caseless
  if c = ':' then some (state.openGroup chosen)
  else if c = ')' then
    if caseless.isNone then none
    else some { state with mode := .plain, group := { state.group with caseless := chosen } }
  else if c = 'i' then some { state with mode := .switches (some !off) off }
  else if c = '-' ∧ off = false then some { state with mode := .switches caseless true }
  else none

/-- One character inside braces. -/
def countStep (state : State) (least : List Char) (most : Option (List Char)) (c : Char) :
    Option State :=
  if c = '\x7d' then
    (bounds? least most).bind fun (least, most) => state.repeatLast? least most
  else if c.isDigit then
    match most with
    | none => some { state with mode := .count (least ++ [c]) none }
    | some digits => some { state with mode := .count least (some (digits ++ [c])) }
  else if c = ',' ∧ most.isNone then some { state with mode := .count least (some []) }
  else none

/-- One character of an expression. -/
def step (state : State) (c : Char) : Option State :=
  match state.mode with
  | .plain => state.plainStep c
  | .repeated => if c = '?' then some { state with mode := .plain } else state.plainStep c
  | .escape => state.escapeStep c
  | .opened =>
    if c = '?' then some { state with mode := .switches none false }
    else (state.openGroup state.group.caseless).plainStep c
  | .switches caseless off => state.switchStep caseless off c
  | .bracket inside =>
    if c = ']' && !inside.fresh && !inside.escape then
      some { state with
        mode := .plain
        group := state.group.push (.char (inside.close state.group.caseless)) }
    else (inside.step c).map fun inside => { state with mode := .bracket inside }
  | .count least most => state.countStep least most c

/-- The end of an expression. -/
def finish? (state : State) : Option (Regex CharSet) :=
  match state.mode, state.outer with
  | .plain, [] => some state.group.close
  | .repeated, [] => some state.group.close
  | _, _ => none

end State

/-- The expression that a text denotes. -/
def ofString? (source : String) : Option (Regex CharSet) :=
  (source.toList.foldlM State.step State.start).bind State.finish?

end Regex

/-- A regular expression with its text. -/
structure Pattern where
  source : String
  regex : Regex CharSet

namespace Pattern

/-- The pattern with a given text. -/
def ofString? (source : String) : Option Pattern :=
  (Regex.ofString? source).map fun regex => { source, regex }

/-- Some part of the text matches. -/
def search (pattern : Pattern) (s : String) : Bool := pattern.regex.search s

end Pattern

end Conform
