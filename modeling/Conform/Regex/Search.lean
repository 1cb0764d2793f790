/-
  Conform regular expressions: searching a text.

  * `Places`: a set of places in a text, as the bits of a number. Place `i` lies
    before the character with index `i`.
  * `Subject`: a text as seen by expressions.
  * `Subject.placesBefore`: the places before the characters of a set.
  * `Regex.advance`: the places at which matches end that start at given places,
    for an expression over sets of places.
  * `Regex.search`: some part of a text matches.

  All places are followed at once, so the work is bounded by the size of the
  expression and of the text.
-/
import Conform.Regex.Basic

namespace Conform

/-- A set of places in a text, as the bits of a number. -/
abbrev Places := Nat

/-- A text as seen by expressions. -/
structure Subject where
  chars : List Char
  /-- the number of characters -/
  size : Nat
  /-- the place after the last character -/
  last : Places
  /-- all places -/
  all : Places
  /-- the places between a character of a word and another one, or an end of the text -/
  boundaries : Places

/-- The places in a text before characters with a property. -/
def placesOf (p : Char → Bool) (cs : List Char) : Places :=
  cs.foldr (fun c places => 2 * places + (p c).toNat) 0

/-- A text as seen by expressions. -/
def Subject.ofString (s : String) : Subject :=
  let chars := s.toList
  let size := chars.length
  let words := placesOf Text.isWordChar chars
  { chars
    size
    last := Nat.pow 2 size
    all := Nat.pow 2 (size + 1) - 1
    boundaries := words ^^^ (2 * words) }

/-- The places before the characters of a set. -/
def Subject.placesBefore (subject : Subject) (set : CharSet) : Places :=
  placesOf set.contains subject.chars

/-- A growing set of places under a step, until it stops growing or the bound is reached. -/
def closure (step : Places → Places) : Nat → Places → Places
  | 0, places => places
  | bound + 1, places =>
    let grown := places ||| step places
    if grown = places then places else closure step bound grown

namespace Regex

/-- The places at which matches end that start at one of `places`. -/
def advance (subject : Subject) : Regex Places → Places → Places
  | empty, places => places
  | char set, places => 2 * (places &&& set)
  | textStart, places => places &&& 1
  | textEnd, places => places &&& subject.last
  | wordBoundary, places => places &&& subject.boundaries
  | noWordBoundary, places => places &&& (subject.all ^^^ subject.boundaries)
  | seq first second, places => advance subject second (advance subject first places)
  | alt left right, places => advance subject left places ||| advance subject right places
  | times body least most, places =>
    let bound := match most with
      | some most => most - least
      | none => subject.size + 1
    closure (advance subject body) bound (Nat.repeat (advance subject body) least places)

/-- Some part of the text matches. -/
def search (regex : Regex CharSet) (s : String) : Bool :=
  let subject := Subject.ofString s
  advance subject (regex.map subject.placesBefore) subject.all != 0

end Regex

end Conform
