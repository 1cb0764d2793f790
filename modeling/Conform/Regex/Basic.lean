/-
  Conform regular expressions: what they consist of.

  * `CharSet`: a set of characters, with `CharSet.contains`; `caseVariants` for sets that
    take letters in either case.
  * `Regex σ`: expressions over sets of characters of some kind `σ`, with the ends
    of the text and the boundaries of words.
  * `Regex.map`: an expression over another kind of sets.
-/
import Conform.Text.Blank

namespace Conform

/-! ## Letters in either case -/

/-- The Kelvin sign, which is a `k` in another guise. -/
def kelvin : Char := '\u212a'

/-- The long s. -/
def longS : Char := '\u017f'

/-- The characters that differ from `c` in case only. -/
def caseVariants (c : Char) : List Char :=
  if c = 'k' ∨ c = 'K' ∨ c = kelvin then ['k', 'K', kelvin]
  else if c = 's' ∨ c = 'S' ∨ c = longS then ['s', 'S', longS]
  else [c, c.toLower, c.toUpper]

/-! ## Sets of characters -/

/-- A set of characters. -/
inductive CharSet
  /-- no character -/
  | none
  /-- any character but the line feed -/
  | dot
  /-- the characters from the first to the last -/
  | range (first last : Char)
  /-- decimal digits of all scripts -/
  | digit
  /-- white space -/
  | blank
  /-- characters of words -/
  | word
  | union (left right : CharSet)
  | complement (set : CharSet)
  /-- the set and what differs from its letters in case only -/
  | caseless (set : CharSet)
deriving DecidableEq

namespace CharSet

/-- A single character. -/
def single (c : Char) : CharSet := range c c

/-- The character lies in the set. -/
def contains : CharSet → Char → Bool
  | none, _ => false
  | dot, c => c != '\n'
  | range first last, c => first ≤ c && c ≤ last
  | digit, c => Text.isDecimalDigit c
  | blank, c => Text.isBlank c
  | word, c => Text.isWordChar c
  | union left right, c => left.contains c || right.contains c
  | complement set, c => !set.contains c
  | caseless set, c => (caseVariants c).any set.contains

end CharSet

/-! ## Expressions -/

/-- A regular expression over sets of characters of a kind `σ`. -/
inductive Regex (σ : Type)
  /-- the empty text -/
  | empty
  /-- one character of a set -/
  | char (set : σ)
  /-- the start of the text -/
  | textStart
  /-- the end of the text -/
  | textEnd
  /-- a place between a character of a word and another one, or the end of the text -/
  | wordBoundary
  /-- any other place -/
  | noWordBoundary
  | seq (first second : Regex σ)
  | alt (left right : Regex σ)
  /-- so many times at least, and at most if there is a bound -/
  | times (body : Regex σ) (least : Nat) (most : Option Nat)
deriving DecidableEq

/-- The same expression over another kind of sets. -/
def Regex.map {σ τ : Type} (f : σ → τ) : Regex σ → Regex τ
  | empty => empty
  | char set => char (f set)
  | textStart => textStart
  | textEnd => textEnd
  | wordBoundary => wordBoundary
  | noWordBoundary => noWordBoundary
  | seq first second => seq (first.map f) (second.map f)
  | alt left right => alt (left.map f) (right.map f)
  | times body least most => times (body.map f) least most

end Conform
