/-
  Conform regular expressions: sets of characters in brackets.

  * `Regex.escapedSet?`, `Regex.escapedChar?`: what a character after a backslash
    denotes, inside brackets and outside.
  * `Regex.Bracket`: the inside of brackets that is being read.
  * `Regex.Bracket.step`, `Regex.Bracket.close`: one more character, and the set of
    the whole.
-/
import Conform.Regex.Basic

namespace Conform.Regex

/-! ## Escapes -/

/-- The set that a letter after a backslash denotes. -/
def escapedSet? (c : Char) : Option CharSet :=
  match c with
  | 'd' => some .digit
  | 'D' => some (.complement .digit)
  | 's' => some .blank
  | 'S' => some (.complement .blank)
  | 'w' => some .word
  | 'W' => some (.complement .word)
  | _ => none

/-- The character that is meant by one after a backslash: punctuation means itself. -/
def escapedChar? (c : Char) : Option Char :=
  match c with
  | 'n' => some '\n'
  | 'r' => some '\r'
  | 't' => some '\t'
  | 'f' => some '\x0c'
  | 'v' => some '\x0b'
  | 'a' => some '\x07'
  | _ => if c.toNat < 0x80 ∧ 0x20 ≤ c.toNat ∧ c.isAlphanum = false then some c else none

/-! ## Brackets -/

/-- The inside of brackets that is being read. -/
structure Bracket where
  complemented : Bool
  set : CharSet
  /-- nothing was read since the bracket opened -/
  fresh : Bool
  /-- a character that may begin a range -/
  pending : Option Char
  /-- a dash was read after the pending character -/
  dash : Bool
  /-- a backslash was read -/
  escape : Bool

namespace Bracket

/-- The inside of brackets before anything is read. -/
def start : Bracket := ⟨false, .none, true, none, false, false⟩

/-- The pending character and a dash after it become members. -/
def flush (inside : Bracket) : Bracket :=
  let set := match inside.pending with
    | some c => .union inside.set (.single c)
    | none => inside.set
  { inside with
    set := if inside.dash then .union set (.single '-') else set
    pending := none
    dash := false }

/-- A further member, which may end a range or begin one. -/
def pushChar? (inside : Bracket) (c : Char) : Option Bracket :=
  match inside.pending, inside.dash with
  | some first, true =>
    if first ≤ c then
      some { inside with
        set := .union inside.set (.range first c), pending := none, dash := false }
    else none
  | _, _ => some { inside.flush with pending := some c }

/-- Further members, which can be no end of a range. -/
def pushSet? (inside : Bracket) (set : CharSet) : Option Bracket :=
  if inside.dash then none
  else
    let inside := inside.flush
    some { inside with set := .union inside.set set }

/-- The set of the whole bracket. -/
def close (inside : Bracket) (caseless : Bool) : CharSet :=
  let set := inside.flush.set
  let set := if caseless then .caseless set else set
  if inside.complemented then .complement set else set

/-- One character inside brackets, other than the one that closes them. -/
def step (inside : Bracket) (c : Char) : Option Bracket :=
  if inside.escape then
    let inside := { inside with escape := false }
    match escapedSet? c with
    | some set => inside.pushSet? set
    | none => (escapedChar? c).bind inside.pushChar?
  else if inside.fresh && c == '^' && !inside.complemented then
    some { inside with complemented := true }
  else
    let inside := { inside with fresh := false }
    if c = '\\' then some { inside with escape := true }
    else if c = '[' then none
    else if c = '-' ∧ inside.pending.isSome ∧ inside.dash = false then
      some { inside with dash := true }
    else inside.pushChar? c

end Bracket

end Conform.Regex
