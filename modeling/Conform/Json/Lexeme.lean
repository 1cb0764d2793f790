/-
  Conform JSON: text as a row of lexemes.

  * `Token`: brackets, commas, colons, values without parts, and text that is none
    of these.
  * `Lexeme`: a token and the text from its first character on.
  * `scanToken`: the token at the start of a text, and what follows it.
  * `scan`: the lexemes of a text; white space between them is left out.
-/
import Conform.Json.NumberText
import Conform.Json.QuotedText

namespace Conform.Json

/-- The smallest parts of JSON text. -/
inductive Token
  | comma
  | colon
  | arrayOpen
  | arrayClose
  | objectOpen
  | objectClose
  /-- `null`, `true`, `false` or a number -/
  | scalar (value : Json)
  | string (value : String)
  /-- text that opens with a quote and is no string -/
  | badString (flaw : Flaw)
  /-- other text that is no token -/
  | bad (flaw : Flaw)

/-- A token and the text from its first character on. -/
structure Lexeme where
  token : Token
  text : List Char

/-! ## Words -/

/-- The value of a word and the text after it, if the text opens with the characters of the word. -/
def scanWord (word : List Char) (value : Json) (cs : List Char) : Except Flaw (Json × List Char) :=
  match word, cs with
  | [], cs => .ok (value, cs)
  | _ :: _, [] => .error (.atEnd .eofInValue)
  | w :: word, c :: cs =>
    if w = c then scanWord word value cs else .error (.after .expectedIdent (c :: cs))

theorem scanWord_length {word cs rest : List Char} {value result : Json}
    (h : scanWord word value cs = .ok (result, rest)) : rest.length ≤ cs.length := by
  fun_induction scanWord word value cs with
  | case1 => cases h; exact Nat.le_refl _
  | case3 w word cs ih =>
    have := ih h
    simp only [List.length_cons]
    omega
  | _ => cases h

/-! ## Tokens -/

/-- A value as a token, or text that is none. -/
def ofScan {α : Type} (value : α → Token) (flawed : Flaw → Token) :
    Except Flaw (α × List Char) → Token × List Char
  | .ok (a, rest) => (value a, rest)
  | .error flaw => (flawed flaw, [])

/-- The token that a character is by itself. -/
def punctuation? (c : Char) : Option Token :=
  match c with
  | ',' => some .comma
  | ':' => some .colon
  | '[' => some .arrayOpen
  | ']' => some .arrayClose
  | '\x7b' => some .objectOpen
  | '\x7d' => some .objectClose
  | _ => none

/-- The word that opens with a character: its other characters and its value. -/
def word? (c : Char) : Option (List Char × Json) :=
  match c with
  | 'n' => some (['u', 'l', 'l'], .null)
  | 't' => some (['r', 'u', 'e'], .bool true)
  | 'f' => some (['a', 'l', 's', 'e'], .bool false)
  | _ => none

/-- The token that opens with `c`, and what follows it. -/
def scanToken (c : Char) (cs : List Char) : Token × List Char :=
  match punctuation? c, word? c with
  | some token, _ => (token, cs)
  | none, some (word, value) => ofScan .scalar .bad (scanWord word value cs)
  | none, none =>
    if c = '"' then ofScan (.string ∘ String.ofList) .badString (scanString cs)
    else if c = '-' ∨ c.isDigit = true then ofScan (.scalar ∘ .num) .bad (scanNumber (c :: cs))
    else (.bad (.after .expectedValue (c :: cs)), [])

theorem ofScan_length {α : Type} {value : α → Token} {flawed : Flaw → Token}
    {scanned : Except Flaw (α × List Char)} {bound : Nat}
    (h : ∀ a rest, scanned = .ok (a, rest) → rest.length ≤ bound) :
    (ofScan value flawed scanned).2.length ≤ bound := by
  unfold ofScan
  split
  · exact h _ _ rfl
  · simp

theorem scanToken_length (c : Char) (cs : List Char) : (scanToken c cs).2.length ≤ cs.length := by
  unfold scanToken
  split
  · exact Nat.le_refl _
  · exact ofScan_length fun _ _ => scanWord_length
  · split
    · exact ofScan_length fun _ _ h => Nat.le_of_lt (scanString_length h)
    · split
      · exact ofScan_length fun _ _ h => Nat.lt_succ_iff.1 (scanNumber_length h)
      · exact Nat.zero_le _

/-! ## Texts -/

/-- The white space of JSON text. -/
def isSpace (c : Char) : Bool := c = ' ' || c = '\t' || c = '\n' || c = '\r'

/-- The lexemes of a text; a text that is no token ends the row. -/
def scan (cs : List Char) : List Lexeme :=
  match cs with
  | [] => []
  | c :: cs =>
    if isSpace c then scan cs
    else
      have := scanToken_length c cs
      let scanned := scanToken c cs
      ⟨scanned.1, c :: cs⟩ :: scan scanned.2
termination_by cs.length

end Conform.Json
