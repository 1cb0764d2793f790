/-
  Conform JSON: strings in JSON text.

  * `scanHex`, `scanSecondHalf`, `scanCode`, `scanEscape`: the parts of an escape.
  * `scanString`: the characters of a string after its opening quote, and what
    follows the closing one.

  Every step returns what it leaves of the text, and a lemma says that this is
  shorter than before, which is why `scanString` ends.
-/
import Conform.Json.Fault

namespace Conform.Json

/-! ## Escapes -/

/-- The number that four hexadecimal digits denote. -/
def hexValue? (digits : List Char) : Option Nat :=
  digits.foldl (fun sum c => do
    let n ← sum
    if '0' ≤ c ∧ c ≤ '9' then some (16 * n + (c.toNat - '0'.toNat))
    else if 'a' ≤ c ∧ c ≤ 'f' then some (16 * n + (c.toNat - 'a'.toNat + 10))
    else if 'A' ≤ c ∧ c ≤ 'F' then some (16 * n + (c.toNat - 'A'.toNat + 10))
    else none) (some 0)

/-- The number of four hexadecimal digits at the start of `cs`, and what follows them. -/
def scanHex (cs : List Char) : Except Flaw (Nat × List Char) :=
  match hexValue? (cs.take 4) with
  | some n =>
    if cs.length < 4 then .error (.atEnd .eofInString) else .ok (n, cs.drop 4)
  | none =>
    if byteSize cs < 4 then .error (.atEnd .eofInString) else .error ⟨.invalidEscape, cs, 4⟩

/-- The second half of a surrogate pair, after its first half. -/
def scanSecondHalf : List Char → Except Flaw (Nat × List Char)
  | [] => .error (.atEnd .eofInString)
  | '\\' :: [] => .error (.atEnd .eofInString)
  | '\\' :: 'u' :: cs => do
    let (n, rest) ← scanHex cs
    if 0xDC00 ≤ n ∧ n ≤ 0xDFFF then .ok (n, rest) else .error ⟨.loneSurrogate, rest, 0⟩
  | '\\' :: c :: cs => .error (.after .endOfSurrogate (c :: cs))
  | c :: cs => .error (.after .endOfSurrogate (c :: cs))

/-- The character of an escape with a code, after the `u`; a surrogate pair is two escapes. -/
def scanCode (cs : List Char) : Except Flaw (Char × List Char) := do
  let (n, rest) ← scanHex cs
  if 0xDC00 ≤ n ∧ n ≤ 0xDFFF then .error ⟨.loneSurrogate, rest, 0⟩
  else if 0xD800 ≤ n ∧ n ≤ 0xDBFF then
    let (m, rest) ← scanSecondHalf rest
    .ok (Char.ofNat (0x10000 + (n - 0xD800) * 0x400 + (m - 0xDC00)), rest)
  else .ok (Char.ofNat n, rest)

/-- The character of an escape, after the backslash. -/
def scanEscape : List Char → Except Flaw (Char × List Char)
  | [] => .error (.atEnd .eofInString)
  | 'u' :: cs => scanCode cs
  | '"' :: cs => .ok ('"', cs)
  | '\\' :: cs => .ok ('\\', cs)
  | '/' :: cs => .ok ('/', cs)
  | 'b' :: cs => .ok ('\x08', cs)
  | 'f' :: cs => .ok ('\x0c', cs)
  | 'n' :: cs => .ok ('\n', cs)
  | 'r' :: cs => .ok ('\r', cs)
  | 't' :: cs => .ok ('\t', cs)
  | c :: cs => .error (.after .invalidEscape (c :: cs))

theorem scanHex_length {cs rest : List Char} {n : Nat} (h : scanHex cs = .ok (n, rest)) :
    rest.length ≤ cs.length := by
  unfold scanHex at h
  split at h <;> split at h <;> cases h
  simp

theorem scanSecondHalf_length {cs rest : List Char} {n : Nat}
    (h : scanSecondHalf cs = .ok (n, rest)) : rest.length ≤ cs.length := by
  unfold scanSecondHalf at h
  split at h
  case h_3 =>
    obtain ⟨⟨m, tail⟩, hhex, h⟩ := bind_eq_ok.1 h
    have := scanHex_length hhex
    dsimp only at h
    split at h <;> cases h
    simp only [List.length_cons]
    omega
  all_goals cases h

theorem scanCode_length {cs rest : List Char} {c : Char} (h : scanCode cs = .ok (c, rest)) :
    rest.length ≤ cs.length := by
  obtain ⟨⟨n, tail⟩, hhex, h⟩ := bind_eq_ok.1 h
  have := scanHex_length hhex
  dsimp only at h
  split at h
  · cases h
  · split at h
    · obtain ⟨⟨m, tail'⟩, hhalf, h⟩ := bind_eq_ok.1 h
      have := scanSecondHalf_length hhalf
      obtain ⟨-, rfl⟩ := Prod.mk.inj (Except.ok.inj h)
      dsimp only
      omega
    · obtain ⟨-, rfl⟩ := Prod.mk.inj (Except.ok.inj h)
      assumption

theorem scanEscape_length {cs rest : List Char} {c : Char} (h : scanEscape cs = .ok (c, rest)) :
    rest.length < cs.length := by
  unfold scanEscape at h
  split at h
  case h_2 cs =>
    have := scanCode_length h
    simp only [List.length_cons]
    omega
  all_goals simp_all

/-! ## Strings -/

/-- The characters of a string after its opening quote, and what follows the closing one. -/
def scanString (cs : List Char) : Except Flaw (List Char × List Char) :=
  match cs with
  | [] => .error (.atEnd .eofInString)
  | c :: cs =>
    if c = '"' then .ok ([], cs)
    else if c = '\\' then
      match h : scanEscape cs with
      | .error flaw => .error flaw
      | .ok (d, rest) =>
        have := scanEscape_length h
        match scanString rest with
        | .error flaw => .error flaw
        | .ok (ds, rest) => .ok (d :: ds, rest)
    else if c.toNat < 0x20 then .error (.after .controlInString (c :: cs))
    else
      match scanString cs with
      | .error flaw => .error flaw
      | .ok (ds, rest) => .ok (c :: ds, rest)
termination_by cs.length

theorem scanString_length {cs text rest : List Char} (h : scanString cs = .ok (text, rest)) :
    rest.length < cs.length := by
  fun_induction scanString cs generalizing text rest with
  | case2 => cases h; simp
  | case5 cs d tail hescape hlt ds rest hrec hquote ih =>
    have := ih hrec
    cases h
    simp only [List.length_cons]
    omega
  | case8 c cs _ _ _ ds rest' hrec ih =>
    have := ih hrec
    cases h
    simp only [List.length_cons]
    omega
  | _ => cases h

end Conform.Json
