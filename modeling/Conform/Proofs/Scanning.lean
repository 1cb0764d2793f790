/-
  What is written of a value is scanned back, lexeme by lexeme, whatever follows in
  the text.
-/
import Conform.Json.Lexeme
import Conform.Json.Printer
import Mathlib.Tactic.SplitIfs

namespace Conform.Json

variable {text cs rest : List Char}

/-! ## Strings -/

theorem scanString_of_backslash {c : Char} {tail : List Char}
    (hescape : scanEscape cs = .ok (c, tail)) (h : scanString tail = .ok (text, rest)) :
    scanString ('\\' :: cs) = .ok (c :: text, rest) := by
  have hquote : ¬ '\\' = '"' := by decide
  rw [scanString, if_neg hquote, if_pos rfl]
  split
  · next flaw hflaw =>
    rw [hescape] at hflaw
    cases hflaw
  · next d tail' hok =>
    rw [hescape] at hok
    cases hok
    simp only [h]

theorem scanString_of_plain {c : Char} (hquote : c ≠ '"') (hbackslash : c ≠ '\\')
    (hcontrol : ¬ c.toNat < 0x20) (h : scanString cs = .ok (text, rest)) :
    scanString (c :: cs) = .ok (c :: text, rest) := by
  rw [scanString, if_neg hquote, if_neg hbackslash, if_neg hcontrol]
  simp only [h]

/-- Two hexadecimal digits are enough for a control character. -/
theorem hexValue?_control : ∀ n < 0x20,
    hexValue? ['0', '0', hexDigit (n / 16), hexDigit (n % 16)] = some n := by
  decide

theorem scanEscape_control {c : Char} (h : c.toNat < 0x20) (cs : List Char) :
    scanEscape ('u' :: '0' :: '0' :: hexDigit (c.toNat / 16) :: hexDigit (c.toNat % 16) :: cs) =
      .ok (c, cs) := by
  have hhex : scanHex
      ('0' :: '0' :: hexDigit (c.toNat / 16) :: hexDigit (c.toNat % 16) :: cs) =
        .ok (c.toNat, cs) := by
    simp [scanHex, hexValue?_control c.toNat h]
  have hlow : ¬ (0xDC00 ≤ c.toNat ∧ c.toNat ≤ 0xDFFF) := by omega
  have hhigh : ¬ (0xD800 ≤ c.toNat ∧ c.toNat ≤ 0xDBFF) := by omega
  show scanCode _ = _
  simp only [scanCode, hhex, bind, Except.bind, if_neg hlow, if_neg hhigh, Char.ofNat_toNat]

/-- The escape of a character stands for that character. -/
theorem scanString_escape (c : Char) (h : scanString cs = .ok (text, rest)) :
    scanString (escape c ++ cs) = .ok (c :: text, rest) := by
  unfold escape
  split_ifs with hquote hbackslash hback hfeed hline hreturn htab hcontrol
  · subst hquote
    exact scanString_of_backslash rfl h
  · subst hbackslash
    exact scanString_of_backslash rfl h
  · subst hback
    exact scanString_of_backslash rfl h
  · subst hfeed
    exact scanString_of_backslash rfl h
  · subst hline
    exact scanString_of_backslash rfl h
  · subst hreturn
    exact scanString_of_backslash rfl h
  · subst htab
    exact scanString_of_backslash rfl h
  · exact scanString_of_backslash (scanEscape_control hcontrol cs) h
  · exact scanString_of_plain hquote hbackslash hcontrol h

/-- **The escapes of a string give its characters**, and its closing quote ends it. -/
theorem scanString_flatMap_escape (text rest : List Char) :
    scanString (text.flatMap escape ++ '"' :: rest) = .ok (text, rest) := by
  induction text with
  | nil => rw [List.flatMap_nil, List.nil_append, scanString, if_pos rfl]
  | cons c text ih =>
    rw [List.flatMap_cons, List.append_assoc]
    exact scanString_escape c ih

/-! ## Whole numbers -/

/-- The text does not carry a number on that stands before it. -/
def EndsNumber (rest : List Char) : Prop :=
  ∀ c ∈ rest.head?, c.isDigit = false ∧ c ≠ '.' ∧ c ≠ 'e' ∧ c ≠ 'E'

theorem EndsNumber.nil : EndsNumber [] := fun _ h => by cases h

theorem EndsNumber.punctuation {c : Char} {token : Token} (h : punctuation? c = some token)
    (cs : List Char) : EndsNumber (c :: cs) := by
  rintro _ ⟨⟩
  unfold punctuation? at h
  split at h <;> first | decide | cases h

theorem ofNat_eq_cons (n : Nat) :
    ∃ c cs, Numeral.ofNat n = c :: cs ∧ c.isDigit = true := by
  obtain ⟨hne, hall⟩ := Bool.and_eq_true_iff.1 (Numeral.isDigits_ofNat n)
  cases h : Numeral.ofNat n with
  | nil => simp [h] at hne
  | cons c cs => exact ⟨c, cs, rfl, List.all_eq_true.1 hall c (h ▸ List.mem_cons_self)⟩

/-- They open with a zero only where the number is zero. -/
theorem eq_zero_of_head?_ofNat {n : Nat} (h : (Numeral.ofNat n).head? = some '0') : n = 0 := by
  induction n using Nat.strongRecOn with
  | ind n ih =>
    by_cases hn : n < 10
    · rw [Numeral.ofNat, Nat.toDigits_of_lt_base hn, List.head?_cons] at h
      have hdigit : ∀ n < 10, some (Nat.digitChar n) = some '0' → n = 0 := by decide
      exact hdigit n hn h
    · -- the first digit is that of a tenth of the number
      obtain ⟨c, cs, hcs, -⟩ := ofNat_eq_cons (n / 10)
      have hdigits : Numeral.ofNat n = Numeral.ofNat (n / 10) ++ [Nat.digitChar (n % 10)] :=
        Nat.toDigits_of_base_le (by decide) (Nat.not_lt.1 hn)
      rw [hdigits, hcs, List.cons_append, List.head?_cons] at h
      have htenth : n / 10 = 0 := by
        refine ih (n / 10) (by omega) ?_
        rw [hcs, List.head?_cons, h]
      omega

theorem scanDigits_append (h : Numeral.isDigits text = true) (hrest : EndsNumber rest) :
    scanDigits (text ++ rest) = .ok (text, rest) := by
  obtain ⟨hne, hall⟩ := Numeral.isDigits_iff.1 h
  obtain ⟨c, text, rfl⟩ := List.exists_cons_of_ne_nil hne
  obtain ⟨htake, hdrop⟩ := Numeral.span_isDigit hall fun c hc => (hrest c hc).1
  rw [List.cons_append] at htake hdrop ⊢
  rw [scanDigits, if_pos (hall c List.mem_cons_self), htake, hdrop]

theorem scanWhole_ofNat (n : Nat) (hrest : EndsNumber rest) :
    scanWhole (Numeral.ofNat n ++ rest) = .ok (Numeral.ofNat n, rest) := by
  rw [scanWhole, scanDigits_append (Numeral.isDigits_ofNat n) hrest]
  split
  · next d digits rest' heq =>
    have hdigits : Numeral.ofNat n = '0' :: d :: digits := (Prod.mk.inj (Except.ok.inj heq)).1
    have hzero : n = 0 := eq_zero_of_head?_ofNat (by rw [hdigits, List.head?_cons])
    subst hzero
    cases hdigits
  · rfl

theorem scanFraction_of_endsNumber (h : EndsNumber rest) :
    scanFraction rest = .ok (none, rest) := by
  unfold scanFraction
  split
  · exact absurd rfl (h _ rfl).2.1
  · rfl

theorem scanExponent_of_endsNumber (h : EndsNumber rest) :
    scanExponent rest = .ok (none, rest) := by
  cases rest with
  | nil => rfl
  | cons c cs =>
    obtain ⟨-, -, hlower, hupper⟩ := h c rfl
    have hmark : ¬ (c = 'e' ∨ c = 'E') := not_or.2 ⟨hlower, hupper⟩
    rw [scanExponent, if_neg hmark]

/-- Digits with nothing after them are a whole number, if one of that sign fits. -/
theorem scanUnsigned_ofNat {negative : Bool} {n : Nat} {number : Number}
    (h : wholeNumber? negative n = some number) (hrest : EndsNumber rest) :
    scanUnsigned negative (Numeral.ofNat n ++ rest) = .ok (number, rest) := by
  have hnumber : number? negative (Numeral.ofNat n) none none = some number := by
    rw [number?, Numeral.toNat_ofNat, h, Option.some_or]
  simp only [scanUnsigned, bind, Except.bind, scanWhole_ofNat n hrest,
    scanFraction_of_endsNumber hrest, scanExponent_of_endsNumber hrest, hnumber]

/-- **The digits of a whole number of 64 bits give that number.** -/
theorem scanNumber_ofInt {n : Int} (hlow : -0x8000000000000000 ≤ n)
    (hhigh : n < 0x10000000000000000) (hrest : EndsNumber rest) :
    scanNumber (Numeral.ofInt n ++ rest) = .ok (.int n, rest) := by
  cases n with
  | ofNat n =>
    have hwhole : wholeNumber? false n = some (.int n) := by
      have hfits : n < 0x10000000000000000 := by
        rw [Int.ofNat_eq_natCast] at hhigh
        omega
      rw [wholeNumber?, if_neg Bool.false_ne_true, if_pos hfits]
    have hscan := scanUnsigned_ofNat hwhole hrest
    -- digits do not open with a sign
    obtain ⟨c, cs, hcs, hc⟩ := ofNat_eq_cons n
    rw [hcs, List.cons_append] at hscan
    rw [Numeral.ofInt, hcs, List.cons_append]
    unfold scanNumber
    split
    · next heq =>
      obtain ⟨rfl, -⟩ := List.cons.inj heq
      simp at hc
    · exact hscan
  | negSucc n =>
    have hwhole : wholeNumber? true (n + 1) = some (.int (.negSucc n)) := by
      have hfits : 0 < n + 1 ∧ n + 1 ≤ 0x8000000000000000 := by omega
      rw [wholeNumber?, if_pos rfl, if_pos hfits]
      rfl
    exact scanUnsigned_ofNat hwhole hrest

/-! ## Lexemes -/

theorem scan_of_scanToken {c : Char} {token : Token} (hspace : isSpace c = false)
    (h : scanToken c cs = (token, rest)) : scan (c :: cs) = ⟨token, c :: cs⟩ :: scan rest := by
  rw [scan, hspace, if_neg Bool.false_ne_true, h]

theorem scan_punctuation {c : Char} {token : Token} (h : punctuation? c = some token) :
    scan (c :: cs) = ⟨token, c :: cs⟩ :: scan cs := by
  have hspace : isSpace c = false := by
    unfold punctuation? at h
    split at h <;> first | rfl | cases h
  have htoken : scanToken c cs = (token, cs) := by
    rw [scanToken, h]
  exact scan_of_scanToken hspace htoken

/-- **A string is one lexeme.** -/
theorem scan_string (s : String) (rest : List Char) :
    scan (stringChars s ++ rest) = ⟨.string s, stringChars s ++ rest⟩ :: scan rest := by
  have hscan := scanString_flatMap_escape s.toList rest
  have hchars : stringChars s ++ rest = '"' :: (s.toList.flatMap escape ++ '"' :: rest) := by
    simp [stringChars]
  have htoken : scanToken '"' (s.toList.flatMap escape ++ '"' :: rest) = (.string s, rest) := by
    show ofScan _ _ (scanString _) = _
    rw [hscan, ofScan, Function.comp_apply, String.ofList_toList]
  rw [hchars]
  exact scan_of_scanToken (by decide) htoken

/-! ### Values without parts -/

theorem scan_null (rest : List Char) :
    scan (Json.null.chars ++ rest) = ⟨.scalar .null, Json.null.chars ++ rest⟩ :: scan rest :=
  scan_of_scanToken (by decide) rfl

theorem scan_bool (b : Bool) (rest : List Char) :
    scan ((Json.bool b).chars ++ rest) =
      ⟨.scalar (.bool b), (Json.bool b).chars ++ rest⟩ :: scan rest := by
  cases b with
  | true => exact scan_of_scanToken (by decide) rfl
  | false => exact scan_of_scanToken (by decide) rfl

/-- The characters that a whole number opens with. -/
theorem ofInt_eq_cons (n : Int) :
    ∃ c cs, Numeral.ofInt n = c :: cs ∧ (c = '-' ∨ c.isDigit = true) := by
  cases n with
  | ofNat n =>
    obtain ⟨c, cs, hcs, hc⟩ := ofNat_eq_cons n
    exact ⟨c, cs, hcs, Or.inr hc⟩
  | negSucc n => exact ⟨'-', _, rfl, Or.inl rfl⟩

theorem scanToken_number {c : Char} (hc : c = '-' ∨ c.isDigit = true) (cs : List Char) :
    scanToken c cs = ofScan (.scalar ∘ .num) .bad (scanNumber (c :: cs)) := by
  have hpunctuation : punctuation? c = none := by
    unfold punctuation?
    split <;> simp_all
  have hword : word? c = none := by
    unfold word?
    split <;> simp_all
  have hquote : ¬ c = '"' := by
    rintro rfl
    simp at hc
  rw [scanToken, hpunctuation, hword]
  simp only [if_neg hquote, if_pos hc]

theorem isSpace_number {c : Char} (hc : c = '-' ∨ c.isDigit = true) : isSpace c = false := by
  rw [Bool.eq_false_iff]
  intro h
  simp only [isSpace, Bool.or_eq_true, decide_eq_true_eq] at h
  rcases h with ((rfl | rfl) | rfl) | rfl <;> simp at hc

/-- **A whole number of 64 bits is one lexeme.** -/
theorem scan_int {n : Int} (hlow : -0x8000000000000000 ≤ n) (hhigh : n < 0x10000000000000000)
    (hrest : EndsNumber rest) :
    scan ((Json.int n).chars ++ rest) =
      ⟨.scalar (.int n), (Json.int n).chars ++ rest⟩ :: scan rest := by
  have hscan := scanNumber_ofInt hlow hhigh hrest
  obtain ⟨c, cs, hcs, hc⟩ := ofInt_eq_cons n
  have hchars : (Json.int n).chars ++ rest = c :: (cs ++ rest) := by
    show Numeral.ofInt n ++ rest = _
    rw [hcs, List.cons_append]
  have htoken : scanToken c (cs ++ rest) = (.scalar (.int n), rest) := by
    rw [hcs, List.cons_append] at hscan
    rw [scanToken_number hc, hscan]
    rfl
  rw [hchars]
  exact scan_of_scanToken (isSpace_number hc) htoken

end Conform.Json
