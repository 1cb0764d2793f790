/-
  The leaves that read numbers from text, with white space around it.
-/
import Conform.Proofs.Coercion
import Conform.Proofs.Decimal
import Conform.Proofs.RoundTrip

namespace Conform

open Numeral Decimal

/-! ## Digits of whole numbers -/

theorem Numeral.exists_ofInt_eq (n : ℤ) :
    ∃ sign, SignText sign (decide (n < 0)) ∧ ofInt n = sign ++ ofNat n.natAbs := by
  cases n with
  | ofNat m =>
    have hsign : decide (Int.ofNat m < 0) = false := decide_eq_false (Int.natCast_nonneg m).not_gt
    rw [hsign]
    exact ⟨[], .none, rfl⟩
  | negSucc m =>
    rw [decide_eq_true (Int.negSucc_lt_zero m)]
    exact ⟨['-'], .minus, rfl⟩

theorem Decimal.ofChars?_ofInt (n : ℤ) :
    ofChars? (ofInt n) = some ⟨decide (n < 0), n.natAbs, 0⟩ := by
  obtain ⟨sign, hsign, hn⟩ := exists_ofInt_eq n
  obtain ⟨hne, hall⟩ := isDigits_iff.1 (isDigits_ofNat n.natAbs)
  have hnil : ∀ c ∈ ([] : List Char).head?, c.isDigit = false := nofun
  obtain ⟨htake, hdrop⟩ := span_isDigit hall hnil
  rw [List.append_nil] at htake hdrop
  have hdecimal : ofDigits (decide (n < 0)) (ofNat n.natAbs) [] 0 =
      ⟨decide (n < 0), n.natAbs, 0⟩ := by
    simp [ofDigits]
  simp [ofChars?, hn, splitSign_append hsign (not_sign_of_digits hall), htake, hdrop,
    splitFraction, exponent?, hne, hdecimal]

namespace Leaf

open Text

variable {s : String} {n : ℤ} {x : Double} {core sign word : List Char} {negative : Bool} {q : ℚ}

/-- **Whole numbers in text** are read exactly, inside any white space. -/
theorem int64OfText?_eq_some_iff : int64OfText? s = some n ↔
    ∃ core, Padded core s.toList ∧ IntegerText core n ∧ -2 ^ 63 ≤ n ∧ n < 2 ^ 63 := by
  have htrim : IntegerText (trim s.toList) n ↔ ∃ core, Padded core s.toList ∧ IntegerText core n :=
    of_trim_iff fun _ => IntegerText.solid
  rw [int64OfText?, Option.filter_eq_some_iff, toInt?_eq_some_iff, htrim, Json.inInt64_iff]
  simp only [← and_assoc, exists_and_right]

theorem trim_ofInt (h : Padded (ofInt n) s.toList) : trim s.toList = ofInt n :=
  (toInt?_eq_some_iff.1 (toInt?_ofInt n)).solid.trim_eq h

theorem int64OfText?_ofInt (h : Padded (ofInt n) s.toList) :
    int64OfText? s = if Json.inInt64 n then some n else none := by
  rw [int64OfText?, trim_ofInt h, toInt?_ofInt]
  rfl

/-- **The digits of a whole number** give the double nearest to the number. -/
theorem doubleOfText?_ofInt (h : Padded (ofInt n) s.toList) :
    doubleOfText? s = Double.ofInt? n := by
  rw [doubleOfText?_eq, trim_ofInt h, ofChars?_ofInt, Option.bind_some, toDouble?_whole]
  rfl

/-- What a text denotes inside its white space is the decimal that is rounded. -/
theorem exists_decimal (hcore : Padded core s.toList) (htext : DecimalText core negative q) :
    ∃ d : Decimal, doubleOfText? s = d.toDouble? ∧ d.negative = negative ∧ d.magnitude = q := by
  obtain ⟨d, hd, hnegative, hmagnitude⟩ := decimalText_iff.1 htext
  refine ⟨d, ?_, hnegative, hmagnitude⟩
  rw [doubleOfText?_eq, htext.solid.trim_eq hcore, hd, Option.bind_some]

/-- **Decimal numbers in text** are read inside any white space, unless they are rounded beyond all
    doubles. -/
theorem exists_doubleOfText?_iff : (∃ x, doubleOfText? s = some x) ↔
    ∃ core negative q, Padded core s.toList ∧ DecimalText core negative q ∧
      q < 2 ^ 1024 - 2 ^ 970 := by
  constructor
  · rintro ⟨x, hx⟩
    rw [doubleOfText?_eq] at hx
    obtain ⟨d, hd, hround⟩ := Option.bind_eq_some_iff.1 hx
    exact ⟨trim s.toList, d.negative, d.magnitude, padded_trim _,
      decimalText_iff.2 ⟨d, hd, rfl, rfl⟩, (exists_toDouble?_iff d).1 ⟨x, hround⟩⟩
  · rintro ⟨core, negative, q, hcore, htext, hq⟩
    obtain ⟨d, hd, -, rfl⟩ := exists_decimal hcore htext
    rw [hd]
    exact (exists_toDouble?_iff d).2 hq

theorem nearest_of_doubleOfText? (h : doubleOfText? s = some x) (hcore : Padded core s.toList)
    (htext : DecimalText core negative q) :
    x.negative = negative ∧ Double.Nearest (withSign negative q) x := by
  obtain ⟨d, hd, rfl, rfl⟩ := exists_decimal hcore htext
  exact nearest_of_toDouble? (hd ▸ h)

/-! ### Words -/

/-- Only letters have a lower case that is a letter. -/
theorem letter_of_toLower {c : Char} (hlow : 0x61 ≤ c.toLower.toNat)
    (hhigh : c.toLower.toNat ≤ 0x7A) : 0x41 ≤ c.toNat ∧ c.toNat ≤ 0x7A := by
  unfold Char.toLower at hlow hhigh
  split_ifs at hlow hhigh with hupper
  · have hA : 0x41 ≤ c.toNat := UInt32.le_iff_toNat_le.1 hupper.1
    have hZ : c.toNat ≤ 0x5A := UInt32.le_iff_toNat_le.1 hupper.2
    omega
  · omega

theorem ofChars?_of_letter {c : Char} {rest : List Char} (hsign : SignText sign negative)
    (hc : 0x41 ≤ c.toNat) : ofChars? (sign ++ c :: rest) = none := by
  have hdigit : ¬ c.isDigit = true := fun h => by
    have hnine : c.toNat ≤ 0x39 := (Char.isDigit_iff_toNat.1 h).2
    omega
  have hother : ∀ d : Char, d.toNat < 0x41 → c ≠ d := by
    rintro _ hd rfl
    omega
  have hhead : ∀ d ∈ (c :: rest).head?, d ≠ '+' ∧ d ≠ '-' := by
    rintro _ ⟨⟩
    exact ⟨hother '+' (by decide), hother '-' (by decide)⟩
  have hfraction : splitFraction (c :: rest) = ([], c :: rest) := by
    unfold splitFraction
    split
    · next heq => exact absurd (List.cons.inj heq).1 (hother '.' (by decide))
    · rfl
  simp [ofChars?, splitSign_append hsign hhead, List.takeWhile_cons_of_neg hdigit,
    List.dropWhile_cons_of_neg hdigit, hfraction]

/-- **The names of numbers that are not finite** are no decimals, in any case and with any sign. -/
theorem doubleOfText?_of_word (hsign : SignText sign negative)
    (hword : String.ofList (word.map Char.toLower) ∈ ["inf", "infinity", "nan"])
    (hpadded : Padded (sign ++ word) s.toList) : doubleOfText? s = none := by
  have hnames : ∀ name ∈ ["inf", "infinity", "nan"], name.toList ≠ [] ∧
      ∀ c ∈ name.toList, 0x61 ≤ c.toNat ∧ c.toNat ≤ 0x7A := by
    simp
  obtain ⟨hne, hlower⟩ := hnames _ hword
  rw [String.toList_ofList] at hne hlower
  have hletter : ∀ c ∈ word, 0x41 ≤ c.toNat ∧ c.toNat ≤ 0x7A := fun c hc =>
    have h := hlower _ (List.mem_map_of_mem hc)
    letter_of_toLower h.1 h.2
  obtain ⟨c, rest, rfl⟩ := List.exists_cons_of_ne_nil (by simpa using hne : word ≠ [])
  have hsolid : Solid (sign ++ c :: rest) := by
    refine List.forall_mem_append.2 ⟨hsign.solid, fun d hd => ?_⟩
    exact isBlank_of_visible (le_trans (by decide) (hletter d hd).1)
      ((hletter d hd).2.trans (by decide))
  rw [doubleOfText?_eq, hsolid.trim_eq hpadded,
    ofChars?_of_letter hsign (hletter c List.mem_cons_self).1, Option.bind_none]

end Leaf

namespace Schema

open Text

variable {order : KeyOrder} {l : Leaf} {value output : Json}

theorem check_leaf_of_some (h : l.accept value = some output) :
    (leaf l).check order (some value) = .ok output := by
  simp [check, Leaf.check, h]

theorem check_leaf_of_none (h : l.accept value = none) :
    (leaf l).check order (some value) = .fail (.typeMismatch l.expected (some value)) := by
  simp [check, Leaf.check, h]

theorem asInteger_text_iff {s : String} :
    ((leaf .asInteger).check order (some (.str s))).result = .ok output ↔
      ∃ core n, Padded core s.toList ∧ IntegerText core n ∧ -2 ^ 63 ≤ n ∧ n < 2 ^ 63 ∧
        output = .int n := by
  rw [leaf_ok_iff, Leaf.accept, Option.map_eq_some_iff]
  simp only [Leaf.int64OfText?_eq_some_iff]
  constructor
  · rintro ⟨n, ⟨core, hcore, htext, hlow, hhigh⟩, rfl⟩
    exact ⟨core, n, hcore, htext, hlow, hhigh, rfl⟩
  · rintro ⟨core, n, hcore, htext, hlow, hhigh, rfl⟩
    exact ⟨n, ⟨core, hcore, htext, hlow, hhigh⟩, rfl⟩

theorem asNumber_text_iff {s : String} :
    ((leaf .asNumber).check order (some (.str s))).result = .ok output ↔
      ∃ x, Leaf.doubleOfText? s = some x ∧ output = .float x := by
  simp only [leaf_ok_iff, Leaf.accept, Option.map_eq_some_iff, @eq_comm Json output]

section Digits

variable {n : ℤ} {x : Double} {s : String}

theorem check_asInteger_ofInt (hlow : -2 ^ 63 ≤ n) (h : Padded (ofInt n) s.toList) :
    (leaf .asInteger).check order (some (.str s)) =
      if n < 2 ^ 63 then .ok (.int n) else .fail (.typeMismatch "integer" (some (.str s))) := by
  have hread := Leaf.int64OfText?_ofInt h
  split_ifs with hsigned
  · rw [if_pos (Json.inInt64_iff.2 ⟨hlow, hsigned⟩)] at hread
    exact check_leaf_of_some (congrArg (Option.map Json.int) hread)
  · rw [if_neg fun hin => hsigned (Json.inInt64_iff.1 hin).2] at hread
    exact check_leaf_of_none (congrArg (Option.map Json.int) hread)

theorem check_asNumber_ofInt (hx : Double.ofInt? n = some x) (h : Padded (ofInt n) s.toList) :
    (leaf .asNumber).check order (some (.str s)) = .ok (.float x) := by
  refine check_leaf_of_some ?_
  rw [Leaf.accept, Leaf.doubleOfText?_ofInt h, hx, Option.map_some]

theorem check_jsonString_ofInt (schema : Schema) (hlow : -2 ^ 63 ≤ n) (hhigh : n < 2 ^ 64) :
    (jsonString schema).check order (some (.str (String.ofList (ofInt n)))) =
      schema.check order (some (.int n)) := by
  have hexact : (Json.int n).Exact order := .int (by omega) (by omega)
  have hencode : Json.encode (.int n) = .str (String.ofList (ofInt n)) := by
    rw [Json.encode, Json.text, Json.chars, Number.chars]
  rw [← hencode]
  exact check_jsonString_encode schema hexact (Nat.zero_le _)

end Digits

/-- **Whole numbers in text.** A text is accepted as a whole number iff it is, inside any white
    space, an optional sign and one or more digits that denote a number in the signed 64-bit range;
    the result is that number. The text of a whole number of 64 bits is read back as that number, or
    refused if the number is above the signed range; and it gives the same double as the number,
    whether the text is read as a decimal or as JSON. -/
theorem check_integer_text (order : KeyOrder) :
    (∀ s output, ((leaf .asInteger).check order (some (.str s))).result = .ok output ↔
      ∃ core n, Padded core s.toList ∧ IntegerText core n ∧ -2 ^ 63 ≤ n ∧ n < 2 ^ 63 ∧
        output = .int n) ∧
    ∀ n : ℤ, -2 ^ 63 ≤ n → n < 2 ^ 64 → ∃ t x,
      (leaf .asString).check order (some (.int n)) = .ok (.str t) ∧
      Double.Nearest n x ∧ (leaf .number).check order (some (.int n)) = .ok (.float x) ∧
      (jsonString (leaf .number)).check order (some (.str t)) = .ok (.float x) ∧
      ∀ s, Padded t.toList s.toList →
        (leaf .asNumber).check order (some (.str s)) = .ok (.float x) ∧
        (leaf .asInteger).check order (some (.str s)) =
          if n < 2 ^ 63 then .ok (.int n)
          else .fail (.typeMismatch "integer" (some (.str s))) := by
  refine ⟨fun s output => asInteger_text_iff, fun n hlow hhigh => ?_⟩
  have hexists : ∃ x, Double.ofInt? n = some x := Double.exists_ofInt? (by omega) (by omega)
  obtain ⟨x, hx⟩ := hexists
  have hnumber : (leaf .number).check order (some (.int n)) = .ok (.float x) :=
    check_leaf_of_some (congrArg (Option.map Json.float) hx)
  refine ⟨String.ofList (ofInt n), x, rfl, Double.nearest_of_ofInt? hx, hnumber, ?_, fun s hs => ?_⟩
  · rw [check_jsonString_ofInt (leaf .number) hlow hhigh, hnumber]
  · rw [String.toList_ofList] at hs
    exact ⟨check_asNumber_ofInt hx hs, check_asInteger_ofInt hlow hs⟩

/-- The greatest number of 64 bits, in text between a tabulator and a wide space. -/
theorem check_integer_text_greatest :
    ∃ x, (leaf .number).check .sorted (some (.int 0xFFFFFFFFFFFFFFFF)) = .ok (.float x) ∧
      (leaf .asNumber).check .sorted (some (.str "\t18446744073709551615\u3000")) =
        .ok (.float x) ∧
      (leaf .asInteger).check .sorted (some (.str "\t18446744073709551615\u3000")) =
        .fail (.typeMismatch "integer" (some (.str "\t18446744073709551615\u3000"))) := by
  obtain ⟨t, x, hstring, -, hnumber, -, hpadded⟩ :=
    (check_integer_text .sorted).2 0xFFFFFFFFFFFFFFFF (by decide) (by decide)
  have ht : (leaf .asString).check .sorted (some (.int 0xFFFFFFFFFFFFFFFF)) =
      .ok (.str "18446744073709551615") := by
    cbv
  rw [hstring] at ht
  cases ht
  obtain ⟨hdouble, hint⟩ := hpadded "\t18446744073709551615\u3000"
    ⟨['\t'], ['\u3000'], rfl, List.forall_mem_singleton.2 rfl, List.forall_mem_singleton.2 rfl⟩
  exact ⟨x, hnumber, hdouble, hint⟩

/-- **Decimal numbers in text.** A text is accepted as a number iff it is, inside any white space, a
    decimal that is not rounded beyond all doubles. The result is never `null` but the nearest
    double with the sign of the text, which is a zero for the smallest numbers. The names of numbers
    that are not finite are refused. -/
theorem check_decimal_text (order : KeyOrder) (s : String) :
    ((∃ output, ((leaf .asNumber).check order (some (.str s))).result = .ok output) ↔
      ∃ core negative q, Padded core s.toList ∧ DecimalText core negative q ∧
        q < 2 ^ 1024 - 2 ^ 970) ∧
    (∀ output, ((leaf .asNumber).check order (some (.str s))).result = .ok output →
      output ≠ .null ∧ ∃ x, output = .float x ∧ ∀ core negative q, Padded core s.toList →
        DecimalText core negative q →
          x.negative = negative ∧ Double.Nearest (withSign negative q) x) ∧
    (∀ core negative q, Padded core s.toList → DecimalText core negative q →
      q ≤ 2 ^ (-1075 : ℤ) →
        (leaf .asNumber).check order (some (.str s)) = .ok (.float (.zero negative))) ∧
    ∀ sign negative word, SignText sign negative →
      String.ofList (word.map Char.toLower) ∈ ["inf", "infinity", "nan"] →
      Padded (sign ++ word) s.toList →
        (leaf .asNumber).check order (some (.str s)) =
          .fail (.typeMismatch "number" (some (.str s))) := by
  refine ⟨?_, fun output h => ?_, ?_, ?_⟩
  · rw [← Leaf.exists_doubleOfText?_iff]
    simp [asNumber_text_iff]
  · obtain ⟨x, hx, rfl⟩ := asNumber_text_iff.1 h
    exact ⟨by simp, x, rfl, fun core negative q => Leaf.nearest_of_doubleOfText? hx⟩
  · intro core negative q hcore htext hsmall
    refine check_leaf_of_some ?_
    obtain ⟨d, hd, rfl, rfl⟩ := Leaf.exists_decimal hcore htext
    rw [Leaf.accept, hd, toDouble?_of_small hsmall, Option.map_some]
  · intro sign negative word hsign hword hpadded
    refine check_leaf_of_none ?_
    rw [Leaf.accept, Leaf.doubleOfText?_of_word hsign hword hpadded, Option.map_none]

/-- A number that is too small for all doubles but zero, and a name in mixed case. -/
theorem check_decimal_text_small :
    (leaf .asNumber).check .sorted (some (.str " -.5E-400\n")) = .ok (.float (.zero true)) ∧
    (leaf .asNumber).check .sorted (some (.str "+InFiNiTy")) =
      .fail (.typeMismatch "number" (some (.str "+InFiNiTy"))) := by
  constructor
  · have htext : DecimalText "-.5E-400".toList true (magnitude ⟨true, 5, -401⟩) :=
      decimalText_iff.2 ⟨⟨true, 5, -401⟩, by decide, rfl, rfl⟩
    have hsmall : magnitude ⟨true, 5, -401⟩ < 2 ^ (((5 : ℕ).log2 + 1 : ℕ) + 3 * -401 : ℤ) :=
      magnitude_lt_two_zpow (by decide)
    exact (check_decimal_text .sorted _).2.2.1 _ _ _
      ⟨[' '], ['\n'], rfl, List.forall_mem_singleton.2 rfl, List.forall_mem_singleton.2 rfl⟩ htext
      (hsmall.le.trans (zpow_le_zpow_right₀ one_le_two (by decide)))
  · exact (check_decimal_text .sorted _).2.2.2 ['+'] false "InFiNiTy".toList .plus (by decide)
      ⟨[], [], rfl, nofun, nofun⟩

end Schema

end Conform
