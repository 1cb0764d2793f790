/-
  The order of texts by code points is the order of their bytes in UTF-8.
-/
import Mathlib.Data.List.Lex
import Mathlib.Data.String.Basic

namespace Conform.Text

variable {as bs xs ys : List UInt8} {cs ds : List Char} {c d : Char}

/-- The bytes of a text in UTF-8. -/
def bytes (s : String) : List UInt8 := s.toUTF8.data.toList

theorem bytes_eq_flatMap (s : String) : bytes s = s.toList.flatMap String.utf8EncodeChar := by
  have hbytes : s.toUTF8 = s.toList.utf8Encode := by
    rw [String.toUTF8_eq_toByteArray, ← String.toByteArray_ofList, String.ofList_toList]
  rw [bytes, hbytes, List.utf8Encode, List.toList_data_toByteArray]

/-- One row of bytes is less than another at the first place where they differ; neither of them may
    end before. -/
inductive Below : List UInt8 → List UInt8 → Prop
  | here {a b : UInt8} {as bs : List UInt8} (h : a < b) : Below (a :: as) (b :: bs)
  | there {a : UInt8} {as bs : List UInt8} (h : Below as bs) : Below (a :: as) (a :: bs)

/-- What follows does not count then. -/
theorem Below.append_lt (h : Below as bs) (xs ys : List UInt8) : as ++ xs < bs ++ ys := by
  induction h with
  | here h => exact List.cons_lt_cons_iff.2 (Or.inl h)
  | there _ ih => exact List.cons_lt_cons_iff.2 (Or.inr ⟨rfl, ih⟩)

theorem below_cons_iff {a b : UInt8} :
    Below (a :: as) (b :: bs) ↔ a < b ∨ a = b ∧ Below as bs := by
  constructor
  · rintro (h | h)
    · exact Or.inl h
    · exact Or.inr ⟨rfl, h⟩
  · rintro (h | ⟨rfl, h⟩)
    · exact .here h
    · exact .there h

theorem below_ofNat {m n : ℕ} (hm : m < 256) (hn : n < 256) :
    Below (UInt8.ofNat m :: as) (UInt8.ofNat n :: bs) ↔ m < n ∨ m = n ∧ Below as bs := by
  have heq : UInt8.ofNat m = UInt8.ofNat n ↔ m = n := by
    rw [← UInt8.toNat_inj, UInt8.toNat_ofNat', UInt8.toNat_ofNat', Nat.mod_eq_of_lt hm,
      Nat.mod_eq_of_lt hn]
  rw [below_cons_iff, UInt8.ofNat_lt_iff_lt hm hn, heq]

/-- The bytes of a character are below those of a greater one. -/
theorem below_of_lt (h : c < d) : Below (String.utf8EncodeChar c) (String.utf8EncodeChar d) := by
  have hlt : c.val.toNat < d.val.toNat := UInt32.lt_iff_toNat_lt.1 h
  have hmax : d.val.toNat < 0x110000 := by
    rcases d.valid with hlow | ⟨-, hhigh⟩
    · exact hlow.trans (by decide)
    · exact hhigh
  -- the bytes of a code point are its digits to the base 64, after a mark of how many there are
  have htwo : ∀ v, v / 4096 = v / 64 / 64 := fun v => by rw [Nat.div_div_eq_div_mul]
  have hthree : ∀ v, v / 262144 = v / 64 / 64 / 64 := fun v => by
    rw [Nat.div_div_eq_div_mul, Nat.div_div_eq_div_mul]
  unfold String.utf8EncodeChar
  simp only [htwo, hthree]
  split_ifs <;> simp (disch := omega) only [below_ofNat] <;> omega

/-- Before the first place where two texts differ, their bytes are the same. -/
theorem flatMap_lt_flatMap (h : cs < ds) :
    cs.flatMap String.utf8EncodeChar < ds.flatMap String.utf8EncodeChar := by
  induction cs generalizing ds with
  | nil =>
    cases ds with
    | nil => exact absurd h (List.not_lt_nil _)
    | cons d ds =>
      obtain ⟨b, bs, hbytes⟩ := List.exists_cons_of_ne_nil (String.utf8EncodeChar_ne_nil (c := d))
      rw [List.flatMap_cons, hbytes]
      exact List.nil_lt_cons _ _
  | cons c cs ih =>
    cases ds with
    | nil => exact absurd h (List.not_lt_nil _)
    | cons d ds =>
      rw [List.flatMap_cons, List.flatMap_cons]
      rcases List.cons_lt_cons_iff.1 h with hlt | ⟨rfl, hrest⟩
      · exact (below_of_lt hlt).append_lt _ _
      · exact List.append_left_lt (ih hrest)

/-- **Texts are ordered as their bytes.** -/
theorem lt_iff_bytes_lt (s t : String) : s < t ↔ bytes s < bytes t := by
  have hmono : ∀ {s t : String}, s < t → bytes s < bytes t := fun {s t} h => by
    rw [bytes_eq_flatMap, bytes_eq_flatMap]
    exact flatMap_lt_flatMap (String.lt_iff.1 h)
  refine ⟨hmono, fun h => ?_⟩
  rcases lt_trichotomy s t with hlt | rfl | hgt
  · exact hlt
  · exact absurd h (List.lt_irrefl _)
  · exact absurd h (List.lt_asymm (hmono hgt))

end Conform.Text
