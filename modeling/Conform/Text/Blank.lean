/-
  Conform text: white space.

  * `isBlank`: the characters with the Unicode property White_Space.
  * `trim`: a text without the white space at its two ends.
  * `Padded`: a text with white space around it. `padded_trim`, `trim_of_padded`:
    trimming takes off all the white space at the ends, and nothing else.
  * `of_trim_iff`: what is asked of a trimmed text.
-/
import Conform.Text.CharClass

namespace Conform.Text

/-- The characters with the Unicode property White_Space. -/
def blanks : Ranges :=
  [(0x9, 0xD), (0x20, 0x20), (0x85, 0x85), (0xA0, 0xA0), (0x1680, 0x1680), (0x2000, 0x200A),
   (0x2028, 0x2029), (0x202F, 0x202F), (0x205F, 0x205F), (0x3000, 0x3000)]

/-- White space, in the sense of the Unicode property White_Space. -/
def isBlank (c : Char) : Bool := blanks.contains c

/-- A text without the white space at its two ends. -/
def trim (cs : List Char) : List Char :=
  ((cs.dropWhile isBlank).reverse.dropWhile isBlank).reverse

theorem isBlank_of_visible {c : Char} (hlow : 0x21 ≤ c.toNat) (hhigh : c.toNat ≤ 0x7E) :
    isBlank c = false := by
  simp only [isBlank, Ranges.contains, blanks, List.any_eq_false]
  simp
  omega

theorem isBlank_of_isDigit {c : Char} (h : c.isDigit = true) : isBlank c = false := by
  obtain ⟨hlow, hhigh⟩ := Char.isDigit_iff_toNat.1 h
  exact isBlank_of_visible (Nat.le_trans (by decide) hlow) (Nat.le_trans hhigh (by decide))

/-! ## Trimming -/

variable {before core rest cs : List Char}

/-- `cs` is `core` with white space around it. -/
def Padded (core cs : List Char) : Prop :=
  ∃ before after, cs = before ++ core ++ after ∧
    (∀ c ∈ before, isBlank c = true) ∧ ∀ c ∈ after, isBlank c = true

/-- Trimming takes off white space, and nothing else. -/
theorem padded_trim (cs : List Char) : Padded (trim cs) cs := by
  have htake : ∀ ds : List Char, ∀ c ∈ ds.takeWhile isBlank, isBlank c = true := fun ds =>
    List.all_eq_true.1 List.all_takeWhile
  refine ⟨cs.takeWhile isBlank, ((cs.dropWhile isBlank).reverse.takeWhile isBlank).reverse, ?_,
    htake cs, fun c hc => htake _ c (List.mem_reverse.1 hc)⟩
  rw [trim, List.append_assoc, ← List.reverse_append, List.takeWhile_append_dropWhile,
    List.reverse_reverse, List.takeWhile_append_dropWhile]

theorem dropWhile_isBlank (hbefore : ∀ c ∈ before, isBlank c = true) (hne : core ≠ [])
    (hhead : ∀ c ∈ core.head?, isBlank c = false) :
    (before ++ (core ++ rest)).dropWhile isBlank = core ++ rest := by
  obtain ⟨c, core, rfl⟩ := List.exists_cons_of_ne_nil hne
  have hc : ¬ isBlank c = true := by simp [hhead c rfl]
  rw [List.dropWhile_append_of_pos hbefore, List.cons_append, List.dropWhile_cons_of_neg hc]

/-- Trimming takes off all the white space at the ends. -/
theorem trim_of_padded (h : Padded core cs) (hhead : ∀ c ∈ core.head?, isBlank c = false)
    (hlast : ∀ c ∈ core.getLast?, isBlank c = false) : trim cs = core := by
  obtain ⟨before, after, rfl, hbefore, hafter⟩ := h
  have hafter' : ∀ c ∈ after.reverse, isBlank c = true := fun c hc =>
    hafter c (List.mem_reverse.1 hc)
  by_cases hne : core = []
  · subst hne
    have hdrop : after.dropWhile isBlank = [] := by
      rw [← List.append_nil after, List.dropWhile_append_of_pos hafter, List.dropWhile_nil]
    rw [trim, List.append_nil, List.dropWhile_append_of_pos hbefore, hdrop]
    rfl
  · have hend : (after.reverse ++ core.reverse).dropWhile isBlank = core.reverse := by
      rw [← List.append_nil core.reverse]
      exact dropWhile_isBlank hafter' (by simpa using hne) (by simpa using hlast)
    rw [trim, List.append_assoc, dropWhile_isBlank hbefore hne hhead, List.reverse_append, hend,
      List.reverse_reverse]

/-- There is no white space in `core`. -/
def Solid (core : List Char) : Prop := ∀ c ∈ core, isBlank c = false

theorem Solid.trim_eq (hcore : Solid core) (h : Padded core cs) : trim cs = core :=
  trim_of_padded h (fun c hc => hcore c (List.mem_of_mem_head? hc))
    fun c hc => hcore c (List.mem_of_getLast? hc)

/-- **What is asked of a trimmed text** is asked of the text inside the white space. -/
theorem of_trim_iff {p : List Char → Prop} (hp : ∀ core, p core → Solid core) :
    p (trim cs) ↔ ∃ core, Padded core cs ∧ p core := by
  constructor
  · exact fun h => ⟨trim cs, padded_trim cs, h⟩
  · rintro ⟨core, hpadded, h⟩
    rwa [(hp core h).trim_eq hpadded]

end Conform.Text
