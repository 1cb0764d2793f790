/-
  Values and failures that differ only in the order of keys, and what a check sees of
  them.
-/
import Conform.Proofs.Check
import Conform.Proofs.WellKeyed

namespace Conform

namespace Json

/-- Two values with different keys in each object that differ only in the order of keys. -/
inductive Alike : Json → Json → Prop
  | null : Alike .null .null
  | bool (b : Bool) : Alike (.bool b) (.bool b)
  | num (n : Number) : Alike (.num n) (.num n)
  | str (s : String) : Alike (.str s) (.str s)
  | arr {as bs : List Json} (length : as.length = bs.length)
      (inside : ∀ {a b}, (a, b) ∈ as.zip bs → Alike a b) : Alike (.arr as) (.arr bs)
  | obj {as bs : Entries Json} (distinct : as.keys.Nodup) (perm : as.keys.Perm bs.keys)
      (inside : ∀ {key a b}, (key, a) ∈ as → (key, b) ∈ bs → Alike a b) : Alike (.obj as) (.obj bs)

theorem alike_arr_iff {as bs : List Json} :
    Alike (.arr as) (.arr bs) ↔ List.Forall₂ Alike as bs := by
  rw [List.forall₂_iff_zip]
  constructor
  · rintro (_ | _ | _ | _ | ⟨length, inside⟩)
    exact ⟨length, inside⟩
  · rintro ⟨length, inside⟩
    exact .arr length inside

theorem alike_self {value : Json} (h : value.WellKeyed) : Alike value value := by
  induction h with
  | null => exact .null
  | bool b => exact .bool b
  | num n => exact .num n
  | str s => exact .str s
  | arr _ ih => exact alike_arr_iff.2 (List.forall₂_same.2 ih)
  | obj distinct _ ih =>
    refine .obj distinct (.refl _) fun {key a b} ha hb => ?_
    rw [← Entries.lookup_eq_some_iff distinct] at ha hb
    cases ha.symm.trans hb
    exact ih (key, a) (Entries.mem_of_lookup ha)

/-- **Objects are alike iff each key has alike values in both**, or in none. -/
theorem alike_obj_iff {as bs : Entries Json} :
    Alike (.obj as) (.obj bs) ↔ as.keys.Nodup ∧ bs.keys.Nodup ∧
      ∀ key, Option.Rel Alike (as.lookup key) (bs.lookup key) := by
  constructor
  · rintro (_ | _ | _ | _ | _ | ⟨distinct, perm, inside⟩)
    refine ⟨distinct, perm.nodup_iff.1 distinct, fun key => ?_⟩
    cases ha : as.lookup key with
    | none =>
      have hb : bs.lookup key = none := by
        rw [Entries.lookup_eq_none_iff] at ha ⊢
        exact fun hkey => ha (perm.mem_iff.2 hkey)
      rw [hb]
      exact .none
    | some a =>
      have hmem := Entries.mem_of_lookup ha
      obtain ⟨b, hb⟩ := Entries.mem_keys_iff.1 (perm.mem_iff.1 (Entries.mem_keys_of_mem hmem))
      rw [hb]
      exact .some (inside hmem (Entries.mem_of_lookup hb))
  · rintro ⟨ha, hb, h⟩
    refine .obj ha ((List.perm_ext_iff_of_nodup ha hb).2 fun key => ?_) fun {key a b} hma hmb => ?_
    · rw [Entries.mem_keys_iff, Entries.mem_keys_iff]
      have hkey := h key
      generalize List.lookup key as = a at hkey
      generalize List.lookup key bs = b at hkey
      cases hkey <;> simp
    · have hkey := h key
      rw [(Entries.lookup_eq_some_iff ha).2 hma, (Entries.lookup_eq_some_iff hb).2 hmb] at hkey
      cases hkey with | some hab => exact hab

/-- Entries in another order make an object that is alike. -/
theorem alike_of_perm {as bs : Entries Json} (h : WellKeyed (.obj as)) (hp : as.Perm bs) :
    Alike (.obj as) (.obj bs) := by
  refine .obj h.distinct (hp.map Prod.fst) fun {key a b} ha hb => ?_
  rw [← hp.mem_iff, ← Entries.lookup_eq_some_iff h.distinct] at hb
  rw [← Entries.lookup_eq_some_iff h.distinct, hb] at ha
  cases ha
  exact alike_self (h.lookup key _ hb)

namespace Alike

variable {a b : Json}

/-! ## What a check sees -/

theorem asItems? (h : Alike a b) : Option.Rel (List.Forall₂ Alike) a.asItems? b.asItems? := by
  cases h with
  | arr length inside => exact .some (List.forall₂_iff_zip.2 ⟨length, inside⟩)
  | _ => exact .none

theorem asEntries? (h : Alike a b) :
    Option.Rel (fun as bs => Alike (.obj as) (.obj bs)) a.asEntries? b.asEntries? := by
  cases h with
  | obj distinct perm inside => exact .some (.obj distinct perm inside)
  | _ => exact .none

theorem asString? (h : Alike a b) : Option.Rel (· = ·) a.asString? b.asString? := by
  cases h with
  | str s => exact .some rfl
  | _ => exact .none

theorem kind (h : Alike a b) : Kind.of (some a) = Kind.of (some b) := by
  cases h <;> rfl

theorem isNull (h : Alike a b) : a.isNull = b.isNull := by
  cases h <;> rfl

theorem hasKey {as bs : Entries Json} (h : Alike (.obj as) (.obj bs)) (key : String) :
    as.hasKey key = bs.hasKey key := by
  rw [Entries.hasKey_eq_isSome, Entries.hasKey_eq_isSome]
  have hkey := (alike_obj_iff.1 h).2.2 key
  generalize List.lookup key as = a at hkey
  generalize List.lookup key bs = b at hkey
  cases hkey <;> rfl

theorem sameEntries_iff {as es : Entries Json} : sameEntries as es = true ↔
    ∀ entry ∈ as, ∃ e, es.lookup entry.1 = some e ∧ entry.2.same e = true := by
  induction as with
  | nil => simp [sameEntries]
  | cons entry rest ih =>
    rw [sameEntries, Bool.and_eq_true, ih, List.forall_mem_cons]
    refine and_congr_left fun _ => ?_
    cases es.lookup entry.1 <;> simp

/-- **Equality of values does not see the order of keys.** -/
theorem same (h : Alike a b) (expected : Json) : a.same expected = b.same expected := by
  induction h generalizing expected with
  | null => rfl
  | bool b => rfl
  | num n => rfl
  | str s => rfl
  | @arr as bs length inside ih =>
    cases expected with
    | arr es =>
      rw [Json.same, Json.same]
      have hall : List.Forall₂ (fun a b => ∀ e : Json, a.same e = b.same e) as bs :=
        List.forall₂_iff_zip.2 ⟨length, ih⟩
      clear length inside ih
      induction hall generalizing es with
      | nil => rfl
      | cons hab _ ihrest =>
        cases es with
        | nil => rfl
        | cons e es => rw [sameItems, sameItems, hab e, ihrest es]
    | _ => rfl
  | @obj as bs distinct perm inside ih =>
    cases expected with
    | obj es =>
      have hlength : as.length = bs.length := by simpa [Entries.keys] using perm.length_eq
      have hentries : sameEntries as es = sameEntries bs es := by
        rw [Bool.eq_iff_iff, sameEntries_iff, sameEntries_iff]
        constructor
        · rintro h ⟨key, b⟩ hb
          obtain ⟨a, ha⟩ := Entries.mem_keys_iff.1 (perm.mem_iff.2 (Entries.mem_keys_of_mem hb))
          have ha' := Entries.mem_of_lookup ha
          obtain ⟨e, he, hsame⟩ := h _ ha'
          exact ⟨e, he, by rw [← ih ha' hb, hsame]⟩
        · rintro h ⟨key, a⟩ ha
          obtain ⟨b, hb⟩ := Entries.mem_keys_iff.1 (perm.mem_iff.1 (Entries.mem_keys_of_mem ha))
          have hb' := Entries.mem_of_lookup hb
          obtain ⟨e, he, hsame⟩ := h _ hb'
          exact ⟨e, he, by rw [ih ha hb', hsame]⟩
      rw [Json.same, Json.same, hlength, hentries]
    | _ => rfl

end Alike

end Json

/-! ## Failures -/

/-- Failures that differ only in the order of keys in what they carry, and their causes likewise. -/
inductive Failure.Alike : Failure → Failure → Prop
  | intro {code message : String} {path : List Segment} {input input' : Option Json}
      {causes causes' : List Failure} (inputs : Option.Rel Json.Alike input input')
      (behind : List.Forall₂ Alike causes causes') :
      Alike ⟨code, message, input, path, causes⟩ ⟨code, message, input', path, causes'⟩

namespace Failure.Alike

variable {e e' : Failure} {input input' : Option Json}

theorem within (segment : Segment) (h : Failure.Alike e e') :
    Failure.Alike (e.within segment) (e'.within segment) := by
  cases h with | intro inputs behind => exact .intro inputs behind

theorem reworded (message : String) (code : Option String) (h : Failure.Alike e e') :
    Failure.Alike (e.reworded message code) (e'.reworded message code) := by
  cases h with | intro inputs behind => exact .intro inputs (.cons (.intro inputs behind) .nil)

theorem typeMismatch (expected : String) (h : Option.Rel Json.Alike input input') :
    Failure.Alike (.typeMismatch expected input) (.typeMismatch expected input') := by
  have hkind : Kind.of input = Kind.of input' := by
    cases h with
    | some h => exact h.kind
    | none => rfl
  rw [Failure.typeMismatch, Failure.typeMismatch, hkind]
  exact .intro h .nil

end Failure.Alike

end Conform
