/-
  What the leaves of the library make of a value they leave as it is, and they do not
  see the order of keys.
-/
import Conform.Proofs.Alike

namespace Conform

theorem Json.asInt64?_eq_some {value : Json} {n : Int} :
    value.asInt64? = some n ↔ value = .int n ∧ Json.inInt64 n = true := by
  unfold asInt64?
  split
  · next m =>
    simp only [Option.ite_none_right_eq_some, Option.some.injEq, Json.num.injEq, Number.int.injEq]
    constructor
    · rintro ⟨hm, rfl⟩
      exact ⟨rfl, hm⟩
    · rintro ⟨rfl, hn⟩
      exact ⟨hn, rfl⟩
  · next hno =>
    refine ⟨nofun, ?_⟩
    rintro ⟨rfl, -⟩
    exact (hno n rfl).elim

namespace Leaf

/-- All leaves but those of one's own. -/
def OfLibrary : Leaf → Prop
  | custom _ _ => False
  | _ => True

theorem ofLibrary_or_custom (l : Leaf) :
    l.OfLibrary ∨ ∃ expected accept, l = custom expected accept := by
  cases l with
  | custom expected accept => exact Or.inr ⟨expected, accept, rfl⟩
  | _ => exact Or.inl trivial

theorem inInt64_of_number {number : Number} {n : Int} (h : int64OfNumber? number = some n) :
    Json.inInt64 n = true := by
  unfold int64OfNumber? at h
  rcases Option.or_eq_some_iff.1 h with h | ⟨-, h⟩
  · exact (Json.asInt64?_eq_some.1 h).2
  · obtain ⟨x, -, hx⟩ := Option.bind_eq_some_iff.1 h
    cases (Option.ite_none_right_eq_some.1 hx).2
    rw [Json.inInt64, toInt64, Bool.and_eq_true]
    exact ⟨decide_eq_true (by omega), decide_eq_true (by omega)⟩

theorem int64OfNumber?_int {n : Int} (h : Json.inInt64 n = true) :
    int64OfNumber? (.int n) = some n := by
  rw [int64OfNumber?, Json.asInt64?_eq_some.2 ⟨rfl, h⟩, Option.some_or]

/-- What a leaf of the library makes of a value, it leaves as it is. -/
theorem accept_accepted {l : Leaf} (hl : l.OfLibrary) {value output : Json}
    (h : l.accept value = some output) : l.accept output = some output := by
  cases l with
  | custom expected f => exact hl.elim
  | any => rfl
  | string => cases value <;> cases h; rfl
  | boolean => cases value <;> cases h; rfl
  | null => cases value <;> cases h; rfl
  | number =>
    obtain ⟨x, -, rfl⟩ := Option.map_eq_some_iff.1 h
    rfl
  | integer =>
    obtain ⟨n, hn, rfl⟩ := Option.map_eq_some_iff.1 h
    obtain ⟨rfl, -⟩ := Json.asInt64?_eq_some.1 hn
    exact Option.map_eq_some_iff.2 ⟨n, hn, rfl⟩
  | asNumber =>
    have hfloat : ∃ x : Double, Json.float x = output := by
      cases value with
      | num n => exact (Option.map_eq_some_iff.1 h).imp fun _ hx => hx.2
      | str s => exact (Option.map_eq_some_iff.1 h).imp fun _ hx => hx.2
      | _ => cases h
    obtain ⟨x, rfl⟩ := hfloat
    rfl
  | asInteger =>
    have hint : ∃ n, Json.inInt64 n = true ∧ Json.int n = output := by
      cases value with
      | num number =>
        obtain ⟨n, hn, rfl⟩ := Option.map_eq_some_iff.1 h
        exact ⟨n, inInt64_of_number hn, rfl⟩
      | str s =>
        obtain ⟨n, hn, rfl⟩ := Option.map_eq_some_iff.1 h
        exact ⟨n, (Option.filter_eq_some_iff.1 hn).2, rfl⟩
      | _ => cases h
    obtain ⟨n, hn, rfl⟩ := hint
    exact Option.map_eq_some_iff.2 ⟨n, int64OfNumber?_int hn, rfl⟩
  | asBoolean =>
    have hbool : ∃ b, Json.bool b = output := by
      cases value with
      | bool b => exact ⟨b, Option.some.inj h⟩
      | num n => exact (Option.map_eq_some_iff.1 h).imp fun _ hb => hb.2
      | str s => exact (Option.map_eq_some_iff.1 h).imp fun _ hb => hb.2
      | _ => cases h
    obtain ⟨b, rfl⟩ := hbool
    rfl
  | asString =>
    have hstr : ∃ s, Json.str s = output := by
      cases value with
      | str s => exact ⟨s, Option.some.inj h⟩
      | num n => exact ⟨_, Option.some.inj h⟩
      | bool b => cases b <;> exact ⟨_, Option.some.inj h⟩
      | _ => cases h
    obtain ⟨s, rfl⟩ := hstr
    rfl

/-- A leaf of the library makes no array and no object, unless it takes every value as it is. -/
theorem accept_wellKeyed {l : Leaf} (hl : l.OfLibrary) {value output : Json}
    (hvalue : value.WellKeyed) (h : l.accept value = some output) : output.WellKeyed := by
  by_cases hany : l = any
  · subst hany
    cases h
    exact hvalue
  · cases output with
    | null => exact .null
    | bool b => exact .bool b
    | num n => exact .num n
    | str s => exact .str s
    | arr _ | obj _ =>
      cases l with
      | custom => exact hl.elim
      | any => exact (hany rfl).elim
      | asString =>
        cases value with
        | bool b => cases b <;> simp [accept] at h
        | _ => simp [accept] at h
      | _ => cases value <;> simp [accept] at h

theorem accept_alike {l : Leaf} (hl : l.OfLibrary) {a b : Json} (h : a.Alike b) :
    Option.Rel Json.Alike (l.accept a) (l.accept b) := by
  have hself : ∀ value : Json, value.WellKeyed →
      Option.Rel Json.Alike (l.accept value) (l.accept value) := by
    intro value hvalue
    cases haccept : l.accept value with
    | none => exact .none
    | some output => exact .some (Json.alike_self (accept_wellKeyed hl hvalue haccept))
  cases h with
  | null => exact hself _ .null
  | bool b => exact hself _ (.bool b)
  | num n => exact hself _ (.num n)
  | str s => exact hself _ (.str s)
  | arr length inside =>
    cases l with
    | custom => exact hl.elim
    | any => exact .some (.arr length inside)
    | _ => exact .none
  | obj distinct perm inside =>
    cases l with
    | custom => exact hl.elim
    | any => exact .some (.obj distinct perm inside)
    | _ => exact .none

end Leaf

end Conform
