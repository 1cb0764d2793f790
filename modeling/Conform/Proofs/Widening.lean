/-
  A schema that accepts more in one of its parts accepts more as a whole, with the
  same results (`Schema.Extends`), unless a later alternative depends on what the part
  refuses.
-/
import Conform.Proofs.Check
import Conform.Proofs.Congruence
import Conform.Proofs.Leaf
import Mathlib.Logic.Relation

namespace Conform

open Outcome

/-! ## Results that are kept -/

/-- Where the first outcome is a success, the second one is the same success. -/
def Outcome.Kept {α : Type} (o o' : Outcome α) : Prop :=
  ∀ a, o.result = .ok a → o'.result = .ok a

theorem Outcome.Kept.refl {α : Type} (o : Outcome α) : o.Kept o := fun _ h => h

theorem Outcome.kept_compatible : Compatible Kept where
  ok a := .refl (.ok a)
  fail _ _ := .refl _
  undeclared _ _ := .refl _
  bind := by
    intro α β o o' f g first next b h
    obtain ⟨a, ha, hb⟩ := bind_ok_iff.1 h
    exact bind_ok_iff.2 ⟨a, first a ha, next a b hb⟩
  within := by
    intro α o o' segment part a h
    exact within_ok_iff.2 (part a (within_ok_iff.1 h))

namespace Schema

variable {order : KeyOrder} {s t : Schema}

/-- A schema accepts what another one accepts, absent values included, with the same results. -/
def Extends (order : KeyOrder) (t s : Schema) : Prop :=
  ∀ input output, (s.check order input).result = .ok output →
    (t.check order input).result = .ok output

theorem Extends.refl (order : KeyOrder) (s : Schema) : Extends order s s := fun _ _ h => h

theorem Extends.trans {u : Schema} (h : Extends order u t) (h' : Extends order t s) :
    Extends order u s := fun input output hs => h input output (h' input output hs)

/-! ## Contexts -/

/-- A schema with a hole. No alternative comes after the hole: a later one would be tried on what
    the hole refuses. -/
inductive Context
  | hole
  | jsonString (inner : Context)
  | array (item : Context)
  | tuple (before : List Schema) (item : Context) (after : List Schema)
  | record (value : Context)
  | object (before : List (String × Schema)) (key : String) (field : Context)
      (after : List (String × Schema)) (denyUnknown : Bool)
  | typedRecord (before : List (String × Schema)) (key : String) (field : Context)
      (after : List (String × Schema))
  | optional (inner : Context)
  | nullable (inner : Context)
  | withDefault (inner : Context) (fallback : Json)
  | withMessage (inner : Context) (message : String) (code : Option String)
  | map (inner : Context) (f : Json → Option Json)
  | tryMap (inner : Context) (f : Json → Outcome Json)
  | chain (base : Context) (steps : List (Json → Json))
  | union (before : List Schema) (last : Context)
  | orElse (left : Schema) (right : Context)

/-- The schema with another one in the hole. -/
def Context.fill : Context → Schema → Schema
  | hole, s => s
  | jsonString inner, s => .jsonString (inner.fill s)
  | array item, s => .array (item.fill s)
  | tuple before item after, s => .tuple (before ++ item.fill s :: after)
  | record value, s => .record (value.fill s)
  | object before key field after denyUnknown, s =>
    .object (before ++ (key, field.fill s) :: after) denyUnknown
  | typedRecord before key field after, s => .typedRecord (before ++ (key, field.fill s) :: after)
  | optional inner, s => .optional (inner.fill s)
  | nullable inner, s => .nullable (inner.fill s)
  | withDefault inner fallback, s => .withDefault (inner.fill s) fallback
  | withMessage inner message code, s => .withMessage (inner.fill s) message code
  | map inner f, s => .map (inner.fill s) f
  | tryMap inner f, s => .tryMap (inner.fill s) f
  | chain base steps, s => .chain (base.fill s) steps
  | union before last, s => .union (before ++ [last.fill s])
  | orElse left right, s => .orElse left (right.fill s)

/-! ## Parts that accept more -/

theorem forall₂_append_cons {α : Type} {R : α → α → Prop} (hR : ∀ a, R a a) {a a' : α}
    (h : R a a') (before after : List α) :
    List.Forall₂ R (before ++ a :: after) (before ++ a' :: after) := by
  have hself : ∀ as : List α, List.Forall₂ R as as :=
    fun as => List.forall₂_same.2 fun a _ => hR a
  exact List.rel_append (hself before) (.cons h (hself after))

theorem fieldsAlongside_append_cons {field field' : Schema} (h : Alongside Kept order field field')
    (before after : List (String × Schema)) (key : String) :
    FieldsAlongside Kept order (before ++ (key, field) :: after)
      (before ++ (key, field') :: after) := by
  refine forall₂_append_cons (fun a => ?_) ?_ before after
  · exact ⟨rfl, Extends.refl order a.2⟩
  · exact ⟨rfl, h⟩

theorem extends_withMessage (h : Extends order t s) (message : String) (code : Option String) :
    Extends order (withMessage t message code) (withMessage s message code) := by
  intro input output hs
  rw [check, mapFailure_ok_iff] at hs ⊢
  exact h input output hs

/-- The last alternative is tried on what all others refuse, and its results are the last ones. -/
theorem extends_union_last (h : Extends order t s) (before : List Schema) :
    Extends order (union (before ++ [t])) (union (before ++ [s])) := by
  intro input output hs
  obtain ⟨earlier, u, later, heq, hearlier, hu⟩ := union_ok_iff.1 hs
  rcases List.append_eq_append_iff.1 heq with ⟨rest, rfl, hlast⟩ | ⟨rest, rfl, hlast⟩
  · -- the hole accepts, or nothing does after it
    obtain _ | ⟨first, rest⟩ := rest
    · cases hlast
      refine union_ok_iff.2 ⟨before, t, [], rfl, ?_, h input output hu⟩
      simpa using hearlier
    · simp at hlast
  · obtain _ | ⟨first, rest⟩ := rest
    · cases hlast
      refine union_ok_iff.2 ⟨earlier, t, [], by simp, hearlier, h input output hu⟩
    · obtain ⟨rfl, rfl⟩ := List.cons.inj hlast
      exact union_ok_iff.2 ⟨earlier, u, rest ++ [t], by simp, hearlier, hu⟩

/-- **What extends the schema in the hole extends the whole.** -/
theorem extends_fill_of_extends (h : Extends order t s) (c : Context) :
    Extends order (c.fill t) (c.fill s) := by
  have hk := kept_compatible
  induction c with
  | hole => exact h
  | jsonString inner ih => exact hk.jsonString ih
  | array item ih => exact hk.array ih
  | tuple before item after ih =>
    have hself : ∀ u : Schema, Alongside Kept order u u := Extends.refl order
    exact hk.tuple (forall₂_append_cons hself ih before after)
  | record value ih => exact hk.record ih
  | object before key field after deny ih =>
    exact hk.object (fieldsAlongside_append_cons ih before after key) deny
  | typedRecord before key field after ih =>
    exact hk.typedRecord (fieldsAlongside_append_cons ih before after key)
  | optional inner ih => exact hk.optional ih
  | nullable inner ih => exact hk.nullable ih
  | withDefault inner fallback ih => exact hk.withDefault ih fallback
  | withMessage inner message code ih => exact extends_withMessage ih message code
  | map inner f ih => exact hk.mapResult ih f
  | tryMap inner f ih => exact hk.tryMap ih fun output => .refl (f output)
  | chain base steps ih => exact hk.chain ih steps
  | union before last ih => exact extends_union_last ih before
  | orElse left right ih =>
    intro input output hs
    rw [Context.fill, check_orElse] at hs ⊢
    exact extends_union_last ih [left] input output hs

end Schema

/-! ## Leaves that convert -/

namespace Leaf

/-- The leaf that does the same and converts besides; a leaf without such a partner stays. -/
def converting : Leaf → Leaf
  | string => asString
  | number => asNumber
  | integer => asInteger
  | boolean => asBoolean
  | l => l

/-- A leaf that converts tries the strict reading first. -/
theorem accept_converting {l : Leaf} {value output : Json} (h : l.accept value = some output) :
    l.converting.accept value = some output := by
  cases l with
  | string => cases value <;> cases h; rfl
  | number =>
    cases value with
    | num n => exact h
    | _ => cases h
  | integer =>
    obtain ⟨n, hn, rfl⟩ := Option.map_eq_some_iff.1 h
    obtain ⟨rfl, hrange⟩ := Json.asInt64?_eq_some.1 hn
    exact Option.map_eq_some_iff.2 ⟨n, int64OfNumber?_int hrange, rfl⟩
  | boolean => cases value <;> cases h; rfl
  | _ => exact h

end Leaf

namespace Schema

variable {order : KeyOrder}

theorem extends_converting (l : Leaf) : Extends order (leaf l.converting) (leaf l) := by
  intro input output h
  rw [check, Leaf.check_ok_iff] at h ⊢
  obtain ⟨value, rfl, haccept⟩ := h
  exact ⟨value, rfl, Leaf.accept_converting haccept⟩

/-- One leaf of a schema converts from now on. -/
inductive Relaxes : Schema → Schema → Prop
  | intro (c : Context) (l : Leaf) : Relaxes (c.fill (leaf l)) (c.fill (leaf l.converting))

/-- **Accepting more in one part is backward compatible**: all that was accepted keeps its result.
    In particular, leaves may convert in any number of places. -/
theorem extends_fill (order : KeyOrder) :
    (∀ (c : Context) (s t : Schema), Extends order t s → Extends order (c.fill t) (c.fill s)) ∧
      ∀ s t : Schema, Relation.ReflTransGen Relaxes s t → Extends order t s := by
  refine ⟨fun c s t h => extends_fill_of_extends h c, fun s t h => ?_⟩
  induction h with
  | refl => exact .refl order s
  | tail _ hlast ih =>
    obtain ⟨c, l⟩ := hlast
    exact (extends_fill_of_extends (extends_converting l) c).trans ih

/-- Two fields that convert from now on, one of them in the second of two alternatives. -/
theorem extends_fill_fields :
    Extends .sorted
      (object [("id", orElse (leaf .null) (leaf .asInteger)), ("on", optional (leaf .asBoolean))]
        true)
      (object [("id", orElse (leaf .null) (leaf .integer)), ("on", optional (leaf .boolean))]
        true) := by
  refine (extends_fill .sorted).2 _ _ (.tail (.tail .refl (.intro
    (.object [] "id" (.orElse (leaf .null) .hole) [("on", optional (leaf .boolean))] true)
    .integer)) ?_)
  exact .intro (.object [("id", orElse (leaf .null) (leaf .asInteger))] "on" (.optional .hole) []
    true) .boolean

/-- Before a later alternative it does harm to accept more. -/
example : ¬Extends order (orElse (leaf .asBoolean) (leaf .string))
    (orElse (leaf .boolean) (leaf .string)) := by
  intro h
  have hafter := h (some (.str "true")) (.str "true") (by cases order <;> rfl)
  have hnow : ((orElse (leaf .asBoolean) (leaf .string)).check order (some (.str "true"))).result =
      .ok (.bool true) := by
    cbv
  rw [hnow] at hafter
  cases hafter

end Schema

end Conform
