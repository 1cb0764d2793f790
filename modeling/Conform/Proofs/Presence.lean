/-
  Stacks of wrappers that take absent values or `null`. What a stack makes of an
  absent value and whether it takes `null` is all that counts.
-/
import Conform.Schema.Check

namespace Conform

/-- A wrapper that takes absent values or `null`. -/
inductive Presence
  | optional
  | nullable
  | withDefault (fallback : Json)

namespace Presence

/-! ## Stacks -/

/-- The wrapper around a schema. -/
def around : Presence → Schema → Schema
  | optional, s => .optional s
  | nullable, s => .nullable s
  | withDefault fallback, s => .withDefault s fallback

/-- Wrappers around a schema, the outermost one first. -/
def stack (wrappers : List Presence) (s : Schema) : Schema := wrappers.foldr around s

/-- What the wrapper makes of an absent value; only `nullable` leaves it to the schema inside. -/
def onAbsent? : Presence → Option Json
  | optional => some .null
  | nullable => none
  | withDefault fallback => some fallback

/-- The wrapper takes `null`; all others leave it to the schema inside. -/
def isNullable : Presence → Bool
  | nullable => true
  | optional | withDefault _ => false

variable {order : KeyOrder}

/-! ## One wrapper -/

theorem check_around_none (p : Presence) (s : Schema) :
    (p.around s).check order none = p.onAbsent?.elim (s.check order none) .ok := by
  cases p with
  | optional => rw [around, Schema.check]; rfl
  | nullable => rw [around, Schema.check]; rfl; nofun
  | withDefault fallback => rw [around, Schema.check]; rfl

theorem check_around_null (p : Presence) (s : Schema) :
    (p.around s).check order (some .null) =
      if p.isNullable then .ok .null else s.check order (some .null) := by
  cases p <;> rw [around, Schema.check] <;> rfl

theorem check_around_value (p : Presence) (s : Schema) {value : Json} (h : value ≠ .null) :
    (p.around s).check order (some value) = s.check order (some value) := by
  cases p with
  | optional => rw [around, Schema.check]
  | nullable =>
    rw [around, Schema.check]
    exact fun heq => h (Option.some.inj heq)
  | withDefault fallback => rw [around, Schema.check]

/-! ## Many wrappers -/

theorem check_stack_none (wrappers : List Presence) (s : Schema) :
    (stack wrappers s).check order none =
      (wrappers.findSome? onAbsent?).elim (s.check order none) .ok := by
  induction wrappers with
  | nil => rfl
  | cons p rest ih =>
    rw [stack, List.foldr_cons, check_around_none, List.findSome?_cons, ← stack, ih]
    cases p.onAbsent? <;> rfl

theorem check_stack_null (wrappers : List Presence) (s : Schema) :
    (stack wrappers s).check order (some .null) =
      if wrappers.any isNullable then .ok .null else s.check order (some .null) := by
  induction wrappers with
  | nil => rfl
  | cons p rest ih =>
    rw [stack, List.foldr_cons, check_around_null, List.any_cons, ← stack, ih]
    cases p.isNullable <;> rfl

theorem check_stack_value (wrappers : List Presence) (s : Schema) {value : Json}
    (h : value ≠ .null) :
    (stack wrappers s).check order (some value) = s.check order (some value) := by
  induction wrappers with
  | nil => rfl
  | cons p rest ih => rw [stack, List.foldr_cons, check_around_value p _ h, ← stack, ih]

/-- **Stacks check alike** if they make the same of absent values and both take `null` or neither
    does. -/
theorem check_stack_of_same {wrappers wrappers' : List Presence} (s : Schema)
    (habsent : wrappers.findSome? onAbsent? = wrappers'.findSome? onAbsent?)
    (hnull : wrappers.any isNullable = wrappers'.any isNullable) :
    (stack wrappers s).check order = (stack wrappers' s).check order := by
  funext input
  obtain _ | value := input
  · rw [check_stack_none, check_stack_none, habsent]
  · by_cases h : value = .null
    · rw [h, check_stack_null, check_stack_null, hnull]
    · rw [check_stack_value wrappers s h, check_stack_value wrappers' s h]

theorem check_stack_swap (outer inner : List Presence) (s : Schema) :
    (stack (outer ++ optional :: nullable :: inner) s).check order =
      (stack (outer ++ nullable :: optional :: inner) s).check order := by
  refine check_stack_of_same s ?_ ?_
  · rw [List.findSome?_append, List.findSome?_append]
    rfl
  · simp [isNullable]

/-- A wrapper counts once, however often it is repeated further inside. -/
theorem check_stack_repeat (outer between inner : List Presence) (p : Presence) (s : Schema) :
    (stack (outer ++ p :: between ++ p :: inner) s).check order =
      (stack (outer ++ p :: between ++ inner) s).check order := by
  refine check_stack_of_same s ?_ ?_
  · cases h : p.onAbsent? <;> simp [List.findSome?_append, h]
  · cases h : p.isNullable <;> simp [h]

/-- Below a wrapper that takes absent values, all others that do so are dead. -/
theorem check_stack_dead {p : Presence} (hp : p.isNullable = false) (outer inner : List Presence)
    (s : Schema) : (stack (outer ++ p :: inner) s).check order =
      (stack (outer ++ p :: inner.filter isNullable) s).check order := by
  refine check_stack_of_same s ?_ ?_
  · -- no absent value gets past `p`
    have habsent : p.onAbsent?.isSome := by
      cases p with
      | nullable => cases hp
      | optional | withDefault _ => rfl
    obtain ⟨output, h⟩ := Option.isSome_iff_exists.1 habsent
    simp [List.findSome?_append, h]
  · simp [List.any_filter]

/-- **Every stack of presence wrappers has a normal form of three cases.** An absent value becomes
    what the outermost wrapper makes of it that is not `nullable`, `null` is taken if one of the
    wrappers is `nullable`, and everything else is up to the schema inside, with its failures as
    they are. Neighbours `optional` and `nullable` may change places, a wrapper counts once however
    often it is repeated, and below a wrapper that takes absent values all others that do so are
    dead. -/
theorem check_stack (wrappers : List Presence) (s : Schema) :
    ((stack wrappers s).check order none =
        match wrappers.findSome? onAbsent? with
        | some output => .ok output
        | none => s.check order none) ∧
      ((stack wrappers s).check order (some .null) =
        if wrappers.any isNullable then .ok .null else s.check order (some .null)) ∧
      (∀ value : Json, value ≠ .null →
        (stack wrappers s).check order (some value) = s.check order (some value)) ∧
      (∀ outer inner, (stack (outer ++ optional :: nullable :: inner) s).check order =
        (stack (outer ++ nullable :: optional :: inner) s).check order) ∧
      (∀ outer p between inner, (stack (outer ++ p :: between ++ p :: inner) s).check order =
        (stack (outer ++ p :: between ++ inner) s).check order) ∧
      ∀ outer p inner, p.isNullable = false → (stack (outer ++ p :: inner) s).check order =
        (stack (outer ++ p :: inner.filter isNullable) s).check order := by
  refine ⟨?_, check_stack_null wrappers s, fun value => check_stack_value wrappers s,
    fun outer inner => check_stack_swap outer inner s,
    fun outer p between inner => check_stack_repeat outer between inner p s,
    fun outer p inner hp => check_stack_dead hp outer inner s⟩
  rw [check_stack_none]
  cases wrappers.findSome? onAbsent? <;> rfl

/-- Five wrappers around whole numbers: the outer default hides the inner one, and `nullable` counts
    wherever it stands. -/
theorem check_stack_five :
    let inner := [nullable, withDefault (.int 2)]
    let wrappers := nullable :: withDefault (.int 1) :: optional :: inner
    (stack wrappers (.leaf .integer)).check .sorted none = .ok (.int 1) ∧
      (stack wrappers (.leaf .integer)).check .sorted (some .null) = .ok .null ∧
      (stack wrappers (.leaf .integer)).check .sorted (some (.str "1")) =
        .fail (.typeMismatch "integer" (some (.str "1"))) ∧
      (stack wrappers (.leaf .integer)).check .sorted =
        (stack [nullable, withDefault (.int 1), nullable] (.leaf .integer)).check .sorted := by
  intro inner wrappers
  have h := @check_stack .sorted wrappers (.leaf .integer)
  exact ⟨h.1, h.2.1, h.2.2.1 (.str "1") nofun,
    h.2.2.2.2.2 [nullable] (withDefault (.int 1)) (optional :: inner) rfl⟩

end Presence

end Conform
