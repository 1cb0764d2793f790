/-
  Schemas as trees, and each composite as a row of the outcomes of its parts.
-/
import Conform.Proofs.Outcome
import Mathlib.Data.List.Basic

namespace Conform

namespace Schema

/-! ## Induction -/

/-- Induction on schemas: lists of schemas give the hypothesis for each of their members. -/
@[elab_as_elim, induction_eliminator]
theorem induct {motive : Schema → Prop}
    (leaf : ∀ l, motive (leaf l))
    (literal : ∀ expected, motive (literal expected))
    (enums : ∀ variants, motive (enums variants))
    (pattern : ∀ p, motive (pattern p))
    (rule : ∀ f, motive (rule f))
    (jsonString : ∀ inner, motive inner → motive (jsonString inner))
    (array : ∀ item, motive item → motive (array item))
    (tuple : ∀ items, (∀ s ∈ items, motive s) → motive (tuple items))
    (record : ∀ value, motive value → motive (record value))
    (object : ∀ fields deny, (∀ field ∈ fields, motive field.2) → motive (object fields deny))
    (typedRecord : ∀ fields, (∀ field ∈ fields, motive field.2) → motive (typedRecord fields))
    (optional : ∀ inner, motive inner → motive (optional inner))
    (nullable : ∀ inner, motive inner → motive (nullable inner))
    (withDefault : ∀ inner fallback, motive inner → motive (withDefault inner fallback))
    (withMessage : ∀ inner message code, motive inner → motive (withMessage inner message code))
    (map : ∀ inner f, motive inner → motive (map inner f))
    (tryMap : ∀ inner f, motive inner → motive (tryMap inner f))
    (chain : ∀ base steps, motive base → motive (chain base steps))
    (union : ∀ alternatives, (∀ s ∈ alternatives, motive s) → motive (union alternatives))
    (orElse : ∀ left right, motive left → motive right → motive (orElse left right))
    (s : Schema) : motive s :=
  @Schema.rec motive (fun items => ∀ s ∈ items, motive s)
    (fun fields => ∀ field ∈ fields, motive field.2) (fun field => motive field.2)
    leaf literal enums pattern rule jsonString array tuple record object typedRecord optional
    nullable withDefault withMessage map tryMap chain union orElse
    (by simp) (fun _ _ hs hrest => List.forall_mem_cons.2 ⟨hs, hrest⟩)
    (by simp) (fun _ _ hfield hrest => List.forall_mem_cons.2 ⟨hfield, hrest⟩)
    (fun _ _ hs => hs) s

/-- A property of a schema and of all schemas inside it. -/
inductive Everywhere (p : Schema → Prop) : Schema → Prop
  | intro {s} (here : p s) (inside : ∀ c ∈ s.children, Everywhere p c) : Everywhere p s

namespace Everywhere

variable {p q : Schema → Prop} {s : Schema}

theorem here (h : s.Everywhere p) : p s := by
  cases h with | intro here _ => exact here

theorem inside (h : s.Everywhere p) : ∀ c ∈ s.children, c.Everywhere p := by
  cases h with | intro _ inside => exact inside

theorem part {c : Schema} (h : s.Everywhere p) (hc : s.children = [c]) : c.Everywhere p :=
  h.inside c (by simp [hc])

theorem field {fields : List (String × Schema)} (h : s.Everywhere p)
    (hs : s.children = fields.map Prod.snd) : ∀ field ∈ fields, field.2.Everywhere p :=
  fun field hf => h.inside field.2 (hs ▸ List.mem_map_of_mem hf)

theorem imp (h : s.Everywhere p) (hpq : ∀ s, p s → q s) : s.Everywhere q := by
  induction h with | intro here _ ih => exact ⟨hpq _ here, ih⟩

/-- What all schemas have, a schema has everywhere. -/
theorem of_forall (h : ∀ s, p s) (s : Schema) : s.Everywhere p := by
  induction s with
  | leaf | literal | enums | pattern | rule => exact ⟨h _, by simp [children]⟩
  | tuple _ ih | union _ ih => exact ⟨h _, ih⟩
  | object _ _ ih | typedRecord _ ih => exact ⟨h _, List.forall_mem_map.2 ih⟩
  | orElse _ _ ihl ihr => exact ⟨h _, by simpa [children] using ⟨ihl, ihr⟩⟩
  | jsonString _ ih | array _ ih | record _ ih | optional _ ih | nullable _ ih | withDefault _ _ ih
  | withMessage _ _ _ ih | map _ _ ih | tryMap _ _ ih | chain _ _ ih =>
    exact ⟨h _, by simpa [children] using ih⟩

/-- Two properties, the second under a condition. -/
theorem and_of_imp {condition : Prop} (hp : s.Everywhere p) (hq : condition → s.Everywhere q) :
    s.Everywhere fun t => p t ∧ (condition → q t) := by
  induction hp with
  | intro here _ ih =>
    refine ⟨⟨here, fun h => (hq h).here⟩, fun c hc => ?_⟩
    exact ih c hc fun h => (hq h).inside c hc

end Everywhere

/-- A property everywhere in a given schema, one schema inside it after the other. -/
theorem everywhere_iff {p : Schema → Prop} {s : Schema} :
    s.Everywhere p ↔ p s ∧ s.children.Forall (Everywhere p) := by
  rw [List.forall_iff_forall_mem]
  exact ⟨fun h => ⟨h.here, h.inside⟩, fun h => ⟨h.1, h.2⟩⟩

end Schema

/-! ## Parts as rows -/

namespace Check

variable {α : Type}

theorem eachItem_eq_items (check : Check α) (index : Nat) (values : List Json) :
    eachItem check index values = .items (fun value => check (some value)) index values := by
  induction values generalizing index with
  | nil => rfl
  | cons value rest ih => rw [eachItem, ih, Outcome.items_cons]

theorem eachPart_eq_items (checks : List (Check α)) (index : Nat) (values : List Json) :
    eachPart checks index values =
      .items (fun p : Check α × Json => p.1 (some p.2)) index (checks.zip values) := by
  induction checks generalizing index values with
  | nil => simp [eachPart, Outcome.items, Outcome.row]
  | cons check rest ih =>
    cases values with
    | nil => simp [eachPart, Outcome.items, Outcome.row]
    | cons value values => rw [eachPart, ih, List.zip_cons_cons, Outcome.items_cons]

theorem eachKey_eq_keyed (check : Check α) (entries : Entries Json) (keys : List String) :
    eachKey check entries keys =
      .keyed (keys.map fun key => (key, check (entries.lookup key))) := by
  induction keys with
  | nil => rfl
  | cons key rest ih => rw [eachKey, ih, List.map_cons, Outcome.keyed_cons]

end Check

/-! ## Views -/

/-- The items of an array. -/
def Json.asItems? : Json → Option (List Json)
  | .arr values => some values
  | _ => none

/-- The entries of an object. -/
def Json.asEntries? : Json → Option (Entries Json)
  | .obj entries => some entries
  | _ => none

@[simp]
theorem Json.asString?_eq_some {value : Json} {text : String} :
    value.asString? = some text ↔ value = .str text := by
  cases value <;> simp [asString?]

@[simp]
theorem Json.asItems?_eq_some {value : Json} {values : List Json} :
    value.asItems? = some values ↔ value = .arr values := by
  cases value <;> simp [asItems?]

@[simp]
theorem Json.asEntries?_eq_some {value : Json} {entries : Entries Json} :
    value.asEntries? = some entries ↔ value = .obj entries := by
  cases value <;> simp [asEntries?]

/-- What a view shows of a value goes on; a value of which it shows nothing is refused. -/
def narrow {α β : Type} (expected : String) (view : Json → Option α) (input : Option Json)
    (next : α → Outcome β) : Outcome β :=
  match input.bind view with
  | some a => next a
  | none => .fail (.typeMismatch expected input)

section

variable {α β γ : Type}

theorem narrow_arr (expected : String) (values : List Json) (next : List Json → Outcome β) :
    narrow expected Json.asItems? (some (.arr values)) next = next values := rfl

theorem narrow_obj (expected : String) (entries : Entries Json) (next : Entries Json → Outcome β) :
    narrow expected Json.asEntries? (some (.obj entries)) next = next entries := rfl

theorem map_narrow (f : β → γ) (expected : String) (view : Json → Option α) (input : Option Json)
    (next : α → Outcome β) :
    (narrow expected view input next).map f = narrow expected view input fun a =>
      (next a).map f := by
  unfold narrow
  cases input.bind view <;> rfl

end

theorem Leaf.check_eq_narrow (l : Leaf) (input : Option Json) :
    l.check input = narrow l.expected l.accept input .ok := by
  unfold check narrow
  cases input.bind l.accept <;> rfl

theorem withString_eq_narrow (expected : String) (input : Option Json)
    (next : String → Outcome Json) :
    withString expected input next = narrow expected Json.asString? input next := by
  obtain _ | value := input
  · rfl
  · cases value <;> rfl

namespace Check

variable {α : Type} (input : Option Json)

theorem array_eq_narrow (item : Check α) : item.array input =
    narrow "array" Json.asItems? input fun values =>
      .items (fun value => item (some value)) 0 values := by
  obtain _ | value := input
  · rfl
  · cases value <;> simp [array, narrow, Json.asItems?, eachItem_eq_items]

theorem tuple_eq_narrow (items : List (Check α)) : tuple items input =
    narrow "array" Json.asItems? input fun values =>
      if values.length = items.length then
        .items (fun p : Check α × Json => p.1 (some p.2)) 0 (items.zip values)
      else .fail (.tupleLength items.length values.length input) := by
  obtain _ | value := input
  · rfl
  · cases value <;> simp [tuple, narrow, Json.asItems?, eachPart_eq_items]

theorem record_eq_narrow (value : Check α) : value.record input =
    narrow "object" Json.asEntries? input fun entries =>
      .keyed (entries.sortedKeys.map fun key => (key, value (entries.lookup key))) := by
  obtain _ | value := input
  · rfl
  · cases value <;> simp [record, narrow, Json.asEntries?, eachKey_eq_keyed]

end Check

namespace Schema

variable (order : KeyOrder)

attribute [local simp] check checks checkFields checkAlternatives

/-- The outcomes of the fields of an object, each with its key. -/
def fieldOutcomes (fields : List (String × Schema)) (entries : Entries Json) :
    List (String × Outcome Json) :=
  fields.map fun field => (field.1, field.2.check order (entries.lookup field.1))

theorem checks_eq_map (schemas : List Schema) :
    checks order schemas = schemas.map (check order) := by
  induction schemas with
  | nil => simp
  | cons schema rest ih => rw [checks, ih, List.map_cons]

theorem checkFields_eq_keyed (fields : List (String × Schema)) (entries : Entries Json) :
    checkFields order fields entries = .keyed (fieldOutcomes order fields entries) := by
  induction fields with
  | nil => simp [fieldOutcomes, Outcome.keyed, Outcome.row]
  | cons field fields ih =>
    rw [checkFields, ih]
    exact (Outcome.keyed_cons _ _ _).symm

theorem checkAlternatives_eq_ofList (alternatives : List Schema) (input : Option Json) :
    checkAlternatives order alternatives input =
      .ofList (alternatives.map fun s => s.check order input) := by
  induction alternatives with
  | nil => simp [Attempts.ofList]
  | cons s rest ih => simp only [checkAlternatives, ih, List.map_cons, Attempts.ofList]

/-! ## Composites -/

variable (input : Option Json)

theorem check_array (item : Schema) :
    (array item).check order input = narrow "array" Json.asItems? input fun values =>
      (Outcome.items (fun value => item.check order (some value)) 0 values).map .arr := by
  rw [check, Check.map, Check.array_eq_narrow, map_narrow]

theorem check_tuple (items : List Schema) :
    (tuple items).check order input = narrow "array" Json.asItems? input fun values =>
      if values.length = items.length then
        (Outcome.items (fun p : Schema × Json => p.1.check order (some p.2)) 0
          (items.zip values)).map .arr
      else .fail (.tupleLength items.length values.length input) := by
  rw [check, Check.map, Check.tuple_eq_narrow, map_narrow, checks_eq_map]
  refine congrArg (narrow _ _ _) (funext fun values => ?_)
  rw [List.length_map, List.zip_map_left, Outcome.items_map, apply_ite (Outcome.map Json.arr)]
  rfl

theorem check_record (value : Schema) :
    (record value).check order input = narrow "object" Json.asEntries? input fun entries =>
      (Outcome.keyed (entries.sortedKeys.map fun key =>
        (key, value.check order (entries.lookup key)))).map .obj := by
  rw [check, Check.map, Check.record_eq_narrow, map_narrow]

theorem check_object (fields : List (String × Schema)) (deny : Bool) :
    (object fields deny).check order input = narrow "object" Json.asEntries? input fun entries =>
      (Outcome.keyed (fieldOutcomes order fields entries)).bind fun outputs =>
        (if deny then refuseUndeclared (Entries.keys fields) entries else .ok ()).map fun _ =>
          .obj (order.ofList (dropAbsent entries outputs)) := by
  obtain _ | value := input
  · simp [narrow]
  · cases value <;> simp [narrow, Json.asEntries?, checkFields_eq_keyed, Entries.keys]

theorem check_typedRecord (fields : List (String × Schema)) :
    (typedRecord fields).check order input = narrow "object" Json.asEntries? input fun entries =>
      (Outcome.keyed (fieldOutcomes order fields entries)).map fun outputs =>
        .obj (order.ofList outputs) := by
  obtain _ | value := input
  · simp [narrow]
  · cases value <;> simp [narrow, Json.asEntries?, checkFields_eq_keyed]

/-- A map succeeds with every function, and what it results in is made a JSON value. -/
theorem check_map (inner : Schema) (f : Json → Option Json) : (map inner f).check order input =
    (inner.check order input).bind fun output =>
      (f output).elim (.fail (.unrepresentable Encoder.unkeyed input)) .ok := by
  rw [check, Check.erase, Check.map, Outcome.map_bind]
  refine Outcome.bind_congr fun output _ => ?_
  cases f output <;> rfl

theorem check_union (alternatives : List Schema) :
    (union alternatives).check order input =
      (Attempts.ofList (alternatives.map fun s => s.check order input)).settle input := by
  rw [check, checkAlternatives_eq_ofList]

/-- Two alternatives are a union of two. -/
theorem check_orElse (left right : Schema) :
    (orElse left right).check order input = (union [left, right]).check order input := by
  rw [check_union, check]
  rfl

end Schema

end Conform
