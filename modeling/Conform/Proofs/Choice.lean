/-
  Trees of alternatives. However they are nested, the first leaf that accepts decides,
  and a refusal by all leaves keeps their failures in a tree of the same shape.
-/
import Conform.Proofs.Check

namespace Conform

open Outcome

/-- A tree of alternatives. -/
inductive Choice
  /-- any schema, which may have alternatives of its own -/
  | leaf (schema : Schema)
  /-- the left tree or else the right one -/
  | orElse (left right : Choice)
  /-- the first tree that accepts -/
  | union (alternatives : List Choice)

namespace Choice

/-! ## Trees -/

mutual

/-- The tree as a schema. -/
def schema : Choice → Schema
  | leaf s => s
  | orElse left right => .orElse (schema left) (schema right)
  | union alternatives => .union (schemas alternatives)

/-- Trees as schemas. -/
def schemas : List Choice → List Schema
  | [] => []
  | choice :: rest => schema choice :: schemas rest

end

mutual

/-- The leaves of the tree, from left to right. -/
def leaves : Choice → List Schema
  | leaf s => [s]
  | orElse left right => leaves left ++ leaves right
  | union alternatives => leavesAll alternatives

/-- The leaves of trees, one tree after the other. -/
def leavesAll : List Choice → List Schema
  | [] => []
  | choice :: rest => leaves choice ++ leavesAll rest

end

variable {order : KeyOrder} {input : Option Json}

/-- The failure of a tree on a value has the shape of the tree. A leaf has the failure of its
    schema, as it is; every other node has a failure at the value itself, whose causes are the
    failures of its parts in order. -/
inductive Refuses (order : KeyOrder) (input : Option Json) : Choice → Failure → Prop
  | leaf {s : Schema} {e : Failure} (failure : (s.check order input).result = .error e) :
      Refuses order input (.leaf s) e
  | orElse {left right : Choice} {e e' : Failure} (first : Refuses order input left e)
      (second : Refuses order input right e') :
      Refuses order input (.orElse left right)
        { code := "union", message := "no alternative matched", input := input, path := [],
          causes := [e, e'] }
  | union {alternatives : List Choice} {causes : List Failure}
      (each : List.Forall₂ (Refuses order input) alternatives causes) :
      Refuses order input (.union alternatives)
        { code := "union", message := "no alternative matched", input := input, path := [],
          causes := causes }

end Choice

/-! ## The first success -/

/-- The first success of a row of alternatives is that of the row. -/
theorem Attempts.toOption_settle_ofList (os : List (Outcome Json)) (input : Option Json) :
    ((ofList os).settle input).result.toOption = os.findSome? fun o => o.result.toOption := by
  have hsettle : ∀ attempts : Attempts,
      (attempts.settle input).result.toOption = attempts.result.toOption := by
    intro attempts
    cases h : attempts.result <;> simp [settle, h, Except.toOption]
  rw [hsettle]
  induction os with
  | nil => rfl
  | cons o rest ih =>
    rw [ofList, List.findSome?_cons]
    cases h : o.result with
    | ok output => rw [before_of_ok h]; rfl
    | error e =>
      rw [before_of_error h, Except.toOption, ← ih]
      cases (ofList rest).result <;> rfl

/-- What a schema makes of a value, if it accepts it. -/
def Schema.output? (order : KeyOrder) (input : Option Json) (s : Schema) : Option Json :=
  (s.check order input).result.toOption

theorem Schema.output?_eq_some_iff {order : KeyOrder} {input : Option Json} {s : Schema}
    {output : Json} :
    s.output? order input = some output ↔ (s.check order input).result = .ok output := by
  unfold output?
  cases (s.check order input).result <;> simp [Except.toOption]

theorem Schema.output?_union (order : KeyOrder) (input : Option Json) (alternatives : List Schema) :
    (union alternatives).output? order input =
      alternatives.findSome? (output? order input) := by
  rw [output?, check_union, Attempts.toOption_settle_ofList, List.findSome?_map]
  rfl

theorem Schema.output?_orElse (order : KeyOrder) (input : Option Json) (left right : Schema) :
    (orElse left right).output? order input =
      (left.output? order input).or (right.output? order input) := by
  rw [output?, check_orElse, ← output?, output?_union, List.findSome?_cons, List.findSome?_cons]
  cases left.output? order input <;> cases right.output? order input <;> rfl

namespace Choice

variable {order : KeyOrder} {input : Option Json}

mutual

/-- **The first leaf that accepts decides.** -/
theorem output?_schema : ∀ choice : Choice,
    choice.schema.output? order input = choice.leaves.findSome? (Schema.output? order input)
  | leaf s => by
    rw [schema, leaves, List.findSome?_singleton]
  | orElse left right => by
    rw [schema, leaves, Schema.output?_orElse, List.findSome?_append, output?_schema left,
      output?_schema right]
  | union alternatives => by
    rw [schema, leaves, Schema.output?_union, findSome?_schemas alternatives]

theorem findSome?_schemas : ∀ choices : List Choice,
    (schemas choices).findSome? (Schema.output? order input) =
      (leavesAll choices).findSome? (Schema.output? order input)
  | [] => rfl
  | choice :: rest => by
    rw [schemas, leavesAll, List.findSome?_append, List.findSome?_cons, output?_schema choice,
      findSome?_schemas rest]
    cases choice.leaves.findSome? (Schema.output? order input) <;> rfl

end

/-! ## All failures -/

mutual

/-- **A refusal has the shape of the tree.** -/
theorem schema_error_iff : ∀ (choice : Choice) {e : Failure},
    (choice.schema.check order input).result = .error e ↔ choice.Refuses order input e
  | leaf s, e => by
    refine ⟨.leaf, ?_⟩
    rintro (h | _ | _)
    exact h
  | orElse left right, e => by
    rw [schema, Schema.check_orElse, Schema.union_error_iff]
    constructor
    · rintro ⟨_, _ | ⟨hl, _ | ⟨hr, _ | _⟩⟩, rfl⟩
      exact .orElse ((schema_error_iff left).1 hl) ((schema_error_iff right).1 hr)
    · rintro (_ | ⟨hl, hr⟩ | _)
      have hl' := (schema_error_iff left).2 hl
      have hr' := (schema_error_iff right).2 hr
      exact ⟨_, .cons hl' (.cons hr' .nil), rfl⟩
  | union alternatives, e => by
    rw [schema, Schema.union_error_iff]
    constructor
    · rintro ⟨causes, h, rfl⟩
      exact .union ((schemas_error_iff alternatives).1 h)
    · rintro (_ | _ | h)
      exact ⟨_, (schemas_error_iff alternatives).2 h, rfl⟩

theorem schemas_error_iff : ∀ (choices : List Choice) {es : List Failure},
    List.Forall₂ (fun s e => (s.check order input).result = .error e) (schemas choices) es ↔
      List.Forall₂ (Refuses order input) choices es
  | [], es => by
    rw [schemas, List.forall₂_nil_left_iff, List.forall₂_nil_left_iff]
  | choice :: rest, [] => by
    rw [schemas, List.forall₂_nil_right_iff, List.forall₂_nil_right_iff]
    exact ⟨nofun, nofun⟩
  | choice :: rest, e :: es => by
    rw [schemas, List.forall₂_cons, List.forall₂_cons, schema_error_iff choice,
      schemas_error_iff rest]

end

/-- **Trees of alternatives go by their leaves.** A tree results in what its first accepting leaf
    results in, so that it accepts iff some leaf does, and so do all trees with the same leaves. If
    it refuses, the failure is a tree of the same shape with the failures of all leaves. -/
theorem check_choice (choice : Choice) (input : Option Json) :
    (choice.schema.check order input).result.toOption =
        choice.leaves.findSome? (fun s => (s.check order input).result.toOption) ∧
      ((∃ output, (choice.schema.check order input).result = .ok output) ↔
        ∃ s ∈ choice.leaves, ∃ output, (s.check order input).result = .ok output) ∧
      (∀ other : Choice, other.leaves = choice.leaves → ∀ output,
        (other.schema.check order input).result = .ok output ↔
          (choice.schema.check order input).result = .ok output) ∧
      ∀ e, (choice.schema.check order input).result = .error e ↔ choice.Refuses order input e := by
  refine ⟨output?_schema choice, ?_, fun other hleaves output => ?_, fun e =>
    schema_error_iff choice⟩
  · simp only [← Schema.output?_eq_some_iff, ← Option.isSome_iff_exists, output?_schema,
      List.findSome?_isSome_iff]
  · rw [← Schema.output?_eq_some_iff, ← Schema.output?_eq_some_iff, output?_schema,
      output?_schema, hleaves]

/-- Three leaves in two nestings, one of them with an empty choice between: without a value the last
    leaf accepts. -/
theorem check_choice_nested :
    let text := leaf (.leaf .string)
    let list := leaf (.array (.leaf .integer))
    let switch := leaf (.withDefault (.leaf .boolean) (.int 3))
    (union [text, union [], orElse list switch]).leaves =
        (orElse (orElse text list) switch).leaves ∧
      ((union [text, union [], orElse list switch]).schema.check .sorted none).result =
        .ok (.int 3) := by
  intro text list switch
  have hsame := (@check_choice .sorted (orElse (orElse text list) switch) none).2.2.1
    (union [text, union [], orElse list switch]) rfl (.int 3)
  exact ⟨rfl, hsame.2 rfl⟩

end Choice

end Conform
