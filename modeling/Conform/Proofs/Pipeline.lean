/-
  Functions on the result of a schema, put around it as maps, as further checks and in
  groups of steps. Whatever the way, the result goes through all of them, up to the
  first that refuses it.
-/
import Conform.Catalog.Functions
import Conform.Proofs.Congruence
import Conform.Schema.Shape

namespace Conform

open Outcome

/-! ## Groups of steps -/

/-- Steps, with the way in which they are put around a schema. -/
inductive Grouping
  /-- some of them given at once, and further ones pushed to these -/
  | together (given pushed : List (Json → Json))
  /-- each around the one before -/
  | oneByOne (given : List (Json → Json))

namespace Grouping

/-- The steps of a group, in order. -/
def steps : Grouping → List (Json → Json)
  | together given pushed => given ++ pushed
  | oneByOne given => given

/-- A value after all steps of a group. -/
def run (g : Grouping) (value : Json) : Json := g.steps.foldl (fun value step => step value) value

/-- The group around a schema. -/
def around : Grouping → Schema → Schema
  | together given pushed, s => (pushed.foldl Steps.push ⟨s, given⟩).schema
  | oneByOne given, s => given.foldl (fun inner step => .chain inner [step]) s

end Grouping

theorem Steps.foldl_push (s : Steps) (pushed : List (Json → Json)) :
    pushed.foldl Steps.push s = ⟨s.base, s.steps ++ pushed⟩ := by
  induction pushed generalizing s with
  | nil => simp
  | cons step rest ih => rw [List.foldl_cons, ih, push, List.append_assoc, List.singleton_append]

variable {order : KeyOrder} {input : Option Json}

theorem Grouping.check_around (g : Grouping) (s : Schema) :
    (g.around s).check order input = (s.check order input).map g.run := by
  cases g with
  | together given pushed =>
    rw [around, Steps.foldl_push, Steps.schema, Schema.check]
    rfl
  | oneByOne given =>
    rw [around]
    induction given generalizing s with
    | nil => exact (bind_ok _).symm.trans (map_eq_bind _ _).symm
    | cons step rest ih =>
      rw [List.foldl_cons, ih, Schema.check, map_eq_bind, map_bind, map_eq_bind]
      rfl

/-! ## Stages -/

/-- What is put around a schema for its result. -/
inductive Stage
  /-- a function on the result, whose value is made JSON at once; `none` is a map whose keys are no
  strings -/
  | map (f : Json → Option Json)
  /-- a further check on the result -/
  | tryMap (f : Json → Outcome Json)
  /-- steps, none of which refuses a value -/
  | group (g : Grouping)

/-- Stages around a schema, the innermost one first. -/
abbrev Pipeline := List Stage

namespace Pipeline

/-- A value goes through functions one after the other, up to the first that refuses it. -/
def thread : List (Json → Outcome Json) → Json → Outcome Json
  | [], value => .ok value
  | f :: rest, value => (f value).bind (thread rest)

theorem thread_append (fs gs : List (Json → Outcome Json)) (value : Json) :
    thread (fs ++ gs) value = (thread fs value).bind (thread gs) := by
  induction fs generalizing value with
  | nil => rfl
  | cons f rest ih =>
    rw [List.cons_append, thread, thread, bind_assoc]
    exact bind_congr fun a _ => ih a

end Pipeline

namespace Stage

open Pipeline

/-- The stage around a schema. -/
def around : Stage → Schema → Schema
  | map f, s => .map s f
  | tryMap f, s => .tryMap s f
  | group g, s => g.around s

/-- The functions that a stage consists of. Making the value of a map JSON refuses `none`, with the
    input of the schema; the other functions see nothing but the value. -/
def functions (input : Option Json) : Stage → List (Json → Outcome Json)
  | map f => [fun value => (f value).elim (.fail (.unrepresentable Encoder.unkeyed input)) .ok]
  | tryMap f => [f]
  | group g => g.steps.map fun step value => .ok (step value)

/-- The failure with which a stage refuses a value; groups refuse none. -/
inductive Refuses (input : Option Json) : Stage → Json → Failure → Prop
  | map {f : Json → Option Json} {value : Json} (unrepresentable : f value = none) :
      Refuses input (map f) value (.unrepresentable Encoder.unkeyed input)
  | tryMap {f : Json → Outcome Json} {value : Json} {e : Failure}
      (refused : (f value).result = .error e) : Refuses input (tryMap f) value e

theorem thread_map (f : Json → Option Json) (value : Json) :
    thread ((map f).functions input) value =
      (f value).elim (.fail (.unrepresentable Encoder.unkeyed input)) .ok :=
  bind_ok _

theorem thread_tryMap (f : Json → Outcome Json) (value : Json) :
    thread ((tryMap f).functions input) value = f value :=
  bind_ok _

theorem thread_group (g : Grouping) (value : Json) :
    thread ((group g).functions input) value = .ok (g.run value) := by
  rw [functions, Grouping.run]
  induction g.steps generalizing value with
  | nil => rfl
  | cons step rest ih => exact ih (step value)

theorem refuses_iff {stage : Stage} {value : Json} {e : Failure} :
    stage.Refuses input value e ↔ (thread (stage.functions input) value).result = .error e := by
  cases stage with
  | map f =>
    rw [thread_map]
    constructor
    · intro h
      cases h with
      | map h =>
        rw [h]
        rfl
    · intro h
      cases hf : f value with
      | none =>
        rw [hf] at h
        cases h
        exact .map hf
      | some result =>
        rw [hf] at h
        cases h
  | tryMap f =>
    rw [thread_tryMap]
    constructor
    · intro h
      cases h with
      | tryMap h => exact h
    · exact .tryMap
  | group g =>
    rw [thread_group]
    exact ⟨nofun, nofun⟩

/-- **One stage**: the outcome of a schema goes through the functions of what is put around it. -/
theorem check_around (stage : Stage) (s : Schema) : (stage.around s).check order input =
    (s.check order input).bind (thread (stage.functions input)) := by
  cases stage with
  | map f =>
    rw [around, Schema.check_map]
    exact bind_congr fun value _ => (thread_map f value).symm
  | tryMap f =>
    rw [around, Schema.check]
    exact bind_congr fun value _ => (thread_tryMap f value).symm
  | group g =>
    rw [around, g.check_around, map_eq_bind]
    exact bind_congr fun value _ => (thread_group g value).symm

end Stage

namespace Pipeline

open Stage

/-! ## Pipelines -/

/-- The stages of a pipeline around a schema. -/
def around (p : Pipeline) (s : Schema) : Schema :=
  p.foldl (fun inner stage => stage.around inner) s

/-- The functions of a pipeline, in order. -/
def functions (input : Option Json) (p : Pipeline) : List (Json → Outcome Json) :=
  p.flatMap (Stage.functions input)

theorem around_cons (stage : Stage) (p : Pipeline) (s : Schema) :
    around (stage :: p) s = around p (stage.around s) :=
  List.foldl_cons

theorem around_append (p q : Pipeline) (s : Schema) : around (p ++ q) s = around q (around p s) :=
  List.foldl_append

/-- **All stages**: the outcome of a schema goes through the functions of a pipeline in order. -/
theorem check_around (p : Pipeline) (s : Schema) : (around p s).check order input =
    (s.check order input).bind (thread (functions input p)) := by
  induction p generalizing s with
  | nil => exact (bind_ok _).symm
  | cons stage rest ih =>
    rw [around_cons, ih, stage.check_around, bind_assoc]
    refine bind_congr fun value _ => ?_
    rw [functions, functions, List.flatMap_cons, thread_append]

/-- Nothing is left to be done where the schema itself fails. -/
theorem check_of_error {s : Schema} {e : Failure} (h : (s.check order input).result = .error e)
    (p : Pipeline) : (around p s).check order input = s.check order input := by
  rw [check_around]
  generalize s.check order input = o at h
  obtain ⟨events, result⟩ := o
  cases h
  rfl

theorem check_stage_error_iff {stage : Stage} {s : Schema} {e : Failure} :
    ((stage.around s).check order input).result = .error e ↔
      (s.check order input).result = .error e ∨
        ∃ value, (s.check order input).result = .ok value ∧ stage.Refuses input value e := by
  simp only [stage.check_around, bind_error_iff, refuses_iff]

/-- **A pipeline fails iff the schema does or one of the stages**, the first one that refuses the
    value which has come so far. -/
theorem check_error_iff {p : Pipeline} {s : Schema} {e : Failure} :
    ((around p s).check order input).result = .error e ↔
      (s.check order input).result = .error e ∨
        ∃ before stage after value, p = before ++ stage :: after ∧
          ((around before s).check order input).result = .ok value ∧
            stage.Refuses input value e := by
  induction p generalizing s with
  | nil => simp [around]
  | cons first rest ih =>
    rw [around_cons, ih, check_stage_error_iff]
    constructor
    · rintro ((h | ⟨value, hvalue, h⟩) | ⟨before, stage, after, value, rfl, hvalue, h⟩)
      · exact Or.inl h
      · exact Or.inr ⟨[], first, rest, value, rfl, hvalue, h⟩
      · exact Or.inr ⟨first :: before, stage, after, value, rfl, hvalue, h⟩
    · rintro (h | ⟨_ | ⟨stage', before⟩, stage, after, value, hp, hvalue, h⟩)
      · exact Or.inl (Or.inl h)
      · cases hp
        exact Or.inl (Or.inr ⟨value, hvalue, h⟩)
      · cases hp
        exact Or.inr ⟨before, stage, after, value, rfl, hvalue, h⟩

/-- **Where a stage refuses, no later one counts.** -/
theorem check_of_refuses {before : Pipeline} {stage : Stage} {s : Schema} {value : Json}
    {e : Failure} (hvalue : ((around before s).check order input).result = .ok value)
    (h : stage.Refuses input value e) (after : Pipeline) :
    (around (before ++ stage :: after) s).check order input =
      (around (before ++ [stage]) s).check order input := by
  have hstage : ((around (before ++ [stage]) s).check order input).result = .error e :=
    check_error_iff.2 (Or.inr ⟨before, stage, [], value, rfl, hvalue, h⟩)
  rw [List.append_cons, around_append, check_of_error hstage]

/-! ## Regrouping -/

/-- Pipelines that differ in how functions are grouped and put around a schema. -/
inductive Regrouped : Pipeline → Pipeline → Prop
  /-- groups next to each other are split and merged, whichever way their steps are put around -/
  | groups {gs gs' : List Grouping}
      (steps : gs.flatMap Grouping.steps = gs'.flatMap Grouping.steps) :
      Regrouped (gs.map .group) (gs'.map .group)
  /-- two maps as one -/
  | maps (f g : Json → Option Json) :
      Regrouped [.map f, .map g] [.map fun value => (f value).bind g]
  /-- a map to values as a check that accepts them all -/
  | mapAsCheck (f : Json → Json) :
      Regrouped [.map fun value => some (f value)] [.tryMap fun value => .ok (f value)]
  /-- a group as a check that accepts all values -/
  | groupAsCheck (g : Grouping) : Regrouped [.group g] [.tryMap fun value => .ok (g.run value)]
  | inside {p p' : Pipeline} (before after : Pipeline) (part : Regrouped p p') :
      Regrouped (before ++ p ++ after) (before ++ p' ++ after)
  | symm {p p' : Pipeline} (h : Regrouped p p') : Regrouped p' p
  | trans {p p' p'' : Pipeline} (h : Regrouped p p') (h' : Regrouped p' p'') : Regrouped p p''

theorem thread_functions_append (p q : Pipeline) (value : Json) :
    thread (functions input (p ++ q)) value =
      (thread (functions input p) value).bind (thread (functions input q)) := by
  rw [functions, List.flatMap_append, thread_append]
  rfl

theorem functions_singleton (stage : Stage) : functions input [stage] = stage.functions input :=
  List.append_nil _

/-- The functions of groups are all their steps. -/
theorem functions_groups (gs : List Grouping) : functions input (gs.map .group) =
    (gs.flatMap Grouping.steps).map fun step value => .ok (step value) := by
  rw [functions, List.flatMap_map, List.map_flatMap]
  rfl

/-- **Regrouping does not change what becomes of a value.** -/
theorem Regrouped.thread_eq {p p' : Pipeline} (h : Regrouped p p') (value : Json) :
    thread (functions input p) value = thread (functions input p') value := by
  induction h generalizing value with
  | groups steps => rw [functions_groups, functions_groups, steps]
  | maps f g =>
    rw [← List.singleton_append, thread_functions_append, functions_singleton,
      functions_singleton, functions_singleton, thread_map, thread_map]
    cases f value with
    | none => rfl
    | some result => exact thread_map g result
  | mapAsCheck f =>
    rw [functions_singleton, functions_singleton, thread_map, thread_tryMap]
    rfl
  | groupAsCheck g =>
    rw [functions_singleton, functions_singleton, thread_group, thread_tryMap]
  | inside before after _ ih =>
    rw [thread_functions_append, thread_functions_append, thread_functions_append,
      thread_functions_append, bind_assoc, bind_assoc]
    exact bind_congr fun a _ => by rw [ih]
  | symm _ ih => exact (ih value).symm
  | trans _ _ ih ih' => exact (ih value).trans (ih' value)

/-- **Pipelines compose.** The result of a schema goes through the functions of all stages in order,
    whether steps are given at once, pushed or put around one by one. A failure of the schema comes
    out unchanged, and so does that of the first stage that refuses its value; there are no other
    failures, and no stage after a refusal counts. Groups may be split and merged, and empty ones
    left out; neighbouring maps may be made one, and maps and groups written as checks that accept
    all values. -/
theorem check_pipeline (s : Schema) :
    (∀ p : Pipeline, (around p s).check order input =
        (s.check order input).bind (thread (functions input p))) ∧
      (∀ e, (s.check order input).result = .error e →
        ∀ p : Pipeline, (around p s).check order input = s.check order input) ∧
      (∀ (p : Pipeline) e, ((around p s).check order input).result = .error e ↔
        (s.check order input).result = .error e ∨
          ∃ before stage after value, p = before ++ stage :: after ∧
            ((around before s).check order input).result = .ok value ∧
              stage.Refuses input value e) ∧
      (∀ before stage value e, ((around before s).check order input).result = .ok value →
        stage.Refuses input value e → ∀ after : Pipeline,
          (around (before ++ stage :: after) s).check order input =
            (around (before ++ [stage]) s).check order input) ∧
      (∀ p p' : Pipeline, Regrouped p p' →
        (around p s).check order input = (around p' s).check order input) ∧
      ∀ (before after : Pipeline) (g : Grouping), g.steps = [] →
        (around (before ++ .group g :: after) s).check order input =
          (around (before ++ after) s).check order input := by
  have hregrouped : ∀ p p' : Pipeline, Regrouped p p' →
      (around p s).check order input = (around p' s).check order input := by
    intro p p' h
    rw [check_around, check_around]
    exact bind_congr fun value _ => h.thread_eq value
  refine ⟨fun p => check_around p s, fun e h => check_of_error h, fun p e => check_error_iff,
    fun before stage value e => check_of_refuses, hregrouped, fun before after g hg => ?_⟩
  have hempty : Regrouped ([g].map .group) ([].map .group) := .groups (by simp [hg])
  have hinside := hempty.inside before after
  rw [List.append_assoc, List.map_nil, List.append_nil] at hinside
  exact hregrouped _ _ hinside

/-- A whole number one higher, ten times as much and no more than sixteen bits. A text is refused
    before all that, and a number that grows too large before it is put into a list. The steps do
    the same in one group, in three and in two. -/
theorem check_pipeline_scaled :
    let up := Catalog.onInt64 (· + 1)
    let scale := Catalog.onInt64 (· * 10)
    let groups := [Grouping.oneByOne [up], .together [] [], .together [scale] []]
    let merged : Pipeline := [.group (.together [up] [scale])]
    let apart : Pipeline := groups.map .group
    let later : Pipeline := [.tryMap Catalog.onlyWord16, .map fun value => some (.arr [value])]
    (around (merged ++ later) (.leaf .integer)).check .sorted (some (.str "1")) =
        .fail (.typeMismatch "integer" (some (.str "1"))) ∧
      (around (merged ++ later) (.leaf .integer)).check .sorted (some (.int 6553)) =
        .fail (.custom "port out of range") ∧
      (around (apart ++ later) (.leaf .integer)).check .sorted (some (.int 1)) =
        .ok (.arr [.int 20]) ∧
      (around [.group (.oneByOne [up]), .group (.together [scale] [])] (.leaf .integer)).check
        .sorted (some (.int 1)) = .ok (.int 20) := by
  intro up scale groups merged apart later
  have h := fun n => @check_pipeline .sorted (some (.int n)) (.leaf .integer)
  have hregrouped : Regrouped ([Grouping.together [up] [scale]].map .group) (groups.map .group) :=
    .groups rfl
  refine ⟨?_, ?_, ?_, ?_⟩
  · exact (@check_pipeline .sorted (some (.str "1")) (.leaf .integer)).2.1 _ rfl (merged ++ later)
  · exact (h 6553).2.2.2.1 merged (.tryMap Catalog.onlyWord16) _ _ rfl (.tryMap rfl) _
  · exact ((h 1).2.2.2.2.1 _ _ (hregrouped.symm.inside [] later)).trans rfl
  · exact ((h 1).2.2.2.2.2 [.group (.oneByOne [up])] [.group (.together [scale] [])]
      (.together [] []) rfl).symm.trans rfl

end Pipeline

end Conform
