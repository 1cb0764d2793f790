/-
  Which parts of an object have to be there. Whether a schema takes an absent value is
  known from its shape, and where it does not, its failure says nothing of places
  further inside.
-/
import Conform.Failure.Tree
import Conform.Proofs.Check

namespace Conform

open Outcome

/-! ## Shapes -/

namespace Schema

mutual

/-- The schema takes an absent value, or leaves it to a schema inside that does. -/
def takesAbsent : Schema → Bool
  | optional _ | withDefault _ _ => true
  | nullable inner | withMessage inner _ _ | map inner _ | chain inner _ => takesAbsent inner
  | union alternatives => anyTakesAbsent alternatives
  | orElse left right => takesAbsent left || takesAbsent right
  | leaf _ | literal _ | enums _ | pattern _ | jsonString _ => false
  | array _ | tuple _ | record _ | object _ _ | typedRecord _ => false
  -- these may do anything with an absent value
  | rule _ | tryMap _ _ => false

/-- One of the schemas takes an absent value. -/
def anyTakesAbsent : List Schema → Bool
  | [] => false
  | s :: rest => takesAbsent s || anyTakesAbsent rest

end

theorem anyTakesAbsent_eq_any (alternatives : List Schema) :
    anyTakesAbsent alternatives = alternatives.any takesAbsent := by
  induction alternatives with
  | nil => rfl
  | cons s rest ih => rw [anyTakesAbsent, ih, List.any_cons]

/-- Nothing but its shape decides what the schema makes of an absent value: it is no check of the
    user's, and its function has JSON values as results. -/
def Shaped : Schema → Prop
  | rule _ | tryMap _ _ => False
  | map _ f => ∀ value, (f value).isSome
  | _ => True

end Schema

/-! ## Failures of absent values -/

/-- All failures of the tree stand at an absent value itself. -/
def Failure.Absent (e : Failure) : Prop := ∀ n ∈ e.flatten, n.path = [] ∧ n.input = none

namespace Failure

theorem absent_iff {e : Failure} :
    e.Absent ↔ (e.path = [] ∧ e.input = none) ∧ ∀ cause ∈ e.causes, cause.Absent :=
  forall_mem_flatten_iff

theorem absent_of_causes_nil {e : Failure} (path : e.path = []) (input : e.input = none)
    (causes : e.causes = []) : e.Absent :=
  absent_iff.2 ⟨⟨path, input⟩, by simp [causes]⟩

theorem Absent.reworded {e : Failure} (h : e.Absent) (message : String) (code : Option String) :
    (e.reworded message code).Absent :=
  absent_iff.2 ⟨(absent_iff.1 h).1, List.forall_mem_singleton.2 h⟩

theorem absent_noAlternative {causes : List Failure} (h : ∀ cause ∈ causes, cause.Absent) :
    (noAlternative none causes).Absent :=
  absent_iff.2 ⟨⟨rfl, rfl⟩, h⟩

end Failure

/-- An outcome of an absent value: a success if that is taken, and a failure at the absent value if
    it is not. -/
structure Foreseen (taken : Bool) (o : Outcome Json) : Prop where
  accepted : ∀ output, o.result = .ok output → taken = true
  refused : ∀ e, o.result = .error e → taken = false ∧ e.Absent

namespace Foreseen

theorem ok (output : Json) : Foreseen true (.ok output) :=
  ⟨fun _ _ => rfl, nofun⟩

theorem fail {e : Failure} (path : e.path = []) (input : e.input = none) (causes : e.causes = []) :
    Foreseen false (.fail e) := by
  refine ⟨nofun, fun e' he => ?_⟩
  cases he
  exact ⟨rfl, Failure.absent_of_causes_nil path input causes⟩

variable {taken : Bool} {o : Outcome Json}

theorem bind (h : Foreseen taken o) {f : Json → Outcome Json}
    (hf : ∀ value, ∃ output, (f value).result = .ok output) : Foreseen taken (o.bind f) := by
  refine ⟨fun output houtput => ?_, fun e he => ?_⟩
  · obtain ⟨value, hvalue, -⟩ := bind_ok_iff.1 houtput
    exact h.accepted value hvalue
  · obtain he | ⟨value, -, he⟩ := bind_error_iff.1 he
    · exact h.refused e he
    · obtain ⟨output, houtput⟩ := hf value
      rw [houtput] at he
      cases he

theorem map (h : Foreseen taken o) (f : Json → Json) : Foreseen taken (o.map f) := by
  refine ⟨fun output houtput => ?_, fun e he => h.refused e (map_error_iff.1 he)⟩
  obtain ⟨value, hvalue, -⟩ := map_ok_iff.1 houtput
  exact h.accepted value hvalue

theorem mapFailure (h : Foreseen taken o) {f : Failure → Failure}
    (hf : ∀ e : Failure, e.Absent → (f e).Absent) : Foreseen taken (o.mapFailure f) := by
  refine ⟨fun output houtput => h.accepted output (mapFailure_ok_iff.1 houtput), fun e he => ?_⟩
  obtain ⟨inner, hinner, rfl⟩ := mapFailure_error_iff.1 he
  obtain ⟨htaken, habsent⟩ := h.refused inner hinner
  exact ⟨htaken, hf inner habsent⟩

theorem taken_iff (h : Foreseen taken o) : (∃ output, o.result = .ok output) ↔ taken = true := by
  constructor
  · rintro ⟨output, houtput⟩
    exact h.accepted output houtput
  · intro htaken
    cases ho : o.result with
    | ok output => exact ⟨output, rfl⟩
    | error e =>
      have hrefused := (h.refused e ho).1
      rw [htaken] at hrefused
      cases hrefused

end Foreseen

namespace Schema

variable {order : KeyOrder}

/-! ## Absent values -/

/-- Alternatives take an absent value if one of them does. -/
theorem foreseen_union {alternatives : List Schema}
    (h : ∀ s ∈ alternatives, Foreseen s.takesAbsent (s.check order none)) :
    Foreseen (alternatives.any takesAbsent) ((union alternatives).check order none) := by
  refine ⟨fun output houtput => ?_, fun e he => ?_⟩
  · obtain ⟨before, s, after, rfl, -, hs⟩ := union_ok_iff.1 houtput
    have hmem : s ∈ before ++ s :: after := List.mem_append_right before List.mem_cons_self
    exact List.any_eq_true.2 ⟨s, hmem, (h s hmem).accepted output hs⟩
  · obtain ⟨causes, each, rfl⟩ := union_error_iff.1 he
    refine ⟨List.any_eq_false.2 fun s hs => ?_, Failure.absent_noAlternative fun cause hcause => ?_⟩
    · obtain ⟨cause, -, hcause⟩ := forall₂_mem_left each s hs
      simp [((h s hs).refused cause hcause).1]
    · obtain ⟨s, hs, hcause⟩ := forall₂_mem_right each cause hcause
      exact ((h s hs).refused cause hcause).2

/-- **What a shaped schema makes of an absent value is known from its shape.** -/
theorem foreseen_of_shaped {s : Schema} (hs : s.Everywhere Shaped) :
    Foreseen s.takesAbsent (s.check order none) := by
  induction s with
  | leaf l => rw [check]; exact .fail rfl rfl rfl
  | literal expected => rw [check]; exact .fail rfl rfl rfl
  | enums variants => rw [check]; exact .fail rfl rfl rfl
  | pattern p => rw [check]; exact .fail rfl rfl rfl
  | rule f => exact hs.here.elim
  | jsonString inner _ => rw [check]; exact .fail rfl rfl rfl
  | array item _ => rw [check_array]; exact .fail rfl rfl rfl
  | tuple items _ => rw [check_tuple]; exact .fail rfl rfl rfl
  | record value _ => rw [check_record]; exact .fail rfl rfl rfl
  | object fields deny _ => rw [check_object]; exact .fail rfl rfl rfl
  | typedRecord fields _ => rw [check_typedRecord]; exact .fail rfl rfl rfl
  | optional inner _ => rw [check]; exact .ok Json.null
  | nullable inner ih =>
    rw [takesAbsent, check]
    · exact ih (hs.part rfl)
    · nofun
  | withDefault inner fallback _ => rw [check]; exact .ok fallback
  | withMessage inner message code ih =>
    rw [takesAbsent, check]
    exact (ih (hs.part rfl)).mapFailure fun e he => he.reworded message code
  | map inner f ih =>
    rw [takesAbsent, check_map]
    refine (ih (hs.part rfl)).bind fun value => ?_
    obtain ⟨result, hresult⟩ := Option.isSome_iff_exists.1 (hs.here value)
    exact ⟨result, by rw [hresult]; rfl⟩
  | tryMap inner f _ => exact hs.here.elim
  | chain base steps ih =>
    rw [takesAbsent, check]
    exact (ih (hs.part rfl)).map _
  | union alternatives ih =>
    rw [takesAbsent, anyTakesAbsent_eq_any]
    exact foreseen_union fun s hmem => ih s hmem (hs.inside s hmem)
  | orElse left right ihl ihr =>
    have hany : (orElse left right).takesAbsent = [left, right].any takesAbsent := by
      rw [takesAbsent, List.any_cons, List.any_cons, List.any_nil, Bool.or_false]
    rw [hany, check_orElse]
    refine foreseen_union fun s hmem => ?_
    have hs' := hs.inside s hmem
    rcases List.mem_pair.1 hmem with rfl | rfl
    · exact ihl hs'
    · exact ihr hs'

/-! ## Objects without entries -/

/-- The first declared field that does not take an absent value. -/
def firstRequired? (fields : List (String × Schema)) : Option (String × Schema) :=
  fields.find? fun field => !field.2.takesAbsent

variable {fields : List (String × Schema)} {deny : Bool}

theorem firstRequired?_eq_some_iff {field : String × Schema} :
    firstRequired? fields = some field ↔ ∃ before after, fields = before ++ field :: after ∧
      (∀ f ∈ before, f.2.takesAbsent = true) ∧ field.2.takesAbsent = false := by
  rw [firstRequired?, List.find?_eq_some_iff_append]
  simp only [Bool.not_eq_true', Bool.not_not]
  constructor
  · rintro ⟨hfield, before, after, heq, hbefore⟩
    exact ⟨before, after, heq, hbefore, hfield⟩
  · rintro ⟨before, after, heq, hbefore, hfield⟩
    exact ⟨hfield, before, after, heq, hbefore⟩

/-- An object without entries is accepted iff no field is required. -/
theorem object_empty_ok_iff (h : ∀ field ∈ fields, field.2.Everywhere Shaped) :
    (∃ output, ((object fields deny).check order (some (.obj []))).result = .ok output) ↔
      ∀ field ∈ fields, field.2.takesAbsent = true := by
  have hfields : (∃ outputs, (Outcome.keyed (fieldOutcomes order fields [])).result = .ok outputs) ↔
      ∀ field ∈ fields, field.2.takesAbsent = true := by
    rw [exists_fields_ok_iff]
    exact forall₂_congr fun field hfield => (foreseen_of_shaped (h field hfield)).taken_iff
  rw [← hfields]
  constructor
  · rintro ⟨output, houtput⟩
    obtain ⟨entries, outputs, heq, hrow, -⟩ := object_ok_iff.1 houtput
    cases heq
    exact ⟨outputs, hrow⟩
  · rintro ⟨outputs, hrow⟩
    exact ⟨_, object_ok_iff.2 ⟨[], outputs, rfl, hrow, by simp [Entries.keys], rfl⟩⟩

/-- An object without entries is refused at the first required field. -/
theorem object_empty_error (h : ∀ field ∈ fields, field.2.Everywhere Shaped) {e : Failure}
    (he : ((object fields deny).check order (some (.obj []))).result = .error e) :
    ∃ field, firstRequired? fields = some field ∧ e.path = [.key field.1] := by
  rw [check_object, narrow_obj] at he
  obtain he | ⟨outputs, -, he⟩ := bind_error_iff.1 he
  · obtain ⟨before, field, after, inner, heq, hbefore, hinner, rfl⟩ := fields_error_iff.1 he
    have hfield : Foreseen field.2.takesAbsent (field.2.check order none) :=
      foreseen_of_shaped (h field (by simp [heq]))
    obtain ⟨hrequired, habsent⟩ := hfield.refused inner hinner
    refine ⟨field, firstRequired?_eq_some_iff.2 ⟨before, after, heq, fun f hf => ?_, hrequired⟩, ?_⟩
    · exact (foreseen_of_shaped (h f (by simp [heq, hf]))).taken_iff.1 (hbefore f hf)
    · exact congrArg (Segment.key field.1 :: ·) (Failure.absent_iff.1 habsent).1.1
  · -- there is no entry whose key could be undeclared
    cases deny <;> cases he

/-- **Whether a field is required is known from the shape of its schema.** A schema takes an absent
    value iff its shape says so, and otherwise all its failures stand at the absent value. So an
    object without entries is accepted iff no field is required, whether other keys are refused or
    not, and the path of its failure is the key of the first required field. -/
theorem check_absent {s : Schema} (hs : s.Everywhere Shaped) :
    ((∃ output, (s.check order none).result = .ok output) ↔ s.takesAbsent = true) ∧
      (∀ e, (s.check order none).result = .error e → ∀ n ∈ e.flatten,
        n.path = [] ∧ n.input = none) ∧
      ∀ fields deny, s = object fields deny →
        ((∃ output, (s.check order (some (.obj []))).result = .ok output) ↔
          ∀ field ∈ fields, field.2.takesAbsent = true) ∧
        ∀ e, (s.check order (some (.obj []))).result = .error e →
          ∃ field, firstRequired? fields = some field ∧ e.path = [.key field.1] := by
  have hforeseen : Foreseen s.takesAbsent (s.check order none) := foreseen_of_shaped hs
  refine ⟨hforeseen.taken_iff, fun e he => (hforeseen.refused e he).2, ?_⟩
  rintro fields deny rfl
  have hfields := hs.field rfl
  exact ⟨object_empty_ok_iff hfields, fun e he => object_empty_error hfields he⟩

/-- A choice takes an absent value by its second alternative, under a function; a choice under a
    message takes none, and its four failures all stand at the absent value. -/
theorem check_absent_choices :
    let note := map (orElse (leaf .string) (optional (leaf .integer))) fun value =>
      some (.arr [value])
    let size := withMessage (union [nullable (leaf .integer), tuple []]) "size" none
    let settings := object [("note", note), ("size", size)] true
    settings.Everywhere Shaped ∧ size.Everywhere Shaped ∧
      (∃ e, (size.check .sorted none).result = .error e ∧ e.flatten.length = 4 ∧
        ∀ n ∈ e.flatten, n.path = [] ∧ n.input = none) ∧
      ∃ e, (settings.check .sorted (some (.obj []))).result = .error e ∧
        e.path = [.key "size"] := by
  intro note size settings
  have hsize : size.Everywhere Shaped := by simp [size, everywhere_iff, children, Shaped]
  have hsettings : settings.Everywhere Shaped := by
    simp [settings, note, size, everywhere_iff, children, Shaped]
  refine ⟨hsettings, hsize, ⟨_, rfl, rfl, (@check_absent .sorted _ hsize).2.1 _ rfl⟩, _, rfl, ?_⟩
  obtain ⟨field, hfirst, hpath⟩ := ((@check_absent .sorted _ hsettings).2.2 _ _ rfl).2 _ rfl
  cases hfirst
  exact hpath

end Schema

end Conform
