/-
  A failure is made at one schema, from the value that the schema stands at, and moves
  outwards with no change but to its path. So what its code says of it holds wherever
  it turns up.
-/
import Conform.Failure.Tree
import Conform.Proofs.Check
import Mathlib.Logic.Relation

namespace Conform

open Outcome

namespace Schema

/-! ## One step -/

/-- The alternatives of a schema that is a choice between them. -/
def alternatives? : Schema → Option (List Schema)
  | union alternatives => some alternatives
  | orElse left right => some [left, right]
  | _ => none

theorem mem_children_of_alternatives? {s t : Schema} {alternatives : List Schema}
    (h : s.alternatives? = some alternatives) (ht : t ∈ alternatives) : t ∈ s.children := by
  cases s with
  | union _ | orElse _ _ => cases h; exact ht
  | _ => cases h

/-- The failures that a schema makes itself, at the value that it stands at. -/
inductive Refusal (order : KeyOrder) : Schema → Option Json → Failure → Prop
  | mismatch {s : Schema} {input : Option Json} (expected : String) :
      Refusal order s input (.typeMismatch expected input)
  | literal {expected : Json} {input : Option Json} :
      Refusal order (literal expected) input (.literal expected input)
  | notEnumerated {variants : List String} {text : String} :
      Refusal order (enums variants) (some (.str text))
        (.notEnumerated variants (some (.str text)))
  | noMatch {p : Pattern} {text : String} :
      Refusal order (pattern p) (some (.str text)) (.noMatch p.source (some (.str text)))
  | badJson {inner : Schema} {text : String} (fault : Json.Fault) :
      Refusal order (jsonString inner) (some (.str text)) (.badJson fault (some (.str text)))
  | tupleLength {items : List Schema} {values : List Json}
      (length : values.length ≠ items.length) :
      Refusal order (tuple items) (some (.arr values))
        (.tupleLength items.length values.length (some (.arr values)))
  | unknownKey {fields : List (String × Schema)} {entries : Entries Json} {key : String}
      {value : Json} (undeclared : key ∉ Entries.keys fields)
      (found : entries.lookup key = some value) :
      Refusal order (object fields true) (some (.obj entries)) (.unknownKey key value)
  | unrepresentable {inner : Schema} {f : Json → Option Json} {input : Option Json} :
      Refusal order (map inner f) input (.unrepresentable Encoder.unkeyed input)
  | noAlternative {s : Schema} {alternatives : List Schema} {input : Option Json}
      {causes : List Failure} (choice : s.alternatives? = some alternatives)
      (each : List.Forall₂ (fun t cause => (t.check order input).result = .error cause)
        alternatives causes) :
      Refusal order s input (.noAlternative input causes)

/-- A failure of a schema is made by it, or it is the failure of a part or of a function, worded
    anew or moved outwards by one step where the schema does that. -/
inductive Origin (order : KeyOrder) : Schema → Option Json → Failure → Prop
  | made {s : Schema} {input : Option Json} {e : Failure} (refusal : Refusal order s input e) :
      Origin order s input e
  | along {s part : Schema} {input : Option Json} {e : Failure} (child : part ∈ s.children)
      (failure : (part.check order input).result = .error e) : Origin order s input e
  | document {inner : Schema} {text : String} {value : Json} {e : Failure}
      (read : Json.read order text = .ok value)
      (failure : (inner.check order (some value)).result = .error e) :
      Origin order (jsonString inner) (some (.str text)) e
  | within {s part : Schema} {value : Json} {place : Option Json} {e : Failure} (segment : Segment)
      (child : part ∈ s.children) (failure : (part.check order place).result = .error e) :
      Origin order s (some value) (e.within segment)
  | reworded {inner : Schema} {message : String} {code : Option String} {input : Option Json}
      {e : Failure} (failure : (inner.check order input).result = .error e) :
      Origin order (withMessage inner message code) input (e.reworded message code)
  | ruled {f : Option Json → Outcome Json} {input : Option Json} {e : Failure}
      (failure : (f input).result = .error e) : Origin order (rule f) input e
  | refined {inner : Schema} {f : Json → Outcome Json} {input : Option Json} {value : Json}
      {e : Failure} (accepted : (inner.check order input).result = .ok value)
      (failure : (f value).result = .error e) : Origin order (tryMap inner f) input e

variable {order : KeyOrder} {s : Schema} {input : Option Json} {e : Failure}

theorem origin_of_union {alternatives : List Schema} (choice : s.alternatives? = some alternatives)
    (h : ((union alternatives).check order input).result = .error e) : Origin order s input e := by
  obtain ⟨causes, each, rfl⟩ := union_error_iff.1 h
  exact .made (.noAlternative choice each)

/-- **Every failure of a check has an origin.** -/
theorem origin_of_check (h : (s.check order input).result = .error e) : Origin order s input e := by
  cases s with
  | leaf l =>
    rw [check] at h
    cases Leaf.check_error h
    exact .made (.mismatch l.expected)
  | literal expected =>
    rw [check] at h
    cases checkLiteral_error h
    exact .made .literal
  | enums variants =>
    rw [check, checkEnums] at h
    obtain rfl | ⟨text, rfl, h⟩ := withString_error h
    · exact .made (.mismatch "string")
    · split_ifs at h <;> cases h
      exact .made .notEnumerated
  | pattern p =>
    rw [check, checkPattern] at h
    obtain rfl | ⟨text, rfl, h⟩ := withString_error h
    · exact .made (.mismatch "string")
    · split_ifs at h <;> cases h
      exact .made .noMatch
  | rule f =>
    rw [check] at h
    exact .ruled h
  | jsonString inner =>
    obtain rfl | ⟨text, rfl, ⟨fault, rfl⟩ | ⟨value, hread, h⟩⟩ := jsonString_error h
    · exact .made (.mismatch "JSON string")
    · exact .made (.badJson fault)
    · exact .document hread h
  | array item =>
    obtain rfl | ⟨values, index, value, e, rfl, -, he, rfl⟩ := array_error h
    · exact .made (.mismatch "array")
    · exact .within (.index index) List.mem_cons_self he
  | tuple items =>
    obtain rfl | ⟨values, rfl, hlen, rfl⟩ |
      ⟨values, index, item, value, e, rfl, hitem, -, he, rfl⟩ := tuple_error h
    · exact .made (.mismatch "array")
    · exact .made (.tupleLength hlen)
    · exact .within (.index index) (List.mem_of_getElem? hitem) he
  | record value =>
    obtain rfl | ⟨entries, key, v, e, rfl, -, he, rfl⟩ := record_error h
    · exact .made (.mismatch "object")
    · exact .within (.key key) List.mem_cons_self he
  | object fields deny =>
    obtain rfl | ⟨entries, rfl, ⟨key, field, e, hfield, he, rfl⟩ |
      ⟨rfl, key, value, hkey, hvalue, rfl⟩⟩ := object_error h
    · exact .made (.mismatch "object")
    · exact .within (.key key) (List.mem_map_of_mem (f := Prod.snd) hfield) he
    · exact .made (.unknownKey hkey hvalue)
  | typedRecord fields =>
    obtain rfl | ⟨entries, rfl, key, field, e, hfield, he, rfl⟩ := typedRecord_error h
    · exact .made (.mismatch "object")
    · exact .within (.key key) (List.mem_map_of_mem (f := Prod.snd) hfield) he
  | optional inner => exact .along List.mem_cons_self (optional_error h)
  | nullable inner => exact .along List.mem_cons_self (nullable_error h)
  | withDefault inner fallback => exact .along List.mem_cons_self (withDefault_error h)
  | withMessage inner message code =>
    obtain ⟨e, he, rfl⟩ := withMessage_error h
    exact .reworded he
  | map inner f =>
    obtain h | rfl := map_error h
    · exact .along List.mem_cons_self h
    · exact .made .unrepresentable
  | tryMap inner f =>
    rw [check] at h
    obtain h | ⟨value, hvalue, h⟩ := bind_error_iff.1 h
    · exact .along List.mem_cons_self h
    · exact .refined hvalue h
  | chain base steps => exact .along List.mem_cons_self (chain_error h)
  | union alternatives => exact origin_of_union rfl h
  | orElse left right => exact origin_of_union rfl (check_orElse order input left right ▸ h)

theorem check_of_alternatives? {alternatives : List Schema} {causes : List Failure}
    (choice : s.alternatives? = some alternatives) (each : List.Forall₂
      (fun t cause => (t.check order input).result = .error cause) alternatives causes) :
    (s.check order input).result = .error (.noAlternative input causes) := by
  have hunion : ((union alternatives).check order input).result =
      .error (.noAlternative input causes) := union_error_iff.2 ⟨causes, each, rfl⟩
  cases s with
  | union _ => cases choice; exact hunion
  | orElse left right => cases choice; rwa [check_orElse]
  | _ => cases choice

/-! ## Plain schemas -/

/-- The schemas that the failures of a schema may come from: its parts, and for a rule the schemas
    that it consults. -/
def sources (consulted : (Option Json → Outcome Json) → List Schema) : Schema → List Schema
  | rule f => consulted f
  | s => s.children

theorem mem_sources_of_mem_children {consulted : (Option Json → Outcome Json) → List Schema}
    {c : Schema} (h : c ∈ s.children) : c ∈ s.sources consulted := by
  cases s with
  | rule f => cases h
  | _ => exact h

/-- Going from a schema to those that its failures may come from, any number of times. -/
def Uses (consulted : (Option Json → Outcome Json) → List Schema) : Schema → Schema → Prop :=
  Relation.ReflTransGen fun s c => c ∈ s.sources consulted

/-- A failure without a code of its own: a value of the wrong kind, or a failure of one of some
    schemas, at any place inside. -/
inductive Borrowed (order : KeyOrder) (schemas : List Schema) : Failure → Prop
  | mismatch (expected : String) (input : Option Json) :
      Borrowed order schemas (.typeMismatch expected input)
  | passedOn {t : Schema} {place : Option Json} {e : Failure} (consulted : t ∈ schemas)
      (failure : (t.check order place).result = .error e) : Borrowed order schemas e
  | within {e : Failure} (segment : Segment) (inner : Borrowed order schemas e) :
      Borrowed order schemas (e.within segment)

/-- The schema words no failure anew and has no function that raises failures of its own. -/
def RaisesBorrowed (order : KeyOrder) (consulted : (Option Json → Outcome Json) → List Schema) :
    Schema → Prop
  | withMessage _ _ _ | tryMap _ _ => False
  | rule f => ∀ input e, (f input).result = .error e → Borrowed order (consulted f) e
  | _ => True

/-- Everywhere in the schema, and in all schemas that its rules consult, failures have the codes of
    the library. -/
inductive Plain (order : KeyOrder) (consulted : (Option Json → Outcome Json) → List Schema) :
    Schema → Prop
  | intro {s : Schema} (here : s.RaisesBorrowed order consulted)
      (inside : ∀ c ∈ s.sources consulted, Plain order consulted c) : Plain order consulted s

end Schema

/-! ## What codes say -/

namespace Failure

/-- What the code of a failure says of its message, its refused value, the end of its path and its
    causes. Only a choice has causes, one for each of its alternatives, and the choice is one that
    `uses` holds of. -/
inductive Consistent (order : KeyOrder) (uses : Schema → Prop) : Failure → Prop
  | typeMismatch (expected : String) (input : Option Json) (path : List Segment) :
      Consistent order uses
        { code := "type_mismatch",
          message := "expected " ++ expected ++ ", found " ++ (Kind.of input).name,
          input := input, path := path, causes := [] }
  | tupleLength (expected : Nat) (values : List Json) (path : List Segment)
      (length : values.length ≠ expected) :
      Consistent order uses
        { code := "tuple_length",
          message := "expected " ++ Numeral.text expected ++ " elements, found "
            ++ Numeral.text values.length,
          input := some (.arr values), path := path, causes := [] }
  | unknownKey (key : String) (value : Json) (stem : List Segment) :
      Consistent order uses
        { code := "unknown_key", message := "unexpected key `" ++ key ++ "`",
          input := some value, path := stem ++ [.key key], causes := [] }
  | union {u : Schema} {alternatives : List Schema} {message : String} {input : Option Json}
      {causes : List Failure} (path : List Segment) (used : uses u)
      (choice : u.alternatives? = some alternatives)
      (refused : (u.check order input).result =
        .error { code := "union", message := message, input := input, path := [],
                 causes := causes })
      (each : causes.length = alternatives.length) :
      Consistent order uses
        { code := "union", message := message, input := input, path := path, causes := causes }
  | literal (message : String) (input : Option Json) (path : List Segment) :
      Consistent order uses
        { code := "literal", message := message, input := input, path := path, causes := [] }
  | notEnumerated (message text : String) (path : List Segment) :
      Consistent order uses
        { code := "enum", message := message, input := some (.str text), path := path,
          causes := [] }
  | noMatch (message text : String) (path : List Segment) :
      Consistent order uses
        { code := "pattern", message := message, input := some (.str text), path := path,
          causes := [] }
  | unrepresentable (message : String) (input : Option Json) (path : List Segment) :
      Consistent order uses
        { code := "output", message := message, input := input, path := path, causes := [] }
  | badJson (message text : String) (path : List Segment) :
      Consistent order uses
        { code := "json", message := message, input := some (.str text), path := path,
          causes := [] }

variable {order : KeyOrder} {uses : Schema → Prop} {e : Failure}

/-- What a code says still holds further outside. -/
theorem Consistent.within (h : e.Consistent order uses) (segment : Segment) :
    (e.within segment).Consistent order uses := by
  cases h with
  | typeMismatch expected input path => exact .typeMismatch expected input (segment :: path)
  | tupleLength expected values path length =>
    exact .tupleLength expected values (segment :: path) length
  | unknownKey key value stem => exact .unknownKey key value (segment :: stem)
  | union path used choice refused each =>
    exact .union (segment :: path) used choice refused each
  | literal message input path => exact .literal message input (segment :: path)
  | notEnumerated message text path => exact .notEnumerated message text (segment :: path)
  | noMatch message text path => exact .noMatch message text (segment :: path)
  | unrepresentable message input path => exact .unrepresentable message input (segment :: path)
  | badJson message text path => exact .badJson message text (segment :: path)

end Failure

namespace Schema

variable {order : KeyOrder} {s : Schema} {input : Option Json} {e : Failure}
  {consulted : (Option Json → Outcome Json) → List Schema} {uses : Schema → Prop}

/-- All failures of a tree are consistent. -/
def AllConsistent (order : KeyOrder) (uses : Schema → Prop) (e : Failure) : Prop :=
  ∀ n ∈ e.flatten, n.Consistent order uses

theorem allConsistent_iff : AllConsistent order uses e ↔
    e.Consistent order uses ∧ ∀ cause ∈ e.causes, AllConsistent order uses cause :=
  Failure.forall_mem_flatten_iff

theorem AllConsistent.within (h : AllConsistent order uses e) (segment : Segment) :
    AllConsistent order uses (e.within segment) := by
  obtain ⟨he, hcauses⟩ := allConsistent_iff.1 h
  exact allConsistent_iff.2 ⟨he.within segment, hcauses⟩

theorem Refusal.allConsistent (h : Refusal order s input e) (hs : uses s)
    (hparts : ∀ t ∈ s.children, ∀ e, (t.check order input).result = .error e →
      AllConsistent order uses e) :
    AllConsistent order uses e := by
  rw [allConsistent_iff]
  cases h with
  | mismatch expected => exact ⟨.typeMismatch expected input [], nofun⟩
  | literal => exact ⟨.literal _ input [], nofun⟩
  | notEnumerated => exact ⟨.notEnumerated _ _ [], nofun⟩
  | noMatch => exact ⟨.noMatch _ _ [], nofun⟩
  | badJson fault => exact ⟨.badJson _ _ [], nofun⟩
  | tupleLength length => exact ⟨.tupleLength _ _ [] length, nofun⟩
  | unknownKey => exact ⟨.unknownKey _ _ [], nofun⟩
  | unrepresentable => exact ⟨.unrepresentable _ input [], nofun⟩
  | noAlternative choice each =>
    refine ⟨.union [] hs choice (check_of_alternatives? choice each) each.length_eq.symm, ?_⟩
    intro cause hcause
    obtain ⟨t, ht, he⟩ := forall₂_mem_right each cause hcause
    exact hparts t (mem_children_of_alternatives? choice ht) cause he

/-- Failures that a rule borrows are consistent if those of the schemas that it consults are. -/
theorem Borrowed.allConsistent {schemas : List Schema} (h : Borrowed order schemas e)
    (hschemas : ∀ t ∈ schemas, ∀ place e, (t.check order place).result = .error e →
      AllConsistent order uses e) : AllConsistent order uses e := by
  induction h with
  | mismatch expected input =>
    exact allConsistent_iff.2 ⟨.typeMismatch expected input [], nofun⟩
  | passedOn consulted failure => exact hschemas _ consulted _ _ failure
  | within segment _ ih => exact ih.within segment

/-- All failures of a plain schema are consistent, for whatever holds of the schemas that it
    uses. -/
theorem Plain.allConsistent (hs : s.Plain order consulted)
    (huses : ∀ u, Uses consulted s u → uses u) (h : (s.check order input).result = .error e) :
    AllConsistent order uses e := by
  induction hs generalizing input e with
  | @intro s here inside ih =>
    have hparts : ∀ t ∈ s.sources consulted, ∀ place e, (t.check order place).result = .error e →
        AllConsistent order uses e :=
      fun t ht place e he => ih t ht (fun u hu => huses u (.head ht hu)) he
    have hchildren : ∀ t ∈ s.children, ∀ place e, (t.check order place).result = .error e →
        AllConsistent order uses e :=
      fun t ht => hparts t (mem_sources_of_mem_children ht)
    cases origin_of_check h with
    | made refusal =>
      exact refusal.allConsistent (huses s .refl) fun t ht => hchildren t ht input
    | along child failure => exact hchildren _ child _ _ failure
    | document _ failure => exact hchildren _ List.mem_cons_self _ _ failure
    | within segment child failure => exact (hchildren _ child _ _ failure).within segment
    | reworded => exact here.elim
    | ruled failure => exact (here _ _ failure).allConsistent hparts
    | refined => exact here.elim

/-- **All failures of a check are consistent.** What the code of a failure says of its message, of
    the value that it carries, of the end of its path and of its causes holds of the failure of a
    plain schema and of all failures behind it. A choice with causes is one that the schema uses,
    and it has as many alternatives as there are causes. -/
theorem check_error_consistent (hs : s.Plain order consulted)
    (h : (s.check order input).result = .error e) :
    ∀ n ∈ e.flatten, n.Consistent order (Uses consulted s) :=
  hs.allConsistent (fun _ hu => hu) h

/-- The items of a field are checked by a rule that leaves strings and truth values to a choice. -/
theorem check_error_consistent_consulted :
    let choice := union [leaf .string, leaf .boolean]
    let consulted := fun _ : Option Json → Outcome Json => [choice]
    let settings := object [("tags", array (rule (choice.check .sorted)))] true
    let failure := Failure.noAlternative (some (.int 1))
      [.typeMismatch "string" (some (.int 1)), .typeMismatch "boolean" (some (.int 1))]
    settings.Plain .sorted consulted ∧
      (settings.check .sorted (some (.obj [("tags", .arr [.str "a", .int 1])]))).result =
        .error ((failure.atIndex 1).atKey "tags") ∧
      ∀ n ∈ ((failure.atIndex 1).atKey "tags").flatten,
        n.Consistent .sorted (Uses consulted settings) := by
  intro choice consulted settings failure
  have hleaf : ∀ l, (leaf l).Plain .sorted consulted :=
    fun l => .intro trivial (by simp [sources, children])
  have hchoice : choice.Plain .sorted consulted :=
    .intro trivial (List.forall_mem_cons.2 ⟨hleaf .string, List.forall_mem_singleton.2
      (hleaf .boolean)⟩)
  have hrule : (rule (choice.check .sorted)).Plain .sorted consulted :=
    .intro (fun _ _ he => .passedOn List.mem_cons_self he) (List.forall_mem_singleton.2 hchoice)
  have harray : (array (rule (choice.check .sorted))).Plain .sorted consulted :=
    .intro trivial (List.forall_mem_singleton.2 hrule)
  have hsettings : settings.Plain .sorted consulted :=
    .intro trivial (List.forall_mem_singleton.2 harray)
  have hrefused : (settings.check .sorted
      (some (.obj [("tags", .arr [.str "a", .int 1])]))).result =
        .error ((failure.atIndex 1).atKey "tags") := rfl
  exact ⟨hsettings, hrefused, check_error_consistent hsettings hrefused⟩

end Schema

end Conform
