/-
  When a composite accepts, what it results in, and which failures it has: its own,
  and those of its parts with one more step on their paths.
-/
import Conform.Proofs.Entries
import Conform.Proofs.Schema

namespace Conform

open Outcome

variable {order : KeyOrder} {input : Option Json} {output : Json} {e : Failure}

/-! ## Views -/

theorem narrow_ok_iff {α : Type} {expected : String} {view : Json → Option α}
    {next : α → Outcome Json} :
    (narrow expected view input next).result = .ok output ↔
      ∃ value a, input = some value ∧ view value = some a ∧ (next a).result = .ok output := by
  cases input with
  | none => simp [narrow]
  | some value => cases h : view value <;> simp [narrow, h]

theorem narrow_error {α : Type} {expected : String} {view : Json → Option α}
    {next : α → Outcome Json} (h : (narrow expected view input next).result = .error e) :
    e = .typeMismatch expected input ∨
      ∃ value a, input = some value ∧ view value = some a ∧ (next a).result = .error e := by
  cases input with
  | none => exact Or.inl (by simpa [narrow] using h.symm)
  | some value =>
    cases hv : view value with
    | none => exact Or.inl (by simpa [narrow, hv] using h.symm)
    | some a => exact Or.inr ⟨value, a, rfl, hv, by simpa [narrow, hv] using h⟩

theorem Leaf.check_ok_iff {l : Leaf} : (l.check input).result = .ok output ↔
    ∃ value, input = some value ∧ l.accept value = some output := by
  rw [l.check_eq_narrow, narrow_ok_iff]
  simp

theorem Leaf.check_error {l : Leaf} (h : (l.check input).result = .error e) :
    e = .typeMismatch l.expected input := by
  rw [l.check_eq_narrow] at h
  rcases narrow_error h with h | ⟨_, _, -, -, h⟩
  · exact h
  · cases h

theorem withString_ok_iff {expected : String} {next : String → Outcome Json} :
    (withString expected input next).result = .ok output ↔
      ∃ text, input = some (.str text) ∧ (next text).result = .ok output := by
  rw [withString_eq_narrow, narrow_ok_iff]
  simp

theorem withString_error {expected : String} {next : String → Outcome Json}
    (h : (withString expected input next).result = .error e) :
    e = .typeMismatch expected input ∨
      ∃ text, input = some (.str text) ∧ (next text).result = .error e := by
  rw [withString_eq_narrow] at h
  simpa using narrow_error h

theorem checkLiteral_ok_iff {expected : Json} : (checkLiteral expected input).result = .ok output ↔
    input = some output ∧ output.same expected = true := by
  cases input with
  | none => simp [checkLiteral]
  | some value =>
    simp only [checkLiteral, Option.some.injEq]
    split_ifs with h
    · simp only [result_ok, Except.ok.injEq]
      exact ⟨fun heq => heq ▸ ⟨rfl, h⟩, And.left⟩
    · simp only [result_fail, reduceCtorEq, false_iff, not_and]
      rintro rfl
      exact h

theorem checkLiteral_error {expected : Json} (h : (checkLiteral expected input).result = .error e) :
    e = .literal expected input := by
  unfold checkLiteral at h
  split at h
  · split_ifs at h <;> cases h
    rfl
  · cases h
    rfl

theorem checkEnums_ok_iff {variants : List String} :
    (checkEnums variants input).result = .ok output ↔
      ∃ text, input = some (.str text) ∧ text ∈ variants ∧ output = .str text := by
  rw [checkEnums, withString_ok_iff]
  refine exists_congr fun text => and_congr_right fun _ => ?_
  split_ifs with h <;> simp [h, eq_comm]

theorem checkEnums_error {variants : List String}
    (h : (checkEnums variants input).result = .error e) :
    e = .typeMismatch "string" input ∨ e = .notEnumerated variants input := by
  refine (withString_error h).imp_right ?_
  rintro ⟨text, -, h⟩
  split_ifs at h <;> cases h
  rfl

theorem checkPattern_ok_iff {p : Pattern} : (checkPattern p input).result = .ok output ↔
    ∃ text, input = some (.str text) ∧ p.search text = true ∧ output = .str text := by
  rw [checkPattern, withString_ok_iff]
  refine exists_congr fun text => and_congr_right fun _ => ?_
  split_ifs with h <;> simp [h, eq_comm]

theorem checkPattern_error {p : Pattern} (h : (checkPattern p input).result = .error e) :
    e = .typeMismatch "string" input ∨ e = .noMatch p.source input := by
  refine (withString_error h).imp_right ?_
  rintro ⟨text, -, h⟩
  split_ifs at h <;> cases h
  rfl

namespace Schema

/-! ## Schemas around one other -/

theorem jsonString_error {inner : Schema}
    (h : ((jsonString inner).check order input).result = .error e) :
    e = .typeMismatch "JSON string" input ∨ ∃ text, input = some (.str text) ∧
      ((∃ fault, e = .badJson fault input) ∨
        ∃ value, Json.read order text = .ok value ∧
          (inner.check order (some value)).result = .error e) := by
  rw [check] at h
  refine (withString_error h).imp_right ?_
  rintro ⟨text, rfl, h⟩
  refine ⟨text, rfl, ?_⟩
  split at h
  · next value hread => exact Or.inr ⟨value, hread, h⟩
  · next fault _ =>
    cases h
    exact Or.inl ⟨fault, rfl⟩

theorem optional_error {inner : Schema}
    (h : ((optional inner).check order input).result = .error e) :
    (inner.check order input).result = .error e := by
  cases input with
  | none => simp [check] at h
  | some value => simpa only [check] using h

theorem nullable_error {inner : Schema}
    (h : ((nullable inner).check order input).result = .error e) :
    (inner.check order input).result = .error e := by
  by_cases hnull : input = some .null
  · simp [hnull, check] at h
  · rwa [check] at h
    exact hnull

theorem withDefault_error {inner : Schema} {fallback : Json}
    (h : ((withDefault inner fallback).check order input).result = .error e) :
    (inner.check order input).result = .error e := by
  cases input with
  | none => simp [check] at h
  | some value => simpa only [check] using h

theorem map_error {inner : Schema} {f : Json → Option Json}
    (h : ((map inner f).check order input).result = .error e) :
    (inner.check order input).result = .error e ∨
      e = .unrepresentable Encoder.unkeyed input := by
  rw [check_map] at h
  refine (bind_error_iff.1 h).imp_right ?_
  rintro ⟨value, -, h⟩
  cases hf : f value with
  | none =>
    rw [hf] at h
    cases h
    rfl
  | some result =>
    rw [hf] at h
    cases h

theorem chain_error {base : Schema} {steps : List (Json → Json)}
    (h : ((chain base steps).check order input).result = .error e) :
    (base.check order input).result = .error e := by
  rw [check] at h
  exact map_error_iff.1 h

theorem withMessage_error {inner : Schema} {message : String} {code : Option String}
    (h : ((withMessage inner message code).check order input).result = .error e) :
    ∃ e', (inner.check order input).result = .error e' ∧ e'.reworded message code = e := by
  rw [check] at h
  exact mapFailure_error_iff.1 h

/-! ## Arrays -/

theorem array_ok_iff {item : Schema} :
    ((array item).check order input).result = .ok output ↔ ∃ values outputs,
      input = some (.arr values) ∧ output = .arr outputs ∧ List.Forall₂
        (fun value output => (item.check order (some value)).result = .ok output)
        values outputs := by
  simp only [check_array, narrow_ok_iff, map_ok_iff, items_ok_iff, Json.asItems?_eq_some]
  constructor
  · rintro ⟨_, values, rfl, rfl, outputs, h, rfl⟩
    exact ⟨values, outputs, rfl, rfl, h⟩
  · rintro ⟨values, outputs, rfl, rfl, h⟩
    exact ⟨_, values, rfl, rfl, outputs, h, rfl⟩

theorem array_error {item : Schema} (h : ((array item).check order input).result = .error e) :
    e = .typeMismatch "array" input ∨ ∃ values index value e', input = some (.arr values) ∧
      values[index]? = some value ∧ (item.check order (some value)).result = .error e' ∧
      e = e'.within (.index index) := by
  rw [check_array] at h
  refine (narrow_error h).imp_right ?_
  rintro ⟨_, values, rfl, hview, h⟩
  rw [Json.asItems?_eq_some] at hview; subst hview
  obtain ⟨index, value, e', hvalue, he', rfl⟩ := items_error (map_error_iff.1 h)
  exact ⟨values, index, value, e', rfl, hvalue, he', rfl⟩

theorem tuple_ok_iff {items : List Schema} :
    ((tuple items).check order input).result = .ok output ↔ ∃ values outputs,
      input = some (.arr values) ∧ output = .arr outputs ∧ values.length = items.length ∧
      List.Forall₂ (fun (p : Schema × Json) output =>
        (p.1.check order (some p.2)).result = .ok output) (items.zip values) outputs := by
  simp only [check_tuple, narrow_ok_iff, Json.asItems?_eq_some]
  constructor
  · rintro ⟨_, values, rfl, rfl, h⟩
    split_ifs at h with hlen
    · simp only [map_ok_iff, items_ok_iff] at h
      obtain ⟨outputs, h, rfl⟩ := h
      exact ⟨values, outputs, rfl, rfl, hlen, h⟩
    · cases h
  · rintro ⟨values, outputs, rfl, rfl, hlen, h⟩
    refine ⟨_, values, rfl, rfl, ?_⟩
    simp only [if_pos hlen, map_ok_iff, items_ok_iff]
    exact ⟨outputs, h, rfl⟩

theorem tuple_error {items : List Schema}
    (h : ((tuple items).check order input).result = .error e) :
    e = .typeMismatch "array" input ∨
      (∃ values, input = some (.arr values) ∧ values.length ≠ items.length ∧
        e = .tupleLength items.length values.length input) ∨
      ∃ (values : List Json) (index : Nat) (item : Schema) (value : Json) (e' : Failure),
        input = some (.arr values) ∧ items[index]? = some item ∧ values[index]? = some value ∧
        (item.check order (some value)).result = .error e' ∧ e = e'.within (.index index) := by
  rw [check_tuple] at h
  refine (narrow_error h).imp_right ?_
  rintro ⟨_, values, rfl, hview, h⟩
  rw [Json.asItems?_eq_some] at hview; subst hview
  split_ifs at h with hlen
  · obtain ⟨index, ⟨item, value⟩, e', hmem, he', rfl⟩ := items_error (map_error_iff.1 h)
    obtain ⟨hs, hv⟩ := List.getElem?_zip_eq_some.1 hmem
    exact Or.inr ⟨values, index, item, value, e', rfl, hs, hv, he', rfl⟩
  · cases h
    exact Or.inl ⟨values, rfl, hlen, rfl⟩

/-! ## Objects -/

theorem record_ok_iff {value : Schema} :
    ((record value).check order input).result = .ok output ↔ ∃ (entries outputs : Entries Json),
      input = some (.obj entries) ∧ output = .obj outputs ∧ List.Forall₂
        (fun key output => output.1 = key ∧
          (value.check order (entries.lookup key)).result = .ok output.2)
        entries.sortedKeys outputs := by
  simp only [check_record, narrow_ok_iff, map_ok_iff, keyed_ok_iff, List.forall₂_map_left_iff,
    Json.asEntries?_eq_some]
  constructor
  · rintro ⟨_, entries, rfl, rfl, outputs, h, rfl⟩
    exact ⟨entries, outputs, rfl, rfl, h⟩
  · rintro ⟨entries, outputs, rfl, rfl, h⟩
    exact ⟨_, entries, rfl, rfl, outputs, h, rfl⟩

theorem record_error {value : Schema} (h : ((record value).check order input).result = .error e) :
    e = .typeMismatch "object" input ∨ ∃ (entries : Entries Json) (key : String) (v : Json)
      (e' : Failure), input = some (.obj entries) ∧ entries.lookup key = some v ∧
        (value.check order (some v)).result = .error e' ∧ e = e'.within (.key key) := by
  rw [check_record] at h
  refine (narrow_error h).imp_right ?_
  rintro ⟨_, entries, rfl, hview, h⟩
  rw [Json.asEntries?_eq_some] at hview; subst hview
  obtain ⟨key, o, e', hmem, he', rfl⟩ := keyed_error (map_error_iff.1 h)
  obtain ⟨_, hkey, heq⟩ := List.mem_map.1 hmem
  cases heq
  obtain ⟨v, hv⟩ := Entries.mem_keys_iff.1 (Entries.mem_sortedKeys.1 hkey)
  exact ⟨entries, key, v, e', rfl, hv, hv ▸ he', rfl⟩

/-- Fields succeed with the outputs of their keys, in the order of the fields. -/
theorem fields_ok_iff {fields : List (String × Schema)} {entries outputs : Entries Json} :
    (Outcome.keyed (fieldOutcomes order fields entries)).result = .ok outputs ↔ List.Forall₂
      (fun (field : String × Schema) (output : String × Json) => output.1 = field.1 ∧
        (field.2.check order (entries.lookup field.1)).result = .ok output.2) fields outputs := by
  rw [keyed_ok_iff, fieldOutcomes, List.forall₂_map_left_iff]

/-- Outputs stand under the keys of their fields. -/
theorem keys_of_fields {fields : List (String × Schema)} {entries outputs : Entries Json}
    (h : (Outcome.keyed (fieldOutcomes order fields entries)).result = .ok outputs) :
    outputs.keys = Entries.keys fields :=
  (map_eq_of_forall₂ (fields_ok_iff.1 h) fun _ _ h => h.1.symm).symm

theorem exists_fields_ok_iff {fields : List (String × Schema)} {entries : Entries Json} :
    (∃ outputs, (Outcome.keyed (fieldOutcomes order fields entries)).result = .ok outputs) ↔
      ∀ field ∈ fields, ∃ output,
        (field.2.check order (entries.lookup field.1)).result = .ok output := by
  rw [exists_keyed_ok_iff, fieldOutcomes, List.forall_mem_map]

/-- Fields fail iff one of them fails after successes only, with that failure at its key. -/
theorem fields_error_iff {fields : List (String × Schema)} {entries : Entries Json} :
    (Outcome.keyed (fieldOutcomes order fields entries)).result = .error e ↔
      ∃ before field after e', fields = before ++ field :: after ∧
        (∀ f ∈ before, ∃ output, (f.2.check order (entries.lookup f.1)).result = .ok output) ∧
        (field.2.check order (entries.lookup field.1)).result = .error e' ∧
          e'.within (.key field.1) = e := by
  rw [keyed_error_iff, fieldOutcomes]
  constructor
  · rintro ⟨before, key, o, after, e', heq, hbefore, he', rfl⟩
    obtain ⟨before, rest, rfl, rfl, hrest⟩ := List.map_eq_append_iff.1 heq
    obtain ⟨field, after, rfl, hfield, rfl⟩ := List.map_eq_cons_iff.1 hrest
    cases hfield
    exact ⟨before, field, after, e', rfl, fun f hf => hbefore _ (List.mem_map_of_mem hf), he', rfl⟩
  · rintro ⟨before, field, after, e', rfl, hbefore, he', rfl⟩
    rw [List.map_append, List.map_cons]
    exact ⟨_, _, _, _, e', rfl, List.forall_mem_map.2 hbefore, he', rfl⟩

theorem fields_error {fields : List (String × Schema)} {entries : Entries Json}
    (h : (Outcome.keyed (fieldOutcomes order fields entries)).result = .error e) :
    ∃ (key : String) (field : Schema) (e' : Failure), (key, field) ∈ fields ∧
      (field.check order (entries.lookup key)).result = .error e' ∧ e = e'.within (.key key) := by
  obtain ⟨before, ⟨key, field⟩, after, e', rfl, -, he', rfl⟩ := fields_error_iff.1 h
  exact ⟨key, field, e', by simp, he', rfl⟩

theorem refuseUndeclared_ok_iff {declared : List String} {entries : Entries Json} {u : Unit} :
    (refuseUndeclared declared entries).result = .ok u ↔ ∀ key ∈ entries.keys, key ∈ declared := by
  unfold refuseUndeclared
  cases h : entries.find? fun entry => !declared.contains entry.1 with
  | none => simpa [Entries.keys] using h
  | some entry =>
    have hnot := List.find?_some h
    simp only [reduceCtorEq, false_iff, not_forall]
    exact ⟨entry.1, Entries.mem_keys_of_mem (List.mem_of_find?_eq_some h), by simpa using hnot⟩

/-- The first entry that is not declared is refused. -/
theorem refuseUndeclared_error_iff {declared : List String} {entries : Entries Json} :
    (refuseUndeclared declared entries).result = .error e ↔ ∃ before key value after,
      entries = before ++ (key, value) :: after ∧ (∀ k ∈ Entries.keys before, k ∈ declared) ∧
        key ∉ declared ∧ .unknownKey key value = e := by
  have hfind : ∀ key value, (entries.find? fun entry => !declared.contains entry.1) =
      some (key, value) ↔ ∃ before after, entries = before ++ (key, value) :: after ∧
        (∀ k ∈ Entries.keys before, k ∈ declared) ∧ key ∉ declared := by
    intro key value
    simp only [List.find?_eq_some_iff_append, Entries.keys, List.forall_mem_map,
      Bool.not_eq_true', List.contains_eq_mem, decide_eq_false_iff_not, Bool.not_not,
      decide_eq_true_eq]
    constructor
    · rintro ⟨hnot, before, after, heq, hbefore⟩
      exact ⟨before, after, heq, hbefore, hnot⟩
    · rintro ⟨before, after, heq, hbefore, hnot⟩
      exact ⟨hnot, before, after, heq, hbefore⟩
  unfold refuseUndeclared
  cases h : entries.find? fun entry => !declared.contains entry.1 with
  | none =>
    simp only [result_ok, reduceCtorEq, false_iff]
    rintro ⟨before, key, value, after, heq, hbefore, hnot, -⟩
    rw [(hfind key value).2 ⟨before, after, heq, hbefore, hnot⟩] at h
    cases h
  | some entry =>
    simp only [Except.error.injEq]
    constructor
    · rintro rfl
      obtain ⟨before, after, heq, hbefore, hnot⟩ := (hfind entry.1 entry.2).1 h
      exact ⟨before, entry.1, entry.2, after, heq, hbefore, hnot, rfl⟩
    · rintro ⟨before, key, value, after, heq, hbefore, hnot, rfl⟩
      rw [(hfind key value).2 ⟨before, after, heq, hbefore, hnot⟩] at h
      cases h
      rfl

theorem refuseUndeclared_error {declared : List String} {entries : Entries Json}
    (h : (refuseUndeclared declared entries).result = .error e) :
    ∃ key value, key ∉ declared ∧ entries.lookup key = some value ∧ e = .unknownKey key value := by
  obtain ⟨before, key, value, after, rfl, hbefore, hnot, rfl⟩ := refuseUndeclared_error_iff.1 h
  have hfirst : key ∉ Entries.keys before := fun hkey => hnot (hbefore key hkey)
  exact ⟨key, value, hnot, Entries.lookup_append_cons hfirst, rfl⟩

theorem nodup_keys_dropAbsent (entries : Entries Json) {outputs : Entries Json}
    (h : outputs.keys.Nodup) : (dropAbsent entries outputs).keys.Nodup :=
  Entries.nodup_keys_filter _ h

theorem lookup_dropAbsent (entries : Entries Json) {outputs : Entries Json}
    (h : outputs.keys.Nodup) (key : String) : (dropAbsent entries outputs).lookup key =
      (outputs.lookup key).filter fun output => !output.isNull || entries.hasKey key :=
  Entries.lookup_filter _ h key

theorem object_ok_iff {fields : List (String × Schema)} {deny : Bool} :
    ((object fields deny).check order input).result = .ok output ↔
      ∃ (entries outputs : Entries Json), input = some (.obj entries) ∧
        (Outcome.keyed (fieldOutcomes order fields entries)).result = .ok outputs ∧
        (deny = true → ∀ key ∈ entries.keys, key ∈ Entries.keys fields) ∧
        output = .obj (order.ofList (dropAbsent entries outputs)) := by
  have hdeny : ∀ entries, (∃ u, (if deny then refuseUndeclared (Entries.keys fields) entries
      else .ok ()).result = .ok u) ↔
        (deny = true → ∀ key ∈ Entries.keys entries, key ∈ Entries.keys fields) := by
    intro entries
    cases deny <;> simp [refuseUndeclared_ok_iff]
  simp only [check_object, narrow_ok_iff, bind_ok_iff, map_ok_iff, Json.asEntries?_eq_some]
  constructor
  · rintro ⟨_, entries, rfl, rfl, outputs, h, u, hu, rfl⟩
    exact ⟨entries, outputs, rfl, h, (hdeny entries).1 ⟨u, hu⟩, rfl⟩
  · rintro ⟨entries, outputs, rfl, h, hu, rfl⟩
    obtain ⟨u, hu⟩ := (hdeny entries).2 hu
    exact ⟨_, entries, rfl, rfl, outputs, h, u, hu, rfl⟩

theorem object_error {fields : List (String × Schema)} {deny : Bool}
    (h : ((object fields deny).check order input).result = .error e) :
    e = .typeMismatch "object" input ∨ ∃ (entries : Entries Json), input = some (.obj entries) ∧
      ((∃ (key : String) (field : Schema) (e' : Failure), (key, field) ∈ fields ∧
        (field.check order (entries.lookup key)).result = .error e' ∧ e = e'.within (.key key)) ∨
      deny = true ∧ ∃ key value, key ∉ Entries.keys fields ∧ entries.lookup key = some value ∧
        e = .unknownKey key value) := by
  rw [check_object] at h
  refine (narrow_error h).imp_right ?_
  rintro ⟨_, entries, rfl, hview, h⟩
  rw [Json.asEntries?_eq_some] at hview; subst hview
  refine ⟨entries, rfl, ?_⟩
  rcases bind_error_iff.1 h with h | ⟨outputs, -, h⟩
  · exact Or.inl (fields_error h)
  · rw [map_error_iff] at h
    cases deny with
    | false => cases h
    | true => exact Or.inr ⟨rfl, refuseUndeclared_error h⟩

theorem typedRecord_error {fields : List (String × Schema)}
    (h : ((typedRecord fields).check order input).result = .error e) :
    e = .typeMismatch "object" input ∨ ∃ (entries : Entries Json), input = some (.obj entries) ∧
      ∃ (key : String) (field : Schema) (e' : Failure), (key, field) ∈ fields ∧
        (field.check order (entries.lookup key)).result = .error e' ∧ e = e'.within (.key key) := by
  rw [check_typedRecord] at h
  refine (narrow_error h).imp_right ?_
  rintro ⟨_, entries, rfl, hview, h⟩
  rw [Json.asEntries?_eq_some] at hview; subst hview
  exact ⟨entries, rfl, fields_error (map_error_iff.1 h)⟩

/-! ## Alternatives -/

theorem union_ok_iff {alternatives : List Schema} :
    ((union alternatives).check order input).result = .ok output ↔
      ∃ before s after, alternatives = before ++ s :: after ∧
        (∀ t ∈ before, ∃ e, (t.check order input).result = .error e) ∧
        (s.check order input).result = .ok output := by
  rw [check_union, Attempts.settle_ok_iff, Attempts.ofList_ok_iff]
  constructor
  · rintro ⟨before, o, after, heq, hbefore, ho⟩
    obtain ⟨before, rest, rfl, rfl, hrest⟩ := List.map_eq_append_iff.1 heq
    obtain ⟨s, after, rfl, rfl, rfl⟩ := List.map_eq_cons_iff.1 hrest
    exact ⟨before, s, after, rfl, fun t ht => hbefore _ (List.mem_map_of_mem ht), ho⟩
  · rintro ⟨before, s, after, rfl, hbefore, ho⟩
    exact ⟨_, _, _, by rw [List.map_append, List.map_cons], List.forall_mem_map.2 hbefore, ho⟩

theorem union_error_iff {alternatives : List Schema} :
    ((union alternatives).check order input).result = .error e ↔ ∃ causes, List.Forall₂
      (fun s cause => (s.check order input).result = .error cause) alternatives causes ∧
        .noAlternative input causes = e := by
  simp only [check_union, Attempts.settle_error_iff, Attempts.ofList_error_iff,
    List.forall₂_map_left_iff]

end Schema

end Conform
