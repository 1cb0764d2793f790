/-
  Composites that do the same. A record is an object that declares the keys of its
  value, unless a result cannot be encoded; a tuple of equal schemas is an array; a
  lax object is a typed record without what was absent and came out `null`.
-/
import Conform.Proofs.Check
import Conform.Proofs.Congruence
import Conform.Schema.Shape

namespace Conform

open Outcome

/-! ## Rows -/

theorem zip_replicate_length {α β : Type} (a : α) (bs : List β) :
    (List.replicate bs.length a).zip bs = bs.map fun b => (a, b) := by
  induction bs with
  | nil => rfl
  | cons b bs ih =>
    rw [List.length_cons, List.replicate_succ, List.zip_cons_cons, ih, List.map_cons]

/-! ## Shapes -/

/-- Fields are declared like entries that are put in. -/
theorem Shape.fields_ofList (fields : List (String × Schema)) :
    (Shape.ofList fields).fields = KeyOrder.insertion.ofList fields :=
  (List.foldl_hom Shape.fields fun _ _ => rfl).symm

theorem Shape.fields_ofList_of_nodup {fields : List (String × Schema)}
    (h : (Entries.keys fields).Nodup) : (Shape.ofList fields).fields = fields := by
  have hkeeps : KeyOrder.insertion.Keeps fields := h
  rw [fields_ofList, KeyOrder.ofList_eq_self hkeeps]

namespace Schema

variable (order : KeyOrder) {input : Option Json}

/-! ## Records and objects -/

/-- One schema for the values of all keys. -/
def uniformFields (s : Schema) (keys : List String) : List (String × Schema) :=
  keys.map fun key => (key, s)

theorem keys_uniformFields (s : Schema) (keys : List String) :
    Entries.keys (s.uniformFields keys) = keys := by
  simp [Entries.keys, uniformFields, Function.comp_def]

theorem refuseUndeclared_eq_ok {declared : List String} {entries : Entries Json}
    (h : ∀ key ∈ entries.keys, key ∈ declared) : refuseUndeclared declared entries = .ok () := by
  have hnone : entries.find? (fun entry => !declared.contains entry.1) = none := by
    rw [List.find?_eq_none]
    intro entry hentry
    simpa using h entry.1 (Entries.mem_keys_of_mem hentry)
  rw [refuseUndeclared, hnone]

theorem dropAbsent_eq_self {entries outputs : Entries Json}
    (h : ∀ key ∈ outputs.keys, key ∈ entries.keys) : dropAbsent entries outputs = outputs := by
  refine List.filter_eq_self.2 fun output houtput => ?_
  have hkey := Entries.hasKey_iff.2 (h output.1 (Entries.mem_keys_of_mem houtput))
  simp only [hkey, Bool.or_true]

/-- **A record is an object that declares the keys of its value**, in sorted order. -/
theorem check_record_eq_object (s : Schema) (entries : Entries Json) (deny : Bool) :
    (record s).check order (some (.obj entries)) =
      (object (s.uniformFields entries.sortedKeys) deny).check order (some (.obj entries)) := by
  have hdeclared : ∀ key ∈ entries.keys, key ∈ entries.sortedKeys :=
    fun key hkey => Entries.mem_sortedKeys.2 hkey
  have hunknown : (if deny then refuseUndeclared entries.sortedKeys entries else .ok ()) =
      .ok () := by
    split_ifs
    · exact refuseUndeclared_eq_ok hdeclared
    · rfl
  have hoptions : fieldOutcomes order (s.uniformFields entries.sortedKeys) entries =
      entries.sortedKeys.map fun key => (key, s.check order (entries.lookup key)) := by
    rw [fieldOutcomes, uniformFields, List.map_map]
    rfl
  rw [check_record, check_object, narrow_obj, narrow_obj, keys_uniformFields, hunknown,
    ← hoptions, map_eq_bind]
  refine bind_congr fun outputs houtputs => ?_
  -- all keys are present and stand in order, so the result stays as it is
  have hkeys : Entries.keys outputs = entries.sortedKeys := by
    rw [keys_of_fields houtputs, keys_uniformFields]
  have hpresent : ∀ key ∈ Entries.keys outputs, key ∈ entries.keys :=
    fun key hkey => Entries.mem_sortedKeys.1 (hkeys ▸ hkey)
  have hkeeps : order.Keeps outputs := .of_pairwise (hkeys ▸ Entries.sortedKeys_pairwise)
  rw [dropAbsent_eq_self hpresent, KeyOrder.ofList_eq_self hkeeps]
  rfl

theorem check_record_eq_shape (s : Schema) (entries : Entries Json) (deny : Bool) :
    (record s).check order (some (.obj entries)) =
      ((Shape.ofList (s.uniformFields entries.sortedKeys)).object deny).check order
        (some (.obj entries)) := by
  have hnodup : (Entries.keys (s.uniformFields entries.sortedKeys)).Nodup := by
    rw [keys_uniformFields]
    exact Entries.nodup_sortedKeys
  rw [Shape.object, Shape.fields_ofList_of_nodup hnodup]
  exact check_record_eq_object order s entries deny

/-! ## Results that are made JSON values -/

section

variable {α β : Type} {s : Check α} {encode : Encoder α} {entries : Entries Json}
  {keys : List String}

theorem mapM_ok_iff {f : α → Except String β} {as : List α} {bs : List β} :
    as.mapM f = .ok bs ↔ List.Forall₂ (fun a b => f a = .ok b) as bs := by
  induction as generalizing bs with
  | nil => cases bs <;> simp [pure, Except.pure]
  | cons a rest ih =>
    have hcons : (a :: rest).mapM f = .ok bs ↔
        ∃ b bs', f a = .ok b ∧ rest.mapM f = .ok bs' ∧ b :: bs' = bs := by
      rw [List.mapM_cons]
      cases f a <;> cases rest.mapM f <;> simp [Bind.bind, Except.bind, pure, Except.pure]
    rw [hcons]
    constructor
    · rintro ⟨b, bs', hb, hbs, rfl⟩
      exact .cons hb (ih.1 hbs)
    · rintro (_ | ⟨hb, hbs⟩)
      exact ⟨_, _, hb, ih.2 hbs, rfl⟩

theorem entries_ok_iff {outputs : Entries α} {output : Json} :
    encode.entries outputs = .ok output ↔ ∃ values, output = .obj values ∧
      List.Forall₂ (fun a v => v.1 = a.1 ∧ encode a.2 = .ok v.2) outputs values := by
  have hentry : ∀ (a : String × α) (v : String × Json),
      (encode a.2).map (a.1, ·) = .ok v ↔ v.1 = a.1 ∧ encode a.2 = .ok v.2 := by
    rintro ⟨key, a⟩ ⟨key', v⟩
    cases encode a <;> simp [Except.map, eq_comm]
  simp only [← hentry, ← mapM_ok_iff, Encoder.entries]
  cases outputs.mapM fun a => (encode a.2).map (a.1, ·) <;> simp [Except.map, eq_comm]

theorem erase_ok_iff {output : Json} : (s.erase encode input).result = .ok output ↔
    ∃ a, (s input).result = .ok a ∧ encode a = .ok output := by
  rw [Check.erase, bind_ok_iff]
  refine exists_congr fun a => and_congr_right fun _ => ?_
  cases encode a <;> simp

theorem eachKey_ok_iff {outputs : Entries α} :
    (s.eachKey entries keys).result = .ok outputs ↔ List.Forall₂
      (fun key output => output.1 = key ∧ (s (entries.lookup key)).result = .ok output.2)
      keys outputs := by
  rw [Check.eachKey_eq_keyed, keyed_ok_iff, List.forall₂_map_left_iff]

theorem check_erased : (erased s encode).check order = s.erase encode := by
  funext input
  rw [erased, check]

/-- The results of a check at keys of an object are JSON values once they are encoded, up to the
    first key whose value is refused. -/
def Encodes (s : Check α) (encode : Encoder α) (entries : Entries Json) : List String → Prop
  | [] => True
  | key :: rest => ∀ output, (s (entries.lookup key)).result = .ok output →
      (∃ json, encode output = .ok json) ∧ Encodes s encode entries rest

theorem encodes_of_accepts
    (h : ∀ key ∈ keys, ∃ json, (s.erase encode (entries.lookup key)).result = .ok json) :
    Encodes s encode entries keys := by
  induction keys with
  | nil => exact trivial
  | cons key rest ih =>
    intro output houtput
    obtain ⟨json, hjson⟩ := h key (by simp)
    obtain ⟨a, ha, hencode⟩ := erase_ok_iff.1 hjson
    rw [houtput] at ha
    cases ha
    exact ⟨⟨json, hencode⟩, ih fun key hkey => h key (by simp [hkey])⟩

theorem eachKey_erase {f : α → Json} (hf : ∀ a json, encode a = .ok json → f a = json)
    (h : Encodes s encode entries keys) : (s.erase encode).eachKey entries keys =
      (s.eachKey entries keys).map fun outputs => outputs.map fun output =>
        (output.1, f output.2) := by
  induction keys with
  | nil => rfl
  | cons key rest ih =>
    have herase : s.erase encode (entries.lookup key) = (s (entries.lookup key)).map f := by
      rw [Check.erase, map_eq_bind]
      refine Outcome.bind_congr fun a ha => ?_
      obtain ⟨json, hjson⟩ := (h a ha).1
      rw [hjson, hf a json hjson]
    rw [Check.eachKey, Check.eachKey, herase, map_atKey, Outcome.map_bind, map_eq_bind, bind_assoc]
    refine Outcome.bind_congr fun a ha => ?_
    rw [ih (h a (within_ok_iff.1 ha)).2, ← map_eq_bind]
    obtain ⟨events, e | outputs⟩ := s.eachKey entries rest <;> rfl

theorem entries_eachKey {f : α → Json} (hf : ∀ a json, encode a = .ok json → f a = json)
    (h : Encodes s encode entries keys) {outputs : Entries α}
    (houtputs : (s.eachKey entries keys).result = .ok outputs) : encode.entries outputs =
      .ok (.obj (outputs.map fun output => (output.1, f output.2))) := by
  refine entries_ok_iff.2 ⟨_, rfl, ?_⟩
  rw [eachKey_ok_iff] at houtputs
  induction houtputs with
  | nil => exact .nil
  | cons houtput _ ih =>
    obtain ⟨⟨json, hjson⟩, hrest⟩ := h _ houtput.2
    exact .cons ⟨rfl, hjson.trans (congrArg _ (hf _ json hjson).symm)⟩ (ih hrest)

/-- A result that cannot be encoded is refused at its key. -/
theorem eachKey_erase_error (h : ¬Encodes s encode entries keys) : ∃ key, ∃ e : Failure,
    (∃ a, (s (entries.lookup key)).result = .ok a) ∧
      ((s.erase encode).eachKey entries keys).result = .error (e.within (.key key)) := by
  induction keys with
  | nil => exact absurd trivial h
  | cons key rest ih =>
    simp only [Encodes, not_forall] at h
    obtain ⟨a, ha, hencode⟩ := h
    rw [Check.eachKey]
    cases hjson : encode a with
    | error reason =>
      have hrefused : (s.erase encode (entries.lookup key)).result =
          .error (.unrepresentable reason (entries.lookup key)) := by
        rw [Check.erase, bind_of_ok ha, hjson, result_fail]
      exact ⟨key, _, ⟨a, ha⟩, bind_of_error (within_error_iff.2 ⟨_, hrefused, rfl⟩) _⟩
    | ok json =>
      have hrest : ¬Encodes s encode entries rest := fun hrest => hencode ⟨⟨json, hjson⟩, hrest⟩
      obtain ⟨key', e, haccepts, he⟩ := ih hrest
      have hfirst : ((s.erase encode (entries.lookup key)).atKey key).result = .ok json :=
        within_ok_iff.2 (erase_ok_iff.2 ⟨a, ha, hjson⟩)
      exact ⟨key', e, haccepts, (bind_of_ok hfirst _).trans (map_error_iff.2 he)⟩

/-- A record whose results are encoded together refuses at a key only what its check refuses
    there. -/
theorem record_erase_error {key : String} {e : Failure}
    (h : (s.record.erase encode.entries (some (.obj entries))).result =
      .error (e.within (.key key))) :
    ∃ e', (s (entries.lookup key)).result = .error e' := by
  rcases bind_error_iff.1 h with hinner | ⟨outputs, -, hencode⟩
  · rw [Check.record, Check.eachKey_eq_keyed, keyed_error_iff] at hinner
    obtain ⟨before, key', o, after, e', hkeys, -, he', hwithin⟩ := hinner
    obtain rfl : key' = key := by
      simpa [Failure.within] using congrArg (List.head? ∘ Failure.path) hwithin
    have hmem : (key', o) ∈ entries.sortedKeys.map fun key => (key, s (entries.lookup key)) := by
      simp [hkeys]
    obtain ⟨k, -, hk⟩ := List.mem_map.1 hmem
    cases hk
    exact ⟨e', he'⟩
  · -- a result that cannot be encoded is refused with no path at all
    cases hvalue : encode.entries outputs <;> rw [hvalue] at hencode
    · cases congrArg (Except.mapError Failure.path) hencode
    · cases hencode

/-- **Results may be encoded each by itself or all together in the record**, which is the same iff
    they can be encoded: one that cannot is refused at its key or with the whole record. -/
theorem record_erase_iff : s.record.erase encode.entries (some (.obj entries)) =
    (record (erased s encode)).check order (some (.obj entries)) ↔
      Encodes s encode entries entries.sortedKeys := by
  rw [check, Check.map, check_erased]
  constructor
  · intro heq
    by_contra h
    obtain ⟨key, e, ⟨a, ha⟩, he⟩ := eachKey_erase_error h
    obtain ⟨e', he'⟩ := record_erase_error (by rw [heq]; exact map_error_iff.2 he)
    rw [ha] at he'
    cases he'
  · intro h
    obtain ⟨f, hf⟩ : ∃ f : α → Json, ∀ a json, encode a = .ok json → f a = json :=
      ⟨fun a => (encode a).toOption.getD .null, fun a json ha => by simp [ha, Except.toOption]⟩
    have hrow : (Check.record (s.erase encode)) (some (.obj entries)) =
        (s.record (some (.obj entries))).map fun outputs => outputs.map fun output =>
          (output.1, f output.2) := eachKey_erase hf h
    rw [hrow, Check.erase, map_eq_bind, Outcome.map_bind]
    refine Outcome.bind_congr fun outputs houtputs => ?_
    rw [entries_eachKey hf h houtputs]

theorem record_erase_ok_iff {output : Json} :
    (s.record.erase encode.entries (some (.obj entries))).result = .ok output ↔
      ((record (erased s encode)).check order (some (.obj entries))).result = .ok output := by
  constructor
  · intro h
    obtain ⟨outputs, houtputs, hencode⟩ := erase_ok_iff.1 h
    obtain ⟨values, -, hvalues⟩ := entries_ok_iff.1 hencode
    rwa [← (record_erase_iff order).2 (encodes_of_accepts fun key hkey => ?_)]
    obtain ⟨a, ha, -, hresult⟩ := forall₂_mem_left (eachKey_ok_iff.1 houtputs) key hkey
    obtain ⟨v, -, -, hv⟩ := forall₂_mem_left hvalues a ha
    exact ⟨v.2, erase_ok_iff.2 ⟨a.2, hresult, hv⟩⟩
  · intro h
    obtain ⟨_, outputs, hinput, -, houtputs⟩ := record_ok_iff.1 h
    cases hinput
    rwa [(record_erase_iff order).2 (encodes_of_accepts fun key hkey => ?_)]
    obtain ⟨c, -, -, hc⟩ := forall₂_mem_left houtputs key hkey
    exact ⟨c.2, hc⟩

end

/-! ## Tuples and arrays -/

/-- **A tuple of equal checks is an array.** -/
theorem tuple_replicate {α : Type} (s : Check α) (values : List Json) :
    Check.tuple (List.replicate values.length s) (some (.arr values)) =
      s.array (some (.arr values)) := by
  rw [Check.tuple_eq_narrow, Check.array_eq_narrow, narrow_arr, narrow_arr,
    if_pos List.length_replicate.symm, zip_replicate_length, items_map]

theorem check_tuple_replicate (s : Schema) (values : List Json) :
    (tuple (List.replicate values.length s)).check order (some (.arr values)) =
      (array s).check order (some (.arr values)) := by
  rw [check, check, Check.map, Check.map, checks_eq_map, List.map_replicate, tuple_replicate]

/-! ## Objects and typed records -/

/-- A result without the members that are `null` and that the checked object does not have. -/
def withoutAbsent : Option Json → Json → Json
  | some (.obj entries), .obj members =>
    .obj (members.filter fun member => !(member.2.isNull && !Entries.hasKey member.1 entries))
  | _, output => output

theorem withoutAbsent_obj (entries members : Entries Json) :
    withoutAbsent (some (.obj entries)) (.obj members) = .obj (dropAbsent entries members) := by
  simp [withoutAbsent, dropAbsent]

/-- **A lax object is a typed record without the members that were absent and came out `null`.** -/
theorem check_object_eq_typedRecord (shape : Shape) (input : Option Json) :
    (shape.object false).check order input =
      ((typedRecord shape.fields).check order input).map (withoutAbsent input) := by
  rw [Shape.object, check_object, check_typedRecord]
  unfold narrow
  cases hview : input.bind Json.asEntries? with
  | none => rfl
  | some entries =>
    obtain ⟨_, rfl, hobj⟩ := Option.bind_eq_some_iff.1 hview
    obtain rfl := Json.asEntries?_eq_some.1 hobj
    rw [map_eq_bind, map_bind]
    refine bind_congr fun outputs houtputs => ?_
    have hnodup : (Entries.keys outputs).Nodup := by
      rw [keys_of_fields houtputs]
      exact shape.distinct
    rw [withoutAbsent_obj, dropAbsent, dropAbsent, KeyOrder.ofList_filter order hnodup]
    rfl

/-! ## The three pairs -/

/-- **Composites and their counterparts.** A record accepts an object like the lax or strict object
    that declares all its keys with the same schema, with the same result; their failures and events
    are the same too iff the results of the schema can be encoded one by one, as far as it accepts.
    A tuple of copies of a schema does on an array of their number what the array of it does. A lax
    object and a typed record of the same fields fail alike on any input, and the result of the
    object is that of the record without the members that were absent and came out `null`. -/
theorem check_counterparts :
    (∀ {α : Type} (s : Check α) (encode : Encoder α) (entries : Entries Json) (deny : Bool),
      let record := s.record.erase encode.entries (some (.obj entries))
      let object := ((Shape.ofList ((erased s encode).uniformFields entries.sortedKeys)).object
        deny).check order (some (.obj entries))
      (∀ output, record.result = .ok output ↔ object.result = .ok output) ∧
        (record = object ↔ Encodes s encode entries entries.sortedKeys)) ∧
      (∀ (s : Schema) (entries : Entries Json) (deny : Bool),
        (record s).check order (some (.obj entries)) =
          ((Shape.ofList (s.uniformFields entries.sortedKeys)).object deny).check order
            (some (.obj entries))) ∧
      (∀ {α : Type} (s : Check α) (encode : Encoder α) (values : List Json),
        (Check.tuple (List.replicate values.length s)).erase encode.list (some (.arr values)) =
          s.array.erase encode.list (some (.arr values))) ∧
      (∀ (s : Schema) (values : List Json),
        (tuple (List.replicate values.length s)).check order (some (.arr values)) =
          (array s).check order (some (.arr values))) ∧
      ∀ (shape : Shape) (input : Option Json),
        (∀ e, ((shape.object false).check order input).result = .error e ↔
          ((typedRecord shape.fields).check order input).result = .error e) ∧
        (shape.object false).check order input =
          ((typedRecord shape.fields).check order input).map (withoutAbsent input) := by
  refine ⟨fun s encode entries deny => ?_, check_record_eq_shape order, fun s encode values => ?_,
    check_tuple_replicate order, fun shape input => ⟨fun e => ?_, ?_⟩⟩
  · rw [← check_record_eq_shape]
    exact ⟨fun output => record_erase_ok_iff order, record_erase_iff order⟩
  · rw [Check.erase, Check.erase, tuple_replicate]
  · rw [check_object_eq_typedRecord, map_error_iff]
  · exact check_object_eq_typedRecord order shape input

/-- Whole numbers as pairs, in a record and in an object. -/
theorem record_eq_object_of_pairs :
    let s := Check.map ((leaf .integer).check .sorted) fun n => [n, n]
    let encode : Encoder (List Json) := fun ns => .ok (.arr ns)
    let entries := [("b", Json.int 2), ("a", .int 1)]
    Encodes s encode entries (Entries.sortedKeys entries) ∧
      s.record.erase encode.entries (some (.obj entries)) =
        ((Shape.ofList ((erased s encode).uniformFields (Entries.sortedKeys entries))).object
          true).check .sorted (some (.obj entries)) := by
  intro s encode entries
  have hencodes : Encodes s encode entries (Entries.sortedKeys entries) :=
    fun a _ => ⟨⟨.arr a, rfl⟩, fun b _ => ⟨⟨.arr b, rfl⟩, trivial⟩⟩
  exact ⟨hencodes, ((check_counterparts .sorted).1 s encode entries true).2.2 hencodes⟩

/-- A map of one entry, whose key is a pair. -/
def pairKeyed (n : Json) : List ((Json × Json) × Json) := [((n, n), n)]

/-- Maps whose keys are pairs have a JSON value only if they are empty. -/
def encodePairKeyed : Encoder (List ((Json × Json) × Json))
  | [] => .ok (.obj [])
  | _ :: _ => .error Encoder.unkeyed

/-- A result that cannot be encoded is refused with the whole record, but at its key in the
    object. -/
theorem record_ne_object_of_pairKeyed :
    let s := Check.map ((leaf .integer).check .sorted) pairKeyed
    let entries := [("a", Json.int 1)]
    let record := s.record.erase encodePairKeyed.entries (some (.obj entries))
    let object := ((Shape.ofList ((erased s encodePairKeyed).uniformFields
      (Entries.sortedKeys entries))).object false).check .sorted (some (.obj entries))
    record.result = .error (.unrepresentable Encoder.unkeyed (some (.obj entries))) ∧
      object.result = .error
        ((Failure.unrepresentable Encoder.unkeyed (some (.int 1))).within (.key "a")) ∧
      record.result ≠ object.result := by
  intro s entries record object
  have hrecord : record.result =
      .error (.unrepresentable Encoder.unkeyed (some (.obj entries))) := rfl
  have hobject : object.result = .error
      ((Failure.unrepresentable Encoder.unkeyed (some (.int 1))).within (.key "a")) := rfl
  refine ⟨hrecord, hobject, fun h => ?_⟩
  rw [hrecord, hobject] at h
  cases congrArg (Except.mapError Failure.path) h

end Schema

end Conform
