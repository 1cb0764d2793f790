/-
  Data that no field declares. Lax objects do not see it, however deep it is; strict
  ones accept exactly the values without any (`Schema.strip`, `Schema.strict`).
-/
import Conform.Proofs.Agree
import Conform.Proofs.Check
import Conform.Proofs.WellKeyed

namespace Conform

open Outcome

namespace Schema

/-! ## Undeclared entries -/

mutual

/-- A value without the entries that the objects of a schema do not declare. Values that the schema
    takes as they are, and texts that it reads, stay whole. -/
def strip : Schema → Json → Json
  | array item, .arr values => .arr (values.map fun value => strip item value)
  | tuple items, .arr values => .arr (stripItems items values)
  | record value, .obj entries => .obj (entries.map fun entry => (entry.1, strip value entry.2))
  | object fields _, .obj entries =>
    .obj (entries.filterMap fun entry =>
      (stripField fields entry.1 entry.2).map fun value => (entry.1, value))
  | optional inner, value | nullable inner, value | withDefault inner _, value
  | withMessage inner _ _, value | map inner _, value | tryMap inner _, value
  | chain inner _, value => strip inner value
  | _, value => value

/-- The items of an array, each by its schema. -/
def stripItems : List Schema → List Json → List Json
  | item :: items, value :: values => strip item value :: stripItems items values
  | _, values => values

/-- The value of a key, by the schema that declares it. -/
def stripField : List (String × Schema) → String → Json → Option Json
  | [], _, _ => none
  | (declared, field) :: fields, key, value =>
    if key == declared then some (strip field value) else stripField fields key value

end

mutual

/-- The schema with all its objects strict. Texts are read as before. -/
def strict : Schema → Schema
  | array item => array (strict item)
  | tuple items => tuple (strictItems items)
  | record value => record (strict value)
  | object fields _ => object (strictFields fields) true
  | optional inner => optional (strict inner)
  | nullable inner => nullable (strict inner)
  | withDefault inner fallback => withDefault (strict inner) fallback
  | withMessage inner message code => withMessage (strict inner) message code
  | map inner f => map (strict inner) f
  | tryMap inner f => tryMap (strict inner) f
  | chain base steps => chain (strict base) steps
  | s => s

/-- All schemas strict. -/
def strictItems : List Schema → List Schema
  | [] => []
  | item :: items => strict item :: strictItems items

/-- All fields strict. -/
def strictFields : List (String × Schema) → List (String × Schema)
  | [] => []
  | (key, field) :: fields => (key, strict field) :: strictFields fields

end

/-- No object denies unknown keys, and what is declared does not depend on an alternative. -/
def Lax : Schema → Prop
  | object fields deny => deny = false ∧ (Entries.keys fields).Nodup
  | typedRecord _ | union _ | orElse _ _ => False
  | _ => True

theorem strictItems_eq_map (items : List Schema) : strictItems items = items.map strict := by
  induction items with
  | nil => rfl
  | cons item items ih => rw [strictItems, ih, List.map_cons]

theorem strictFields_eq_map (fields : List (String × Schema)) :
    strictFields fields = fields.map fun field => (field.1, field.2.strict) := by
  induction fields with
  | nil => rfl
  | cons field fields ih => rw [strictFields, ih, List.map_cons]

theorem stripField_eq_lookup (fields : List (String × Schema)) (key : String) (value : Json) :
    stripField fields key value = (fields.lookup key).map fun field => field.strip value := by
  induction fields with
  | nil => rfl
  | cons field fields ih =>
    rw [stripField, List.lookup_cons, ih]
    cases key == field.1 <;> rfl

theorem zip_stripItems (items : List Schema) (values : List Json) :
    items.zip (stripItems items values) =
      (items.zip values).map fun p => (p.1, p.1.strip p.2) := by
  induction items generalizing values with
  | nil => rfl
  | cons item items ih =>
    cases values with
    | nil => rfl
    | cons value values => simp only [stripItems, List.zip_cons_cons, List.map_cons, ih]

theorem length_stripItems (items : List Schema) (values : List Json) :
    (stripItems items values).length = values.length := by
  induction items generalizing values with
  | nil => rfl
  | cons item items ih =>
    cases values with
    | nil => rfl
    | cons value values => simp only [stripItems, List.length_cons, ih]

theorem stripItems_eq_self_iff {items : List Schema} {values : List Json} :
    stripItems items values = values ↔ ∀ p ∈ items.zip values, p.1.strip p.2 = p.2 := by
  induction items generalizing values with
  | nil => simp [stripItems]
  | cons item items ih =>
    cases values with
    | nil => simp [stripItems]
    | cons value values => simp [stripItems, ih]

/-- What is undeclared does not change the kind of a value. -/
theorem kind_strip (s : Schema) (value : Json) :
    Kind.of (some (s.strip value)) = Kind.of (some value) := by
  induction s with
  | optional _ ih | nullable _ ih | withDefault _ _ ih | withMessage _ _ _ ih | map _ _ ih
  | tryMap _ _ ih | chain _ _ ih => simpa only [strip] using ih
  | _ => cases value <;> rfl

theorem strip_eq_null_iff {s : Schema} {value : Json} : s.strip value = .null ↔ value = .null := by
  have hkind : ∀ v : Json, v = .null ↔ Kind.of (some v) = .null := by
    intro v
    cases v <;> simp [Kind.of]
  rw [hkind, kind_strip, ← hkind]

/-! ## Entries -/

theorem lookup_map_snd {entries : Entries Json} (f : Json → Json) (key : String) :
    List.lookup key (entries.map fun entry => (entry.1, f entry.2)) =
      (entries.lookup key).map f := by
  induction entries with
  | nil => rfl
  | cons entry rest ih =>
    rw [List.map_cons, List.lookup_cons, List.lookup_cons, ih]
    cases key == entry.1 <;> rfl

/-- The entries that some field declares, each by its field. -/
def stripEntries (fields : List (String × Schema)) (entries : Entries Json) : Entries Json :=
  entries.filterMap fun entry => (stripField fields entry.1 entry.2).map (entry.1, ·)

/-- What is declared is found among what is left. -/
theorem lookup_stripEntries {fields : List (String × Schema)} (hnodup : (Entries.keys fields).Nodup)
    {field : String × Schema} (hfield : field ∈ fields) (entries : Entries Json) :
    (stripEntries fields entries).lookup field.1 = (entries.lookup field.1).map field.2.strip := by
  have hdeclared : ∀ value, stripField fields field.1 value = some (field.2.strip value) := by
    intro value
    rw [stripField_eq_lookup, (Entries.lookup_eq_some_iff hnodup).2 hfield, Option.map_some]
  induction entries with
  | nil => rfl
  | cons entry rest ih =>
    obtain ⟨k, v⟩ := entry
    rw [stripEntries] at ih ⊢
    by_cases hk : field.1 = k
    · subst hk
      simp [hdeclared]
    · have hne : (field.1 == k) = false := beq_false_of_ne hk
      cases hfound : stripField fields k v <;> simp [hfound, hne, ih, List.lookup_cons]

/-! ## Lax schemas -/

/-- Failures that say the same of the same place. -/
def SameWords (e e' : Failure) : Prop :=
  e.code = e'.code ∧ e.message = e'.message ∧ e.path = e'.path

theorem SameWords.refl (e : Failure) : SameWords e e := ⟨rfl, rfl, rfl⟩

theorem SameWords.within {e e' : Failure} (segment : Segment) (h : SameWords e e') :
    SameWords (e.within segment) (e'.within segment) :=
  ⟨h.1, h.2.1, congrArg (segment :: ·) h.2.2⟩

theorem SameWords.reworded {e e' : Failure} (message : String) (code : Option String)
    (h : SameWords e e') : SameWords (e.reworded message code) (e'.reworded message code) :=
  ⟨congrArg code.getD h.1, rfl, h.2.2⟩

variable {order : KeyOrder}

theorem agree_same (o : Outcome Json) : Agree (· = ·) SameWords o o :=
  .refl (fun _ => rfl) SameWords.refl o

theorem sameWords_typeMismatch (s : Schema) (expected : String) (input : Option Json) :
    SameWords (.typeMismatch expected input) (.typeMismatch expected (input.map s.strip)) := by
  cases input with
  | none => exact .refl _
  | some value =>
    refine ⟨rfl, ?_, rfl⟩
    rw [Failure.typeMismatch, Failure.typeMismatch, Option.map_some, kind_strip]

/-- A view of a value shows of what is left what is left of the view. -/
theorem agree_narrow {α : Type} (s : Schema) {expected : String} {view : Json → Option α}
    {g : α → α} {input : Option Json} {next next' : α → Outcome Json}
    (hview : ∀ value, view (s.strip value) = (view value).map g)
    (hnext : ∀ a, Agree (· = ·) SameWords (next a) (next' (g a))) :
    Agree (· = ·) SameWords (narrow expected view input next)
      (narrow expected view (input.map s.strip) next') := by
  refine .narrow (R := fun a b => b = g a) ?_ (sameWords_typeMismatch s expected input) ?_
  · cases input with
    | none => exact .none
    | some value =>
      rw [Option.map_some, Option.bind_some, Option.bind_some, hview]
      cases view value with
      | none => exact .none
      | some a => exact .some rfl
  · rintro a _ rfl
    exact hnext a

/-- Entries of the same keys with the same values. -/
theorem eq_of_keyed {as bs : Entries Json}
    (h : List.Forall₂ (fun a b => a.1 = b.1 ∧ a.2 = b.2) as bs) : as = bs := by
  rw [← List.forall₂_eq_eq_eq]
  exact h.imp fun _ _ hab => Prod.ext hab.1 hab.2

/-- A schema does the same with a value and with what is left of it. -/
def Overlooks (order : KeyOrder) (s : Schema) : Prop :=
  ∀ input, Agree (· = ·) SameWords (s.check order input) (s.check order (input.map s.strip))

theorem overlooks_of_whole {s : Schema} (h : ∀ value, s.strip value = value) :
    Overlooks order s := by
  intro input
  rw [funext h, Option.map_id']
  exact agree_same _

theorem overlooks_array {item : Schema} (hitem : Overlooks order item) :
    Overlooks order (array item) := by
  intro input
  rw [check_array, check_array]
  refine agree_narrow (array item) (g := List.map fun value => item.strip value) ?_ fun values => ?_
  · intro value
    cases value <;> rfl
  · refine .map (.items (fun segment _ _ => .within segment) ?_ 0) fun _ _ h =>
      congrArg Json.arr (List.forall₂_eq_eq_eq ▸ h)
    exact List.forall₂_map_right_iff.2 (List.forall₂_same.2 fun value _ => hitem (some value))

theorem overlooks_tuple {items : List Schema} (hitems : ∀ s ∈ items, Overlooks order s) :
    Overlooks order (tuple items) := by
  intro input
  rw [check_tuple, check_tuple]
  refine agree_narrow (tuple items) (g := stripItems items) ?_ fun values => ?_
  · intro value
    cases value <;> rfl
  · rw [length_stripItems]
    split_ifs with hlen
    · rw [zip_stripItems]
      refine .map (.items (fun segment _ _ => .within segment) ?_ 0) fun _ _ h =>
        congrArg Json.arr (List.forall₂_eq_eq_eq ▸ h)
      refine List.forall₂_map_right_iff.2 (List.forall₂_same.2 fun p hp => ?_)
      exact hitems p.1 (List.of_mem_zip hp).1 (some p.2)
    · exact .of_fail ⟨rfl, rfl, rfl⟩

theorem overlooks_record {value : Schema} (hvalue : Overlooks order value) :
    Overlooks order (record value) := by
  intro input
  rw [check_record, check_record]
  refine agree_narrow (record value)
    (g := List.map fun entry => (entry.1, value.strip entry.2)) ?_ fun entries => ?_
  · intro value
    cases value <;> rfl
  · have hkeys : Entries.sortedKeys (entries.map fun entry => (entry.1, value.strip entry.2)) =
        Entries.sortedKeys entries :=
      Entries.sortedKeys_congr fun key => by simp [Entries.keys]
    rw [hkeys]
    refine .map (.keyed (fun segment _ _ => .within segment) ?_) fun _ _ h =>
      congrArg Json.obj (eq_of_keyed h)
    rw [List.forall₂_map_left_iff, List.forall₂_map_right_iff, List.forall₂_same]
    intro key _
    rw [lookup_map_snd]
    exact ⟨rfl, hvalue _⟩

theorem overlooks_object {fields : List (String × Schema)}
    (hfields : ∀ field ∈ fields, Overlooks order field.2) (hnodup : (Entries.keys fields).Nodup) :
    Overlooks order (object fields false) := by
  intro input
  rw [check_object, check_object]
  refine agree_narrow (object fields false)
    (g := stripEntries fields) ?_ fun entries => ?_
  · intro value
    cases value <;> rfl
  · have hrow : Agree (fun outputs outputs' => outputs = outputs' ∧
        Entries.keys outputs = Entries.keys fields) SameWords
        (Outcome.keyed (fieldOutcomes order fields entries))
        (Outcome.keyed (fieldOutcomes order fields (stripEntries fields entries))) := by
      refine .of_results (.keyed (fun segment _ _ => .within segment) ?_)
        fun outputs outputs' ho _ hsame => ⟨eq_of_keyed hsame, ?_⟩
      · rw [fieldOutcomes, fieldOutcomes, List.forall₂_map_left_iff, List.forall₂_map_right_iff,
          List.forall₂_same]
        intro field hfield
        rw [lookup_stripEntries hnodup hfield]
        exact ⟨rfl, hfields field hfield _⟩
      · exact (map_eq_of_forall₂ (fields_ok_iff.1 ho) fun _ _ h => h.1.symm).symm
    refine hrow.bind ?_
    rintro outputs _ ⟨rfl, hkeys⟩
    -- results have declared keys only, and those are in both objects or in none
    have hdrop : dropAbsent entries outputs = dropAbsent (stripEntries fields entries) outputs := by
      refine List.filter_congr fun o ho => ?_
      have hdeclared : o.1 ∈ Entries.keys fields := hkeys ▸ Entries.mem_keys_of_mem ho
      obtain ⟨field, hfield, hkey⟩ := List.mem_map.1 hdeclared
      show (!o.2.isNull || Entries.hasKey o.1 _) = (!o.2.isNull || Entries.hasKey o.1 _)
      rw [← hkey, Entries.hasKey_eq_isSome, Entries.hasKey_eq_isSome,
        lookup_stripEntries hnodup hfield, Option.isSome_map]
    rw [hdrop]
    exact agree_same _

theorem overlooks_of_lax {s : Schema} (hs : s.Everywhere Lax) : Overlooks order s := by
  induction s with
  | array item ih => exact overlooks_array (ih (hs.part rfl))
  | tuple items ih => exact overlooks_tuple fun s hmem => ih s hmem (hs.inside s hmem)
  | record value ih => exact overlooks_record (ih (hs.part rfl))
  | object fields deny ih =>
    obtain ⟨rfl, hnodup⟩ := hs.here
    exact overlooks_object (fun field hmem => ih field hmem (hs.field rfl field hmem)) hnodup
  | optional inner ih =>
    intro input
    cases input with
    | none => exact agree_same _
    | some value =>
      rw [Option.map_some, check, check, strip]
      exact ih (hs.part rfl) (some value)
  | nullable inner ih =>
    intro input
    by_cases hnull : input = some .null
    · rw [hnull, Option.map_some, strip_eq_null_iff.2 rfl]
      exact agree_same _
    · have hnull' : input.map (nullable inner).strip ≠ some .null := by
        intro h
        obtain ⟨value, rfl, hvalue⟩ := Option.map_eq_some_iff.1 h
        exact hnull (congrArg some (strip_eq_null_iff.1 hvalue))
      rw [check, check]
      · exact ih (hs.part rfl) input
      · exact hnull'
      · exact hnull
  | withDefault inner fallback ih =>
    intro input
    cases input with
    | none => exact agree_same _
    | some value =>
      rw [Option.map_some, check, check, strip]
      exact ih (hs.part rfl) (some value)
  | withMessage inner message code ih =>
    intro input
    rw [check, check]
    exact (ih (hs.part rfl) input).mapFailure fun _ _ h => h.reworded message code
  | map inner f ih =>
    intro input
    rw [check_map, check_map]
    refine (ih (hs.part rfl) input).bind ?_
    rintro output _ rfl
    cases f output with
    | none => exact .of_fail ⟨rfl, rfl, rfl⟩
    | some result => exact .of_ok rfl
  | tryMap inner f ih =>
    intro input
    rw [check, check]
    refine (ih (hs.part rfl) input).bind ?_
    rintro output _ rfl
    exact agree_same _
  | chain base steps ih =>
    intro input
    rw [check, check]
    refine (ih (hs.part rfl) input).map ?_
    rintro output _ rfl
    rfl
  | typedRecord _ _ | union _ _ | orElse _ _ _ _ => exact hs.here.elim
  | leaf _ | literal _ | enums _ | pattern _ | rule _ | jsonString _ _ =>
    exact overlooks_of_whole fun value => by cases value <;> rfl

/-! ## Strict schemas -/

theorem map_eq_self_iff {α : Type} {f : α → α} {as : List α} :
    as.map f = as ↔ ∀ a ∈ as, f a = a := by
  simpa using List.map_eq_map_iff (f := f) (g := id) (l := as)

/-- The strict schema accepts what loses nothing, as the lax one does. -/
def Exact (order : KeyOrder) (s : Schema) : Prop :=
  ∀ input, (∀ value ∈ input, value.WellKeyed) → ∀ output,
    (s.strict.check order input).result = .ok output ↔
      input.map s.strip = input ∧ (s.check order input).result = .ok output

theorem exact_of_whole {s : Schema} (hstrict : s.strict = s) (h : ∀ value, s.strip value = value) :
    Exact order s := by
  intro input _ output
  rw [hstrict, funext h, Option.map_id']
  exact (and_iff_right rfl).symm

/-- What accepting takes in addition, for whatever a schema sees in a value. -/
theorem exists_iff_and {α β : Type} {G : Prop} {I : α → Prop} {O : β → Prop} {P Q : α → β → Prop}
    (h : ∀ a b, I a → (P a b ↔ G ∧ Q a b)) :
    (∃ a b, I a ∧ O b ∧ P a b) ↔ G ∧ ∃ a b, I a ∧ O b ∧ Q a b := by
  constructor
  · rintro ⟨a, b, ha, hb, hP⟩
    obtain ⟨hG, hQ⟩ := (h a b ha).1 hP
    exact ⟨hG, a, b, ha, hb, hQ⟩
  · rintro ⟨hG, a, b, ha, hb, hQ⟩
    exact ⟨a, b, ha, hb, (h a b ha).2 ⟨hG, hQ⟩⟩

theorem exact_array {item : Schema} (hitem : Exact order item) : Exact order (array item) := by
  intro input hkeys output
  rw [strict, array_ok_iff, array_ok_iff]
  refine exists_iff_and fun values outputs hinput => ?_
  subst hinput
  have hinside := (hkeys _ rfl).item
  rw [forall₂_congr_left fun value hvalue output => hitem (some value)
    (by simpa using hinside value hvalue) output, List.forall₂_and_left]
  simp [strip, map_eq_self_iff]

theorem exact_tuple {items : List Schema} (hitems : ∀ s ∈ items, Exact order s) :
    Exact order (tuple items) := by
  intro input hkeys output
  rw [strict, strictItems_eq_map, tuple_ok_iff, tuple_ok_iff, List.length_map]
  refine exists_iff_and fun values outputs hinput => ?_
  subst hinput
  have hinside := (hkeys _ rfl).item
  refine (and_congr_right fun _ => ?_).trans and_left_comm
  rw [List.zip_map_left, List.forall₂_map_left_iff]
  refine (forall₂_congr_left fun p hp output => hitems p.1 (List.of_mem_zip hp).1 (some p.2)
    (by simpa using hinside p.2 (List.of_mem_zip hp).2) output).trans ?_
  rw [List.forall₂_and_left]
  simp [strip, stripItems_eq_self_iff]

/-- Nothing is lost iff nothing is lost from the value of any key. -/
theorem strip_record_eq_self_iff {value : Schema} {entries : Entries Json}
    (hkeys : entries.keys.Nodup) : (record value).strip (.obj entries) = .obj entries ↔
      ∀ key ∈ entries.sortedKeys, (entries.lookup key).map value.strip = entries.lookup key := by
  rw [strip, Json.obj.injEq]
  constructor
  · intro h key _
    rw [← lookup_map_snd, h]
  · intro h
    refine map_eq_self_iff.2 fun entry hentry => Prod.ext rfl ?_
    have hkey := h entry.1 (Entries.mem_sortedKeys.2 (Entries.mem_keys_of_mem hentry))
    rw [(Entries.lookup_eq_some_iff hkeys).2 hentry] at hkey
    exact Option.some.inj hkey

theorem exact_record {value : Schema} (hvalue : Exact order value) :
    Exact order (record value) := by
  intro input hkeys output
  rw [strict, record_ok_iff, record_ok_iff]
  refine exists_iff_and fun entries outputs hinput => ?_
  subst hinput
  have hwell := hkeys _ rfl
  rw [Option.map_some, Option.some.injEq, strip_record_eq_self_iff hwell.distinct,
    ← List.forall₂_and_left]
  refine forall₂_congr_left fun key _ o => ?_
  exact (and_congr_right fun _ => hvalue _ (hwell.lookup key) o.2).trans and_left_comm

/-- Nothing is lost iff all keys are declared and nothing is lost from their values. -/
theorem stripEntries_eq_self_iff {fields : List (String × Schema)}
    (hnodup : (Entries.keys fields).Nodup) {entries : Entries Json} (hkeys : entries.keys.Nodup) :
    stripEntries fields entries = entries ↔ (∀ key ∈ entries.keys, key ∈ Entries.keys fields) ∧
      ∀ field ∈ fields, (entries.lookup field.1).map field.2.strip = entries.lookup field.1 := by
  constructor
  · intro h
    refine ⟨fun key hkey => ?_, fun field hfield => ?_⟩
    · obtain ⟨value, hvalue⟩ := Entries.mem_keys_iff.1 hkey
      rw [← h] at hvalue
      obtain ⟨entry, -, hentry⟩ := List.mem_filterMap.1 (Entries.mem_of_lookup hvalue)
      obtain ⟨stripped, hstripped, heq⟩ := Option.map_eq_some_iff.1 hentry
      rw [stripField_eq_lookup] at hstripped
      obtain ⟨field, hfield, -⟩ := Option.map_eq_some_iff.1 hstripped
      cases heq
      exact Entries.mem_keys_iff.2 ⟨field, hfield⟩
    · rw [← lookup_stripEntries hnodup hfield, h]
  · rintro ⟨hdeclared, hvalues⟩
    have hid := List.filterMap_eq_map_iff_forall_eq_some (l := entries) (g := id)
      (f := fun entry => (stripField fields entry.1 entry.2).map (entry.1, ·))
    rw [List.map_id] at hid
    refine hid.2 fun entry hentry => ?_
    obtain ⟨field, hfield⟩ := Entries.mem_keys_iff.1
      (hdeclared entry.1 (Entries.mem_keys_of_mem hentry))
    have hvalue := hvalues _ (Entries.mem_of_lookup hfield)
    rw [(Entries.lookup_eq_some_iff hkeys).2 hentry, Option.map_some, Option.some.injEq] at hvalue
    rw [stripField_eq_lookup, hfield, Option.map_some, hvalue, Option.map_some]
    rfl

theorem exact_object {fields : List (String × Schema)}
    (hfields : ∀ field ∈ fields, Exact order field.2) (hnodup : (Entries.keys fields).Nodup) :
    Exact order (object fields false) := by
  intro input hkeys output
  have hall : ∀ entries outputs, input = some (.obj entries) → (List.Forall₂
      (fun (field : String × Schema) (o : String × Json) => o.1 = field.1 ∧
        (field.2.strict.check order (entries.lookup field.1)).result = .ok o.2) fields outputs ↔
      (∀ field ∈ fields, (entries.lookup field.1).map field.2.strip = entries.lookup field.1) ∧
        List.Forall₂ (fun (field : String × Schema) (o : String × Json) => o.1 = field.1 ∧
          (field.2.check order (entries.lookup field.1)).result = .ok o.2) fields outputs) := by
    rintro entries outputs rfl
    rw [← List.forall₂_and_left]
    refine forall₂_congr_left fun field hfield o => ?_
    refine (and_congr_right_iff.2 fun _ => ?_).trans and_left_comm
    exact hfields field hfield _ ((hkeys _ rfl).lookup field.1) o.2
  have hnames : Entries.keys (strictFields fields) = Entries.keys fields := by
    simp [strictFields_eq_map, Entries.keys]
  rw [strict, object_ok_iff, object_ok_iff, hnames]
  simp only [fields_ok_iff, strictFields_eq_map, List.forall₂_map_left_iff]
  constructor
  · rintro ⟨entries, outputs, rfl, h, hdeny, rfl⟩
    obtain ⟨hvalues, h⟩ := (hall entries outputs rfl).1 h
    have hdistinct := (hkeys _ rfl).distinct
    have hstrip := (stripEntries_eq_self_iff hnodup hdistinct).2 ⟨hdeny trivial, hvalues⟩
    have hlax : false = true → ∀ key ∈ Entries.keys entries, key ∈ Entries.keys fields :=
      fun hdeny => absurd hdeny Bool.false_ne_true
    exact ⟨congrArg (some ∘ Json.obj) hstrip, entries, outputs, rfl, h, hlax, rfl⟩
  · rintro ⟨hstrip, entries, outputs, rfl, h, -, rfl⟩
    have hdistinct := (hkeys _ rfl).distinct
    obtain ⟨hdeny, hvalues⟩ := (stripEntries_eq_self_iff hnodup hdistinct).1
      (Json.obj.inj (Option.some.inj hstrip))
    exact ⟨entries, outputs, rfl, (hall entries outputs rfl).2 ⟨hvalues, h⟩, fun _ => hdeny, rfl⟩

theorem exact_of_lax {s : Schema} (hs : s.Everywhere Lax) : Exact order s := by
  induction s with
  | leaf _ | literal _ | enums _ | pattern _ | rule _ | jsonString _ _ =>
    exact exact_of_whole rfl fun value => by cases value <;> rfl
  | array item ih => exact exact_array (ih (hs.part rfl))
  | tuple items ih => exact exact_tuple fun s hmem => ih s hmem (hs.inside s hmem)
  | record value ih => exact exact_record (ih (hs.part rfl))
  | object fields deny ih =>
    obtain ⟨rfl, hnodup⟩ := hs.here
    exact exact_object (fun field hmem => ih field hmem (hs.field rfl field hmem)) hnodup
  | optional inner ih =>
    intro input hkeys output
    cases input with
    | none => simp [strict, check]
    | some value =>
      simp only [strict, check]
      exact ih (hs.part rfl) _ hkeys output
  | nullable inner ih =>
    intro input hkeys output
    by_cases hnull : input = some .null
    · simp [hnull, strict, check, strip_eq_null_iff.2]
    · rw [strict, check, check]
      · exact ih (hs.part rfl) _ hkeys output
      · exact hnull
      · exact hnull
  | withDefault inner fallback ih =>
    intro input hkeys output
    cases input with
    | none => simp [strict, check]
    | some value =>
      simp only [strict, check]
      exact ih (hs.part rfl) _ hkeys output
  | withMessage inner message code ih =>
    intro input hkeys output
    rw [strict, check, check, mapFailure_ok_iff, mapFailure_ok_iff]
    exact ih (hs.part rfl) _ hkeys output
  | map inner f ih =>
    intro input hkeys output
    simp only [strict, check_map, bind_ok_iff, ih (hs.part rfl) _ hkeys, and_assoc,
      exists_and_left]
    exact Iff.rfl
  | tryMap inner f ih =>
    intro input hkeys output
    simp only [strict, check, bind_ok_iff, ih (hs.part rfl) _ hkeys, and_assoc, exists_and_left]
    exact Iff.rfl
  | chain base steps ih =>
    intro input hkeys output
    simp only [strict, check, map_ok_iff, ih (hs.part rfl) _ hkeys, and_assoc, exists_and_left]
    exact Iff.rfl
  | typedRecord _ _ | union _ _ | orElse _ _ _ _ => exact hs.here.elim

/-- **Undeclared data has no influence on lax schemas, and strict ones refuse it and nothing
    else.** -/
theorem check_strip {s : Schema} (hs : s.Everywhere Lax) (input : Option Json)
    (hkeys : ∀ value ∈ input, value.WellKeyed) :
    Agree (· = ·) SameWords (s.check order input) (s.check order (input.map s.strip)) ∧
      ∀ output, (s.strict.check order input).result = .ok output ↔
        input.map s.strip = input ∧ (s.check order input).result = .ok output :=
  ⟨overlooks_of_lax hs input, exact_of_lax hs input hkeys⟩

/-- Of an item of an array, a key is lost. -/
theorem check_strip_item :
    Agree (· = ·) SameWords
        ((array (object [("id", leaf .integer)] false)).check .sorted
          (some (.arr [.obj [("id", .str "7"), ("x", .null)]])))
        ((array (object [("id", leaf .integer)] false)).check .sorted
          (some (.arr [.obj [("id", .str "7")]]))) ∧
      ∀ output, ((array (object [("id", leaf .integer)] true)).check .sorted
          (some (.arr [.obj [("id", .str "7"), ("x", .null)]]))).result = .ok output ↔
        some (Json.arr [.obj [("id", .str "7")]]) =
            some (.arr [.obj [("id", .str "7"), ("x", .null)]]) ∧
          ((array (object [("id", leaf .integer)] false)).check .sorted
            (some (.arr [.obj [("id", .str "7"), ("x", .null)]]))).result = .ok output := by
  refine @check_strip .sorted (array (object [("id", leaf .integer)] false)) ?_
    (some (.arr [.obj [("id", .str "7"), ("x", .null)]])) ?_
  · simp [everywhere_iff, children, Lax, Entries.keys]
  · have hitem : (Json.obj [("id", .str "7"), ("x", .null)]).WellKeyed :=
      .obj (by decide) (by simpa using ⟨.str _, .null⟩)
    rintro _ ⟨rfl⟩
    exact .arr (by simpa using hitem)

end Schema

end Conform
