/-
  The order of keys and of fields does not decide whether a value is accepted. The
  fields decide which of several failures comes first, and the keys which undeclared
  one is refused.
-/
import Conform.Proofs.Agree
import Conform.Proofs.Leaf

namespace Conform

open Outcome

namespace Schema

/-! ## Schemas that differ in the order of fields -/

/-- Two schemas with different keys in each object that differ only in the order of the fields. -/
inductive Alike : Schema → Schema → Prop
  | leaf (l : Leaf) : Alike (leaf l) (leaf l)
  | literal (expected : Json) : Alike (literal expected) (literal expected)
  | enums (variants : List String) : Alike (enums variants) (enums variants)
  | pattern (p : Pattern) : Alike (pattern p) (pattern p)
  | rule (f : Option Json → Outcome Json) : Alike (rule f) (rule f)
  | jsonString {s s'} (inner : Alike s s') : Alike (jsonString s) (jsonString s')
  | array {s s'} (item : Alike s s') : Alike (array s) (array s')
  | tuple {items items' : List Schema} (length : items.length = items'.length)
      (inside : ∀ {s s'}, (s, s') ∈ items.zip items' → Alike s s') :
      Alike (tuple items) (tuple items')
  | record {s s'} (value : Alike s s') : Alike (record s) (record s')
  | object {fields fields' : List (String × Schema)} {deny : Bool}
      (distinct : (Entries.keys fields).Nodup)
      (perm : (Entries.keys fields).Perm (Entries.keys fields'))
      (inside : ∀ {key s s'}, (key, s) ∈ fields → (key, s') ∈ fields' → Alike s s') :
      Alike (object fields deny) (object fields' deny)
  | typedRecord {fields fields' : List (String × Schema)}
      (distinct : (Entries.keys fields).Nodup)
      (perm : (Entries.keys fields).Perm (Entries.keys fields'))
      (inside : ∀ {key s s'}, (key, s) ∈ fields → (key, s') ∈ fields' → Alike s s') :
      Alike (typedRecord fields) (typedRecord fields')
  | optional {s s'} (inner : Alike s s') : Alike (optional s) (optional s')
  | nullable {s s'} (inner : Alike s s') : Alike (nullable s) (nullable s')
  | withDefault {s s'} (inner : Alike s s') (fallback : Json) :
      Alike (withDefault s fallback) (withDefault s' fallback)
  | withMessage {s s'} (inner : Alike s s') (message : String) (code : Option String) :
      Alike (withMessage s message code) (withMessage s' message code)
  | map {s s'} (inner : Alike s s') (f : Json → Option Json) : Alike (map s f) (map s' f)
  | tryMap {s s'} (inner : Alike s s') (f : Json → Outcome Json) : Alike (tryMap s f) (tryMap s' f)
  | chain {s s'} (base : Alike s s') (steps : List (Json → Json)) :
      Alike (chain s steps) (chain s' steps)
  | union {alternatives alternatives' : List Schema}
      (length : alternatives.length = alternatives'.length)
      (inside : ∀ {s s'}, (s, s') ∈ alternatives.zip alternatives' → Alike s s') :
      Alike (union alternatives) (union alternatives')
  | orElse {left left' right right'} (first : Alike left left') (second : Alike right right') :
      Alike (orElse left right) (orElse left' right')

/-- Fields in another order make an object schema that is alike. -/
theorem alike_of_perm {fields fields' : List (String × Schema)} {deny : Bool}
    (hnodup : (Entries.keys fields).Nodup) (hp : fields.Perm fields')
    (h : ∀ field ∈ fields, Alike field.2 field.2) :
    Alike (object fields deny) (object fields' deny) := by
  refine .object hnodup (hp.map Prod.fst) fun {key s s'} hs hs' => ?_
  have hfound := (Entries.lookup_eq_some_iff hnodup).2 hs
  rw [← hp.mem_iff, ← Entries.lookup_eq_some_iff hnodup, hfound] at hs'
  cases hs'
  exact h _ hs

/-- The functions of a schema do not see the order of keys, nor do its constants have a key twice.
    Failures that functions raise are related by `F`. -/
def Respects (F : Failure → Failure → Prop) : Schema → Prop
  | leaf (.custom _ accept) => ∀ a b, a.Alike b → Option.Rel Json.Alike (accept a) (accept b)
  | rule f => ∀ input input', Option.Rel Json.Alike input input' →
      Agree Json.Alike F (f input) (f input')
  | withDefault _ fallback => fallback.WellKeyed
  | map _ f => ∀ a b, a.Alike b → Option.Rel Json.Alike (f a) (f b)
  | tryMap _ f => ∀ a b, a.Alike b → Agree Json.Alike F (f a) (f b)
  | chain _ steps => ∀ step ∈ steps, ∀ a b : Json, a.Alike b → (step a).Alike (step b)
  | _ => True

theorem Respects.imp {F F' : Failure → Failure → Prop} (hF : ∀ e e', F e e' → F' e e')
    {s : Schema} (h : s.Respects F) : s.Respects F' := by
  cases s with
  | leaf l => cases l <;> exact h
  | rule f => exact fun input input' hinput => (h input input' hinput).imp (fun _ _ hab => hab) hF
  | tryMap inner f => exact fun a b hab => (h a b hab).imp (fun _ _ hab => hab) hF
  | _ => exact h

/-- No object denies unknown keys. -/
def AllowsUnknown : Schema → Prop
  | object _ deny => deny = false
  | _ => True

/-- Failures are alike, if they are compared at all. -/
def Matching (exact : Prop) (e e' : Failure) : Prop := exact → Failure.Alike e e'

/-- Two schemas of which outcomes are compared. For failures to be the same, the schemas are. -/
structure Comparable (exact : Prop) (s s' : Schema) : Prop where
  respects : s.Everywhere (Respects (Matching exact))
  same : exact → s = s'
  allows : exact → s.Everywhere AllowsUnknown

namespace Comparable

variable {exact : Prop} {s s' t t' : Schema}

theorem member (h : Comparable exact s s') (ht : (t, t') ∈ s.children.zip s'.children) :
    Comparable exact t t' where
  respects := h.respects.inside t (List.of_mem_zip ht).1
  allows := fun hexact => (h.allows hexact).inside t (List.of_mem_zip ht).1
  same := by
    intro hexact
    rw [← h.same hexact] at ht
    have hself : List.Forall₂ (· = ·) s.children s.children := List.forall₂_same.2 fun _ _ => rfl
    exact (List.forall₂_iff_zip.1 hself).2 ht

theorem part (h : Comparable exact s s') (ht : s.children = [t]) (ht' : s'.children = [t']) :
    Comparable exact t t' :=
  h.member (by simp [ht, ht'])

theorem field {fields fields' : List (String × Schema)} (h : Comparable exact s s')
    (hs : s.children = fields.map Prod.snd) (hsame : exact → fields = fields')
    (hnodup : (Entries.keys fields).Nodup) {key : String} (ht : (key, t) ∈ fields)
    (ht' : (key, t') ∈ fields') : Comparable exact t t' where
  respects := h.respects.field hs _ ht
  allows := fun hexact => (h.allows hexact).field hs _ ht
  same := by
    intro hexact
    rw [← hsame hexact, ← Entries.lookup_eq_some_iff hnodup] at ht'
    rw [← Entries.lookup_eq_some_iff hnodup, ht'] at ht
    exact (Option.some.inj ht).symm

end Comparable

/-! ## Parts -/

variable {order : KeyOrder} {exact : Prop} {input input' : Option Json}

theorem Matching.within (segment : Segment) {e e' : Failure} (h : Matching exact e e') :
    Matching exact (e.within segment) (e'.within segment) :=
  fun hexact => (h hexact).within segment

theorem agree_narrow_alike {α β : Type} {R : α → β → Prop} {expected : String}
    {view : Json → Option α} {view' : Json → Option β} {next : α → Outcome Json}
    {next' : β → Outcome Json} (hinput : Option.Rel Json.Alike input input')
    (hview : ∀ {a b}, a.Alike b → Option.Rel R (view a) (view' b))
    (hnext : ∀ a b, R a b → Agree Json.Alike (Matching exact) (next a) (next' b)) :
    Agree Json.Alike (Matching exact) (narrow expected view input next)
      (narrow expected view' input' next') := by
  refine .narrow (R := R) ?_ (fun _ => .typeMismatch expected hinput) hnext
  cases hinput with
  | some hab => exact hview hab
  | none => exact .none

/-- Fields in another order have the same results on entries in another order. -/
theorem alike_of_fields {fields fields' : List (String × Schema)} {entries entries' : Entries Json}
    (hnodup : (Entries.keys fields).Nodup)
    (hperm : (Entries.keys fields).Perm (Entries.keys fields'))
    (h : ∀ key s s', (key, s) ∈ fields → (key, s') ∈ fields' → Agree Json.Alike (Matching exact)
      (s.check order (entries.lookup key)) (s'.check order (entries'.lookup key)))
    {outputs outputs' : Entries Json}
    (ho : (Outcome.keyed (fieldOutcomes order fields entries)).result = .ok outputs)
    (ho' : (Outcome.keyed (fieldOutcomes order fields' entries')).result = .ok outputs') :
    Json.Alike (.obj outputs) (.obj outputs') := by
  rw [fields_ok_iff] at ho ho'
  have hkeys : Entries.keys outputs = Entries.keys fields :=
    (map_eq_of_forall₂ ho fun _ _ h => h.1.symm).symm
  have hkeys' : Entries.keys outputs' = Entries.keys fields' :=
    (map_eq_of_forall₂ ho' fun _ _ h => h.1.symm).symm
  refine .obj (hkeys ▸ hnodup) (by rw [hkeys, hkeys']; exact hperm) fun {key a b} ha hb => ?_
  obtain ⟨⟨k, s⟩, hs, hk, hcheck⟩ := forall₂_mem_right ho _ ha
  obtain ⟨⟨k', s'⟩, hs', hk', hcheck'⟩ := forall₂_mem_right ho' _ hb
  cases hk
  cases hk'
  obtain ⟨b', hb', hab⟩ := (h key s s' hs hs').exists_right hcheck
  rw [hcheck'] at hb'
  cases hb'
  exact hab

/-- **Fields in another order** succeed on entries in another order with the same results. The first
    failure is the same if the order of the fields is. -/
theorem agree_fields {fields fields' : List (String × Schema)} {entries entries' : Entries Json}
    (hnodup : (Entries.keys fields).Nodup)
    (hperm : (Entries.keys fields).Perm (Entries.keys fields'))
    (hsame : exact → Entries.keys fields = Entries.keys fields')
    (h : ∀ key s s', (key, s) ∈ fields → (key, s') ∈ fields' → Agree Json.Alike (Matching exact)
      (s.check order (entries.lookup key)) (s'.check order (entries'.lookup key))) :
    Agree (fun outputs outputs' => Json.Alike (.obj outputs) (.obj outputs')) (Matching exact)
      (Outcome.keyed (fieldOutcomes order fields entries))
      (Outcome.keyed (fieldOutcomes order fields' entries')) := by
  by_cases hexact : exact
  · -- the same keys in the same order: one field after the other
    have hfields : List.Forall₂ (fun field field' => field.1 = field'.1) fields fields' := by
      have hkeys := hsame hexact
      rw [← List.forall₂_eq_eq_eq] at hkeys
      exact List.forall₂_map_left_iff.1 (List.forall₂_map_right_iff.1 hkeys)
    refine .of_results (.keyed (V := Json.Alike) (fun segment _ _ => .within segment) ?_)
      fun _ _ ho ho' _ => alike_of_fields hnodup hperm h ho ho'
    rw [fieldOutcomes, fieldOutcomes, List.forall₂_map_left_iff, List.forall₂_map_right_iff]
    refine List.forall₂_iff_zip.2 ⟨hfields.length_eq, fun {field field'} hmem => ?_⟩
    obtain ⟨hfield, hfield'⟩ := List.of_mem_zip hmem
    obtain ⟨key, s⟩ := field
    obtain ⟨key', s'⟩ := field'
    obtain rfl : key = key' := (List.forall₂_iff_zip.1 hfields).2 hmem
    exact ⟨rfl, h key s s' hfield hfield'⟩
  · -- all fields succeed or some field fails, whatever the order
    refine .of_verdict ?_ (fun _ _ => alike_of_fields hnodup hperm h)
      fun _ _ hexact' => (hexact hexact').elim
    rw [exists_fields_ok_iff, exists_fields_ok_iff]
    constructor
    · rintro hok ⟨key, s'⟩ hs'
      obtain ⟨⟨_, s⟩, hs, rfl⟩ := List.mem_map.1 (hperm.mem_iff.2 (Entries.mem_keys_of_mem hs'))
      obtain ⟨output, ho⟩ := hok _ hs
      exact ((h _ s s' hs hs').exists_right ho).imp fun _ ho' => ho'.1
    · rintro hok ⟨key, s⟩ hs
      obtain ⟨⟨_, s'⟩, hs', rfl⟩ := List.mem_map.1 (hperm.mem_iff.1 (Entries.mem_keys_of_mem hs))
      obtain ⟨output, ho⟩ := hok _ hs'
      exact ((h _ s s' hs hs').exists_left ho).imp fun _ ho' => ho'.1

/-- The outcomes of two schemas on values that differ in the order of keys. -/
def Agrees (order : KeyOrder) (exact : Prop) (s s' : Schema) : Prop :=
  ∀ input input', Option.Rel Json.Alike input input' →
    Agree Json.Alike (Matching exact) (s.check order input) (s'.check order input')

theorem agrees_array {s s' : Schema} (h : Agrees order exact s s') :
    Agrees order exact (array s) (array s') := by
  intro input input' hinput
  rw [check_array, check_array]
  refine agree_narrow_alike hinput Json.Alike.asItems? fun values values' hvalues => ?_
  refine .map (.items (fun segment _ _ => .within segment) ?_ 0) fun _ _ => Json.alike_arr_iff.2
  exact hvalues.imp fun _ _ hab => h _ _ (.some hab)

theorem agrees_tuple {items items' : List Schema}
    (h : List.Forall₂ (Agrees order exact) items items') :
    Agrees order exact (tuple items) (tuple items') := by
  intro input input' hinput
  rw [check_tuple, check_tuple]
  refine agree_narrow_alike hinput Json.Alike.asItems? fun values values' hvalues => ?_
  rw [← h.length_eq, ← hvalues.length_eq]
  split_ifs
  · refine .map (.items (fun segment _ _ => .within segment) ?_ 0) fun _ _ =>
      Json.alike_arr_iff.2
    exact (forall₂_zip h hvalues).imp fun _ _ hpq => hpq.1 _ _ (.some hpq.2)
  · exact .of_fail fun _ => .intro hinput .nil

theorem agrees_record {s s' : Schema} (h : Agrees order exact s s') :
    Agrees order exact (record s) (record s') := by
  intro input input' hinput
  rw [check_record, check_record]
  refine agree_narrow_alike hinput Json.Alike.asEntries? fun entries entries' hentries => ?_
  have hsorted : Entries.sortedKeys entries = Entries.sortedKeys entries' := by
    refine Entries.sortedKeys_congr fun key => ?_
    rw [← Entries.hasKey_iff, ← Entries.hasKey_iff, hentries.hasKey]
  -- the sorted keys stand for fields that all have one schema
  have hfields : ∀ (s : Schema) (entries : Entries Json) (keys : List String),
      keys.map (fun key => (key, s.check order (entries.lookup key))) =
        fieldOutcomes order (keys.map (·, s)) entries := by
    intro s entries keys
    simp [fieldOutcomes]
  have hkeys : ∀ (s : Schema) (keys : List String), Entries.keys (keys.map (·, s)) = keys := by
    intro s keys
    simp [Entries.keys, Function.comp_def]
  rw [← hsorted, hfields, hfields]
  refine .map (agree_fields ?_ ?_ ?_ ?_) fun _ _ hab => hab
  · rw [hkeys]
    exact Entries.nodup_sortedKeys
  · rw [hkeys, hkeys]
  · rw [hkeys, hkeys]
    exact fun _ => rfl
  · intro key t t' ht ht'
    obtain ⟨_, -, ht⟩ := List.mem_map.1 ht
    obtain ⟨_, -, ht'⟩ := List.mem_map.1 ht'
    cases ht
    cases ht'
    exact h _ _ ((Json.alike_obj_iff.1 hentries).2.2 key)

/-- Results in another order are alike, and so is what is left of them. -/
theorem alike_ofList {outputs outputs' : Entries Json} (order : KeyOrder)
    (h : Json.Alike (.obj outputs) (.obj outputs')) :
    Json.Alike (.obj (order.ofList outputs)) (.obj (order.ofList outputs')) := by
  obtain ⟨hnodup, hnodup', hlookup⟩ := Json.alike_obj_iff.1 h
  refine Json.alike_obj_iff.2 ⟨Entries.nodup_keys_ofList order _, Entries.nodup_keys_ofList order _,
    fun key => ?_⟩
  rw [KeyOrder.lookup_ofList order hnodup, KeyOrder.lookup_ofList order hnodup']
  exact hlookup key

theorem alike_dropAbsent {entries entries' outputs outputs' : Entries Json}
    (hentries : Json.Alike (.obj entries) (.obj entries'))
    (h : Json.Alike (.obj outputs) (.obj outputs')) :
    Json.Alike (.obj (dropAbsent entries outputs)) (.obj (dropAbsent entries' outputs')) := by
  obtain ⟨hnodup, hnodup', hlookup⟩ := Json.alike_obj_iff.1 h
  refine Json.alike_obj_iff.2 ⟨nodup_keys_dropAbsent _ hnodup, nodup_keys_dropAbsent _ hnodup',
    fun key => ?_⟩
  rw [lookup_dropAbsent _ hnodup, lookup_dropAbsent _ hnodup']
  have hkey := hlookup key
  generalize List.lookup key outputs = a at hkey
  generalize List.lookup key outputs' = b at hkey
  cases hkey with
  | none => exact .none
  | some hab =>
    rw [Option.filter_some, Option.filter_some, hab.isNull, hentries.hasKey]
    split_ifs
    · exact .some hab
    · exact .none

theorem agrees_object {fields fields' : List (String × Schema)} {deny : Bool}
    (hnodup : (Entries.keys fields).Nodup)
    (hperm : (Entries.keys fields).Perm (Entries.keys fields'))
    (hsame : exact → Entries.keys fields = Entries.keys fields') (hdeny : exact → deny = false)
    (h : ∀ key s s', (key, s) ∈ fields → (key, s') ∈ fields' → Agrees order exact s s') :
    Agrees order exact (object fields deny) (object fields' deny) := by
  intro input input' hinput
  rw [check_object, check_object]
  refine agree_narrow_alike hinput Json.Alike.asEntries? fun entries entries' hentries => ?_
  have hunknown : Agree (fun _ _ => True) (Matching exact)
      (if deny then refuseUndeclared (Entries.keys fields) entries else .ok ())
      (if deny then refuseUndeclared (Entries.keys fields') entries' else .ok ()) := by
    cases deny with
    | false => exact .of_ok trivial
    | true =>
      have hkeys : (∀ key ∈ Entries.keys entries, key ∈ Entries.keys fields) ↔
          ∀ key ∈ Entries.keys entries', key ∈ Entries.keys fields' := by
        refine forall_congr' fun key => imp_congr ?_ hperm.mem_iff
        rw [← Entries.hasKey_iff, ← Entries.hasKey_iff, hentries.hasKey]
      refine .of_verdict ?_ (fun _ _ _ _ => trivial) fun _ _ hexact => nomatch hdeny hexact
      simp only [if_true, refuseUndeclared_ok_iff, hkeys]
  have hrow := agree_fields hnodup hperm hsame fun key s s' hs hs' =>
    h key s s' hs hs' _ _ ((Json.alike_obj_iff.1 hentries).2.2 key)
  refine hrow.bind fun outputs outputs' houtputs => hunknown.map fun _ _ _ => ?_
  exact alike_ofList order (alike_dropAbsent hentries houtputs)

theorem agrees_typedRecord {fields fields' : List (String × Schema)}
    (hnodup : (Entries.keys fields).Nodup)
    (hperm : (Entries.keys fields).Perm (Entries.keys fields'))
    (hsame : exact → Entries.keys fields = Entries.keys fields')
    (h : ∀ key s s', (key, s) ∈ fields → (key, s') ∈ fields' → Agrees order exact s s') :
    Agrees order exact (typedRecord fields) (typedRecord fields') := by
  intro input input' hinput
  rw [check_typedRecord, check_typedRecord]
  refine agree_narrow_alike hinput Json.Alike.asEntries? fun entries entries' hentries => ?_
  have hrow := agree_fields hnodup hperm hsame fun key s s' hs hs' =>
    h key s s' hs hs' _ _ ((Json.alike_obj_iff.1 hentries).2.2 key)
  exact hrow.map fun _ _ => alike_ofList order

theorem agrees_union {alternatives alternatives' : List Schema}
    (h : List.Forall₂ (Agrees order exact) alternatives alternatives') :
    Agrees order exact (union alternatives) (union alternatives') := by
  intro input input' hinput
  rw [check_union, check_union]
  refine Attempts.agree_settle ?_ fun es es' hes hexact => ?_
  · rw [List.forall₂_map_left_iff, List.forall₂_map_right_iff]
    exact h.imp fun _ _ hs => hs _ _ hinput
  · exact .intro hinput (hes.imp fun _ _ hee => hee hexact)

/-! ## All schemas -/

theorem alike_foldl {steps : List (Json → Json)}
    (h : ∀ step ∈ steps, ∀ a b : Json, a.Alike b → (step a).Alike (step b)) {a b : Json}
    (hab : a.Alike b) : Json.Alike (steps.foldl (fun value step => step value) a)
      (steps.foldl (fun value step => step value) b) := by
  induction steps generalizing a b with
  | nil => exact hab
  | cons step rest ih =>
    obtain ⟨hstep, hrest⟩ := List.forall_mem_cons.1 h
    exact ih hrest (hstep a b hab)

theorem agrees_of_alike {s s' : Schema} (hs : s.Alike s') (hc : Comparable exact s s') :
    Agrees order exact s s' := by
  induction hs with
  | leaf l =>
    intro input input' hinput
    rw [check, check, l.check_eq_narrow, l.check_eq_narrow]
    refine agree_narrow_alike hinput (fun {a b} hab => ?_) fun _ _ => .of_ok
    rcases l.ofLibrary_or_custom with hl | ⟨expected, accept, rfl⟩
    · exact Leaf.accept_alike hl hab
    · exact hc.respects.here a b hab
  | literal expected =>
    intro input input' hinput
    rw [check, check]
    cases hinput with
    | none => exact .of_fail fun _ => .intro .none .nil
    | some hab =>
      rw [checkLiteral, checkLiteral, hab.same]
      split_ifs
      · exact .of_ok hab
      · exact .of_fail fun _ => .intro (.some hab) .nil
  | enums variants =>
    intro input input' hinput
    rw [check, check, checkEnums, checkEnums, withString_eq_narrow, withString_eq_narrow]
    refine agree_narrow_alike hinput Json.Alike.asString? ?_
    rintro text _ rfl
    split_ifs
    · exact .of_ok (.str text)
    · exact .of_fail fun _ => .intro hinput .nil
  | pattern p =>
    intro input input' hinput
    rw [check, check, checkPattern, checkPattern, withString_eq_narrow, withString_eq_narrow]
    refine agree_narrow_alike hinput Json.Alike.asString? ?_
    rintro text _ rfl
    split_ifs
    · exact .of_ok (.str text)
    · exact .of_fail fun _ => .intro hinput .nil
  | rule f => exact hc.respects.here
  | jsonString _ ih =>
    intro input input' hinput
    rw [check, check, withString_eq_narrow, withString_eq_narrow]
    refine agree_narrow_alike hinput Json.Alike.asString? ?_
    rintro text _ rfl
    -- the text is the same, and what is read from it is like itself
    cases hread : Json.read order text with
    | ok value =>
      have hself := Json.alike_self (Json.read_wellKeyed hread)
      exact ih (hc.part rfl rfl) _ _ (.some hself)
    | error fault => exact .of_fail fun _ => .intro hinput .nil
  | array _ ih => exact agrees_array (ih (hc.part rfl rfl))
  | tuple length _ ih =>
    exact agrees_tuple (List.forall₂_iff_zip.2 ⟨length, fun hmem => ih hmem (hc.member hmem)⟩)
  | record _ ih => exact agrees_record (ih (hc.part rfl rfl))
  | object distinct perm inside ih =>
    have hsame := fun hexact => (Schema.object.inj (hc.same hexact)).1
    refine agrees_object distinct perm (fun hexact => congrArg Entries.keys (hsame hexact))
      (fun hexact => (hc.allows hexact).here) fun key t t' ht ht' => ?_
    exact ih ht ht' (hc.field rfl hsame distinct ht ht')
  | typedRecord distinct perm inside ih =>
    have hsame := fun hexact => Schema.typedRecord.inj (hc.same hexact)
    refine agrees_typedRecord distinct perm (fun hexact => congrArg Entries.keys (hsame hexact))
      fun key t t' ht ht' => ?_
    exact ih ht ht' (hc.field rfl hsame distinct ht ht')
  | optional _ ih =>
    intro input input' hinput
    have hinner := ih (hc.part rfl rfl) _ _ hinput
    cases hinput with
    | none => exact .of_ok .null
    | some hab => simpa only [check] using hinner
  | nullable _ ih =>
    intro input input' hinput
    have hinner := ih (hc.part rfl rfl) _ _ hinput
    cases hinput with
    | none => simpa only [check] using hinner
    | some hab =>
      cases hab with
      | null =>
        rw [check, check]
        exact .of_ok .null
      | _ => simpa only [check] using hinner
  | withDefault _ fallback ih =>
    intro input input' hinput
    have hinner := ih (hc.part rfl rfl) _ _ hinput
    cases hinput with
    | none => exact .of_ok (Json.alike_self hc.respects.here)
    | some hab => simpa only [check] using hinner
  | withMessage _ message code ih =>
    intro input input' hinput
    rw [check, check]
    exact (ih (hc.part rfl rfl) _ _ hinput).mapFailure
      fun _ _ hee hexact => (hee hexact).reworded message code
  | map _ f ih =>
    intro input input' hinput
    rw [check_map, check_map]
    refine (ih (hc.part rfl rfl) _ _ hinput).bind fun a b hab => ?_
    have hf := hc.respects.here a b hab
    generalize f a = x at hf
    generalize f b = y at hf
    cases hf with
    | none => exact .of_fail fun _ => .intro hinput .nil
    | some hxy => exact .of_ok hxy
  | tryMap _ f ih =>
    intro input input' hinput
    rw [check, check]
    exact (ih (hc.part rfl rfl) _ _ hinput).bind fun a b hab => hc.respects.here a b hab
  | chain _ steps ih =>
    intro input input' hinput
    rw [check, check]
    exact (ih (hc.part rfl rfl) _ _ hinput).map fun _ _ hab => alike_foldl hc.respects.here hab
  | union length _ ih =>
    exact agrees_union (List.forall₂_iff_zip.2 ⟨length, fun hmem => ih hmem (hc.member hmem)⟩)
  | orElse _ _ ihl ihr =>
    intro input input' hinput
    rw [check_orElse, check_orElse]
    have hleft := ihl (hc.member (by simp [children]))
    have hright := ihr (hc.member (by simp [children]))
    exact agrees_union (.cons hleft (.cons hright .nil)) _ _ hinput

/-- **The order of keys and of fields never decides the verdict.** -/
theorem check_alike {s s' : Schema} (hs : s.Alike s') (hr : s.Everywhere (Respects fun _ _ => True))
    (hinput : Option.Rel Json.Alike input input') :
    Agree Json.Alike (fun _ _ => True) (s.check order input) (s'.check order input') ∧
      (s = s' → s.Everywhere AllowsUnknown → s.Everywhere (Respects Failure.Alike) →
        Agree Json.Alike Failure.Alike (s.check order input) (s'.check order input')) := by
  -- one induction serves both, with failures left alone or compared
  constructor
  · have hc : Comparable False s s' :=
      ⟨hr.imp fun _ => Respects.imp fun _ _ _ => False.elim, False.elim, False.elim⟩
    exact (agrees_of_alike hs hc _ _ hinput).imp (fun _ _ hab => hab) fun _ _ _ => trivial
  · intro hsame hallows hr'
    have hc : Comparable True s s' :=
      ⟨hr'.imp fun _ => Respects.imp fun _ _ hee _ => hee, fun _ => hsame, fun _ => hallows⟩
    exact (agrees_of_alike hs hc _ _ hinput).imp (fun _ _ hab => hab) fun _ _ hee => hee trivial

/-- Fields in another order on entries in another order, and a failure by sorted keys. -/
theorem check_alike_entries :
    Agree Json.Alike (fun _ _ => True)
        ((object [("x", leaf .boolean), ("y", leaf .string)] true).check .insertion
          (some (.obj [("x", .bool true), ("y", .str "a")])))
        ((object [("y", leaf .string), ("x", leaf .boolean)] true).check .insertion
          (some (.obj [("y", .str "a"), ("x", .bool true)]))) ∧
      Agree Json.Alike Failure.Alike
        ((record (leaf .boolean)).check .insertion
          (some (.obj [("x", .bool true), ("y", .str "a")])))
        ((record (leaf .boolean)).check .insertion
          (some (.obj [("y", .str "a"), ("x", .bool true)]))) := by
  have hvalue : Json.Alike (.obj [("x", .bool true), ("y", .str "a")])
      (.obj [("y", .str "a"), ("x", .bool true)]) :=
    Json.alike_of_perm (.obj (by decide) (by simpa using ⟨.bool true, .str "a"⟩)) (.swap _ _ _)
  constructor
  · have hschema : Alike (object [("x", leaf .boolean), ("y", leaf .string)] true)
        (object [("y", leaf .string), ("x", leaf .boolean)] true) :=
      alike_of_perm (by decide) (.swap _ _ _) (by simpa using ⟨.leaf .boolean, .leaf .string⟩)
    exact (check_alike hschema (by simp [everywhere_iff, children, Respects]) (.some hvalue)).1
  · exact (check_alike (.record (.leaf .boolean)) (by simp [everywhere_iff, children, Respects])
      (.some hvalue)).2 rfl (by simp [everywhere_iff, children, AllowsUnknown])
        (by simp [everywhere_iff, children, Respects])

end Schema

end Conform
