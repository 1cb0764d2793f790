/-
  What an object schema results in. Fields count in the order of their declaration,
  undeclared keys after all fields, and a member that was absent and came out `null`
  is left out.
-/
import Conform.Proofs.Check
import Conform.Schema.Shape
import Mathlib.Data.List.Perm.Basic

namespace Conform

open Outcome

theorem Json.isNull_iff {value : Json} : value.isNull = true ↔ value = .null := by
  cases value <;> simp [isNull]

/-! ## Keys in order -/

/-- The keys of a result stand in sorted order, or in the order of their declaration. -/
def KeyOrder.Arranges (order : KeyOrder) (declared keys : List String) : Prop :=
  match order with
  | .sorted => keys.Pairwise (· < ·)
  | .insertion => keys.Sublist declared

namespace KeyOrder.Arranges

variable {order : KeyOrder} {declared keys keys' : List String}

theorem nodup (h : order.Arranges declared keys) (hdeclared : declared.Nodup) : keys.Nodup := by
  cases order with
  | sorted => exact List.Pairwise.nodup h
  | insertion => exact hdeclared.sublist h

theorem eq_of_perm (h : order.Arranges declared keys) (h' : order.Arranges declared keys')
    (hdeclared : declared.Nodup) (hp : keys.Perm keys') : keys = keys' := by
  cases order with
  | sorted => exact Entries.eq_of_perm_of_ascending h h' hp
  | insertion => exact (List.Nodup.perm_iff_eq_of_sublist hdeclared h h').1 hp

end KeyOrder.Arranges

namespace Schema

/-! ## The rules -/

/-- What a field makes of the value of its key in an object; the value is absent where the object
    does not have the key. -/
def fieldResult (order : KeyOrder) (entries : Entries Json) (field : String × Schema) :
    Except Failure Json :=
  (field.2.check order (entries.lookup field.1)).result

/-- A member of the result: what came out of the field of its key, unless the key is absent and it
    is `null`. -/
def Contributes (order : KeyOrder) (fields : List (String × Schema)) (entries : Entries Json)
    (key : String) (output : Json) : Prop :=
  ∃ field, (key, field) ∈ fields ∧ fieldResult order entries (key, field) = .ok output ∧
    (key ∈ entries.keys ∨ output ≠ .null)

/-- The rules of objects, one for each way in which the check of an object ends. -/
inductive ObjectRule (order : KeyOrder) (fields : List (String × Schema)) (deny : Bool)
    (entries : Entries Json) : Except Failure Json → Prop
  /-- a field is refused, and all fields before it are accepted: only the path of its failure
      changes -/
  | refused {before after : List (String × Schema)} {field : String × Schema} {e : Failure}
      (split : fields = before ++ field :: after)
      (earlier : ∀ f ∈ before, ∃ output, fieldResult order entries f = .ok output)
      (failure : fieldResult order entries field = .error e) :
      ObjectRule order fields deny entries (.error { e with path := .key field.1 :: e.path })
  /-- all fields are accepted, and the first undeclared key is refused -/
  | undeclared {before after : Entries Json} {key : String} {value : Json}
      (accepted : ∀ f ∈ fields, ∃ output, fieldResult order entries f = .ok output)
      (strict : deny = true) (split : entries = before ++ (key, value) :: after)
      (earlier : ∀ k ∈ Entries.keys before, k ∈ Entries.keys fields)
      (unknown : key ∉ Entries.keys fields) (found : entries.lookup key = some value) :
      ObjectRule order fields deny entries
        (.error { code := "unknown_key", message := "unexpected key `" ++ key ++ "`",
                  input := some value, path := [.key key], causes := [] })
  /-- all fields are accepted: the result has the keys that are present or did not come out
      `null` -/
  | accepted {members : Entries Json}
      (accepted : ∀ f ∈ fields, ∃ output, fieldResult order entries f = .ok output)
      (known : deny = true → ∀ key ∈ entries.keys, key ∈ Entries.keys fields)
      (holds : ∀ key output, (key, output) ∈ members ↔
        Contributes order fields entries key output)
      (arranged : order.Arranges (Entries.keys fields) members.keys) :
      ObjectRule order fields deny entries (.ok (.obj members))

variable {order : KeyOrder} {fields : List (String × Schema)} {deny : Bool}
  {entries outputs : Entries Json}

/-! ## Members -/

/-- The members of a result: what came out of the fields, unless it was absent and `null`. -/
theorem mem_dropAbsent_iff
    (h : (Outcome.keyed (fieldOutcomes order fields entries)).result = .ok outputs)
    {key : String} {output : Json} :
    (key, output) ∈ dropAbsent entries outputs ↔ Contributes order fields entries key output := by
  have hrow := fields_ok_iff.1 h
  have hmem : (key, output) ∈ outputs ↔
      ∃ field, (key, field) ∈ fields ∧ fieldResult order entries (key, field) = .ok output := by
    constructor
    · intro ho
      obtain ⟨⟨_, field⟩, hfield, rfl, hcheck⟩ := forall₂_mem_right hrow _ ho
      exact ⟨field, hfield, hcheck⟩
    · rintro ⟨field, hfield, hcheck⟩
      obtain ⟨⟨_, o⟩, ho, rfl, ho'⟩ := forall₂_mem_left hrow _ hfield
      rw [fieldResult, ho'] at hcheck
      cases hcheck
      exact ho
  have hkept : (!output.isNull || Entries.hasKey key entries) = true ↔
      key ∈ entries.keys ∨ output ≠ .null := by
    rw [Bool.or_eq_true, Bool.not_eq_true', ← Bool.not_eq_true, Json.isNull_iff,
      Entries.hasKey_iff, or_comm]
  rw [dropAbsent, List.mem_filter, hmem, hkept]
  constructor
  · rintro ⟨⟨field, hfield, hcheck⟩, hkey⟩
    exact ⟨field, hfield, hcheck, hkey⟩
  · rintro ⟨field, hfield, hcheck, hkey⟩
    exact ⟨⟨field, hfield, hcheck⟩, hkey⟩

theorem arranges_dropAbsent (hnodup : (Entries.keys fields).Nodup)
    (h : (Outcome.keyed (fieldOutcomes order fields entries)).result = .ok outputs) :
    order.Arranges (Entries.keys fields)
      (Entries.keys (order.ofList (dropAbsent entries outputs))) := by
  have hkeys : Entries.keys outputs = Entries.keys fields := keys_of_fields h
  have hsub : (Entries.keys (dropAbsent entries outputs)).Sublist (Entries.keys fields) :=
    hkeys ▸ List.filter_sublist.map Prod.fst
  cases order with
  | sorted => exact Entries.sortedKeys_pairwise
  | insertion =>
    have hkeeps : KeyOrder.insertion.Keeps (dropAbsent entries outputs) := hnodup.sublist hsub
    rwa [KeyOrder.ofList_eq_self hkeeps]

theorem mem_result_iff (hnodup : (Entries.keys fields).Nodup)
    (h : (Outcome.keyed (fieldOutcomes order fields entries)).result = .ok outputs)
    {key : String} {output : Json} :
    (key, output) ∈ order.ofList (dropAbsent entries outputs) ↔
      Contributes order fields entries key output := by
  have hnodup' := nodup_keys_dropAbsent entries (keys_of_fields h ▸ hnodup)
  rw [(KeyOrder.ofList_perm order hnodup').mem_iff, mem_dropAbsent_iff h]

/-- The result is the only one with its members that stands in order. -/
theorem eq_result {members : Entries Json} (hnodup : (Entries.keys fields).Nodup)
    (h : (Outcome.keyed (fieldOutcomes order fields entries)).result = .ok outputs)
    (holds : ∀ key output, (key, output) ∈ members ↔ Contributes order fields entries key output)
    (arranged : order.Arranges (Entries.keys fields) members.keys) :
    members = order.ofList (dropAbsent entries outputs) := by
  have hresult := arranges_dropAbsent hnodup h
  have hp : members.Perm (order.ofList (dropAbsent entries outputs)) := by
    refine (List.perm_ext_iff_of_nodup (arranged.nodup hnodup).of_map
      (hresult.nodup hnodup).of_map).2 fun member => ?_
    rw [mem_result_iff hnodup h, holds]
  have hkeys := arranged.eq_of_perm hresult hnodup (hp.map Prod.fst)
  exact Entries.eq_of_perm_of_keys (arranged.nodup hnodup) hp hkeys

/-! ## Results -/

theorem check_object_of_fields
    (h : (Outcome.keyed (fieldOutcomes order fields entries)).result = .ok outputs) :
    ((object fields deny).check order (some (.obj entries))).result =
      ((if deny then refuseUndeclared (Entries.keys fields) entries else .ok ()).map fun _ =>
        Json.obj (order.ofList (dropAbsent entries outputs))).result := by
  rw [check_object, narrow_obj, bind_of_ok h]

theorem check_object_refused {field : String × Schema} {before after : List (String × Schema)}
    {e : Failure} (split : fields = before ++ field :: after)
    (earlier : ∀ f ∈ before, ∃ output, fieldResult order entries f = .ok output)
    (failure : fieldResult order entries field = .error e) :
    ((object fields deny).check order (some (.obj entries))).result =
      .error { e with path := .key field.1 :: e.path } := by
  rw [check_object, narrow_obj]
  exact bind_of_error (fields_error_iff.2 ⟨before, field, after, e, split, earlier, failure, rfl⟩) _

/-- **An object results in what one of its rules says.** -/
theorem objectRule_of_check (hnodup : (Entries.keys fields).Nodup) {r : Except Failure Json}
    (h : ((object fields deny).check order (some (.obj entries))).result = r) :
    ObjectRule order fields deny entries r := by
  cases hrow : (Outcome.keyed (fieldOutcomes order fields entries)).result with
  | error e =>
    obtain ⟨before, field, after, e', split, earlier, failure, rfl⟩ := fields_error_iff.1 hrow
    rw [check_object_refused split earlier failure] at h
    exact h ▸ .refused split earlier failure
  | ok outputs =>
    have accepted := exists_fields_ok_iff.1 ⟨outputs, hrow⟩
    rw [check_object_of_fields hrow] at h
    cases r with
    | ok output =>
      obtain ⟨u, hu, rfl⟩ := map_ok_iff.1 h
      refine .accepted accepted (fun hdeny => ?_) (fun key output => mem_result_iff hnodup hrow)
        (arranges_dropAbsent hnodup hrow)
      rw [if_pos hdeny] at hu
      exact refuseUndeclared_ok_iff.1 hu
    | error e =>
      have hlate := map_error_iff.1 h
      cases deny with
      | false => cases hlate
      | true =>
        obtain ⟨before, key, value, after, split, earlier, unknown, rfl⟩ :=
          refuseUndeclared_error_iff.1 hlate
        have found : entries.lookup key = some value := by
          rw [split]
          exact Entries.lookup_append_cons fun hkey => unknown (earlier key hkey)
        exact .undeclared accepted rfl split earlier unknown found

/-- **What a rule says is what an object results in.** -/
theorem check_of_objectRule (hnodup : (Entries.keys fields).Nodup) {r : Except Failure Json}
    (h : ObjectRule order fields deny entries r) :
    ((object fields deny).check order (some (.obj entries))).result = r := by
  cases h with
  | refused split earlier failure => exact check_object_refused split earlier failure
  | undeclared accepted strict split earlier unknown found =>
    obtain ⟨outputs, hrow⟩ := exists_fields_ok_iff.2 accepted
    rw [check_object_of_fields hrow, if_pos strict, map_error_iff]
    exact refuseUndeclared_error_iff.2 ⟨_, _, _, _, split, earlier, unknown, rfl⟩
  | accepted accepted known holds arranged =>
    obtain ⟨outputs, hrow⟩ := exists_fields_ok_iff.2 accepted
    rw [eq_result hnodup hrow holds arranged]
    exact object_ok_iff.2 ⟨entries, outputs, rfl, hrow, known, rfl⟩

/-- **An object is checked field by field, then for undeclared keys.** It results in what its rules
    say; of these there is one for each object. A field that is refused first hides the fields after
    it and the undeclared keys, whose values do not count then, and no undeclared key is left in a
    result. -/
theorem check_object_rules (shape : Shape) (deny : Bool) (entries : Entries Json) :
    (∀ r, ((shape.object deny).check order (some (.obj entries))).result = r ↔
        ObjectRule order shape.fields deny entries r) ∧
      (∀ before field after e, shape.fields = before ++ field :: after →
        (∀ f ∈ before, ∃ output, fieldResult order entries f = .ok output) →
        fieldResult order entries field = .error e →
        ∀ (deny' : Bool) (entries' : Entries Json),
          (∀ key ∈ Entries.keys (before ++ [field]),
            entries'.lookup key = entries.lookup key) →
          ((shape.object deny').check order (some (.obj entries'))).result =
            ((shape.object deny).check order (some (.obj entries))).result) ∧
      ∀ members : Entries Json,
        ((shape.object deny).check order (some (.obj entries))).result = .ok (.obj members) →
          ∀ key ∈ members.keys, key ∈ shape.keys := by
  have hiff : ∀ r, ((shape.object deny).check order (some (.obj entries))).result = r ↔
      ObjectRule order shape.fields deny entries r :=
    fun r => ⟨objectRule_of_check shape.distinct, check_of_objectRule shape.distinct⟩
  refine ⟨hiff, fun before field after e split earlier failure deny' entries' hagree => ?_,
    fun members h key hkey => ?_⟩
  · have hsame : ∀ f ∈ before ++ [field],
        fieldResult order entries' f = fieldResult order entries f := by
      intro f hf
      rw [fieldResult, fieldResult, hagree f.1 (List.mem_map_of_mem hf)]
    have hfield : fieldResult order entries' field = .error e := by
      rw [hsame field (by simp), failure]
    have hbefore : ∀ f ∈ before, ∃ output, fieldResult order entries' f = .ok output := by
      intro f hf
      rw [hsame f (List.mem_append_left _ hf)]
      exact earlier f hf
    exact (check_object_refused split hbefore hfield).trans
      (check_object_refused split earlier failure).symm
  · obtain _ | _ | ⟨-, -, holds, -⟩ := (hiff _).1 h
    obtain ⟨⟨_, output⟩, hmem, rfl⟩ := List.mem_map.1 hkey
    obtain ⟨field, hfield, -⟩ := (holds _ _).1 hmem
    exact Entries.mem_keys_of_mem hfield

/-- A size that is no whole number is refused before the tags and the colour, which is not declared,
    are looked at. With a good size and without tags, the size is all that is left. -/
theorem check_object_rules_size :
    let shape : Shape :=
      ⟨[("size", .leaf .integer), ("tags", .optional (.leaf .string))], by decide⟩
    let wrong : Entries Json := [("size", .bool true)]
    let worse : Entries Json := [("colour", .null), ("tags", .int 1), ("size", .bool true)]
    let right : Entries Json := [("colour", .null), ("size", .int 7)]
    ((shape.object true).check .insertion (some (.obj worse))).result =
        ((shape.object false).check .insertion (some (.obj wrong))).result ∧
      ((shape.object false).check .insertion (some (.obj right))).result =
        .ok (.obj [("size", .int 7)]) ∧ "size" ∈ shape.keys := by
  intro shape wrong worse right
  have failure : fieldResult .insertion wrong ("size", .leaf .integer) =
      .error (.typeMismatch "integer" (some (.bool true))) := rfl
  have hwrong := (@check_object_rules .insertion shape false wrong).2.1 [] _ _ _ rfl (by simp)
    failure true worse (List.forall_mem_singleton.2 rfl)
  have hright : ((shape.object false).check .insertion (some (.obj right))).result =
      .ok (.obj [("size", .int 7)]) := rfl
  exact ⟨hwrong, hright,
    (@check_object_rules .insertion shape false right).2.2 _ hright "size" List.mem_cons_self⟩

end Schema

end Conform
