/-
  Results are values that the schema accepts as they are, as long as they come from
  the library and no alternative takes over the results of a later one
  (`Schema.Stable`).
-/
import Conform.Proofs.Check
import Conform.Proofs.Leaf

namespace Conform

open Outcome

namespace Schema

variable {order : KeyOrder} {input : Option Json} {output : Json}

/-! ## Schemas that keep their results -/

/-- An alternative changes no result of a later one that it accepts. -/
def Keeps (order : KeyOrder) (earlier later : Schema) : Prop :=
  ∀ value output output', (later.check order (some value)).result = .ok output →
    (earlier.check order (some output)).result = .ok output' → output' = output

/-- What a schema has to do for its own part so that its results are fixed points. -/
def Stable (order : KeyOrder) : Schema → Prop
  | leaf l => l.OfLibrary
  | object fields _ => (Entries.keys fields).Nodup
  | withDefault inner fallback =>
    fallback = .null ∨ (inner.check order (some fallback)).result = .ok fallback
  | union alternatives => alternatives.Pairwise (Keeps order)
  | orElse left right => Keeps order left right
  | rule _ | jsonString _ | typedRecord _ | map _ _ | tryMap _ _ | chain _ _ => False
  | _ => True

/-- The results of a schema are values that it accepts as they are; an absent value that results in
    `null` is left out, as the object that misses it does not get it either. -/
def Fixes (order : KeyOrder) (s : Schema) : Prop :=
  ∀ input output, (s.check order input).result = .ok output → (input = none → output ≠ .null) →
    (s.check order (some output)).result = .ok output

theorem Fixes.present {s : Schema} (hs : Fixes order s) {value : Json}
    (h : (s.check order (some value)).result = .ok output) :
    (s.check order (some output)).result = .ok output :=
  hs _ _ h fun hnone => absurd hnone (Option.some_ne_none value)

/-! ## Arrays -/

theorem fixes_array {item : Schema} (hitem : Fixes order item) : Fixes order (array item) := by
  rintro input output h -
  obtain ⟨values, outputs, rfl, rfl, hall⟩ := array_ok_iff.1 h
  refine array_ok_iff.2 ⟨outputs, outputs, rfl, rfl, List.forall₂_same.2 fun o ho => ?_⟩
  obtain ⟨value, -, hvalue⟩ := forall₂_mem_right hall o ho
  exact hitem.present hvalue

theorem fixes_tuple {items : List Schema} (hitems : ∀ s ∈ items, Fixes order s) :
    Fixes order (tuple items) := by
  rintro input output h -
  obtain ⟨values, outputs, rfl, rfl, hlen, hall⟩ := tuple_ok_iff.1 h
  have hlen' : outputs.length = items.length := by
    rw [← hall.length_eq, List.length_zip, hlen, Nat.min_self]
  refine tuple_ok_iff.2 ⟨outputs, outputs, rfl, rfl, hlen', ?_⟩
  clear h hlen'
  induction items generalizing values outputs with
  | nil =>
    cases hall
    exact .nil
  | cons s items ih =>
    obtain _ | ⟨value, values⟩ := values
    · cases hlen
    · obtain _ | ⟨ho, hrest⟩ := hall
      have hthis := (hitems s (by simp)).present ho
      exact .cons hthis (ih (fun t ht => hitems t (by simp [ht])) values _
        (Nat.succ.inj hlen) hrest)

/-! ## Objects -/

theorem fixes_record {value : Schema} (hvalue : Fixes order value) :
    Fixes order (record value) := by
  rintro input output h -
  obtain ⟨entries, outputs, rfl, rfl, hall⟩ := record_ok_iff.1 h
  have hkeys : Entries.keys outputs = entries.sortedKeys := by
    have hfirst := map_eq_of_forall₂ (f := id) (g := Prod.fst) hall fun _ _ h => h.1.symm
    simpa [Entries.keys] using hfirst.symm
  -- the keys of the result stand in the order in which they are checked again
  have hsorted : outputs.sortedKeys = Entries.keys outputs :=
    Entries.sortedKeys_eq (hkeys ▸ Entries.sortedKeys_pairwise) fun _ => Iff.rfl
  refine record_ok_iff.2 ⟨outputs, outputs, rfl, rfl, ?_⟩
  rw [hsorted, Entries.keys, List.forall₂_map_left_iff, List.forall₂_same]
  intro o ho
  obtain ⟨key, hkey, rfl, hcheck⟩ := forall₂_mem_right hall o ho
  have hfound : outputs.lookup o.1 = some o.2 :=
    (Entries.lookup_eq_some_iff (hkeys ▸ Entries.nodup_sortedKeys)).2 ho
  rw [hfound]
  refine ⟨rfl, hvalue _ _ hcheck fun hnone => ?_⟩
  exact absurd (Entries.mem_sortedKeys.1 hkey) (Entries.lookup_eq_none_iff.1 hnone)

/-- An entry of a result is found there, unless it was left out. -/
theorem lookup_result {entries outputs : Entries Json} (hnodup : outputs.keys.Nodup)
    {o : String × Json} (ho : o ∈ outputs) :
    (order.ofList (dropAbsent entries outputs)).lookup o.1 =
      if !o.2.isNull || entries.hasKey o.1 then some o.2 else none := by
  rw [KeyOrder.lookup_ofList order (nodup_keys_dropAbsent entries hnodup),
    lookup_dropAbsent entries hnodup, (Entries.lookup_eq_some_iff hnodup).2 ho, Option.filter_some]

/-- What was left out is left out again, and nothing else is. -/
theorem dropAbsent_again {entries outputs : Entries Json} (hnodup : outputs.keys.Nodup) :
    dropAbsent (order.ofList (dropAbsent entries outputs)) outputs =
      dropAbsent entries outputs := by
  refine List.filter_congr fun o ho => ?_
  show (!o.2.isNull || Entries.hasKey o.1 _) = (!o.2.isNull || Entries.hasKey o.1 entries)
  rw [Entries.hasKey_eq_isSome, lookup_result hnodup ho]
  by_cases hkept : (!o.2.isNull || entries.hasKey o.1) = true
  · rw [if_pos hkept, Option.isSome_some, Bool.or_true, hkept]
  · rw [if_neg hkept, Option.isSome_none, Bool.or_false]
    simp only [Bool.or_eq_true, not_or, Bool.not_eq_true] at hkept
    rw [hkept.1, hkept.2, Bool.or_false]

theorem fixes_object {fields : List (String × Schema)} {deny : Bool}
    (hfields : ∀ field ∈ fields, Fixes order field.2) (hnodup : (Entries.keys fields).Nodup) :
    Fixes order (object fields deny) := by
  rintro input output h -
  obtain ⟨entries, outputs, rfl, hrow, -, rfl⟩ := object_ok_iff.1 h
  rw [fields_ok_iff] at hrow
  have hkeys : Entries.keys outputs = Entries.keys fields :=
    (map_eq_of_forall₂ hrow fun _ _ h => h.1.symm).symm
  rw [← hkeys] at hnodup
  -- an entry that was left out is missing again, and checked as absent both times
  have hagain : List.Forall₂ (fun field o => o.1 = field.1 ∧ (field.2.check order
      ((order.ofList (dropAbsent entries outputs)).lookup field.1)).result = .ok o.2)
      fields outputs := by
    refine List.forall₂_iff_zip.2 ⟨hrow.length_eq, fun {field o} hmem => ?_⟩
    obtain ⟨hkey, hcheck⟩ := (List.forall₂_iff_zip.1 hrow).2 hmem
    obtain ⟨hfield, ho⟩ := List.of_mem_zip hmem
    refine ⟨hkey, ?_⟩
    rw [← hkey] at hcheck ⊢
    rw [lookup_result hnodup ho]
    split_ifs with hkept
    · refine hfields field hfield _ _ hcheck fun hnone hnull => ?_
      simp [Entries.hasKey_eq_isSome, hnone, hnull, Json.isNull] at hkept
    · simp only [Entries.hasKey_eq_isSome, Bool.or_eq_true, not_or, Option.not_isSome_iff_eq_none]
        at hkept
      rwa [hkept.2] at hcheck
  refine object_ok_iff.2 ⟨_, outputs, rfl, fields_ok_iff.2 hagain, fun _ key hkey => ?_, ?_⟩
  · have hperm := KeyOrder.ofList_perm order (nodup_keys_dropAbsent entries hnodup)
    obtain ⟨o, ho, rfl⟩ := List.mem_map.1 hkey
    rw [← hkeys]
    exact Entries.mem_keys_of_mem (List.mem_filter.1 (hperm.mem_iff.1 ho)).1
  · rw [dropAbsent_again hnodup]

/-! ## Alternatives -/

/-- Alternatives before one that accepts do no harm if they result in the same or refuse. -/
theorem union_ok_of_before {before after : List Schema} {s : Schema}
    (hbefore : ∀ t ∈ before, ∀ output', (t.check order input).result = .ok output' →
      output' = output) (hs : (s.check order input).result = .ok output) :
    ((union (before ++ s :: after)).check order input).result = .ok output := by
  induction before with
  | nil => exact union_ok_iff.2 ⟨[], s, after, rfl, by simp, hs⟩
  | cons t before ih =>
    cases ht : (t.check order input).result with
    | ok output' =>
      rw [hbefore t (by simp) output' ht] at ht
      exact union_ok_iff.2 ⟨[], t, before ++ s :: after, rfl, by simp, ht⟩
    | error e =>
      obtain ⟨before', s', after', heq, hbefore', hs'⟩ :=
        union_ok_iff.1 (ih fun t' ht' => hbefore t' (by simp [ht']))
      refine union_ok_iff.2 ⟨t :: before', s', after', by simp [heq], ?_, hs'⟩
      exact List.forall_mem_cons.2 ⟨⟨e, ht⟩, hbefore'⟩

theorem fixes_union {alternatives : List Schema} (halternatives : ∀ s ∈ alternatives, Fixes order s)
    (hkeeps : alternatives.Pairwise (Keeps order)) : Fixes order (union alternatives) := by
  intro input output h hpresent
  obtain ⟨before, s, after, rfl, -, hs⟩ := union_ok_iff.1 h
  have hagain := halternatives s (by simp) input output hs hpresent
  refine union_ok_of_before (fun t ht output' ht' => ?_) hagain
  exact (List.pairwise_append.1 hkeeps).2.2 t ht s (by simp) output output output' hagain ht'

/-! ## All schemas -/

theorem fixes_of_stable {s : Schema} (hs : s.Everywhere (Stable order)) : Fixes order s := by
  induction s with
  | leaf l =>
    rintro input output h -
    rw [check, Leaf.check_ok_iff] at h ⊢
    obtain ⟨value, rfl, h⟩ := h
    exact ⟨output, rfl, Leaf.accept_accepted hs.here h⟩
  | literal expected =>
    rintro input output h -
    rw [check, checkLiteral_ok_iff] at h ⊢
    exact ⟨rfl, h.2⟩
  | enums variants =>
    rintro input output h -
    rw [check, checkEnums_ok_iff] at h ⊢
    obtain ⟨text, rfl, hmem, rfl⟩ := h
    exact ⟨text, rfl, hmem, rfl⟩
  | pattern p =>
    rintro input output h -
    rw [check, checkPattern_ok_iff] at h ⊢
    obtain ⟨text, rfl, hmatch, rfl⟩ := h
    exact ⟨text, rfl, hmatch, rfl⟩
  | array item ih => exact fixes_array (ih (hs.part rfl))
  | tuple items ih => exact fixes_tuple fun s hmem => ih s hmem (hs.inside s hmem)
  | record value ih => exact fixes_record (ih (hs.part rfl))
  | object fields deny ih =>
    exact fixes_object (fun field hmem => ih field hmem (hs.field rfl field hmem)) hs.here
  | optional inner ih =>
    intro input output h hpresent
    rw [check]
    cases input with
    | none =>
      rw [check, result_ok, Except.ok.injEq] at h
      exact absurd h.symm (hpresent rfl)
    | some value =>
      rw [check] at h
      exact (ih (hs.part rfl)).present h
  | nullable inner ih =>
    intro input output h hpresent
    by_cases hnull : output = .null
    · rw [hnull, check, result_ok]
    · have hinner : (inner.check order input).result = .ok output := by
        rw [check] at h
        · exact h
        · rintro rfl
          rw [check, result_ok, Except.ok.injEq] at h
          exact hnull h.symm
      rw [check]
      · exact ih (hs.part rfl) _ _ hinner hpresent
      · simpa using hnull
  | withDefault inner fallback ih =>
    intro input output h hpresent
    rw [check]
    cases input with
    | none =>
      -- the fallback is there from now on, unless it is `null`
      rw [check, result_ok, Except.ok.injEq] at h
      subst h
      exact hs.here.resolve_left (hpresent rfl)
    | some value =>
      rw [check] at h
      exact (ih (hs.part rfl)).present h
  | withMessage inner message code ih =>
    intro input output h hpresent
    rw [check, mapFailure_ok_iff] at h ⊢
    exact ih (hs.part rfl) _ _ h hpresent
  | union alternatives ih =>
    exact fixes_union (fun s hmem => ih s hmem (hs.inside s hmem)) hs.here
  | orElse left right ihl ihr =>
    intro input output h hpresent
    rw [check_orElse] at h ⊢
    refine fixes_union ?_ (List.pairwise_pair.2 hs.here) _ _ h hpresent
    have hleft := ihl (hs.inside left (by simp [children]))
    have hright := ihr (hs.inside right (by simp [children]))
    simpa using ⟨hleft, hright⟩
  | rule _ | jsonString _ _ | typedRecord _ _ | map _ _ _ | tryMap _ _ _ | chain _ _ _ =>
    exact hs.here.elim

/-- **Results are fixed points**: what a schema makes of a value, it accepts and leaves as it is. -/
theorem check_output_fixed {s : Schema} (hs : s.Everywhere (Stable order)) {value : Json}
    (h : (s.check order (some value)).result = .ok output) :
    (s.check order (some output)).result = .ok output :=
  (fixes_of_stable hs).present h

/-- A missing name stays missing, a missing size is there from the first result on. -/
theorem check_output_fixed_settings :
    ((object [("name", optional (leaf .string)), ("size", withDefault (leaf .asInteger) (.int 1)),
        ("mode", union [leaf .boolean, enums ["auto"]])] true).check .sorted
      (some (.obj [("mode", .str "auto"), ("size", .int 1)]))).result =
        .ok (.obj [("mode", .str "auto"), ("size", .int 1)]) := by
  refine @check_output_fixed .sorted _ _ ?_ (.obj [("mode", .str "auto")]) rfl
  have hsize : ((leaf .asInteger).check .sorted (some (.int 1))).result = .ok (.int 1) := by
    rw [check, Leaf.check_ok_iff]
    exact ⟨_, rfl, by rw [Leaf.accept, Leaf.int64OfNumber?_int (by decide)]; rfl⟩
  have hmode : Keeps .sorted (leaf .boolean) (enums ["auto"]) := by
    intro value output output' _ h
    rw [check, Leaf.check_ok_iff] at h
    obtain ⟨checked, heq, h⟩ := h
    rw [← Option.some.inj heq] at h
    cases output <;> cases h
    rfl
  simp [everywhere_iff, children, Stable, Leaf.OfLibrary, Entries.keys, hsize, hmode]

end Schema

end Conform
