/-
  Declarations of fields one after the other: the first one of a key gives the field
  its place, the last one its schema, and those in between leave no trace.
-/
import Conform.Proofs.Entries
import Conform.Schema.Check
import Conform.Schema.Shape
import Mathlib.Data.Finset.Card

namespace Conform

namespace Shape

variable {shape shape' : Shape} {key : String} {schema : Schema}

/-! ## One declaration -/

theorem keys_field (shape : Shape) (key : String) (schema : Schema) :
    (shape.field key schema).keys = if key ∈ shape.keys then shape.keys else shape.keys ++ [key] :=
  Entries.keys_insertLast key schema shape.fields

theorem lookup_field (shape : Shape) (key : String) (schema : Schema) (k : String) :
    (shape.field key schema).fields.lookup k =
      if k = key then some schema else shape.fields.lookup k :=
  Entries.lookup_insertLast key schema shape.fields k

theorem eq_of_lookup (hkeys : shape.keys = shape'.keys)
    (hlookup : ∀ key, shape.fields.lookup key = shape'.fields.lookup key) : shape = shape' := by
  have hfields : shape.fields = shape'.fields :=
    Entries.eq_of_lookup shape.distinct hkeys hlookup
  cases shape
  cases shape'
  congr

/-! ## Declarations in a row -/

/-- The last declaration of a key in a row gives it this schema. -/
def LastDeclared (fields : List (String × Schema)) (key : String) (schema : Schema) : Prop :=
  ∃ before after, fields = before ++ (key, schema) :: after ∧ key ∉ Entries.keys after

variable {fields : List (String × Schema)}

theorem ofList_append_singleton (fields : List (String × Schema)) (field : String × Schema) :
    ofList (fields ++ [field]) = (ofList fields).field field.1 field.2 :=
  List.foldl_append

theorem mem_keys_ofList : key ∈ (ofList fields).keys ↔ key ∈ Entries.keys fields := by
  induction fields using List.reverseRecOn with
  | nil => rfl
  | append_singleton fields field ih =>
    rw [ofList_append_singleton, keys_field, Entries.keys, List.map_append, ← Entries.keys]
    split_ifs with h
    · rw [ih, List.mem_append]
      refine ⟨Or.inl, fun hkey => hkey.elim id fun heq => ?_⟩
      obtain rfl := List.mem_singleton.1 heq
      exact ih.1 h
    · rw [List.mem_append, List.mem_append, ih]
      rfl

/-- **Keys stand in the order of their first declarations.** -/
theorem keys_ofList_pairwise (fields : List (String × Schema)) :
    (ofList fields).keys.Pairwise fun key key' =>
      (Entries.keys fields).idxOf key < (Entries.keys fields).idxOf key' := by
  induction fields using List.reverseRecOn with
  | nil => exact .nil
  | append_singleton fields field ih =>
    have hkeys : Entries.keys (fields ++ [field]) = Entries.keys fields ++ [field.1] :=
      List.map_append
    have hplace : ∀ key ∈ (ofList fields).keys,
        (Entries.keys (fields ++ [field])).idxOf key = (Entries.keys fields).idxOf key :=
      fun key hkey => by rw [hkeys, List.idxOf_append_of_mem (mem_keys_ofList.1 hkey)]
    have hbefore : (ofList fields).keys.Pairwise fun key key' =>
        (Entries.keys (fields ++ [field])).idxOf key <
          (Entries.keys (fields ++ [field])).idxOf key' :=
      ih.imp_of_mem fun hkey hkey' hlt => by rwa [hplace _ hkey, hplace _ hkey']
    rw [ofList_append_singleton, keys_field]
    split_ifs with h
    · exact hbefore
    · refine List.pairwise_append.2 ⟨hbefore, List.pairwise_singleton _ _, ?_⟩
      intro key hkey key' hkey'
      obtain rfl := List.mem_singleton.1 hkey'
      -- a new key stands behind all others
      have hnew : field.1 ∉ Entries.keys fields := fun hmem => h (mem_keys_ofList.2 hmem)
      rw [hplace key hkey, hkeys, List.idxOf_append_of_notMem hnew]
      exact (List.idxOf_lt_length_of_mem (mem_keys_ofList.1 hkey)).trans_le (Nat.le_add_right _ _)

theorem lookup_ofList (fields : List (String × Schema)) (key : String) :
    (ofList fields).fields.lookup key = fields.reverse.lookup key := by
  induction fields using List.reverseRecOn with
  | nil => rfl
  | append_singleton fields field ih =>
    rw [ofList_append_singleton, lookup_field, ih, List.reverse_append, List.reverse_singleton,
      List.singleton_append, List.lookup_cons]
    split_ifs with h
    · simp [h]
    · rw [beq_false_of_ne h]

/-- **A key has the schema of its last declaration.** -/
theorem mem_ofList_iff :
    (key, schema) ∈ (ofList fields).fields ↔ LastDeclared fields key schema := by
  rw [← Entries.lookup_eq_some_iff (ofList fields).distinct, lookup_ofList,
    Entries.lookup_eq_some_iff_first]
  constructor
  · rintro ⟨after, before, hfields, hafter⟩
    refine ⟨before.reverse, after.reverse, ?_, mt Entries.mem_keys_reverse.1 hafter⟩
    rw [← List.reverse_inj, hfields]
    simp
  · rintro ⟨before, after, rfl, hafter⟩
    exact ⟨after.reverse, before.reverse, by simp, mt Entries.mem_keys_reverse.1 hafter⟩

theorem size_eq_card (shape : Shape) : shape.size = shape.keys.toFinset.card := by
  have hdistinct : shape.keys.Nodup := shape.distinct
  rw [List.toFinset_card_of_nodup hdistinct]
  exact (List.length_map Prod.fst).symm

/-! ## Declarations that do not count -/

/-- Further fields, declared one after the other. -/
def declare (fields : List (String × Schema)) (shape : Shape) : Shape :=
  fields.foldl (fun shape field => shape.field field.1 field.2) shape

theorem ofList_append (fields later : List (String × Schema)) :
    ofList (fields ++ later) = declare later (ofList fields) :=
  List.foldl_append

/-- **What is declared anew does not count**: shapes with the same keys become the same if they
    differ only in the schemas of keys that are declared again. -/
theorem declare_congr (hkeys : shape.keys = shape'.keys)
    (hlookup : ∀ key, key ∉ Entries.keys fields →
      shape.fields.lookup key = shape'.fields.lookup key) :
    declare fields shape = declare fields shape' := by
  induction fields generalizing shape shape' with
  | nil => exact eq_of_lookup hkeys fun key => hlookup key List.not_mem_nil
  | cons field rest ih =>
    refine ih (by rw [keys_field, keys_field, hkeys]) fun key hkey => ?_
    rw [lookup_field, lookup_field]
    split_ifs with h
    · rfl
    · exact hlookup key fun hmem => (List.mem_cons.1 hmem).elim h hkey

theorem ofList_insert {before after : List (String × Schema)} (hbefore : key ∈ Entries.keys before)
    (hafter : key ∈ Entries.keys after) (schema : Schema) :
    ofList (before ++ (key, schema) :: after) = ofList (before ++ after) := by
  have hkeys : ((ofList before).field key schema).keys = (ofList before).keys := by
    rw [keys_field, if_pos (mem_keys_ofList.2 hbefore)]
  rw [ofList_append, ofList_append]
  refine declare_congr hkeys fun k hk => ?_
  rw [lookup_field, if_neg]
  rintro rfl
  exact hk hafter

/-- **The last declaration wins, at the place of the first one.** After any row of declarations a
    shape has one field for each key that was declared, in the order of the first declarations of
    the keys and with the schemas of the last ones. So a declaration of a key between its first and
    its last one changes nothing in what an object with these fields accepts, results in or
    reports. -/
theorem ofList_last_wins (fields : List (String × Schema)) :
    (ofList fields).keys.Nodup ∧
      (∀ key, key ∈ (ofList fields).keys ↔ key ∈ Entries.keys fields) ∧
      ((ofList fields).keys.Pairwise fun key key' =>
        (Entries.keys fields).idxOf key < (Entries.keys fields).idxOf key') ∧
      (∀ key schema, (key, schema) ∈ (ofList fields).fields ↔ LastDeclared fields key schema) ∧
      (∀ key, (ofList fields).contains key = true ↔ key ∈ Entries.keys fields) ∧
      (ofList fields).size = (Entries.keys fields).toFinset.card ∧
      ∀ before after key schema, fields = before ++ after → key ∈ Entries.keys before →
        key ∈ Entries.keys after →
          ofList (before ++ (key, schema) :: after) = ofList fields ∧
          ∀ deny order input,
            ((ofList (before ++ (key, schema) :: after)).object deny).check order input =
              ((ofList fields).object deny).check order input := by
  refine ⟨(ofList fields).distinct, fun key => mem_keys_ofList, keys_ofList_pairwise fields,
    fun key schema => mem_ofList_iff, fun key => Entries.hasKey_iff.trans mem_keys_ofList, ?_, ?_⟩
  · rw [size_eq_card]
    congr 1
    ext key
    rw [List.mem_toFinset, List.mem_toFinset, mem_keys_ofList]
  · rintro before after key schema rfl hbefore hafter
    have hsame := ofList_insert hbefore hafter schema
    exact ⟨hsame, fun deny order input => by rw [hsame]⟩

/-- A field that is declared three times, the second time as a text: objects are checked by the
    last declaration, and the field keeps its first place. -/
theorem ofList_last_wins_thrice :
    let first : List (String × Schema) := [("a", .leaf .null), ("b", .leaf .boolean)]
    let last : List (String × Schema) := [("c", .leaf .any), ("a", .leaf .integer)]
    let fields := first ++ ("a", .leaf .string) :: last
    let input : Entries Json := [("b", .bool true), ("a", .int 1), ("c", .null)]
    "a" ∈ Entries.keys first ∧ "a" ∈ Entries.keys last ∧ ofList fields = ofList (first ++ last) ∧
      ((ofList fields).object false).check .insertion (some (.obj input)) =
        .ok (.obj [("a", .int 1), ("b", .bool true), ("c", .null)]) := by
  intro first last fields input
  have h := (ofList_last_wins (first ++ last)).2.2.2.2.2.2 first last "a" (.leaf .string) rfl
    (by decide) (by decide)
  exact ⟨by decide, by decide, h.1, (h.2 false .insertion _).trans rfl⟩

end Shape

end Conform
