/-
  Arrays, tuples and records accept a value iff they accept each part of it; otherwise
  they fail as the first part that is refused, and no later part counts.
-/
import Conform.Proofs.Bytes
import Conform.Proofs.Check

namespace Conform

open Outcome

namespace Schema

/-! ## Parts -/

/-- The parts that a composite looks at: what is checked at each place, and by which schema. -/
abbrev Parts (ι : Type) := ι → Option (Schema × Json)

/-- Parts in a row, by their index. -/
def Parts.ofList (parts : List (Schema × Json)) : Parts Nat := fun index => parts[index]?

/-- The items of an array, by their index. -/
def itemParts (item : Schema) (values : List Json) : Parts Nat :=
  .ofList (values.map (item, ·))

/-- The items of an array with a schema for each index. -/
def tupleParts (items : List Schema) (values : List Json) : Parts Nat :=
  .ofList (items.zip values)

/-- The values of an object, by their key. -/
def memberParts (value : Schema) (entries : Entries Json) : Parts String :=
  fun key => (entries.lookup key).map (value, ·)

namespace Parts

variable {ι : Type}

/-- Each part is accepted with the output at its place, and there are no other outputs. -/
def Accepted (order : KeyOrder) (parts : Parts ι) (outputs : ι → Option Json) : Prop :=
  ∀ place, Option.Rel (fun part output => (part.1.check order (some part.2)).result = .ok output)
    (parts place) (outputs place)

/-- The part at a place is refused with `e`, and the parts at all lesser places are accepted. -/
structure FirstRefused [LT ι] (order : KeyOrder) (parts : Parts ι) (place : ι) (e : Failure) :
    Prop where
  refused : ∃ part, parts place = some part ∧ (part.1.check order (some part.2)).result = .error e
  earlier : ∀ p < place, ∀ part, parts p = some part →
    ∃ output, (part.1.check order (some part.2)).result = .ok output

end Parts

variable {order : KeyOrder}

/-! ## Items -/

/-- What an array is made of if its items are checked in a row. -/
def arrayOfParts (order : KeyOrder) (parts : List (Schema × Json)) : Outcome Json :=
  (items (fun part : Schema × Json => part.1.check order (some part.2)) 0 parts).map .arr

theorem check_array_eq_ofParts (item : Schema) (values : List Json) :
    (array item).check order (some (.arr values)) =
      arrayOfParts order (values.map fun value => (item, value)) := by
  rw [check_array, narrow_arr, arrayOfParts, items_map]

theorem check_tuple_eq_ofParts {items : List Schema} {values : List Json}
    (h : values.length = items.length) :
    (tuple items).check order (some (.arr values)) = arrayOfParts order (items.zip values) := by
  rw [check_tuple, narrow_arr, if_pos h, arrayOfParts]

/-- A row of items is accepted iff each item is, at its index. -/
theorem arrayOfParts_ok_iff {parts : List (Schema × Json)} {output : Json} :
    (arrayOfParts order parts).result = .ok output ↔ ∃ outputs : List Json,
      output = .arr outputs ∧ (Parts.ofList parts).Accepted order fun index => outputs[index]? := by
  rw [arrayOfParts, map_ok_iff]
  refine exists_congr fun outputs => ?_
  rw [items_ok_iff, forall₂_iff_getElem?, and_comm, eq_comm]
  rfl

theorem arrayOfParts_error_iff {parts : List (Schema × Json)} {e : Failure} :
    (arrayOfParts order parts).result = .error e ↔ ∃ index e',
      (Parts.ofList parts).FirstRefused order index e' ∧
        e = { e' with path := .index index :: e'.path } := by
  rw [arrayOfParts, map_error_iff, items_error_iff]
  constructor
  · rintro ⟨index, part, e', hpart, hearlier, he', rfl⟩
    exact ⟨index, e', ⟨⟨part, hpart, he'⟩, hearlier⟩, by rw [Nat.zero_add]; rfl⟩
  · rintro ⟨index, e', ⟨⟨part, hpart, he'⟩, hearlier⟩, rfl⟩
    exact ⟨index, part, e', hpart, hearlier, he', by rw [Nat.zero_add]; rfl⟩

theorem arrayOfParts_congr {parts parts' : List (Schema × Json)} {index : Nat} {e : Failure}
    (h : (Parts.ofList parts).FirstRefused order index e)
    (hagree : ∀ j ≤ index, parts'[j]? = parts[j]?) :
    arrayOfParts order parts' = arrayOfParts order parts := by
  obtain ⟨part, hpart, he⟩ := h.refused
  rw [arrayOfParts, arrayOfParts, items_congr hpart he hagree]

/-! ## Members -/

variable {value : Schema} {entries entries' outputs : Entries Json} {key : String}

/-- The outcomes of the values of an object, in the order of its keys. -/
def memberOutcomes (order : KeyOrder) (value : Schema) (entries : Entries Json) :
    List (String × Outcome Json) :=
  entries.sortedKeys.map fun key => (key, value.check order (entries.lookup key))

/-- The keys before one of the keys of an object are its lesser keys. -/
theorem mem_before_iff {before after : List String}
    (h : entries.sortedKeys = before ++ key :: after) {k : String} :
    k ∈ before ↔ k ∈ entries.keys ∧ k < key := by
  obtain ⟨-, hafter, hbefore⟩ := List.pairwise_append.1 (h ▸ entries.sortedKeys_pairwise)
  rw [← Entries.mem_sortedKeys, h]
  constructor
  · exact fun hk => ⟨List.mem_append_left _ hk, hbefore k hk key List.mem_cons_self⟩
  · rintro ⟨hk, hlt⟩
    rcases List.mem_append.1 hk with hk | hk
    · exact hk
    · rcases List.mem_cons.1 hk with rfl | hk
      · exact (lt_irrefl k hlt).elim
      · exact (lt_asymm hlt ((List.pairwise_cons.1 hafter).1 k hk)).elim

/-- The values of an object are accepted at their keys iff the outputs have the same keys, each with
    the output of its value. -/
theorem accepted_members_iff :
    (memberParts value entries).Accepted order (fun key => outputs.lookup key) ↔
      (∀ key, key ∈ entries.keys ↔ key ∈ outputs.keys) ∧ ∀ key output,
        outputs.lookup key = some output →
          (value.check order (entries.lookup key)).result = .ok output := by
  rw [← forall_and]
  refine forall_congr' fun key => ?_
  simp only [memberParts, Entries.mem_keys_iff]
  cases entries.lookup key <;> cases outputs.lookup key <;> simp

theorem members_accepted_iff : (keyed (memberOutcomes order value entries)).result = .ok outputs ↔
    outputs.keys.Pairwise (· < ·) ∧
      (memberParts value entries).Accepted order (fun key => outputs.lookup key) := by
  rw [memberOutcomes, keyed_ok_iff, List.forall₂_map_left_iff, accepted_members_iff]
  constructor
  · intro h
    have hkeys : outputs.keys = entries.sortedKeys := by
      have hfirst := map_eq_of_forall₂ (f := id) (g := Prod.fst) h fun _ _ h => h.1.symm
      simpa [Entries.keys] using hfirst.symm
    refine ⟨hkeys ▸ Entries.sortedKeys_pairwise, fun key => ?_, fun key output houtput => ?_⟩
    · rw [hkeys, Entries.mem_sortedKeys]
    · obtain ⟨_, -, hkey, hcheck⟩ := forall₂_mem_right h _ (Entries.mem_of_lookup houtput)
      cases hkey
      exact hcheck
  · rintro ⟨hordered, hkeys, hchecks⟩
    rw [Entries.sortedKeys_eq hordered hkeys, Entries.keys, List.forall₂_map_left_iff,
      List.forall₂_same]
    intro output hmem
    exact ⟨rfl, hchecks _ _ ((Entries.lookup_eq_some_iff hordered.nodup).2 hmem)⟩

theorem firstRefused_members_iff {e : Failure} :
    (memberParts value entries).FirstRefused order key e ↔ key ∈ entries.keys ∧
      (value.check order (entries.lookup key)).result = .error e ∧ ∀ k ∈ entries.keys, k < key →
        ∃ output, (value.check order (entries.lookup k)).result = .ok output := by
  simp only [Entries.mem_keys_iff]
  constructor
  · rintro ⟨⟨_, hpart, he⟩, hearlier⟩
    obtain ⟨v, hv, rfl⟩ := Option.map_eq_some_iff.1 hpart
    refine ⟨⟨v, hv⟩, hv ▸ he, ?_⟩
    rintro k ⟨w, hw⟩ hlt
    rw [hw]
    exact hearlier k hlt (value, w) (Option.map_eq_some_iff.2 ⟨w, hw, rfl⟩)
  · rintro ⟨⟨v, hv⟩, he, hearlier⟩
    refine ⟨⟨(value, v), Option.map_eq_some_iff.2 ⟨v, hv, rfl⟩, hv ▸ he⟩,
      fun k hlt part hpart => ?_⟩
    obtain ⟨w, hw, rfl⟩ := Option.map_eq_some_iff.1 hpart
    exact hw ▸ hearlier k ⟨w, hw⟩ hlt

theorem members_refused_iff {e : Failure} :
    (keyed (memberOutcomes order value entries)).result = .error e ↔
      ∃ key e', (memberParts value entries).FirstRefused order key e' ∧
        e'.within (.key key) = e := by
  simp only [firstRefused_members_iff]
  constructor
  · intro h
    obtain ⟨_, _, _, _, e', heq, hearlier, he', rfl⟩ := keyed_error_iff.1 h
    obtain ⟨before, rest, hkeys, rfl, hrest⟩ := List.map_eq_append_iff.1 heq
    obtain ⟨key, after, rfl, hentry, rfl⟩ := List.map_eq_cons_iff.1 hrest
    obtain ⟨rfl, rfl⟩ := Prod.mk.inj hentry
    have hkey : key ∈ entries.keys := Entries.mem_sortedKeys.1 (hkeys ▸ by simp)
    refine ⟨key, e', ⟨hkey, he', fun k hk hlt => ?_⟩, rfl⟩
    exact hearlier _ (List.mem_map_of_mem ((mem_before_iff hkeys).2 ⟨hk, hlt⟩))
  · rintro ⟨key, e', ⟨hkey, he', hearlier⟩, rfl⟩
    obtain ⟨before, after, hkeys⟩ := List.append_of_mem (Entries.mem_sortedKeys.2 hkey)
    rw [keyed_error_iff, memberOutcomes, hkeys, List.map_append, List.map_cons]
    refine ⟨_, key, _, _, e', rfl, List.forall_mem_map.2 fun k hk => ?_, he', rfl⟩
    obtain ⟨hk, hlt⟩ := (mem_before_iff hkeys).1 hk
    exact hearlier k hk hlt

/-- Values of keys greater than one whose value fails do not count. -/
theorem members_congr {e : Failure} (hkey : key ∈ entries.keys)
    (he : (value.check order (entries.lookup key)).result = .error e)
    (hagree : ∀ k ≤ key, entries'.lookup k = entries.lookup k) :
    keyed (memberOutcomes order value entries') = keyed (memberOutcomes order value entries) := by
  have hkeys : ∀ k ≤ key, k ∈ entries'.keys ↔ k ∈ entries.keys := fun k hk => by
    rw [Entries.mem_keys_iff, Entries.mem_keys_iff, hagree k hk]
  have hkey' : key ∈ entries'.keys := (hkeys key le_rfl).2 hkey
  obtain ⟨before, after, hsplit⟩ := List.append_of_mem (Entries.mem_sortedKeys.2 hkey)
  obtain ⟨before', after', hsplit'⟩ := List.append_of_mem (Entries.mem_sortedKeys.2 hkey')
  -- both objects have the same lesser keys
  have hbefore : before' = before := by
    have hordered := (List.pairwise_append.1 (hsplit ▸ entries.sortedKeys_pairwise)).1
    have hordered' := (List.pairwise_append.1 (hsplit' ▸ entries'.sortedKeys_pairwise)).1
    refine Entries.eq_of_perm_of_ascending hordered' hordered ?_
    refine (List.perm_ext_iff_of_nodup hordered'.nodup hordered.nodup).2 fun k => ?_
    rw [mem_before_iff hsplit', mem_before_iff hsplit]
    exact and_congr_left fun hlt => hkeys k hlt.le
  have hvalues : ∀ k ∈ before, (k, value.check order (entries'.lookup k)) =
      (k, value.check order (entries.lookup k)) := fun k hk => by
    rw [hagree k ((mem_before_iff hsplit).1 hk).2.le]
  have he' : (value.check order (entries'.lookup key)).result = .error e := by
    rw [hagree key le_rfl, he]
  rw [memberOutcomes, memberOutcomes, hsplit, hsplit', hbefore, List.map_append, List.map_append,
    List.map_cons, List.map_cons, keyed_of_error he, keyed_of_error he', hagree key le_rfl,
    List.map_congr_left hvalues]

/-! ## Arrays, tuples and records -/

/-- **Arrays, tuples and records go by their parts.** An array or an object is accepted iff all its
    parts are, a tuple iff it has the right length as well; outputs stand where their parts stood,
    those of an object sorted by their keys. Otherwise the failure is that of the part at the least
    place which is refused, with that place in front of its path, and everything at greater places
    may be changed without any effect on the outcome. Keys are less or greater by their bytes. -/
theorem check_pointwise (order : KeyOrder) :
    (∀ (item : Schema) (values : List Json),
      (∀ output, ((array item).check order (some (.arr values))).result = .ok output ↔
        ∃ outputs : List Json, output = .arr outputs ∧
          (itemParts item values).Accepted order (outputs[·]?)) ∧
      (∀ e, ((array item).check order (some (.arr values))).result = .error e ↔
        ∃ index e', (itemParts item values).FirstRefused order index e' ∧
          e = { e' with path := .index index :: e'.path }) ∧
      ∀ index e' values', (itemParts item values).FirstRefused order index e' →
        (∀ j ≤ index, values'[j]? = values[j]?) →
        (array item).check order (some (.arr values')) =
          (array item).check order (some (.arr values))) ∧
    (∀ (items : List Schema) (values : List Json),
      (∀ output, ((tuple items).check order (some (.arr values))).result = .ok output ↔
        values.length = items.length ∧ ∃ outputs : List Json, output = .arr outputs ∧
          (tupleParts items values).Accepted order (outputs[·]?)) ∧
      (values.length = items.length →
        (∀ e, ((tuple items).check order (some (.arr values))).result = .error e ↔
          ∃ index e', (tupleParts items values).FirstRefused order index e' ∧
            e = { e' with path := .index index :: e'.path }) ∧
        ∀ index e' values', (tupleParts items values).FirstRefused order index e' →
          values'.length = values.length → (∀ j ≤ index, values'[j]? = values[j]?) →
          (tuple items).check order (some (.arr values')) =
            (tuple items).check order (some (.arr values)))) ∧
    (∀ (value : Schema) (entries : Entries Json),
      (∀ output, ((record value).check order (some (.obj entries))).result = .ok output ↔
        ∃ outputs : Entries Json, output = .obj outputs ∧ outputs.keys.Pairwise (· < ·) ∧
          (memberParts value entries).Accepted order (fun key => outputs.lookup key)) ∧
      (∀ e, ((record value).check order (some (.obj entries))).result = .error e ↔
        ∃ key e', (memberParts value entries).FirstRefused order key e' ∧
          e = { e' with path := .key key :: e'.path }) ∧
      ∀ key e' entries', (memberParts value entries).FirstRefused order key e' →
        (∀ k ≤ key, List.lookup k entries' = entries.lookup k) →
        (record value).check order (some (.obj entries')) =
          (record value).check order (some (.obj entries))) ∧
    ∀ k k' : String, k < k' ↔ Text.bytes k < Text.bytes k' := by
  refine ⟨fun item values => ?_, fun items values => ⟨fun output => ?_, fun hlen => ?_⟩,
    fun value entries => ?_, Text.lt_iff_bytes_lt⟩
  · rw [check_array_eq_ofParts]
    refine ⟨fun _ => arrayOfParts_ok_iff, fun _ => arrayOfParts_error_iff,
      fun index e' values' hrefused hagree => ?_⟩
    rw [check_array_eq_ofParts]
    exact arrayOfParts_congr hrefused fun j hj => by
      rw [List.getElem?_map, List.getElem?_map, hagree j hj]
  · by_cases hlen : values.length = items.length
    · rw [check_tuple_eq_ofParts hlen, arrayOfParts_ok_iff]
      exact (and_iff_right hlen).symm
    · refine iff_of_false (fun h => ?_) fun h => hlen h.1
      obtain ⟨_, _, heq, -, hlen', -⟩ := tuple_ok_iff.1 h
      cases heq
      exact hlen hlen'
  · rw [check_tuple_eq_ofParts hlen]
    refine ⟨fun _ => arrayOfParts_error_iff, fun index e' values' hrefused hlen' hagree => ?_⟩
    rw [check_tuple_eq_ofParts (hlen'.trans hlen)]
    exact arrayOfParts_congr hrefused fun j hj => by
      simp only [List.zip, List.getElem?_zipWith, hagree j hj]
  · have hrecord : ∀ entries, (record value).check order (some (.obj entries)) =
        (keyed (memberOutcomes order value entries)).map .obj := fun entries => by
      rw [check_record, narrow_obj, memberOutcomes]
    simp only [hrecord]
    refine ⟨fun output => ?_, fun e => ?_, fun key e' entries' hrefused hagree => ?_⟩
    · rw [map_ok_iff]
      refine exists_congr fun outputs => ?_
      rw [members_accepted_iff, and_comm, eq_comm]
    · rw [map_error_iff, members_refused_iff]
      simp only [eq_comm (a := e)]
      rfl
    · obtain ⟨hkey, he', -⟩ := firstRefused_members_iff.1 hrefused
      rw [members_congr hkey he' hagree]

/-- Of two bad values the one of the lesser key is reported, and it is the same with only one. -/
theorem check_pointwise_scores :
    let both : Entries Json := [("z", .str "bad"), ("m", .str "low"), ("a", .int 1)]
    let one : Entries Json := [("m", .str "low"), ("a", .int 1)]
    ((record (leaf .integer)).check .sorted (some (.obj one))).result.mapError Failure.path =
        .error [.key "m"] ∧
      (record (leaf .integer)).check .sorted (some (.obj both)) =
        (record (leaf .integer)).check .sorted (some (.obj one)) := by
  intro both one
  have hrecord := (check_pointwise .sorted).2.2.1 (leaf .integer) one
  have hrefused : (memberParts (leaf .integer) one).FirstRefused .sorted "m"
      (.typeMismatch "integer" (some (.str "low"))) := by
    refine firstRefused_members_iff.2 ⟨by simp [one, Entries.keys], rfl, fun k hk hlt => ?_⟩
    simp only [one, Entries.keys, List.map_cons, List.map_nil, List.mem_cons,
      List.not_mem_nil, or_false] at hk
    rcases hk with rfl | rfl
    · exact (lt_irrefl _ hlt).elim
    · exact ⟨.int 1, rfl⟩
  refine ⟨?_, hrecord.2.2 "m" _ both hrefused fun k hk => ?_⟩
  · rw [(hrecord.2.1 _).2 ⟨"m", _, hrefused, rfl⟩]
    rfl
  · have hz : (k == "z") = false := beq_false_of_ne fun heq => absurd (heq ▸ hk) (by decide)
    rw [List.lookup_cons, hz]

end Schema

end Conform
