/-
  What is known of entries by their keys: what is found, how sorted keys stand, and
  which entries stand as in an object (`KeyOrder.Keeps`).
-/
import Conform.Json.Entries
import Mathlib.Data.List.Induction
import Mathlib.Data.List.Nodup
import Mathlib.Data.String.Basic

namespace Conform

namespace Entries

variable {α : Type} {entries entries' : Entries α} {key : String} {value : α}

/-! ## Looking up -/

theorem mem_of_lookup (h : entries.lookup key = some value) : (key, value) ∈ entries := by
  obtain ⟨before, after, rfl, -⟩ := List.lookup_eq_some_iff.1 h
  simp

theorem mem_keys_of_mem (h : (key, value) ∈ entries) : key ∈ entries.keys :=
  List.mem_map_of_mem (f := Prod.fst) h

theorem mem_keys_reverse : key ∈ Entries.keys entries.reverse ↔ key ∈ entries.keys := by
  rw [keys, keys, List.map_reverse, List.mem_reverse]

theorem lookup_eq_none_iff : entries.lookup key = none ↔ key ∉ entries.keys := by
  rw [List.lookup_eq_none_iff]
  constructor
  · intro h hkey
    obtain ⟨entry, hentry, rfl⟩ := List.mem_map.1 hkey
    simpa using h entry hentry
  · intro h entry hentry
    exact bne_iff_ne.2 fun he => h (he ▸ mem_keys_of_mem hentry)

theorem mem_keys_iff : key ∈ entries.keys ↔ ∃ value, entries.lookup key = some value := by
  rw [← not_iff_not, ← lookup_eq_none_iff, Option.eq_none_iff_forall_ne_some]
  simp

theorem hasKey_eq_isSome : entries.hasKey key = (entries.lookup key).isSome := by
  rw [Bool.eq_iff_iff, hasKey_iff, mem_keys_iff, Option.isSome_iff_exists]

/-- The first entry with a key is the one that is found. -/
theorem lookup_eq_some_iff_first : entries.lookup key = some value ↔
    ∃ before after, entries = before ++ (key, value) :: after ∧ key ∉ Entries.keys before := by
  have hnot : ∀ before : Entries α,
      key ∉ before.keys ↔ ∀ entry ∈ before, (key != entry.1) = true :=
    fun _ => lookup_eq_none_iff.symm.trans List.lookup_eq_none_iff
  simp only [List.lookup_eq_some_iff, hnot]

theorem lookup_append_cons {before after : Entries α} (h : key ∉ before.keys) :
    List.lookup key (before ++ (key, value) :: after) = some value :=
  lookup_eq_some_iff_first.2 ⟨before, after, rfl, h⟩

/-- Where keys differ, each entry is the one that is found. -/
theorem lookup_eq_some_iff (h : entries.keys.Nodup) :
    entries.lookup key = some value ↔ (key, value) ∈ entries := by
  refine ⟨mem_of_lookup, fun hmem => ?_⟩
  induction entries with
  | nil => cases hmem
  | cons entry rest ih =>
    obtain ⟨k, v⟩ := entry
    obtain ⟨hnot, hrest⟩ := List.nodup_cons.1 h
    rcases List.mem_cons.1 hmem with heq | hmem
    · cases heq; simp
    · have hne : (key == k) = false :=
        beq_false_of_ne fun he => hnot (he ▸ mem_keys_of_mem hmem)
      simp [List.lookup_cons, hne, ih hrest hmem]

theorem nodup_keys_of_perm (hp : entries.Perm entries') (h : entries.keys.Nodup) :
    entries'.keys.Nodup :=
  (hp.map Prod.fst).nodup_iff.1 h

theorem lookup_eq_of_perm (hp : entries.Perm entries') (h : entries.keys.Nodup) (key : String) :
    entries.lookup key = entries'.lookup key := by
  ext value
  rw [lookup_eq_some_iff h, lookup_eq_some_iff (nodup_keys_of_perm hp h), hp.mem_iff]

theorem nodup_keys_filter (p : String × α → Bool) (h : entries.keys.Nodup) :
    Entries.keys (entries.filter p) |>.Nodup :=
  h.sublist (List.filter_sublist.map Prod.fst)

/-- Where keys differ, entries are known by their members once their keys stand in the same
    order. -/
theorem eq_of_perm_of_keys (h : entries.keys.Nodup) (hp : entries.Perm entries')
    (hkeys : entries.keys = entries'.keys) : entries = entries' := by
  induction entries generalizing entries' with
  | nil => exact hp.nil_eq
  | cons entry rest ih =>
    obtain _ | ⟨entry', rest'⟩ := entries'
    · cases hkeys
    · obtain ⟨hkey, hrest⟩ := List.cons.inj hkeys
      obtain ⟨hnot, hnodup⟩ := List.nodup_cons.1 h
      have hsame : entry' = entry := by
        rcases List.mem_cons.1 (hp.mem_iff.2 List.mem_cons_self) with heq | hmem
        · exact heq
        · exact (hnot (hkey ▸ mem_keys_of_mem hmem)).elim
      subst hsame
      rw [ih hnodup ((List.perm_cons _).1 hp) hrest]

/-- Entries with the same different keys are known by what is found. -/
theorem eq_of_lookup (h : entries.keys.Nodup) (hkeys : entries.keys = entries'.keys)
    (hlookup : ∀ key, entries.lookup key = entries'.lookup key) : entries = entries' := by
  have h' : entries'.keys.Nodup := hkeys ▸ h
  refine eq_of_perm_of_keys h ?_ hkeys
  refine (List.perm_ext_iff_of_nodup h.of_map h'.of_map).2 fun entry => ?_
  rw [← lookup_eq_some_iff h, hlookup, lookup_eq_some_iff h']

/-- Where keys differ, an entry that is found is either kept or found no more. -/
theorem lookup_filter (p : String × α → Bool) (h : entries.keys.Nodup) (key : String) :
    List.lookup key (entries.filter p) =
      (entries.lookup key).filter fun value => p (key, value) := by
  ext value
  rw [lookup_eq_some_iff (nodup_keys_filter p h), Option.filter_eq_some_iff, lookup_eq_some_iff h,
    List.mem_filter]

/-! ## Putting in -/

theorem insertSorted_perm (h : key ∉ entries.keys) :
    (entries.insertSorted key value).Perm ((key, value) :: entries) := by
  induction entries with
  | nil => exact .refl _
  | cons entry rest ih =>
    obtain ⟨k, v⟩ := entry
    simp only [keys, List.map_cons, List.mem_cons, not_or] at h
    simp only [insertSorted, if_neg h.1]
    split
    · exact .refl _
    · exact ((ih h.2).cons _).trans (.swap _ _ _)

theorem mem_keys_insertSorted {k : String} :
    k ∈ (entries.insertSorted key value).keys ↔ k = key ∨ k ∈ entries.keys := by
  induction entries with
  | nil => simp [insertSorted, keys]
  | cons entry rest ih =>
    obtain ⟨k', v'⟩ := entry
    simp only [insertSorted]
    split_ifs with h h'
    · subst h; simp [keys]
    · simp [keys]
    · simp only [keys, List.map_cons, List.mem_cons] at ih ⊢
      rw [ih]; tauto

theorem insertSorted_pairwise (h : entries.keys.Pairwise (· < ·)) :
    (entries.insertSorted key value).keys.Pairwise (· < ·) := by
  induction entries with
  | nil => simp [insertSorted, keys]
  | cons entry rest ih =>
    obtain ⟨k, v⟩ := entry
    obtain ⟨hk, hrest⟩ := List.pairwise_cons.1 h
    simp only [insertSorted]
    split_ifs with heq hlt
    · subst heq; exact h
    · have hall : ∀ k' ∈ Entries.keys ((k, v) :: rest), key < k' :=
        List.forall_mem_cons.2 ⟨hlt, fun k' hk' => hlt.trans (hk k' hk')⟩
      exact List.pairwise_cons.2 ⟨hall, h⟩
    · refine List.pairwise_cons.2 ⟨fun k' hk' => ?_, ih hrest⟩
      rcases mem_keys_insertSorted.1 hk' with rfl | hk'
      · exact lt_of_le_of_ne (not_lt.1 hlt) (Ne.symm heq)
      · exact hk k' hk'

theorem insertLast_of_not_mem (h : key ∉ entries.keys) :
    entries.insertLast key value = entries ++ [(key, value)] := by
  rw [insertLast, if_neg fun hkey => h (hasKey_iff.1 hkey)]

theorem lookup_replace (key : String) (value : α) (entries : Entries α) (k : String) :
    (entries.replace key value).lookup k =
      (entries.lookup k).map fun old => if k = key then value else old := by
  induction entries with
  | nil => rfl
  | cons entry rest ih =>
    obtain ⟨k', old⟩ := entry
    rw [replace, List.map_cons, ← replace]
    by_cases hk : k = k'
    · subst hk
      by_cases hkey : k = key <;> simp [hkey]
    · by_cases hkey : k' = key
      · subst hkey
        simp [List.lookup_cons, beq_false_of_ne hk, hk, ih]
      · simp [List.lookup_cons, beq_false_of_ne hk, hkey, ih]

/-- The entry that is put in is found, and all others are found as before. -/
theorem lookup_insertLast (key : String) (value : α) (entries : Entries α) (k : String) :
    (entries.insertLast key value).lookup k = if k = key then some value else entries.lookup k := by
  by_cases h : key ∈ entries.keys
  · obtain ⟨old, hold⟩ := mem_keys_iff.1 h
    rw [insertLast, if_pos (hasKey_iff.2 h), lookup_replace]
    split_ifs with hk
    · rw [hk, hold, Option.map_some]
    · exact Option.map_id'
  · rw [insertLast_of_not_mem h, List.lookup_append]
    split_ifs with hk
    · rw [hk, lookup_eq_none_iff.2 h]
      simp
    · simp [List.lookup_cons, beq_false_of_ne hk]

end Entries

namespace KeyOrder

open Entries

variable {α : Type} {entries entries' : Entries α} {key : String} {value : α}

theorem insert_perm (order : KeyOrder) (h : key ∉ entries.keys) :
    (order.insert key value entries).Perm ((key, value) :: entries) := by
  cases order with
  | sorted => exact insertSorted_perm h
  | insertion =>
    simp only [insert, insertLast_of_not_mem h]
    exact List.perm_append_singleton _ _

/-- **Entries with different keys are all kept**, in whatever order. -/
theorem ofList_perm (order : KeyOrder) (h : entries.keys.Nodup) :
    (order.ofList entries).Perm entries := by
  suffices ∀ (built : Entries α), (built ++ entries).keys.Nodup →
      (entries.foldl (fun built entry => order.insert entry.1 entry.2 built) built).Perm
        (built ++ entries) from this [] h
  clear h
  induction entries with
  | nil => intro built _; simp
  | cons entry rest ih =>
    intro built h
    have hmid : (built ++ entry :: rest).Perm ((entry :: built) ++ rest) := List.perm_middle
    have hnew : entry.1 ∉ built.keys := by
      have := nodup_keys_of_perm hmid h
      simp only [keys, List.cons_append, List.map_cons, List.map_append, List.nodup_cons] at this
      exact fun hmem => this.1 (List.mem_append_left _ hmem)
    have hput : (order.insert entry.1 entry.2 built ++ rest).Perm (built ++ entry :: rest) :=
      ((insert_perm order hnew).append_right rest).trans hmid.symm
    exact (ih _ (nodup_keys_of_perm hput.symm h)).trans hput

theorem lookup_ofList (order : KeyOrder) (h : entries.keys.Nodup) (key : String) :
    (order.ofList entries).lookup key = entries.lookup key :=
  (lookup_eq_of_perm (ofList_perm order h).symm h key).symm

end KeyOrder

/-! ## Sorted keys -/

namespace Entries

variable {α β : Type} {entries : Entries α} {entries' : Entries β} {key : String}

theorem mem_sortedKeys : key ∈ entries.sortedKeys ↔ key ∈ entries.keys := by
  suffices ∀ (built : Entries α), key ∈ (entries.foldl
      (fun built entry => KeyOrder.sorted.insert entry.1 entry.2 built) built).keys ↔
        key ∈ built.keys ∨ key ∈ entries.keys by
    simpa [sortedKeys, KeyOrder.ofList, keys] using this []
  induction entries with
  | nil => intro built; simp [keys]
  | cons entry rest ih =>
    intro built
    rw [List.foldl_cons, ih, KeyOrder.insert, mem_keys_insertSorted]
    simp only [keys, List.map_cons, List.mem_cons]
    tauto

theorem sortedKeys_pairwise : entries.sortedKeys.Pairwise (· < ·) := by
  suffices ∀ (built : Entries α), built.keys.Pairwise (· < ·) → (entries.foldl
      (fun built entry => KeyOrder.sorted.insert entry.1 entry.2 built) built).keys.Pairwise
        (· < ·) from this [] (by simp [keys])
  induction entries with
  | nil => exact fun built h => h
  | cons entry rest ih => exact fun built h => ih _ (insertSorted_pairwise h)

theorem nodup_sortedKeys : entries.sortedKeys.Nodup :=
  sortedKeys_pairwise.nodup

theorem nodup_keys_ofList (order : KeyOrder) (entries : Entries α) :
    (order.ofList entries).keys.Nodup := by
  cases order with
  | sorted => exact nodup_sortedKeys
  | insertion =>
    suffices ∀ (built : Entries α), built.keys.Nodup → (entries.foldl
        (fun built entry => KeyOrder.insertion.insert entry.1 entry.2 built) built).keys.Nodup from
      this [] List.nodup_nil
    induction entries with
    | nil => exact fun built h => h
    | cons entry rest ih => exact fun built h => ih _ (nodup_keys_insertLast _ _ h)

/-- Nothing is put in but what is given. -/
theorem mem_of_mem_insert {order : KeyOrder} {entry : String × α} {value : α}
    (h : entry ∈ order.insert key value entries) : entry = (key, value) ∨ entry ∈ entries := by
  cases order with
  | sorted =>
    induction entries with
    | nil => exact Or.inl (List.mem_singleton.1 h)
    | cons first rest ih =>
      obtain ⟨k, v⟩ := first
      simp only [KeyOrder.insert, insertSorted] at h ih
      split_ifs at h
      · exact (List.mem_cons.1 h).imp_right (List.mem_cons_of_mem _)
      · exact List.mem_cons.1 h
      · rcases List.mem_cons.1 h with rfl | h
        · exact Or.inr List.mem_cons_self
        · exact (ih h).imp_right (List.mem_cons_of_mem _)
  | insertion =>
    simp only [KeyOrder.insert, insertLast, replace] at h
    split_ifs at h
    · obtain ⟨old, hold, rfl⟩ := List.mem_map.1 h
      split_ifs
      · exact Or.inl rfl
      · exact Or.inr hold
    · exact (List.mem_append.1 h).symm.imp_left List.mem_singleton.1

/-- Keys in ascending order are known by their members. -/
theorem eq_of_perm_of_ascending {ks ks' : List String} (h : ks.Pairwise (· < ·))
    (h' : ks'.Pairwise (· < ·)) (hp : ks.Perm ks') : ks = ks' :=
  hp.eq_of_pairwise (fun _ _ _ _ hab hba => (lt_asymm hab hba).elim) h h'

/-- A row of keys in ascending order is the sorted keys of all entries that have these keys. -/
theorem sortedKeys_eq {ks : List String} (hks : ks.Pairwise (· < ·))
    (h : ∀ key, key ∈ entries.keys ↔ key ∈ ks) : entries.sortedKeys = ks := by
  refine eq_of_perm_of_ascending sortedKeys_pairwise hks ?_
  refine (List.perm_ext_iff_of_nodup nodup_sortedKeys hks.nodup).2 ?_
  exact fun key => mem_sortedKeys.trans (h key)

/-- **The sorted keys depend on the keys alone.** -/
theorem sortedKeys_congr (h : ∀ key, key ∈ entries.keys ↔ key ∈ entries'.keys) :
    entries.sortedKeys = entries'.sortedKeys :=
  sortedKeys_eq sortedKeys_pairwise fun key => (h key).trans mem_sortedKeys.symm

end Entries

/-! ## Entries in order -/

namespace KeyOrder

variable {α : Type} {order : KeyOrder} {entries entries' : Entries α} {key : String} {value : α}

/-- Keys stand as in an object: each once, and sorted if objects sort their keys. -/
def Keeps : KeyOrder → Entries α → Prop
  | .sorted, entries => entries.keys.Pairwise (· < ·)
  | .insertion, entries => entries.keys.Nodup

/-- Sorted entries stand as in any object. -/
theorem Keeps.of_pairwise (h : entries.keys.Pairwise (· < ·)) : order.Keeps entries := by
  cases order with
  | sorted => exact h
  | insertion => exact h.nodup

theorem Keeps.sublist (h : order.Keeps entries') (hsub : entries.Sublist entries') :
    order.Keeps entries := by
  cases order with
  | sorted => exact List.Pairwise.sublist (hsub.map Prod.fst) h
  | insertion => exact List.Nodup.sublist (hsub.map Prod.fst) h

theorem insertSorted_eq_append (h : ∀ k ∈ entries.keys, k < key) :
    entries.insertSorted key value = entries ++ [(key, value)] := by
  induction entries with
  | nil => rfl
  | cons entry rest ih =>
    obtain ⟨k, v⟩ := entry
    obtain ⟨hk, hrest⟩ := List.forall_mem_cons.1 h
    rw [Entries.insertSorted, if_neg hk.ne', if_neg hk.asymm, ih hrest, List.cons_append]

theorem insert_eq_append (h : order.Keeps (entries ++ [(key, value)])) :
    order.insert key value entries = entries ++ [(key, value)] := by
  have hkeys : Entries.keys (entries ++ [(key, value)]) = entries.keys ++ [key] := by
    simp [Entries.keys]
  cases order with
  | sorted =>
    rw [Keeps, hkeys, List.pairwise_append] at h
    exact insertSorted_eq_append fun k hk => h.2.2 k hk key List.mem_cons_self
  | insertion =>
    rw [Keeps, hkeys, List.nodup_append] at h
    exact Entries.insertLast_of_not_mem fun hk => h.2.2 key hk key List.mem_cons_self rfl

theorem keeps_ofList (order : KeyOrder) (entries : Entries α) :
    order.Keeps (order.ofList entries) := by
  cases order with
  | sorted => exact Entries.sortedKeys_pairwise
  | insertion => exact Entries.nodup_keys_ofList .insertion entries

theorem Keeps.eq_of_perm (h : KeyOrder.sorted.Keeps entries) (h' : KeyOrder.sorted.Keeps entries')
    (hp : entries.Perm entries') : entries = entries' :=
  Entries.eq_of_perm_of_keys h.nodup hp (Entries.eq_of_perm_of_ascending h h' (hp.map Prod.fst))

/-- **Entries in order stay as they are** when they are put in one after the other. -/
theorem ofList_eq_self (h : order.Keeps entries) : order.ofList entries = entries := by
  induction entries using List.reverseRecOn with
  | nil => rfl
  | append_singleton entries entry ih =>
    have hbefore := h.sublist (List.sublist_append_left entries [entry])
    rw [ofList, List.foldl_append, ← ofList, ih hbefore, List.foldl_cons, List.foldl_nil]
    exact insert_eq_append h

/-- It does not matter whether entries are left out before or after the others are put in. -/
theorem ofList_filter (order : KeyOrder) (h : entries.keys.Nodup) (p : String × α → Bool) :
    order.ofList (entries.filter p) = (order.ofList entries).filter p := by
  cases order with
  | sorted =>
    have hp : (KeyOrder.sorted.ofList (entries.filter p)).Perm
        ((KeyOrder.sorted.ofList entries).filter p) :=
      (ofList_perm _ (Entries.nodup_keys_filter p h)).trans ((ofList_perm _ h).filter p).symm
    exact (keeps_ofList _ _).eq_of_perm ((keeps_ofList _ _).sublist List.filter_sublist) hp
  | insertion =>
    have hkept : KeyOrder.insertion.Keeps entries := h
    rw [ofList_eq_self hkept, ofList_eq_self (hkept.sublist List.filter_sublist)]

end KeyOrder

end Conform
