/-
  Conform JSON: the entries of objects.

  * `KeyOrder`: whether objects keep their keys sorted or as they were put in.
  * `KeyOrder.insert`: an entry is put in; the value of a key that is there already
    is replaced where it stands.
  * `KeyOrder.ofList`: entries put in one after the other.
  * `Entries.sortedKeys`: the keys in sorted order.
  * `Entries.keys_insertLast`: a new key goes to the end, and a known one stays where
    it is.

  Keys are sorted by code points, which is the order of the bytes of their UTF-8
  text.
-/
import Conform.Json.Basic

namespace Conform

/-- Entries of an object. -/
abbrev Entries (α : Type) := List (String × α)

namespace Entries

variable {α : Type}

/-- The keys of entries, in order. -/
def keys (entries : Entries α) : List String := entries.map Prod.fst

/-- The key has an entry. -/
def hasKey (key : String) (entries : Entries α) : Bool := entries.any (·.1 == key)

/-- The entry of `key` gets a new value where it stands. -/
def replace (key : String) (value : α) (entries : Entries α) : Entries α :=
  entries.map fun entry => if entry.1 == key then (key, value) else entry

/-- The entry is put before the first greater key; the value of an equal key is replaced. -/
def insertSorted (key : String) (value : α) : Entries α → Entries α
  | [] => [(key, value)]
  | (k, v) :: rest =>
    if key = k then (key, value) :: rest
    else if key < k then (key, value) :: (k, v) :: rest
    else (k, v) :: insertSorted key value rest

/-- The entry replaces that of an equal key where it stands, or is put at the end. -/
def insertLast (key : String) (value : α) (entries : Entries α) : Entries α :=
  if entries.hasKey key then entries.replace key value else entries ++ [(key, value)]

theorem hasKey_iff {key : String} {entries : Entries α} :
    entries.hasKey key = true ↔ key ∈ entries.keys := by
  simp [hasKey, keys]

theorem keys_replace (key : String) (value : α) (entries : Entries α) :
    (entries.replace key value).keys = entries.keys := by
  induction entries with
  | nil => rfl
  | cons entry rest ih =>
    simp only [replace, keys, List.map_cons, List.cons.injEq] at ih ⊢
    refine ⟨?_, ih⟩
    split <;> simp_all

/-- A new key goes to the end, and a known one stays where it is. -/
theorem keys_insertLast (key : String) (value : α) (entries : Entries α) :
    (entries.insertLast key value).keys =
      if key ∈ entries.keys then entries.keys else entries.keys ++ [key] := by
  unfold insertLast
  by_cases h : key ∈ entries.keys
  · rw [if_pos (hasKey_iff.2 h), if_pos h, keys_replace]
  · rw [if_neg (fun hkey => h (hasKey_iff.1 hkey)), if_neg h]
    simp [keys]

/-- Entries with different keys stay so. -/
theorem nodup_keys_insertLast (key : String) (value : α) {entries : Entries α}
    (h : entries.keys.Nodup) : (entries.insertLast key value).keys.Nodup := by
  rw [keys_insertLast]
  split
  · exact h
  · next hkey => exact List.nodup_append.2 ⟨h, by simp, by grind⟩

end Entries

/-- The order in which objects keep their keys. -/
inductive KeyOrder
  /-- by code points -/
  | sorted
  /-- as they were put in -/
  | insertion
deriving DecidableEq

namespace KeyOrder

variable {α : Type}

/-- An entry is put in; the value of a key that is there already is replaced where it stands. -/
def insert : KeyOrder → String → α → Entries α → Entries α
  | .sorted => Entries.insertSorted
  | .insertion => Entries.insertLast

/-- Entries put in one after the other. -/
def ofList (order : KeyOrder) (entries : Entries α) : Entries α :=
  entries.foldl (fun built entry => order.insert entry.1 entry.2 built) []

end KeyOrder

/-- The keys of entries by code points, each once. -/
def Entries.sortedKeys {α : Type} (entries : Entries α) : List String :=
  Entries.keys (KeyOrder.sorted.ofList entries)

end Conform
