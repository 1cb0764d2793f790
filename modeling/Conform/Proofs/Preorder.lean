/-
  The failures of a tree in a row, and the nodes of its report: both walks meet the
  same failures in the same order, once at each place of the tree.
-/
import Conform.Failure.Tree
import Conform.Proofs.Entries
import Mathlib.Algebra.Ring.Nat
import Mathlib.Data.List.Forall2

namespace Conform

/-! ## Reading reports -/

namespace Json

mutual

/-- The nodes of a report, each before those of its causes from left to right. -/
def nodes : Json → List Json
  | .obj entries => .obj entries :: nodesBehind entries
  | value => [value]

/-- The nodes behind one that has these entries. -/
def nodesBehind : List (String × Json) → List Json
  | [] => []
  | (key, value) :: rest => if key = "causes" then nodesOfItems value else nodesBehind rest

/-- The nodes of the items of an array. -/
def nodesOfItems : Json → List Json
  | .arr items => nodesAll items
  | _ => []

/-- The nodes of reports, one report after the other. -/
def nodesAll : List Json → List Json
  | [] => []
  | item :: rest => nodes item ++ nodesAll rest

end

theorem nodesBehind_of_lookup {entries : Entries Json} {items : List Json}
    (h : entries.lookup "causes" = some (.arr items)) : nodesBehind entries = nodesAll items := by
  induction entries with
  | nil => cases h
  | cons entry rest ih =>
    obtain ⟨key, value⟩ := entry
    rw [nodesBehind]
    by_cases hkey : key = "causes"
    · subst hkey
      rw [List.lookup_cons_self] at h
      cases h
      rw [if_pos rfl, nodesOfItems]
    · rw [List.lookup_cons, beq_false_of_ne (Ne.symm hkey)] at h
      rw [if_neg hkey, ih h]

/-- A node of a report has the code, the message, the path and the value of a failure; an absent
    value is written like `null`. -/
inductive Shows : Json → Failure → Prop
  | intro {entries : Entries Json} {e : Failure}
      (code : entries.lookup "code" = some (.str e.code))
      (message : entries.lookup "message" = some (.str e.message))
      (path : entries.lookup "path" = some (.str e.pathString))
      (input : entries.lookup "input" = some (e.input.getD .null)) : Shows (.obj entries) e

end Json

namespace Failure

variable {order : KeyOrder} {e n : Failure} {place : List Nat}

/-- The entries of a report as they are put in. -/
def members (order : KeyOrder) (e : Failure) : Entries Json :=
  [("code", .str e.code), ("message", .str e.message), ("path", .str e.pathString),
    ("input", e.input.getD .null), ("causes", .arr (reportAll order e.causes))]

theorem report_eq (order : KeyOrder) (e : Failure) :
    e.report order = .obj (order.ofList (members order e)) := by
  cases e
  rw [report]
  rfl

theorem lookup_members (order : KeyOrder) (e : Failure) (key : String) :
    (order.ofList (members order e)).lookup key = (members order e).lookup key :=
  KeyOrder.lookup_ofList order (by simp [members, Entries.keys]) key

theorem shows_report (order : KeyOrder) (e : Failure) : (e.report order).Shows e := by
  rw [report_eq]
  constructor <;> rw [lookup_members] <;> rfl

mutual

/-- **The nodes of a report are the reports of all failures in a row.** -/
theorem nodes_report (order : KeyOrder) : ∀ e : Failure,
    (e.report order).nodes = e.flatten.map (report order)
  | ⟨code, message, input, path, causes⟩ => by
    rw [report_eq, Json.nodes, ← report_eq, Json.nodesBehind_of_lookup (lookup_members order _ _),
      nodesAll_reportAll order causes, flatten, List.map_cons]

theorem nodesAll_reportAll (order : KeyOrder) : ∀ causes : List Failure,
    Json.nodesAll (reportAll order causes) = (flattenAll causes).map (report order)
  | [] => by rw [reportAll, Json.nodesAll, flattenAll, List.map_nil]
  | cause :: rest => by
    rw [reportAll, Json.nodesAll, nodes_report order cause, nodesAll_reportAll order rest,
      flattenAll, List.map_append]

end

theorem length_flatten (e : Failure) :
    e.flatten.length = 1 + (e.causes.map fun cause => cause.flatten.length).sum := by
  rw [flatten_eq, List.length_cons, flattenAll_eq_flatMap, List.length_flatMap, Nat.add_comm]

/-! ## Places -/

/-- The failure at a place in a tree. A place is the row of the numbers of the causes that lead to
    it, so equal failures may stand at different places. -/
def behind? : Failure → List Nat → Option Failure
  | e, [] => some e
  | e, number :: place => e.causes[number]?.bind fun cause => cause.behind? place

mutual

/-- The places of a tree, each before those behind it from left to right. -/
def places : Failure → List (List Nat)
  | ⟨_, _, _, _, causes⟩ => [] :: placesFrom 0 causes

/-- The places of causes that are numbered from a number on. -/
def placesFrom : Nat → List Failure → List (List Nat)
  | _, [] => []
  | number, cause :: rest => (places cause).map (number :: ·) ++ placesFrom (number + 1) rest

end

theorem places_eq (e : Failure) : e.places = [] :: placesFrom 0 e.causes := by
  cases e
  rw [places]

theorem mem_placesFrom_iff {start : Nat} {causes : List Failure} :
    place ∈ placesFrom start causes ↔ ∃ number cause rest, causes[number]? = some cause ∧
      rest ∈ cause.places ∧ place = (start + number) :: rest := by
  induction causes generalizing start with
  | nil => simp [placesFrom]
  | cons cause others ih =>
    rw [placesFrom, List.mem_append, List.mem_map, ih]
    constructor
    · rintro (⟨rest, hrest, rfl⟩ | ⟨number, cause', rest, hcause, hrest, rfl⟩)
      · exact ⟨0, cause, rest, rfl, hrest, rfl⟩
      · exact ⟨number + 1, cause', rest, hcause, hrest, by rw [Nat.succ_add_eq_add_succ]⟩
    · rintro ⟨_ | number, cause', rest, hcause, hrest, rfl⟩
      · cases hcause
        exact Or.inl ⟨rest, hrest, rfl⟩
      · exact Or.inr ⟨number, cause', rest, hcause, hrest, by rw [Nat.succ_add_eq_add_succ]⟩

/-- **The places of a tree are those at which there is a failure.** -/
theorem mem_places_iff : place ∈ e.places ↔ ∃ n, e.behind? place = some n := by
  induction place generalizing e with
  | nil => simp [places_eq, behind?]
  | cons number place ih =>
    rw [places_eq, List.mem_cons, mem_placesFrom_iff]
    constructor
    · rintro (h | ⟨number', cause, place', hcause, hplace, heq⟩)
      · cases h
      · rw [Nat.zero_add] at heq
        cases heq
        obtain ⟨n, hn⟩ := ih.1 hplace
        exact ⟨n, Option.bind_eq_some_iff.2 ⟨cause, hcause, hn⟩⟩
    · rintro ⟨n, hn⟩
      obtain ⟨cause, hcause, hn⟩ := Option.bind_eq_some_iff.1 hn
      exact Or.inr ⟨number, cause, place, hcause, ih.2 ⟨n, hn⟩, by rw [Nat.zero_add]⟩

mutual

/-- **The failures in a row stand at the places of the tree, one by one.** -/
theorem behind?_places : ∀ e : Failure,
    List.Forall₂ (fun place n => e.behind? place = some n) e.places e.flatten
  | ⟨code, message, input, path, causes⟩ => by
    rw [places, flatten]
    refine .cons rfl ((behind?_placesFrom 0 causes).imp ?_)
    rintro _ n ⟨number, place, rfl, hn⟩
    rwa [Nat.zero_add]

theorem behind?_placesFrom (start : Nat) : ∀ causes : List Failure,
    List.Forall₂ (fun place n => ∃ number place', place = (start + number) :: place' ∧
      causes[number]?.bind (fun cause => cause.behind? place') = some n)
      (placesFrom start causes) (flattenAll causes)
  | [] => by
    rw [placesFrom, flattenAll]
    exact .nil
  | cause :: rest => by
    rw [placesFrom, flattenAll]
    refine List.rel_append ?_ ?_
    · rw [List.forall₂_map_left_iff]
      exact (behind?_places cause).imp fun place n hn => ⟨0, place, rfl, hn⟩
    · refine (behind?_placesFrom (start + 1) rest).imp ?_
      rintro _ n ⟨number, place, rfl, hn⟩
      exact ⟨number + 1, place, by rw [Nat.succ_add_eq_add_succ], hn⟩

end

mutual

/-- **The places of a tree ascend**: each is before those behind it, and before those behind later
    causes. -/
theorem places_pairwise : ∀ e : Failure, e.places.Pairwise (· < ·)
  | ⟨code, message, input, path, causes⟩ => by
    rw [places, List.pairwise_cons]
    refine ⟨fun place hplace => ?_, placesFrom_pairwise 0 causes⟩
    obtain ⟨number, cause, place', -, -, rfl⟩ := mem_placesFrom_iff.1 hplace
    exact List.nil_lt_cons _ _

theorem placesFrom_pairwise (start : Nat) : ∀ causes : List Failure,
    (placesFrom start causes).Pairwise (· < ·)
  | [] => by
    rw [placesFrom]
    exact .nil
  | cause :: rest => by
    rw [placesFrom, List.pairwise_append]
    refine ⟨(places_pairwise cause).map _ fun a b h => ?_, placesFrom_pairwise (start + 1) rest, ?_⟩
    · exact List.cons_lt_cons_iff.2 (Or.inr ⟨rfl, h⟩)
    · intro a ha b hb
      obtain ⟨place, -, rfl⟩ := List.mem_map.1 ha
      obtain ⟨number, cause', place', -, -, rfl⟩ := mem_placesFrom_iff.1 hb
      exact List.cons_lt_cons_iff.2 (Or.inl (by omega))

end

theorem nodup_places (e : Failure) : e.places.Nodup :=
  (places_pairwise e).imp fun h => ne_of_lt h

/-- What is behind a place comes after it. -/
theorem lt_of_getElem?_places {i j : Nat} {further : List Nat} (hi : e.places[i]? = some place)
    (hj : e.places[j]? = some (place ++ further)) (hne : further ≠ []) : i < j := by
  obtain ⟨hlengthi, hplace⟩ := List.getElem?_eq_some_iff.1 hi
  obtain ⟨hlengthj, hfurther⟩ := List.getElem?_eq_some_iff.1 hj
  obtain ⟨number, further, rfl⟩ := List.exists_cons_of_ne_nil hne
  have hlt : e.places[i] < e.places[j] :=
    calc e.places[i] = place ++ [] := by rw [hplace, List.append_nil]
      _ < place ++ number :: further := List.append_left_lt (List.nil_lt_cons number further)
      _ = e.places[j] := hfurther.symm
  have hascends := List.pairwise_iff_getElem.1 (places_pairwise e)
  rcases Nat.lt_trichotomy i j with hij | rfl | hji
  · exact hij
  · exact (lt_irrefl _ hlt).elim
  · exact (hlt.asymm (hascends j i hlengthj hlengthi hji)).elim

/-! ## Side by side -/

/-- **The two walks agree.** The nodes of the report of a tree show the failures that stand in a
    row, one by one, and there are as many as the row of each cause has and one more. The row has
    the failure at each place of the tree, none is left out and no place is met twice, and a
    failure comes before all that are behind its place. -/
theorem walks_agree (order : KeyOrder) (e : Failure) :
    List.Forall₂ Json.Shows (e.report order).nodes e.flatten ∧
      e.flatten.length = 1 + (e.causes.map fun cause => cause.flatten.length).sum ∧
      (∀ place, place ∈ e.places ↔ ∃ n, e.behind? place = some n) ∧ e.places.Nodup ∧
      List.Forall₂ (fun place n => e.behind? place = some n) e.places e.flatten ∧
      ∀ (i j : Nat) (place further : List Nat), e.places[i]? = some place →
        e.places[j]? = some (place ++ further) → further ≠ [] → i < j := by
  refine ⟨?_, length_flatten e, fun place => mem_places_iff, nodup_places e, behind?_places e,
    fun i j place further hi hj => lt_of_getElem?_places hi hj⟩
  rw [nodes_report, List.forall₂_map_left_iff, List.forall₂_same]
  exact fun n _ => shows_report order n

/-- A failure that stands in two places is met at both, and at the first of them right after the
    one that it is behind. -/
theorem walks_agree_repeated :
    let a := custom "a"
    let b := { custom "b" with input := some (.bool true), causes := [a] }
    let e := { custom "e" with causes := [b, a] }
    e.flatten = [e, b, a, a] ∧ e.places = [[], [0], [0, 0], [1]] ∧
      List.Forall₂ Json.Shows (e.report .sorted).nodes e.flatten ∧
      e.places[1]? = some [0] ∧ e.places[2]? = some ([0] ++ [0]) ∧ [0] ≠ [] ∧ 1 < 2 := by
  intro a b e
  have hb : e.places[1]? = some [0] := rfl
  have ha : e.places[2]? = some ([0] ++ [0]) := rfl
  have hne : [0] ≠ [] := List.cons_ne_nil 0 []
  refine ⟨rfl, rfl, (walks_agree .sorted e).1, hb, ha, hne, ?_⟩
  exact (walks_agree .sorted e).2.2.2.2.2 1 2 [0] [0] hb ha hne

end Failure

end Conform
