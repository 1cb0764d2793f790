/-
  Schemas whose outcomes are related on each input (`Schema.Alongside`), for relations
  that are kept by all that checks are built with (`Outcome.Compatible`).
-/
import Conform.Proofs.Schema

namespace Conform

/-- What is reported of a part that was refused: its place, and the code of its failure. -/
def Segment.refused : Segment → String → Event
  | .key name => .fieldRejected name
  | .index position => .elementRejected position

namespace Outcome

variable {α β : Type}

theorem map_eq_bind (f : α → β) (o : Outcome α) : o.map f = o.bind fun a => ok (f a) := by
  obtain ⟨events, _ | a⟩ := o
  · rfl
  · simp [map, bind, ok, Traced.map, Traced.after, Except.map]

/-- A relation between outcomes that everything keeps that checks are built with. -/
structure Compatible (R : ∀ {α : Type}, Outcome α → Outcome α → Prop) : Prop where
  ok {α : Type} (a : α) : R (.ok a) (.ok a)
  /-- what a schema refuses at its own place -/
  fail {e : Failure} (path : e.path = []) (causes : e.causes = []) :
    R (.fail e : Outcome Json) (.fail e)
  undeclared (key : String) (value : Json) :
    R (⟨[.undeclaredKey key], .error (.unknownKey key value)⟩ : Outcome Unit)
      ⟨[.undeclaredKey key], .error (.unknownKey key value)⟩
  bind {α β : Type} {o o' : Outcome α} {f g : α → Outcome β} (first : R o o')
    (next : ∀ a, R (f a) (g a)) : R (o.bind f) (o'.bind g)
  within {α : Type} {o o' : Outcome α} (segment : Segment) (part : R o o') :
    R (o.within segment segment.refused) (o'.within segment segment.refused)

namespace Compatible

variable {R : ∀ {α : Type}, Outcome α → Outcome α → Prop} (hR : Compatible R)

include hR

theorem map {o o' : Outcome α} (f : α → β) (h : R o o') : R (o.map f) (o'.map f) := by
  rw [map_eq_bind, map_eq_bind]
  exact hR.bind h fun a => hR.ok (f a)

theorem items {ι κ : Type} {f : ι → Outcome α} {g : κ → Outcome α} {as : List ι} {bs : List κ}
    (h : List.Forall₂ (fun a b => R (f a) (g b)) as bs) (index : Nat) :
    R (Outcome.items f index as) (Outcome.items g index bs) := by
  induction h generalizing index with
  | nil => exact hR.ok []
  | cons hab _ ih =>
    rw [items_cons, items_cons]
    refine hR.bind (hR.within (.index index) hab) fun b => ?_
    exact hR.map (b :: ·) (ih (index + 1))

theorem keyed {os os' : List (String × Outcome α)}
    (h : List.Forall₂ (fun p q => p.1 = q.1 ∧ R p.2 q.2) os os') :
    R (Outcome.keyed os) (Outcome.keyed os') := by
  induction h with
  | nil => exact hR.ok []
  | @cons p q _ _ hpq _ ih =>
    obtain ⟨key, o⟩ := p
    obtain ⟨key', o'⟩ := q
    obtain ⟨rfl, ho⟩ := hpq
    rw [keyed_cons, keyed_cons]
    refine hR.bind (hR.within (.key key) ho) fun a => ?_
    exact hR.map ((key, a) :: ·) ih

theorem narrow {expected : String} {view : Json → Option α} {input : Option Json}
    {next next' : α → Outcome Json} (h : ∀ a, R (next a) (next' a)) :
    R (narrow expected view input next) (Conform.narrow expected view input next') := by
  unfold Conform.narrow
  cases input.bind view with
  | some a => exact h a
  | none => exact hR.fail rfl rfl

theorem refuseUndeclared (declared : List String) (entries : Entries Json) :
    R (refuseUndeclared declared entries) (Conform.refuseUndeclared declared entries) := by
  unfold Conform.refuseUndeclared
  split
  · exact hR.ok ()
  · exact hR.undeclared _ _

end Compatible

end Outcome

namespace Schema

/-- The outcomes of two schemas on each input are related. -/
def Alongside (R : ∀ {α : Type}, Outcome α → Outcome α → Prop) (order : KeyOrder)
    (s s' : Schema) : Prop :=
  ∀ input, R (s.check order input) (s'.check order input)

/-- Fields of the same keys with schemas that are alongside each other. -/
def FieldsAlongside (R : ∀ {α : Type}, Outcome α → Outcome α → Prop) (order : KeyOrder) :
    List (String × Schema) → List (String × Schema) → Prop :=
  List.Forall₂ fun field field' => field.1 = field'.1 ∧ Alongside R order field.2 field'.2

end Schema

namespace Outcome.Compatible

open Schema

variable {R : ∀ {α : Type}, Outcome α → Outcome α → Prop} (hR : Compatible R) {order : KeyOrder}
  {s s' : Schema}

include hR

/-! ## Leaves -/

theorem leaf (l : Leaf) : Alongside R order (leaf l) (leaf l) := by
  intro input
  rw [check, l.check_eq_narrow]
  exact hR.narrow hR.ok

theorem literal (expected : Json) : Alongside R order (literal expected) (literal expected) := by
  intro input
  rw [check]
  unfold checkLiteral
  split
  · split_ifs
    · exact hR.ok _
    · exact hR.fail rfl rfl
  · exact hR.fail rfl rfl

theorem enums (variants : List String) : Alongside R order (enums variants) (enums variants) := by
  intro input
  rw [check, checkEnums, withString_eq_narrow]
  refine hR.narrow fun text => ?_
  split_ifs
  · exact hR.ok _
  · exact hR.fail rfl rfl

theorem pattern (p : Pattern) : Alongside R order (pattern p) (pattern p) := by
  intro input
  rw [check, checkPattern, withString_eq_narrow]
  refine hR.narrow fun text => ?_
  split_ifs
  · exact hR.ok _
  · exact hR.fail rfl rfl

/-! ## Arrays and objects -/

theorem array (h : Alongside R order s s') : Alongside R order (array s) (array s') := by
  intro input
  rw [check_array, check_array]
  refine hR.narrow fun values => hR.map _ (hR.items ?_ 0)
  exact List.forall₂_same.2 fun value _ => h (some value)

theorem tuple {items items' : List Schema} (h : List.Forall₂ (Alongside R order) items items') :
    Alongside R order (tuple items) (tuple items') := by
  intro input
  rw [check_tuple, check_tuple, ← h.length_eq]
  refine hR.narrow fun values => ?_
  split_ifs
  · have hself : List.Forall₂ (· = ·) values values := List.forall₂_same.2 fun _ _ => rfl
    refine hR.map _ (hR.items ((forall₂_zip h hself).imp ?_) 0)
    rintro ⟨t, value⟩ ⟨t', _⟩ ⟨ht, rfl⟩
    exact ht (some value)
  · exact hR.fail rfl rfl

theorem record (h : Alongside R order s s') : Alongside R order (record s) (record s') := by
  intro input
  rw [check_record, check_record]
  refine hR.narrow fun entries => hR.map _ (hR.keyed ?_)
  rw [List.forall₂_map_left_iff, List.forall₂_map_right_iff, List.forall₂_same]
  exact fun key _ => ⟨rfl, h (entries.lookup key)⟩

variable {fields fields' : List (String × Schema)}

theorem fieldRow (h : FieldsAlongside R order fields fields') (entries : Entries Json) :
    R (Outcome.keyed (fieldOutcomes order fields entries))
      (Outcome.keyed (fieldOutcomes order fields' entries)) := by
  refine hR.keyed ?_
  rw [fieldOutcomes, fieldOutcomes, List.forall₂_map_left_iff, List.forall₂_map_right_iff]
  refine h.imp ?_
  rintro ⟨key, t⟩ ⟨_, t'⟩ ⟨rfl, ht⟩
  exact ⟨rfl, ht (entries.lookup key)⟩

theorem object (h : FieldsAlongside R order fields fields') (deny : Bool) :
    Alongside R order (object fields deny) (object fields' deny) := by
  intro input
  have hkeys : Entries.keys fields = Entries.keys fields' :=
    map_eq_of_forall₂ h fun _ _ hfield => hfield.1
  rw [check_object, check_object, ← hkeys]
  refine hR.narrow fun entries => hR.bind (hR.fieldRow h entries) fun outputs => hR.map _ ?_
  cases deny with
  | true => exact hR.refuseUndeclared _ entries
  | false => exact hR.ok ()

theorem typedRecord (h : FieldsAlongside R order fields fields') :
    Alongside R order (typedRecord fields) (typedRecord fields') := by
  intro input
  rw [check_typedRecord, check_typedRecord]
  exact hR.narrow fun entries => hR.map _ (hR.fieldRow h entries)

/-! ## Schemas around one other -/

theorem jsonString (h : Alongside R order s s') :
    Alongside R order (jsonString s) (jsonString s') := by
  intro input
  rw [check, check, withString_eq_narrow, withString_eq_narrow]
  refine hR.narrow fun text => ?_
  cases Json.read order text with
  | ok value => exact h (some value)
  | error fault => exact hR.fail rfl rfl

theorem optional (h : Alongside R order s s') : Alongside R order (optional s) (optional s') := by
  intro input
  cases input with
  | none =>
    rw [check, check]
    exact hR.ok Json.null
  | some value =>
    rw [check, check]
    exact h (some value)

theorem nullable (h : Alongside R order s s') : Alongside R order (nullable s) (nullable s') := by
  intro input
  by_cases hnull : input = some .null
  · rw [hnull, check, check]
    exact hR.ok Json.null
  · rw [check, check]
    · exact h input
    · exact hnull
    · exact hnull

theorem withDefault (h : Alongside R order s s') (fallback : Json) :
    Alongside R order (withDefault s fallback) (withDefault s' fallback) := by
  intro input
  cases input with
  | none =>
    rw [check, check]
    exact hR.ok fallback
  | some value =>
    rw [check, check]
    exact h (some value)

theorem mapResult (h : Alongside R order s s') (f : Json → Option Json) :
    Alongside R order (.map s f) (.map s' f) := by
  intro input
  rw [check_map, check_map]
  refine hR.bind (h input) fun output => ?_
  cases f output with
  | some result => exact hR.ok result
  | none => exact hR.fail rfl rfl

theorem tryMap (h : Alongside R order s s') {f : Json → Outcome Json}
    (hf : ∀ output, R (f output) (f output)) : Alongside R order (tryMap s f) (tryMap s' f) := by
  intro input
  rw [check, check]
  exact hR.bind (h input) hf

theorem chain (h : Alongside R order s s') (steps : List (Json → Json)) :
    Alongside R order (chain s steps) (chain s' steps) := by
  intro input
  rw [check, check]
  exact hR.map _ (h input)

end Outcome.Compatible

end Conform
