/-
  A message of one's own stands in front of a failure and leaves it as the only cause.
  Nothing else depends on it: the schema without messages (`Schema.bare`) accepts and
  refuses alike.
-/
import Conform.Proofs.Agree
import Conform.Proofs.Congruence

namespace Conform

open Outcome

/-! ## Only causes -/

/-- Going from a failure to its only cause, any number of times, leads to another one. -/
inductive Failure.Covers : Failure → Failure → Prop
  | itself (e : Failure) : Covers e e
  | cause {e c o : Failure} (only : e.causes = [c]) (inner : Covers c o) : Covers e o

namespace Schema

/-! ## Bare schemas -/

mutual

/-- The schema without messages of its own, at any depth. Functions stay as they are. -/
def bare : Schema → Schema
  | jsonString inner => jsonString (bare inner)
  | array item => array (bare item)
  | tuple items => tuple (bareItems items)
  | record value => record (bare value)
  | object fields deny => object (bareFields fields) deny
  | typedRecord fields => typedRecord (bareFields fields)
  | optional inner => optional (bare inner)
  | nullable inner => nullable (bare inner)
  | withDefault inner fallback => withDefault (bare inner) fallback
  | withMessage inner _ _ => bare inner
  | map inner f => map (bare inner) f
  | tryMap inner f => tryMap (bare inner) f
  | chain base steps => chain (bare base) steps
  | union alternatives => union (bareItems alternatives)
  | orElse left right => orElse (bare left) (bare right)
  | s => s

/-- All schemas bare. -/
def bareItems : List Schema → List Schema
  | [] => []
  | item :: items => bare item :: bareItems items

/-- All fields bare. -/
def bareFields : List (String × Schema) → List (String × Schema)
  | [] => []
  | (key, field) :: fields => (key, bare field) :: bareFields fields

end

theorem bareItems_eq_map (items : List Schema) : bareItems items = items.map bare := by
  induction items with
  | nil => rfl
  | cons item items ih => rw [bareItems, ih, List.map_cons]

theorem bareFields_eq_map (fields : List (String × Schema)) :
    bareFields fields = fields.map fun field => (field.1, field.2.bare) := by
  induction fields with
  | nil => rfl
  | cons field fields ih => rw [bareFields, ih, List.map_cons]

/-- No message of the schema has a code of its own. -/
def KeepsCode : Schema → Prop
  | withMessage _ _ code => code = none
  | _ => True

/-- The schema is no choice between alternatives. -/
def NoAlternatives : Schema → Prop
  | union _ | orElse _ _ => False
  | _ => True

/-- The functions of the schema raise failures without causes. -/
def RaisesNoCauses : Schema → Prop
  | rule f => ∀ input e, (f input).result = .error e → e.causes = []
  | tryMap _ f => ∀ value e, (f value).result = .error e → e.causes = []
  | _ => True

/-! ## Two runs -/

variable {order : KeyOrder} {F : Failure → Failure → Prop}

/-- A relation between failures is kept by the schema itself: by its message, by its functions, and
    where none of its alternatives accepts. -/
def Keeping (F : Failure → Failure → Prop) : Schema → Prop
  | rule f => ∀ input, Agree (· = ·) F (f input) (f input)
  | tryMap _ f => ∀ value, Agree (· = ·) F (f value) (f value)
  | withMessage _ message code => ∀ e b, F e b → F (e.reworded message code) b
  | union _ | orElse _ _ => ∀ input es bs, List.Forall₂ F es bs →
      F (.noAlternative input es) (.noAlternative input bs)
  | _ => True

theorem agree_compatible (hself : ∀ e : Failure, e.causes = [] → F e e)
    (hwithin : ∀ segment e b, F e b → F (e.within segment) (b.within segment)) :
    Compatible fun {α} => Agree (@Eq α) F where
  ok a := .of_ok rfl
  fail _ causes := .of_fail (hself _ causes)
  undeclared key value := .error rfl rfl (hself (.unknownKey key value) rfl)
  bind first next := by
    refine first.bind ?_
    rintro a _ rfl
    exact next a
  within segment part := part.within fun e b => hwithin segment e b

theorem alongside_union {alternatives alternatives' : List Schema}
    (h : List.Forall₂ (Alongside (fun {α} => Agree (@Eq α) F) order) alternatives alternatives')
    (hF : ∀ input es bs, List.Forall₂ F es bs →
      F (.noAlternative input es) (.noAlternative input bs)) :
    Alongside (fun {α} => Agree (@Eq α) F) order (union alternatives) (union alternatives') := by
  intro input
  rw [check_union, check_union]
  refine Attempts.agree_settle ?_ fun es bs => hF input es bs
  rw [List.forall₂_map_left_iff, List.forall₂_map_right_iff]
  exact h.imp fun _ _ hs => hs input

/-- A relation that is kept holds of the failures of a schema and of its bare form. -/
theorem alongside_bare (hself : ∀ e : Failure, e.causes = [] → F e e)
    (hwithin : ∀ segment e b, F e b → F (e.within segment) (b.within segment)) {s : Schema}
    (hs : s.Everywhere (Keeping F)) :
    Alongside (fun {α} => Agree (@Eq α) F) order s s.bare := by
  have hk := agree_compatible hself hwithin
  induction s with
  | leaf l => exact hk.leaf l
  | literal expected => exact hk.literal expected
  | enums variants => exact hk.enums variants
  | pattern p => exact hk.pattern p
  | rule f => exact hs.here
  | jsonString inner ih => exact hk.jsonString (ih (hs.part rfl))
  | array item ih => exact hk.array (ih (hs.part rfl))
  | tuple items ih =>
    have hitems := fun s hmem => ih s hmem (hs.inside s hmem)
    rw [bare, bareItems_eq_map]
    exact hk.tuple (List.forall₂_map_right_iff.2 (List.forall₂_same.2 hitems))
  | record value ih => exact hk.record (ih (hs.part rfl))
  | object fields deny ih =>
    have hfields := fun field hmem => ih field hmem (hs.field rfl field hmem)
    rw [bare, bareFields_eq_map]
    refine hk.object (List.forall₂_map_right_iff.2 (List.forall₂_same.2 fun field hmem => ?_)) deny
    exact ⟨rfl, hfields field hmem⟩
  | typedRecord fields ih =>
    have hfields := fun field hmem => ih field hmem (hs.field rfl field hmem)
    rw [bare, bareFields_eq_map]
    refine hk.typedRecord (List.forall₂_map_right_iff.2 (List.forall₂_same.2 fun field hmem => ?_))
    exact ⟨rfl, hfields field hmem⟩
  | optional inner ih => exact hk.optional (ih (hs.part rfl))
  | nullable inner ih => exact hk.nullable (ih (hs.part rfl))
  | withDefault inner fallback ih => exact hk.withDefault (ih (hs.part rfl)) fallback
  | withMessage inner message code ih =>
    intro input
    rw [bare, check]
    exact (ih (hs.part rfl) input).mapFailure_left hs.here
  | map inner f ih => exact hk.mapResult (ih (hs.part rfl)) f
  | tryMap inner f ih => exact hk.tryMap (ih (hs.part rfl)) hs.here
  | chain base steps ih => exact hk.chain (ih (hs.part rfl)) steps
  | union alternatives ih =>
    have halternatives := fun s hmem => ih s hmem (hs.inside s hmem)
    rw [bare, bareItems_eq_map]
    exact alongside_union (List.forall₂_map_right_iff.2 (List.forall₂_same.2 halternatives)) hs.here
  | orElse left right ihl ihr =>
    have hleft := ihl (hs.inside left (by simp [children]))
    have hright := ihr (hs.inside right (by simp [children]))
    intro input
    rw [bare, check_orElse, check_orElse]
    exact alongside_union (.cons hleft (.cons hright .nil)) hs.here input

/-! ## What wordings keep -/

/-- Failures at the same place. -/
def SamePlace (e b : Failure) : Prop := e.path = b.path ∧ e.input = b.input

/-- Failures of the same kind. -/
def SameCode (e b : Failure) : Prop := e.code = b.code

/-- Behind a failure stands another one that says what the bare failure says, at a place inside. If
    `plain`, the bare failure has no causes. -/
def Recalls (plain : Prop) (e b : Failure) : Prop :=
  e.path = b.path ∧ (plain → b.causes = []) ∧ ∃ o, e.Covers o ∧ o.code = b.code ∧
    o.message = b.message ∧ o.input = b.input ∧ o.causes = b.causes ∧ o.path <:+ b.path

theorem Recalls.self {plain : Prop} {e : Failure} (h : plain → e.causes = []) :
    Recalls plain e e :=
  ⟨rfl, h, e, .itself e, rfl, rfl, rfl, rfl, List.suffix_rfl⟩

theorem Recalls.within {plain : Prop} {e b : Failure} (segment : Segment) (h : Recalls plain e b) :
    Recalls plain (e.within segment) (b.within segment) := by
  obtain ⟨hpath, hplain, o, hcovers, hcode, hmessage, hinput, hcauses, hsuffix⟩ := h
  have hpath' : (e.within segment).path = (b.within segment).path := congrArg (segment :: ·) hpath
  refine ⟨hpath', hplain, ?_⟩
  cases hcovers with
  | itself =>
    -- nothing stands behind the failure, and its own path grows
    have hsuffix' : (e.within segment).path <:+ (b.within segment).path :=
      hpath' ▸ List.suffix_rfl
    exact ⟨e.within segment, .itself _, hcode, hmessage, hinput, hcauses, hsuffix'⟩
  | cause only inner =>
    refine ⟨o, .cause only inner, hcode, hmessage, hinput, hcauses, ?_⟩
    exact hsuffix.trans (List.suffix_cons segment b.path)

theorem Recalls.reworded {plain : Prop} {e b : Failure} (message : String) (code : Option String)
    (h : Recalls plain e b) : Recalls plain (e.reworded message code) b := by
  obtain ⟨hpath, hplain, o, hcovers, hrest⟩ := h
  exact ⟨hpath, hplain, o, .cause rfl hcovers, hrest⟩

theorem keeping_samePlace (s : Schema) : s.Everywhere (Keeping SamePlace) := by
  refine .of_forall (fun t => ?_) s
  have hself : ∀ o : Outcome Json, Agree (· = ·) SamePlace o o :=
    .refl (fun _ => rfl) fun _ => ⟨rfl, rfl⟩
  cases t with
  | rule f => exact fun input => hself (f input)
  | tryMap _ f => exact fun value => hself (f value)
  | withMessage _ message code => exact fun e b h => h
  | union _ => exact fun input es bs _ => ⟨rfl, rfl⟩
  | orElse _ _ => exact fun input es bs _ => ⟨rfl, rfl⟩
  | _ => trivial

theorem keeping_sameCode {s : Schema} (hs : s.Everywhere KeepsCode) :
    s.Everywhere (Keeping SameCode) := by
  refine hs.imp fun t ht => ?_
  have hself : ∀ o : Outcome Json, Agree (· = ·) SameCode o o :=
    .refl (fun _ => rfl) fun _ => rfl
  cases t with
  | rule f => exact fun input => hself (f input)
  | tryMap _ f => exact fun value => hself (f value)
  | withMessage _ message code =>
    obtain rfl : code = none := ht
    exact fun e b h => h
  | union _ => exact fun input es bs _ => rfl
  | orElse _ _ => exact fun input es bs _ => rfl
  | _ => trivial

theorem keeping_recalls {plain : Prop} {s : Schema} (hs : s.Everywhere NoAlternatives)
    (hplain : plain → s.Everywhere RaisesNoCauses) : s.Everywhere (Keeping (Recalls plain)) := by
  refine (hs.and_of_imp hplain).imp fun t ⟨ht, ht'⟩ => ?_
  have hself : ∀ o : Outcome Json, (plain → ∀ e, o.result = .error e → e.causes = []) →
      Agree (· = ·) (Recalls plain) o o := by
    intro o ho
    cases h : o.result with
    | ok a => exact .ok h h rfl
    | error e => exact .error h h (.self fun hp => ho hp e h)
  cases t with
  | rule f => exact fun input => hself _ fun hp => ht' hp input
  | tryMap _ f => exact fun value => hself _ fun hp => ht' hp value
  | withMessage _ message code => exact fun e b h => h.reworded message code
  | union _ => exact ht.elim
  | orElse _ _ => exact ht.elim
  | _ => trivial

/-- **Messages of one's own are transparent.** With and without them a schema accepts the same
    values with the same results, and refuses others at the same place, with the same code if no
    message has one. Without alternatives, the failure of the bare schema stands behind the other
    one at the end of the only causes, however many messages were put in front of it. -/
theorem check_bare (s : Schema) (input : Option Json) :
    Agree (· = ·) (fun e b => e.path = b.path ∧ e.input = b.input ∧
        (s.Everywhere KeepsCode → e.code = b.code) ∧
        (s.Everywhere NoAlternatives → ∃ o, e.Covers o ∧ o.code = b.code ∧
          o.message = b.message ∧ o.input = b.input ∧ o.causes = b.causes ∧ o.path <:+ b.path ∧
          (s.Everywhere RaisesNoCauses → o.causes = [])))
      (s.check order input) (s.bare.check order input) := by
  have hplace : Agree (· = ·) SamePlace (s.check order input) (s.bare.check order input) := by
    refine alongside_bare (fun _ _ => ⟨rfl, rfl⟩) (fun segment e b h => ?_) (keeping_samePlace s)
      input
    exact ⟨congrArg (segment :: ·) h.1, h.2⟩
  refine hplace.of_failures fun e b he hb => ?_
  obtain ⟨hpath, hinput⟩ := hplace.failure he hb
  refine ⟨hpath, hinput, fun hcodes => ?_, fun hnone => ?_⟩
  · have hself : ∀ e : Failure, e.causes = [] → SameCode e e := fun _ _ => rfl
    exact (alongside_bare hself (fun _ _ _ h => h) (keeping_sameCode hcodes) input).failure he hb
  · have hrecalls := (alongside_bare (fun _ hcauses => .self fun _ => hcauses)
      (fun segment _ _ => .within segment) (keeping_recalls hnone id) input).failure he hb
    obtain ⟨-, hplain, o, hcovers, hcode, hmessage, hinput, hcauses, hsuffix⟩ := hrecalls
    exact ⟨o, hcovers, hcode, hmessage, hinput, hcauses, hsuffix, fun h => hcauses.trans (hplain h)⟩

/-- A message around an object and another one around one of its fields, with a code: the failure of
    the item stands behind both. -/
theorem check_bare_stacked :
    ∃ o, (((((Failure.typeMismatch "integer" (some (.str "x"))).atIndex 1).reworded "sizes"
        (some "bad")).atKey "sizes").reworded "order" none).Covers o ∧
      o.code = "type_mismatch" ∧ o.message = "expected integer, found string" ∧
      o.input = some (.str "x") ∧ o.path <:+ [.key "sizes", .index 1] ∧ o.causes = [] := by
  have hagree := @check_bare .sorted (withMessage (object
    [("sizes", withMessage (array (leaf .integer)) "sizes" (some "bad"))] false) "order" none)
    (some (.obj [("sizes", .arr [.int 2, .str "x"])]))
  obtain ⟨-, -, -, hrecalls⟩ := hagree.failure rfl rfl
  obtain ⟨o, hcovers, hcode, hmessage, hinput, -, hsuffix, hend⟩ := hrecalls
    (by simp [everywhere_iff, children, NoAlternatives])
  have hcauses := hend (by simp [everywhere_iff, children, RaisesNoCauses])
  exact ⟨o, hcovers, hcode, hmessage, hinput, hsuffix, hcauses⟩

end Schema

end Conform
