/-
  When an outcome that is built from others succeeds and when it fails; rows of
  outcomes, up to the first failure, and alternatives, up to the first success.
-/
import Conform.Schema.Check
import Mathlib.Data.List.Forall2

namespace Conform

/-! ## Lists side by side -/

theorem forall₂_mem_right {α β : Type} {R : α → β → Prop} {as : List α} {bs : List β}
    (h : List.Forall₂ R as bs) : ∀ b ∈ bs, ∃ a ∈ as, R a b := by
  induction h with
  | nil => simp
  | cons hab _ ih =>
    refine List.forall_mem_cons.2 ⟨⟨_, List.mem_cons_self, hab⟩, fun b hb => ?_⟩
    obtain ⟨a, ha, hab⟩ := ih b hb
    exact ⟨a, List.mem_cons_of_mem _ ha, hab⟩

theorem forall₂_mem_left {α β : Type} {R : α → β → Prop} {as : List α} {bs : List β}
    (h : List.Forall₂ R as bs) : ∀ a ∈ as, ∃ b ∈ bs, R a b :=
  forall₂_mem_right h.flip

theorem forall₂_zip {α β γ δ : Type} {R : α → β → Prop} {S : γ → δ → Prop} {as : List α}
    {bs : List β} {cs : List γ} {ds : List δ} (h : List.Forall₂ R as bs)
    (h' : List.Forall₂ S cs ds) :
    List.Forall₂ (fun p q => R p.1 q.1 ∧ S p.2 q.2) (as.zip cs) (bs.zip ds) := by
  induction h generalizing cs ds with
  | nil => exact .nil
  | cons hab _ ih =>
    cases h' with
    | nil => exact .nil
    | cons hcd hrest => exact .cons ⟨hab, hcd⟩ (ih hrest)

/-- What related members have in common, their lists have in common. -/
theorem map_eq_of_forall₂ {α β γ : Type} {R : α → β → Prop} {as : List α} {bs : List β} {f : α → γ}
    {g : β → γ} (h : List.Forall₂ R as bs) (hR : ∀ a b, R a b → f a = g b) :
    as.map f = bs.map g := by
  induction h with
  | nil => rfl
  | cons hab _ ih => rw [List.map_cons, List.map_cons, hR _ _ hab, ih]

/-- A relation may be replaced by one that is the same for the members of the first list. -/
theorem forall₂_congr_left {α β : Type} {R S : α → β → Prop} {as : List α} {bs : List β}
    (h : ∀ a ∈ as, ∀ b, R a b ↔ S a b) : List.Forall₂ R as bs ↔ List.Forall₂ S as bs := by
  induction as generalizing bs with
  | nil => cases bs <;> simp
  | cons a rest ih =>
    cases bs with
    | nil => simp
    | cons b bs =>
      rw [List.forall₂_cons, List.forall₂_cons, h a (by simp),
        ih fun a' ha' => h a' (List.mem_cons_of_mem a ha')]

/-- Lists stand side by side iff their members do at each index. -/
theorem forall₂_iff_getElem? {α β : Type} {R : α → β → Prop} {as : List α} {bs : List β} :
    List.Forall₂ R as bs ↔ ∀ index : Nat, Option.Rel R as[index]? bs[index]? := by
  constructor
  · intro h
    induction h with
    | nil => exact fun _ => .none
    | cons hab _ ih =>
      rintro (_ | index)
      · exact .some hab
      · exact ih index
  · intro h
    induction as generalizing bs with
    | nil =>
      cases bs with
      | nil => exact .nil
      | cons b bs => cases h 0
    | cons a as ih =>
      cases bs with
      | nil => cases h 0
      | cons b bs =>
        have hhead : Option.Rel R (some a) (some b) := h 0
        cases hhead with
        | some hab => exact .cons hab (ih fun index => h (index + 1))

namespace Outcome

/-! ## Results -/

variable {α β : Type} {o : Outcome α}

@[simp]
theorem result_ok (a : α) : (ok a).result = .ok a := rfl

@[simp]
theorem result_fail (e : Failure) : (fail e : Outcome α).result = .error e := rfl

theorem bind_of_ok {a : α} (h : o.result = .ok a) (f : α → Outcome β) :
    (o.bind f).result = (f a).result := by
  simp [bind, h, Traced.after]

theorem bind_of_error {e : Failure} (h : o.result = .error e) (f : α → Outcome β) :
    (o.bind f).result = .error e := by
  simp [bind, h]

theorem bind_ok_iff {f : α → Outcome β} {b : β} :
    (o.bind f).result = .ok b ↔ ∃ a, o.result = .ok a ∧ (f a).result = .ok b := by
  cases h : o.result with
  | ok a => simp [bind_of_ok h]
  | error e => simp [bind_of_error h]

theorem bind_error_iff {f : α → Outcome β} {e : Failure} :
    (o.bind f).result = .error e ↔
      o.result = .error e ∨ ∃ a, o.result = .ok a ∧ (f a).result = .error e := by
  cases h : o.result with
  | ok a => simp [bind_of_ok h]
  | error e => simp [bind_of_error h]

theorem map_ok_iff {f : α → β} {b : β} :
    (o.map f).result = .ok b ↔ ∃ a, o.result = .ok a ∧ f a = b := by
  cases h : o.result <;> simp [map, Traced.map, h, Except.map]

@[simp]
theorem map_error_iff {f : α → β} {e : Failure} :
    (o.map f).result = .error e ↔ o.result = .error e := by
  cases h : o.result <;> simp [map, Traced.map, h, Except.map]

@[simp]
theorem mapFailure_ok_iff {f : Failure → Failure} {a : α} :
    (o.mapFailure f).result = .ok a ↔ o.result = .ok a := by
  cases h : o.result <;> simp [mapFailure, Traced.map, h, Except.mapError]

theorem mapFailure_error_iff {f : Failure → Failure} {e : Failure} :
    (o.mapFailure f).result = .error e ↔ ∃ e', o.result = .error e' ∧ f e' = e := by
  cases h : o.result <;> simp [mapFailure, Traced.map, h, Except.mapError]

@[simp]
theorem within_ok_iff {segment : Segment} {event : String → Event} {a : α} :
    (o.within segment event).result = .ok a ↔ o.result = .ok a := by
  cases h : o.result <;> simp [within, h]

theorem within_error_iff {segment : Segment} {event : String → Event} {e : Failure} :
    (o.within segment event).result = .error e ↔
      ∃ e', o.result = .error e' ∧ e'.within segment = e := by
  cases h : o.result <;> simp [within, h]

/-- What comes after a success may be replaced by what does the same with its value. -/
theorem bind_congr {f g : α → Outcome β} (h : ∀ a, o.result = .ok a → f a = g a) :
    o.bind f = o.bind g := by
  unfold bind
  split
  · next a ha => rw [h a ha]
  · rfl

theorem map_bind {γ : Type} (f : α → β) (g : β → Outcome γ) :
    (o.map f).bind g = o.bind fun a => g (f a) := by
  obtain ⟨events, _ | a⟩ := o <;> rfl

@[simp]
theorem bind_ok (o : Outcome α) : o.bind ok = o := by
  obtain ⟨events, _ | a⟩ := o
  · rfl
  · simp [bind, ok, Traced.after]

theorem bind_assoc {γ : Type} (f : α → Outcome β) (g : β → Outcome γ) :
    (o.bind f).bind g = o.bind fun a => (f a).bind g := by
  obtain ⟨events, _ | a⟩ := o
  · rfl
  · cases h : (f a).result <;> simp [bind, Traced.after, h]

/-! ## Rows of outcomes -/

/-- Outcomes one after the other, up to the first failure. -/
def row : List (Outcome α) → Outcome (List α)
  | [] => ok []
  | o :: rest => o.bind fun a => (row rest).map (a :: ·)

/-- **A row succeeds iff all its outcomes do**, and then with their values in order. -/
theorem row_ok_iff {os : List (Outcome α)} {as : List α} :
    (row os).result = .ok as ↔ List.Forall₂ (fun o a => o.result = .ok a) os as := by
  induction os generalizing as with
  | nil => cases as <;> simp [row]
  | cons o rest ih =>
    simp only [row, bind_ok_iff, map_ok_iff, ih]
    constructor
    · rintro ⟨a, ha, as, has, rfl⟩
      exact .cons ha has
    · rintro (_ | ⟨ha, has⟩)
      exact ⟨_, ha, _, has, rfl⟩

/-- **A row fails iff one of its outcomes fails after successes only**, with that failure. -/
theorem row_error_iff {os : List (Outcome α)} {e : Failure} :
    (row os).result = .error e ↔ ∃ before o after, os = before ++ o :: after ∧
      (∀ p ∈ before, ∃ a, p.result = .ok a) ∧ o.result = .error e := by
  induction os with
  | nil => simp [row]
  | cons o rest ih =>
    simp only [row, bind_error_iff, map_error_iff, ih]
    constructor
    · rintro (he | ⟨a, ha, before, o', after, rfl, hb, he⟩)
      · exact ⟨[], o, rest, rfl, by simp, he⟩
      · exact ⟨o :: before, o', after, rfl, by simpa using ⟨⟨a, ha⟩, hb⟩, he⟩
    · rintro ⟨_ | ⟨p, before⟩, o', after, hos, hb, he⟩
      · cases hos; exact Or.inl he
      · cases hos
        obtain ⟨a, ha⟩ := hb o (by simp)
        exact Or.inr ⟨a, ha, before, o', after, rfl, fun q hq => hb q (by simp [hq]), he⟩

/-- A row succeeds if each outcome does. -/
theorem exists_row_ok_iff {os : List (Outcome α)} :
    (∃ as, (row os).result = .ok as) ↔ ∀ o ∈ os, ∃ a, o.result = .ok a := by
  constructor
  · rintro ⟨as, h⟩ o ho
    rw [row_ok_iff] at h
    obtain ⟨a, -, ha⟩ := forall₂_mem_left h o ho
    exact ⟨a, ha⟩
  · intro h
    cases hrow : (row os).result with
    | ok as => exact ⟨as, rfl⟩
    | error e =>
      obtain ⟨before, o, after, rfl, -, he⟩ := row_error_iff.1 hrow
      obtain ⟨a, ha⟩ := h o (by simp)
      rw [he] at ha; cases ha

/-- **What comes after a failure does not count.** -/
theorem row_of_error {before after : List (Outcome α)} {e : Failure} (h : o.result = .error e) :
    row (before ++ o :: after) = row (before ++ [o]) := by
  induction before with
  | nil => exact bind_congr fun a ha => by rw [h] at ha; cases ha
  | cons p before ih => rw [List.cons_append, List.cons_append, row, row, ih]

/-! ## Rows of parts -/

/-- The outcomes of items, each at its place. -/
def items {ι : Type} (f : ι → Outcome α) (index : Nat) (as : List ι) : Outcome (List α) :=
  row ((as.zipIdx index).map fun p => (f p.1).atIndex p.2)

/-- The outcomes of entries, each at its key. -/
def keyed (os : List (String × Outcome α)) : Outcome (Entries α) :=
  row (os.map fun p => (p.2.atKey p.1).map (p.1, ·))

theorem items_cons {ι : Type} (f : ι → Outcome α) (index : Nat) (a : ι) (as : List ι) :
    items f index (a :: as) =
      ((f a).atIndex index).bind fun b => (items f (index + 1) as).map (b :: ·) := by
  rw [items, List.zipIdx_cons, List.map_cons, row]
  rfl

theorem keyed_cons (key : String) (o : Outcome α) (os : List (String × Outcome α)) :
    keyed ((key, o) :: os) = (o.atKey key).bind fun a => (keyed os).map ((key, a) :: ·) := by
  rw [keyed, List.map_cons, row, map_bind]
  rfl

theorem map_atKey (f : α → β) (o : Outcome α) (key : String) :
    (o.map f).atKey key = (o.atKey key).map f := by
  obtain ⟨events, e | a⟩ := o <;> rfl

theorem items_map {ι κ : Type} (f : κ → Outcome α) (g : ι → κ) (index : Nat) (as : List ι) :
    items f index (as.map g) = items (fun a => f (g a)) index as := by
  induction as generalizing index with
  | nil => rfl
  | cons a rest ih => rw [List.map_cons, items_cons, items_cons, ih]

theorem items_ok_iff {ι : Type} {f : ι → Outcome α} {index : Nat} {as : List ι} {bs : List α} :
    (items f index as).result = .ok bs ↔ List.Forall₂ (fun a b => (f a).result = .ok b) as bs := by
  induction as generalizing index bs with
  | nil => cases bs <;> simp [items, row]
  | cons a rest ih =>
    simp only [items_cons, bind_ok_iff, map_ok_iff, atIndex, within_ok_iff, ih]
    constructor
    · rintro ⟨b, hb, bs, hbs, rfl⟩
      exact .cons hb hbs
    · rintro (_ | ⟨hb, hbs⟩)
      exact ⟨_, hb, _, hbs, rfl⟩

/-- Items fail iff one of them fails after successes only, with that failure at its place. -/
theorem items_error_iff {ι : Type} {f : ι → Outcome α} {start : Nat} {as : List ι} {e : Failure} :
    (items f start as).result = .error e ↔ ∃ index a e', as[index]? = some a ∧
      (∀ j < index, ∀ b, as[j]? = some b → ∃ c, (f b).result = .ok c) ∧
        (f a).result = .error e' ∧ e'.within (.index (start + index)) = e := by
  induction as generalizing start with
  | nil => simp [items, row]
  | cons a rest ih =>
    simp only [items_cons, bind_error_iff, map_error_iff, atIndex, within_error_iff,
      within_ok_iff, ih]
    constructor
    · rintro (⟨e', he', rfl⟩ | ⟨b, hb, index, a', e', ha', hearlier, he', rfl⟩)
      · exact ⟨0, a, e', rfl, nofun, he', rfl⟩
      · refine ⟨index + 1, a', e', ha', fun j hj b' hb' => ?_, he', by rw [Nat.add_right_comm]; rfl⟩
        cases j with
        | zero =>
          cases hb'
          exact ⟨b, hb⟩
        | succ j => exact hearlier j (Nat.lt_of_succ_lt_succ hj) b' hb'
    · rintro ⟨_ | index, a', e', ha', hearlier, he', rfl⟩
      · cases ha'
        exact Or.inl ⟨e', he', rfl⟩
      · obtain ⟨b, hb⟩ := hearlier 0 (Nat.zero_lt_succ index) a rfl
        refine Or.inr ⟨b, hb, index, a', e', ha', fun j hj => ?_, he', ?_⟩
        · exact hearlier (j + 1) (Nat.succ_lt_succ hj)
        · rw [Nat.add_right_comm]; rfl

/-- Items after one that fails do not count. -/
theorem items_congr {ι : Type} {f : ι → Outcome α} {start index : Nat} {as as' : List ι} {a : ι}
    {e : Failure} (ha : as[index]? = some a) (he : (f a).result = .error e)
    (hagree : ∀ j ≤ index, as'[j]? = as[j]?) : items f start as' = items f start as := by
  induction as generalizing start index as' with
  | nil => cases ha
  | cons b rest ih =>
    obtain _ | ⟨b', rest'⟩ := as'
    · cases hagree 0 (Nat.zero_le index)
    · obtain rfl : b' = b := Option.some.inj (hagree 0 (Nat.zero_le index))
      rw [items_cons, items_cons]
      refine bind_congr fun output (houtput : ((f b').atIndex start).result = .ok output) => ?_
      cases index with
      | zero =>
        -- the first item fails
        cases ha
        rw [atIndex, within_ok_iff, he] at houtput
        cases houtput
      | succ index =>
        have hrest : ∀ j ≤ index, rest'[j]? = rest[j]? :=
          fun j hj => hagree (j + 1) (Nat.succ_le_succ hj)
        rw [ih ha hrest]

theorem items_error {ι : Type} {f : ι → Outcome α} {as : List ι} {e : Failure}
    (h : (items f 0 as).result = .error e) : ∃ index a e', as[index]? = some a ∧
      (f a).result = .error e' ∧ e = e'.within (.index index) := by
  obtain ⟨index, a, e', ha, -, he', rfl⟩ := items_error_iff.1 h
  exact ⟨index, a, e', ha, he', by rw [Nat.zero_add]⟩

theorem keyed_ok_iff {os : List (String × Outcome α)} {as : Entries α} :
    (keyed os).result = .ok as ↔
      List.Forall₂ (fun p a => a.1 = p.1 ∧ p.2.result = .ok a.2) os as := by
  rw [keyed, row_ok_iff, List.forall₂_map_left_iff]
  have hentry : ∀ (p : String × Outcome α) (a : String × α),
      ((p.2.atKey p.1).map (p.1, ·)).result = .ok a ↔ a.1 = p.1 ∧ p.2.result = .ok a.2 := by
    rintro ⟨key, o⟩ ⟨k, a⟩
    simp only [map_ok_iff, atKey, within_ok_iff, Prod.mk.injEq]
    constructor
    · rintro ⟨_, h, rfl, rfl⟩
      exact ⟨rfl, h⟩
    · rintro ⟨rfl, h⟩
      exact ⟨a, h, rfl, rfl⟩
  simp only [hentry]

theorem exists_entry_ok_iff {p : String × Outcome α} :
    (∃ a, ((p.2.atKey p.1).map (p.1, ·)).result = .ok a) ↔ ∃ a, p.2.result = .ok a := by
  simp only [map_ok_iff, atKey, within_ok_iff]
  constructor
  · rintro ⟨_, a, h, -⟩
    exact ⟨a, h⟩
  · rintro ⟨a, h⟩
    exact ⟨_, a, h, rfl⟩

theorem exists_keyed_ok_iff {os : List (String × Outcome α)} :
    (∃ as, (keyed os).result = .ok as) ↔ ∀ p ∈ os, ∃ a, p.2.result = .ok a := by
  rw [keyed, exists_row_ok_iff, List.forall_mem_map]
  exact forall₂_congr fun p _ => exists_entry_ok_iff

/-- Entries fail iff one of them fails after successes only, with that failure at its key. -/
theorem keyed_error_iff {os : List (String × Outcome α)} {e : Failure} :
    (keyed os).result = .error e ↔ ∃ before key o after e', os = before ++ (key, o) :: after ∧
      (∀ p ∈ before, ∃ a, p.2.result = .ok a) ∧ o.result = .error e' ∧
        e'.within (.key key) = e := by
  rw [keyed, row_error_iff]
  constructor
  · rintro ⟨before, o, after, heq, hbefore, he⟩
    obtain ⟨before, rest, rfl, rfl, hrest⟩ := List.map_eq_append_iff.1 heq
    obtain ⟨⟨key, o⟩, after, rfl, rfl, rfl⟩ := List.map_eq_cons_iff.1 hrest
    obtain ⟨e', he', rfl⟩ := within_error_iff.1 (map_error_iff.1 he)
    refine ⟨before, key, o, after, e', rfl, fun p hp => ?_, he', rfl⟩
    exact exists_entry_ok_iff.1 (hbefore _ (List.mem_map_of_mem hp))
  · rintro ⟨before, key, o, after, e', rfl, hbefore, he', rfl⟩
    rw [List.map_append, List.map_cons]
    refine ⟨_, _, _, rfl, List.forall_mem_map.2 fun p hp => ?_, ?_⟩
    · exact exists_entry_ok_iff.2 (hbefore p hp)
    · exact map_error_iff.2 (within_error_iff.2 ⟨e', he', rfl⟩)

theorem keyed_of_error {before after : List (String × Outcome α)} {key : String} {e : Failure}
    (h : o.result = .error e) :
    keyed (before ++ (key, o) :: after) = keyed (before ++ [(key, o)]) := by
  have hentry : ((o.atKey key).map (key, ·)).result = .error (e.within (.key key)) :=
    map_error_iff.2 (within_error_iff.2 ⟨e, h, rfl⟩)
  simp only [keyed, List.map_append, List.map_cons, List.map_nil]
  exact row_of_error hentry

theorem keyed_error {os : List (String × Outcome α)} {e : Failure}
    (h : (keyed os).result = .error e) : ∃ key o e', (key, o) ∈ os ∧
      o.result = .error e' ∧ e = e'.within (.key key) := by
  obtain ⟨before, key, o, after, e', rfl, -, he', rfl⟩ := keyed_error_iff.1 h
  exact ⟨key, o, e', by simp, he', rfl⟩

end Outcome

/-! ## Rows of alternatives -/

namespace Attempts

/-- Alternatives one after the other, up to the first success. -/
def ofList : List (Outcome Json) → Attempts
  | [] => none
  | o :: rest => before o fun _ => ofList rest

theorem before_of_ok {o : Outcome Json} {a : Json} (h : o.result = .ok a)
    (later : Unit → Attempts) : (before o later).result = .ok a := by
  simp [before, h]

theorem before_of_error {o : Outcome Json} {e : Failure} (h : o.result = .error e)
    (later : Unit → Attempts) :
    (before o later).result = (later ()).result.mapError (e :: ·) := by
  simp [before, h, Traced.map, Traced.after]

/-- The first success counts: all alternatives before it fail. -/
theorem ofList_ok_iff {os : List (Outcome Json)} {a : Json} :
    (ofList os).result = .ok a ↔ ∃ before o after, os = before ++ o :: after ∧
      (∀ p ∈ before, ∃ e, p.result = .error e) ∧ o.result = .ok a := by
  induction os with
  | nil => simp [ofList, none]
  | cons o rest ih =>
    cases h : o.result with
    | ok b =>
      rw [ofList, before_of_ok h]
      constructor
      · intro hab
        cases hab
        exact ⟨[], o, rest, rfl, by simp, h⟩
      · rintro ⟨_ | ⟨p, before⟩, o', after, hos, hb, ha⟩
        · cases hos
          rw [h] at ha; cases ha; rfl
        · cases hos
          obtain ⟨e, he⟩ := hb o (by simp)
          rw [h] at he; cases he
    | error e =>
      have hmap : ((ofList rest).result.mapError (e :: ·)) = .ok a ↔
          (ofList rest).result = .ok a := by
        cases (ofList rest).result <;> simp [Except.mapError]
      rw [ofList, before_of_error h, hmap, ih]
      constructor
      · rintro ⟨before, o', after, rfl, hb, ha⟩
        exact ⟨o :: before, o', after, rfl, by simpa using ⟨⟨e, h⟩, hb⟩, ha⟩
      · rintro ⟨_ | ⟨p, before⟩, o', after, hos, hb, ha⟩
        · cases hos; rw [h] at ha; cases ha
        · cases hos
          exact ⟨before, o', after, rfl, fun q hq => hb q (by simp [hq]), ha⟩

/-- All alternatives fail iff their failures are kept in order. -/
theorem ofList_error_iff {os : List (Outcome Json)} {es : List Failure} :
    (ofList os).result = .error es ↔ List.Forall₂ (fun o e => o.result = .error e) os es := by
  induction os generalizing es with
  | nil => cases es <;> simp [ofList, none]
  | cons o rest ih =>
    cases h : o.result with
    | ok b =>
      rw [ofList, before_of_ok h]
      refine ⟨fun h' => (by cases h'), ?_⟩
      rintro (_ | ⟨he, -⟩)
      rw [h] at he; cases he
    | error e =>
      have hmap : ((ofList rest).result.mapError (e :: ·)) = .error es ↔
          ∃ es', (ofList rest).result = .error es' ∧ e :: es' = es := by
        cases (ofList rest).result <;> simp [Except.mapError]
      rw [ofList, before_of_error h, hmap]
      simp only [ih]
      constructor
      · rintro ⟨es', hes, rfl⟩
        exact .cons h hes
      · rintro (_ | ⟨he, hes⟩)
        rw [h] at he; cases he
        exact ⟨_, hes, rfl⟩

theorem settle_ok_iff {attempts : Attempts} {input : Option Json} {a : Json} :
    (attempts.settle input).result = .ok a ↔ attempts.result = .ok a := by
  cases h : attempts.result <;> simp [settle, h]

theorem settle_error_iff {attempts : Attempts} {input : Option Json} {e : Failure} :
    (attempts.settle input).result = .error e ↔
      ∃ causes, attempts.result = .error causes ∧ .noAlternative input causes = e := by
  cases h : attempts.result <;> simp [settle, h]

end Attempts

end Conform
