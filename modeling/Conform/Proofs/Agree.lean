/-
  Two outcomes that are both successes or both failures, with related values or
  failures (`Outcome.Agree`), and what keeps them so.
-/
import Conform.Proofs.Schema

namespace Conform

namespace Outcome

variable {α β γ δ : Type} {V : α → β → Prop} {W : γ → δ → Prop} {F : Failure → Failure → Prop}

/-- Both outcomes are successes with related values, or failures that are related. -/
inductive Agree (V : α → β → Prop) (F : Failure → Failure → Prop) (o : Outcome α)
    (o' : Outcome β) : Prop
  | ok {a b} (left : o.result = .ok a) (right : o'.result = .ok b) (values : V a b)
  | error {e e'} (left : o.result = .error e) (right : o'.result = .error e') (failures : F e e')

namespace Agree

variable {o : Outcome α} {o' : Outcome β}

theorem of_ok {a : α} {b : β} (h : V a b) : Agree V F (Outcome.ok a) (Outcome.ok b) :=
  .ok rfl rfl h

theorem of_fail {e e' : Failure} (h : F e e') : Agree V F (fail e) (fail e') := .error rfl rfl h

theorem refl {V : α → α → Prop} (hV : ∀ a, V a a) (hF : ∀ e, F e e) (o : Outcome α) :
    Agree V F o o := by
  cases h : o.result with
  | ok a => exact .ok h h (hV a)
  | error e => exact .error h h (hF e)

theorem imp {V' : α → β → Prop} {F' : Failure → Failure → Prop} (h : Agree V F o o')
    (hV : ∀ a b, V a b → V' a b) (hF : ∀ e e', F e e' → F' e e') : Agree V' F' o o' := by
  obtain ⟨ha, hb, hab⟩ | ⟨he, he', hee⟩ := h
  · exact .ok ha hb (hV _ _ hab)
  · exact .error he he' (hF _ _ hee)

/-- Where the first outcome succeeds, so does the second. -/
theorem exists_right {a : α} (h : Agree V F o o') (ha : o.result = .ok a) :
    ∃ b, o'.result = .ok b ∧ V a b := by
  obtain ⟨ha', hb, hab⟩ | ⟨he, -, -⟩ := h
  · rw [ha] at ha'; cases ha'
    exact ⟨_, hb, hab⟩
  · rw [ha] at he; cases he

theorem exists_left {b : β} (h : Agree V F o o') (hb : o'.result = .ok b) :
    ∃ a, o.result = .ok a ∧ V a b := by
  obtain ⟨ha, hb', hab⟩ | ⟨-, he, -⟩ := h
  · rw [hb] at hb'; cases hb'
    exact ⟨_, ha, hab⟩
  · rw [hb] at he; cases he

/-- Outcomes that succeed together, where nothing is said of failures. -/
theorem of_verdict (h : (∃ a, o.result = .ok a) ↔ ∃ b, o'.result = .ok b)
    (hV : ∀ a b, o.result = .ok a → o'.result = .ok b → V a b) (hF : ∀ e e', F e e') :
    Agree V F o o' := by
  cases ho : o.result with
  | ok a =>
    obtain ⟨b, hb⟩ := h.1 ⟨a, ho⟩
    exact .ok ho hb (hV a b ho hb)
  | error e =>
    cases ho' : o'.result with
    | ok b =>
      obtain ⟨a, ha⟩ := h.2 ⟨b, ho'⟩
      rw [ho] at ha; cases ha
    | error e' => exact .error ho ho' (hF e e')

/-- What is known of values as results may be used for a relation between them. -/
theorem of_results {W : α → β → Prop} (h : Agree V F o o')
    (hW : ∀ a b, o.result = .ok a → o'.result = .ok b → V a b → W a b) : Agree W F o o' := by
  obtain ⟨ha, hb, hab⟩ | ⟨he, he', hee⟩ := h
  · exact .ok ha hb (hW _ _ ha hb hab)
  · exact .error he he' hee

/-- What is known of failures as results may be used for a relation between them. -/
theorem of_failures {G : Failure → Failure → Prop} (h : Agree V F o o')
    (hG : ∀ e e', o.result = .error e → o'.result = .error e' → G e e') : Agree V G o o' := by
  obtain ⟨ha, hb, hab⟩ | ⟨he, he', -⟩ := h
  · exact .ok ha hb hab
  · exact .error he he' (hG _ _ he he')

theorem failure {e e' : Failure} (h : Agree V F o o') (he : o.result = .error e)
    (he' : o'.result = .error e') : F e e' := by
  obtain ⟨ha, -, -⟩ | ⟨hf, hf', hff⟩ := h
  · rw [he] at ha; cases ha
  · rw [he] at hf; cases hf
    rw [he'] at hf'; cases hf'
    exact hff

theorem bind {f : α → Outcome γ} {g : β → Outcome δ} (h : Agree V F o o')
    (hfg : ∀ a b, V a b → Agree W F (f a) (g b)) : Agree W F (o.bind f) (o'.bind g) := by
  obtain ⟨ha, hb, hab⟩ | ⟨he, he', hee⟩ := h
  · obtain ⟨hc, hd, hcd⟩ | ⟨hc, hd, hcd⟩ := hfg _ _ hab
    · exact .ok ((bind_of_ok ha f).trans hc) ((bind_of_ok hb g).trans hd) hcd
    · exact .error ((bind_of_ok ha f).trans hc) ((bind_of_ok hb g).trans hd) hcd
  · exact .error (bind_of_error he f) (bind_of_error he' g) hee

theorem map {f : α → γ} {g : β → δ} (h : Agree V F o o') (hfg : ∀ a b, V a b → W (f a) (g b)) :
    Agree W F (o.map f) (o'.map g) := by
  obtain ⟨ha, hb, hab⟩ | ⟨he, he', hee⟩ := h
  · exact .ok (map_ok_iff.2 ⟨_, ha, rfl⟩) (map_ok_iff.2 ⟨_, hb, rfl⟩) (hfg _ _ hab)
  · exact .error (map_error_iff.2 he) (map_error_iff.2 he') hee

theorem mapFailure {f g : Failure → Failure} (h : Agree V F o o')
    (hfg : ∀ e e', F e e' → F (f e) (g e')) : Agree V F (o.mapFailure f) (o'.mapFailure g) := by
  obtain ⟨ha, hb, hab⟩ | ⟨he, he', hee⟩ := h
  · exact .ok (mapFailure_ok_iff.2 ha) (mapFailure_ok_iff.2 hb) hab
  · exact .error (mapFailure_error_iff.2 ⟨_, he, rfl⟩) (mapFailure_error_iff.2 ⟨_, he', rfl⟩)
      (hfg _ _ hee)

/-- The failure changed on one side. -/
theorem mapFailure_left {f : Failure → Failure} (h : Agree V F o o')
    (hf : ∀ e e', F e e' → F (f e) e') : Agree V F (o.mapFailure f) o' := by
  obtain ⟨ha, hb, hab⟩ | ⟨he, he', hee⟩ := h
  · exact .ok (mapFailure_ok_iff.2 ha) hb hab
  · exact .error (mapFailure_error_iff.2 ⟨_, he, rfl⟩) he' (hf _ _ hee)

theorem within {segment : Segment} {event event' : String → Event} (h : Agree V F o o')
    (hF : ∀ e e', F e e' → F (e.within segment) (e'.within segment)) :
    Agree V F (o.within segment event) (o'.within segment event') := by
  obtain ⟨ha, hb, hab⟩ | ⟨he, he', hee⟩ := h
  · exact .ok (within_ok_iff.2 ha) (within_ok_iff.2 hb) hab
  · exact .error (within_error_iff.2 ⟨_, he, rfl⟩) (within_error_iff.2 ⟨_, he', rfl⟩) (hF _ _ hee)

/-! ## Parts of values -/

theorem narrow {α β : Type} {R : α → β → Prop} {V : Json → Json → Prop} {expected : String}
    {view : Json → Option α} {view' : Json → Option β} {input input' : Option Json}
    {next : α → Outcome Json} {next' : β → Outcome Json}
    (h : Option.Rel R (input.bind view) (input'.bind view'))
    (hF : F (.typeMismatch expected input) (.typeMismatch expected input'))
    (hnext : ∀ a b, R a b → Agree V F (next a) (next' b)) :
    Agree V F (narrow expected view input next) (Conform.narrow expected view' input' next') := by
  unfold Conform.narrow
  generalize input.bind view = a at h
  generalize input'.bind view' = b at h
  cases h with
  | some hab => exact hnext _ _ hab
  | none => exact of_fail hF

theorem items {ι κ : Type} {f : ι → Outcome α} {g : κ → Outcome β} {as : List ι} {bs : List κ}
    (hF : ∀ segment e e', F e e' → F (e.within segment) (e'.within segment))
    (h : List.Forall₂ (fun a b => Agree V F (f a) (g b)) as bs) (index : Nat) :
    Agree (List.Forall₂ V) F (Outcome.items f index as) (Outcome.items g index bs) := by
  induction h generalizing index with
  | nil => exact of_ok .nil
  | cons hab _ ih =>
    rw [Outcome.items_cons, Outcome.items_cons]
    refine (hab.within fun e e' => hF _ e e').bind fun a b hV => ?_
    exact (ih (index + 1)).map fun as bs hVs => .cons hV hVs

theorem keyed {os : List (String × Outcome α)} {os' : List (String × Outcome β)}
    (hF : ∀ segment e e', F e e' → F (e.within segment) (e'.within segment))
    (h : List.Forall₂ (fun p q => p.1 = q.1 ∧ Agree V F p.2 q.2) os os') :
    Agree (List.Forall₂ fun a b => a.1 = b.1 ∧ V a.2 b.2) F (Outcome.keyed os)
      (Outcome.keyed os') := by
  induction h with
  | nil => exact of_ok .nil
  | @cons p q _ _ hpq _ ih =>
    obtain ⟨key, o⟩ := p
    obtain ⟨key', o'⟩ := q
    obtain ⟨rfl, ho⟩ := hpq
    rw [Outcome.keyed_cons, Outcome.keyed_cons]
    refine (ho.within fun e e' => hF _ e e').bind fun a b hV => ?_
    exact ih.map fun as bs hVs => .cons ⟨rfl, hV⟩ hVs

end Agree

end Outcome

open Outcome (Agree)

/-- Alternatives that agree one by one agree as a whole. -/
theorem Attempts.agree_settle {V : Json → Json → Prop} {F : Failure → Failure → Prop}
    {os os' : List (Outcome Json)} {input input' : Option Json}
    (h : List.Forall₂ (Agree V F) os os')
    (hF : ∀ es es', List.Forall₂ F es es' →
      F (.noAlternative input es) (.noAlternative input' es')) :
    Agree V F ((ofList os).settle input) ((ofList os').settle input') := by
  suffices (∃ a b, (ofList os).result = .ok a ∧ (ofList os').result = .ok b ∧ V a b) ∨
      ∃ es es', (ofList os).result = .error es ∧ (ofList os').result = .error es' ∧
        List.Forall₂ F es es' by
    rcases this with ⟨a, b, ha, hb, hab⟩ | ⟨es, es', he, he', hee⟩
    · exact .ok (settle_ok_iff.2 ha) (settle_ok_iff.2 hb) hab
    · exact .error (settle_error_iff.2 ⟨es, he, rfl⟩) (settle_error_iff.2 ⟨es', he', rfl⟩)
        (hF es es' hee)
  clear hF
  induction h with
  | nil => exact Or.inr ⟨[], [], rfl, rfl, .nil⟩
  | cons ho _ ih =>
    obtain ⟨ha, hb, hab⟩ | ⟨he, he', hee⟩ := ho
    · exact Or.inl ⟨_, _, before_of_ok ha _, before_of_ok hb _, hab⟩
    · simp only [ofList, before_of_error he, before_of_error he']
      rcases ih with ⟨a, b, ha, hb, hab⟩ | ⟨es, es', hes, hes', hall⟩
      · exact Or.inl ⟨a, b, by simp [ha, Except.mapError], by simp [hb, Except.mapError], hab⟩
      · exact Or.inr ⟨_, _, by simp [hes, Except.mapError],
          by simp [hes', Except.mapError], .cons hee hall⟩

end Conform
