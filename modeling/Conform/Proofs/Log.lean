/-
  The events of a failure on its way out (`Failure.History`). Without alternatives
  there are no others; with them, those of refused alternatives come before.
-/
import Conform.Proofs.Check
import Conform.Proofs.Wording

namespace Conform

open Outcome

/-! ## Events -/

/-- The step that an event reports. -/
def Event.segment? : Event → Option Segment
  | elementRejected index _ => some (.index index)
  | fieldRejected key _ => some (.key key)
  | undeclaredKey key => some (.key key)
  | noAlternative _ => none
  | unwrapped _ _ => none

/-- The code of the failure that an event reports. -/
def Event.code? : Event → Option String
  | elementRejected _ code => some code
  | fieldRejected _ code => some code
  | undeclaredKey _ => none
  | noAlternative _ => none
  | unwrapped code _ => some code

theorem Event.segment?_refused (segment : Segment) (code : String) :
    (segment.refused code).segment? = some segment := by
  cases segment <;> rfl

theorem Event.code?_refused (segment : Segment) (code : String) :
    (segment.refused code).code? = some code := by
  cases segment <;> rfl

/-- A failure and the events of its way out: each step is reported with the code that the failure
    has before the step. -/
inductive Failure.History : Failure → List Event → Prop
  | raised {e : Failure} (path : e.path = []) : History e []
  | undeclared (key : String) (value : Json) : History (.unknownKey key value) [.undeclaredKey key]
  | within {e : Failure} {log : List Event} (segment : Segment) (part : History e log) :
      History (e.within segment) (log ++ [segment.refused e.code])
  | reworded {e : Failure} {log : List Event} (message : String) (code : Option String)
      (inner : History e log) : History (e.reworded message code) log

/-- The events of a failure report its path from the end to the start. -/
theorem Failure.History.segments {e : Failure} {log : List Event} (h : e.History log) :
    log.map Event.segment? = e.path.reverse.map some := by
  induction h with
  | raised path => simp [path]
  | undeclared key value => rfl
  | within segment part ih =>
    rw [List.map_append, ih]
    simp [Failure.within, Event.segment?_refused]
  | reworded message code inner ih => exact ih

/-! ## Tame schemas -/

namespace Schema

/-- An outcome comes from a function of the schema itself. -/
def Makes : Schema → Outcome Json → Prop
  | rule f, o => ∃ input, f input = o
  | tryMap _ f, o => ∃ value, f value = o
  | _, _ => False

mutual

/-- A property of a schema, of the schemas inside it, and of those whose failures its functions
    pass on. Other failures of its functions are raised at the value that the function sees.
    What functions report besides is `silent`. -/
inductive Tame (order : KeyOrder) (p : Schema → Prop) (silent : List Event → Prop) : Schema → Prop
  | intro {s : Schema} (here : p s) (inside : ∀ c ∈ s.children, Tame order p silent c)
      (functions : ∀ o, s.Makes o → Raised order p silent o) : Tame order p silent s

/-- An outcome of a function. -/
inductive Raised (order : KeyOrder) (p : Schema → Prop) (silent : List Event → Prop) :
    Outcome Json → Prop
  | own {o : Outcome Json} (path : ∀ e, o.result = .error e → e.path = [])
      (events : silent o.events) : Raised order p silent o
  | passedOn {t : Schema} {input : Option Json} {e : Failure} {earlier : List Event}
      (tame : Tame order p silent t) (failure : (t.check order input).result = .error e)
      (events : silent earlier) :
      Raised order p silent ⟨earlier ++ (t.check order input).events, .error e⟩

end

end Schema

/-! ## One step -/

/-- The last events of an outcome belong to its failure, as `H` tells; all others are `silent`. -/
def Mirrors (H : Failure → List Event → Prop) (silent : List Event → Prop) {α : Type}
    (o : Outcome α) : Prop :=
  (∀ a, o.result = .ok a → silent o.events) ∧
    ∀ e, o.result = .error e → ∃ earlier log, o.events = earlier ++ log ∧ silent earlier ∧ H e log

/-- Events that may be reported besides those of the failure. -/
structure Silent (silent : List Event → Prop) : Prop where
  nil : silent []
  append {a b : List Event} : silent a → silent b → silent (a ++ b)

/-- A relation between failures and events that is kept on the way out. -/
structure Outward (H : Failure → List Event → Prop) : Prop where
  raised {e : Failure} : e.path = [] → H e []
  undeclared (key : String) (value : Json) : H (.unknownKey key value) [.undeclaredKey key]
  within {e : Failure} {log : List Event} (segment : Segment) : H e log →
    H (e.within segment) (log ++ [segment.refused e.code])

/-- The events tell the code of the failure throughout. -/
def Unchanging (e : Failure) (log : List Event) : Prop :=
  ∀ event ∈ log, ∀ code ∈ event.code?, code = e.code

theorem outward_history : Outward Failure.History where
  raised := .raised
  undeclared := .undeclared
  within := .within

theorem outward_unchanging : Outward Unchanging where
  raised _ := nofun
  undeclared key value := by simp [Unchanging, Event.code?]
  within := by
    intro e log segment hlog event hevent code hcode
    rcases List.mem_append.1 hevent with hevent | hevent
    · exact hlog event hevent code hcode
    · rw [List.mem_singleton.1 hevent, Event.code?_refused] at hcode
      exact (Option.some.inj hcode).symm

variable {H : Failure → List Event → Prop} {silent : List Event → Prop}

theorem Mirrors.of_ok {α : Type} {o : Outcome α} {a : α} (h : o.result = .ok a)
    (hsilent : silent o.events) : Mirrors H silent o := by
  refine ⟨fun _ _ => hsilent, fun e he => ?_⟩
  rw [h] at he
  cases he

theorem Mirrors.of_error {α : Type} {o : Outcome α} {e : Failure} (h : o.result = .error e)
    (hlog : ∃ earlier log, o.events = earlier ++ log ∧ silent earlier ∧ H e log) :
    Mirrors H silent o := by
  refine ⟨fun a ha => ?_, fun e' he => ?_⟩
  · rw [h] at ha
    cases ha
  · rw [h] at he
    cases he
    exact hlog

theorem mirrors_compatible (hH : Outward H) (hs : Silent silent) :
    Compatible fun {_} o _ => Mirrors H silent o where
  ok a := .of_ok rfl hs.nil
  fail path _ := .of_error rfl ⟨[], [], rfl, hs.nil, hH.raised path⟩
  undeclared key value :=
    .of_error rfl ⟨[], [.undeclaredKey key], rfl, hs.nil, hH.undeclared key value⟩
  bind := by
    intro α β o _ f _ first next
    cases ho : o.result with
    | ok a =>
      have hevents : (o.bind f).events = o.events ++ (f a).events := by
        simp [Outcome.bind, ho, Traced.after]
      have hsilent := first.1 a ho
      rw [Mirrors, bind_of_ok ho, hevents]
      refine ⟨fun b hb => hs.append hsilent ((next a).1 b hb), fun e he => ?_⟩
      obtain ⟨earlier, log, heq, hearlier, hlog⟩ := (next a).2 e he
      refine ⟨o.events ++ earlier, log, ?_, hs.append hsilent hearlier, hlog⟩
      rw [heq, List.append_assoc]
    | error e =>
      have hevents : (o.bind f).events = o.events := by simp [Outcome.bind, ho]
      refine .of_error (bind_of_error ho f) ?_
      rw [hevents]
      exact first.2 e ho
  within := by
    intro α o _ segment part
    cases ho : o.result with
    | ok a =>
      have hsame : o.within segment segment.refused = o := by simp [Outcome.within, ho]
      rw [hsame]
      exact part
    | error e =>
      obtain ⟨earlier, log, heq, hearlier, hlog⟩ := part.2 e ho
      have hsame : o.within segment segment.refused =
          ⟨o.events ++ [segment.refused e.code], .error (e.within segment)⟩ := by
        simp [Outcome.within, ho]
      rw [hsame]
      refine .of_error rfl ⟨earlier, log ++ [segment.refused e.code], ?_, hearlier,
        hH.within segment hlog⟩
      rw [heq, List.append_assoc]

namespace Schema

variable {order : KeyOrder} {p : Schema → Prop}

/-- What a schema has to do itself: its message keeps `H`, and where it has alternatives, all events
    are silent. -/
def Reports (H : Failure → List Event → Prop) (silent : List Event → Prop) : Schema → Prop
  | withMessage _ message code => ∀ e log, H e log → H (e.reworded message code) log
  | union _ | orElse _ _ => ∀ events, silent events
  | _ => True

theorem mirrors_union (hH : Outward H) (hsilent : ∀ events, silent events)
    (alternatives : List Schema) (input : Option Json) :
    Mirrors H silent ((union alternatives).check order input) := by
  refine ⟨fun _ _ => hsilent _, fun e he => ?_⟩
  obtain ⟨causes, -, rfl⟩ := union_error_iff.1 he
  exact ⟨_, [], (List.append_nil _).symm, hsilent _, hH.raised rfl⟩

/-- The outcomes of a schema mirror their failures. -/
abbrev Mirrored (order : KeyOrder) (H : Failure → List Event → Prop) (silent : List Event → Prop)
    (s : Schema) : Prop :=
  Alongside (fun {_} o _ => Mirrors H silent o) order s s

/-- **One step**: the events of a schema belong to its failure if those of its parts do. -/
theorem mirrors_step (hH : Outward H) (hs : Silent silent) {s : Schema} (here : s.Reports H silent)
    (inside : ∀ c ∈ s.children, c.Mirrored order H silent)
    (functions : ∀ o, s.Makes o → Mirrors H silent o) : s.Mirrored order H silent := by
  have hk := mirrors_compatible hH hs
  intro input
  cases s with
  | leaf l => exact hk.leaf l input
  | literal expected => exact hk.literal expected input
  | enums variants => exact hk.enums variants input
  | pattern p => exact hk.pattern p input
  | rule f =>
    rw [check]
    exact functions (f input) ⟨input, rfl⟩
  | jsonString inner => exact hk.jsonString (inside inner (by simp [children])) input
  | array item => exact hk.array (inside item (by simp [children])) input
  | tuple items => exact hk.tuple (List.forall₂_same.2 inside) input
  | record value => exact hk.record (inside value (by simp [children])) input
  | object fields deny =>
    refine hk.object (List.forall₂_same.2 fun field hfield => ⟨rfl, ?_⟩) deny input
    exact inside field.2 (List.mem_map_of_mem hfield)
  | typedRecord fields =>
    refine hk.typedRecord (List.forall₂_same.2 fun field hfield => ⟨rfl, ?_⟩) input
    exact inside field.2 (List.mem_map_of_mem hfield)
  | optional inner => exact hk.optional (inside inner (by simp [children])) input
  | nullable inner => exact hk.nullable (inside inner (by simp [children])) input
  | withDefault inner fallback =>
    exact hk.withDefault (inside inner (by simp [children])) fallback input
  | withMessage inner message code =>
    obtain ⟨hok, herror⟩ := inside inner (by simp [children]) input
    rw [check]
    refine ⟨fun a ha => hok a (mapFailure_ok_iff.1 ha), fun e he => ?_⟩
    obtain ⟨inside, hinside, rfl⟩ := mapFailure_error_iff.1 he
    obtain ⟨earlier, log, heq, hearlier, hlog⟩ := herror inside hinside
    exact ⟨earlier, log, heq, hearlier, here inside log hlog⟩
  | map inner f => exact hk.mapResult (inside inner (by simp [children])) f input
  | tryMap inner f =>
    have hf : ∀ output, Mirrors H silent (f output) := fun output => functions _ ⟨output, rfl⟩
    exact hk.tryMap (inside inner (by simp [children])) hf input
  | chain base steps => exact hk.chain (inside base (by simp [children])) steps input
  | union alternatives => exact mirrors_union hH here alternatives input
  | orElse left right =>
    rw [check_orElse]
    exact mirrors_union hH here [left, right] input

/-! ## All schemas -/

mutual

/-- **The events of a tame schema belong to its failure.** -/
theorem Tame.mirrors (hH : Outward H) (hs : Silent silent) (hp : ∀ s, p s → s.Reports H silent) :
    ∀ {s : Schema}, s.Tame order p silent → s.Mirrored order H silent
  | s, ⟨here, inside, functions⟩ =>
    mirrors_step hH hs (hp s here) (fun c hc => (inside c hc).mirrors hH hs hp)
      fun o ho => (functions o ho).mirrors hH hs hp

theorem Raised.mirrors (hH : Outward H) (hs : Silent silent) (hp : ∀ s, p s → s.Reports H silent) :
    ∀ {o : Outcome Json}, Raised order p silent o → Mirrors H silent o
  | o, .own path events => by
    refine ⟨fun _ _ => events, fun e he => ?_⟩
    exact ⟨o.events, [], (List.append_nil _).symm, events, hH.raised (path e he)⟩
  | _, .passedOn tame failure events => by
    obtain ⟨earlier, log, heq, hearlier, hlog⟩ := (tame.mirrors hH hs hp _).2 _ failure
    refine .of_error rfl ⟨_ ++ earlier, log, ?_, hs.append events hearlier, hlog⟩
    rw [heq, List.append_assoc]

end

/-- A function may check its value by another schema and pass on the outcome. -/
theorem Tame.raised (hs : Silent silent) (hp : ∀ s, p s → s.Reports Failure.History silent)
    {t : Schema} (h : t.Tame order p silent) (input : Option Json) :
    Raised order p silent (t.check order input) := by
  obtain ⟨hok, -⟩ := h.mirrors outward_history hs hp input
  cases ho : (t.check order input).result with
  | ok output => exact .own (fun e he => by rw [ho] at he; cases he) (hok output ho)
  | error e =>
    have hsame : t.check order input = ⟨[] ++ (t.check order input).events, .error e⟩ := by
      rw [List.nil_append, ← ho]
    rw [hsame]
    exact .passedOn h ho hs.nil

theorem silent_any : Silent fun _ => True := ⟨trivial, fun _ _ => trivial⟩

theorem silent_none : Silent (· = []) := ⟨rfl, fun ha hb => by rw [ha, hb]; rfl⟩

theorem reports_any (s : Schema) : s.Reports Failure.History fun _ => True := by
  cases s with
  | withMessage _ message code => exact fun _ _ h => h.reworded message code
  | union _ => exact fun _ => trivial
  | orElse _ _ => exact fun _ => trivial
  | _ => trivial

theorem reports_none {s : Schema} (h : s.NoAlternatives) : s.Reports Failure.History (· = []) := by
  cases s with
  | withMessage _ message code => exact fun _ _ h => h.reworded message code
  | union _ => exact h.elim
  | orElse _ _ => exact h.elim
  | _ => trivial

theorem reports_code {s : Schema} (h : s.NoAlternatives ∧ s.KeepsCode) :
    s.Reports Unchanging (· = []) := by
  cases s with
  | withMessage _ message code =>
    obtain rfl : code = none := h.2
    exact fun _ _ h => h
  | union _ => exact h.1.elim
  | orElse _ _ => exact h.1.elim
  | _ => trivial

/-- **The events of a check mirror the path of its failure**, from the end to the start. Without
    alternatives there are no other events, each one tells the code that the failure had at its
    step, and a success is not reported at all. -/
theorem check_log {s : Schema} (hs : s.Tame order (fun _ => True) fun _ => True)
    (input : Option Json) :
    (∀ e, (s.check order input).result = .error e → ∃ earlier log,
        (s.check order input).events = earlier ++ log ∧
          log.map Event.segment? = e.path.reverse.map some) ∧
      (s.Tame order NoAlternatives (· = []) →
        (∀ output, (s.check order input).result = .ok output → (s.check order input).events = []) ∧
        ∀ e, (s.check order input).result = .error e → e.History (s.check order input).events ∧
          (s.check order input).events.map Event.segment? = e.path.reverse.map some) ∧
      (s.Tame order (fun t => t.NoAlternatives ∧ t.KeepsCode) (· = []) → ∀ e,
        (s.check order input).result = .error e →
          ∀ event ∈ (s.check order input).events, ∀ code ∈ event.code?, code = e.code) := by
  refine ⟨fun e he => ?_, fun hnone => ⟨?_, fun e he => ?_⟩, fun hcodes e he => ?_⟩
  · obtain ⟨earlier, log, heq, -, hlog⟩ :=
      (hs.mirrors outward_history silent_any (fun t _ => reports_any t) input).2 e he
    exact ⟨earlier, log, heq, hlog.segments⟩
  · exact (hnone.mirrors outward_history silent_none (fun _ => reports_none) input).1
  · obtain ⟨_, log, heq, rfl, hlog⟩ :=
      (hnone.mirrors outward_history silent_none (fun _ => reports_none) input).2 e he
    rw [heq, List.nil_append]
    exact ⟨hlog, hlog.segments⟩
  · obtain ⟨_, log, heq, rfl, hlog⟩ :=
      (hcodes.mirrors outward_unchanging silent_none (fun _ => reports_code) input).2 e he
    rw [heq, List.nil_append]
    exact hlog

/-- A field is checked by a function that passes on the failure of an item, under a message with a
    code of its own. -/
theorem check_log_delegated :
    ((object [("sizes", withMessage (tryMap (leaf .any) fun value =>
        (array (leaf .integer)).check .sorted (some value)) "sizes" (some "bad"))] false).check
      .sorted (some (.obj [("sizes", .arr [.int 2, .str "x"])]))).events.map Event.segment? =
        [some (.index 1), some (.key "sizes")] := by
  have htame : ∀ (p : Schema → Prop) (silent : List Event → Prop), Silent silent →
      (∀ s, p s → s.Reports Failure.History silent) → (∀ s, NoAlternatives s → p s) →
      (object [("sizes", withMessage (tryMap (leaf .any) fun value =>
        (array (leaf .integer)).check .sorted (some value)) "sizes" (some "bad"))] false).Tame
          .sorted p silent := by
    intro p silent hs hp hall
    have hleaf : ∀ l, (leaf l).Tame .sorted p silent := fun l =>
      .intro (hall _ trivial) (by simp [children]) fun _ h => h.elim
    have harray : (array (leaf .integer)).Tame .sorted p silent :=
      .intro (hall _ trivial) (List.forall_mem_singleton.2 (hleaf .integer)) fun _ h => h.elim
    refine .intro (hall _ trivial) ?_ fun _ h => h.elim
    refine List.forall_mem_singleton.2 (.intro (hall _ trivial) ?_ fun _ h => h.elim)
    refine List.forall_mem_singleton.2 (.intro (hall _ trivial) ?_ ?_)
    · exact List.forall_mem_singleton.2 (hleaf .any)
    · rintro _ ⟨value, rfl⟩
      exact harray.raised hs hp (some value)
  have hany := htame (fun _ => True) (fun _ => True) silent_any (fun t _ => reports_any t)
    fun _ _ => trivial
  have hnone := htame NoAlternatives (· = []) silent_none (fun _ => reports_none) fun _ h => h
  have hlog := check_log hany (some (.obj [("sizes", .arr [.int 2, .str "x"])]))
  exact ((hlog.2.1 hnone).2 _ rfl).2

end Schema

end Conform
