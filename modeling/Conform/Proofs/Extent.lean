/-
  The tree of a failure is no larger than the schema, whatever was checked: only
  messages and choices put failures behind others, and only arrays and objects make
  paths longer.
-/
import Conform.Failure.Tree
import Conform.Proofs.Log

namespace Conform

/-! ## Extents -/

/-- The size of a schema: its nodes, and the levels of arrays and objects on its deepest branch. -/
structure Extent where
  nodes : Nat
  levels : Nat

namespace Extent

/-- Extents side by side: the nodes of all of them, and the levels of the deepest one. -/
def total : List Extent → Extent
  | [] => ⟨0, 0⟩
  | x :: rest => ⟨x.nodes + (total rest).nodes, max x.levels (total rest).levels⟩

/-- The extent of one more node, with or without a level of its own, around its parts. -/
def around (level : Nat) (parts : List Extent) : Extent :=
  ⟨(total parts).nodes + 1, (total parts).levels + level⟩

theorem le_total_of_mem {x : Extent} {xs : List Extent} (h : x ∈ xs) :
    x.nodes ≤ (total xs).nodes ∧ x.levels ≤ (total xs).levels := by
  induction xs with
  | nil => cases h
  | cons y rest ih =>
    simp only [total]
    rcases List.mem_cons.1 h with rfl | h
    · omega
    · have := ih h
      omega

theorem total_le_total_append (xs ys : List Extent) :
    (total xs).nodes ≤ (total (xs ++ ys)).nodes ∧
      (total xs).levels ≤ (total (xs ++ ys)).levels := by
  induction xs with
  | nil => simp [total]
  | cons x rest ih =>
    simp only [total, List.cons_append]
    omega

end Extent

namespace Schema

/-- The schema is a level of arrays or objects, which paths take a step to leave. -/
def level : Schema → Nat
  | array _ | tuple _ | record _ | object _ _ | typedRecord _ => 1
  | _ => 0

mutual

/-- The extent of a schema. -/
def extent : Schema → Extent
  | leaf _ | literal _ | enums _ | pattern _ | rule _ => .around 0 []
  | array inner | record inner => .around 1 [extent inner]
  | tuple items => .around 1 (extents items)
  | object fields _ | typedRecord fields => .around 1 (fieldExtents fields)
  | jsonString inner | optional inner | nullable inner | withDefault inner _
  | withMessage inner _ _ | map inner _ | tryMap inner _ | chain inner _ =>
    .around 0 [extent inner]
  | union alternatives => .around 0 (extents alternatives)
  | orElse left right => .around 0 [extent left, extent right]

/-- The extents of schemas. -/
def extents : List Schema → List Extent
  | [] => []
  | s :: rest => extent s :: extents rest

/-- The extents of the schemas of fields. -/
def fieldExtents : List (String × Schema) → List Extent
  | [] => []
  | (_, s) :: rest => extent s :: fieldExtents rest

end

theorem extents_eq_map (schemas : List Schema) : extents schemas = schemas.map extent := by
  induction schemas with
  | nil => rfl
  | cons s rest ih => rw [extents, ih, List.map_cons]

theorem fieldExtents_eq_map (fields : List (String × Schema)) :
    fieldExtents fields = (fields.map Prod.snd).map extent := by
  induction fields with
  | nil => rfl
  | cons field rest ih => rw [fieldExtents, ih, List.map_cons, List.map_cons]

theorem extent_eq (s : Schema) : s.extent = .around s.level (s.children.map extent) := by
  cases s with
  | tuple items => rw [extent, extents_eq_map]; rfl
  | union alternatives => rw [extent, extents_eq_map]; rfl
  | object fields deny => rw [extent, fieldExtents_eq_map]; rfl
  | typedRecord fields => rw [extent, fieldExtents_eq_map]; rfl
  | _ => rfl

/-! ## Failures that are passed on -/

/-- The functions of the schema raise failures at the value that they see, without causes, or pass
    on failures of given schemas. -/
def PassesOn (order : KeyOrder) (s : Schema) (passedOn : List Schema) : Prop :=
  ∀ o, s.Makes o → ∀ e, o.result = .error e → (e.path = [] ∧ e.causes = []) ∨
    ∃ t ∈ passedOn, ∃ place, (t.check order place).result = .error e

/-- The functions of the schema raise failures at the value that they see, without causes. -/
def RaisesHere (s : Schema) : Prop :=
  ∀ o, s.Makes o → ∀ e, o.result = .error e → e.path = [] ∧ e.causes = []

/-- The extent of a schema in which those schemas count as parts whose failures its functions pass
    on, and so on inside. -/
inductive Spans (order : KeyOrder) : Schema → Extent → Prop
  | intro {s : Schema} (passedOn : List Schema) (size : Schema → Extent)
      (functions : s.PassesOn order passedOn)
      (parts : ∀ t ∈ s.children ++ passedOn, Spans order t (size t)) :
      Spans order s (.around s.level ((s.children ++ passedOn).map size))

variable {order : KeyOrder}

theorem spans_extent {s : Schema} (hs : s.Everywhere RaisesHere) : s.Spans order s.extent := by
  induction hs with
  | @intro s here _ ih =>
    rw [extent_eq, ← List.append_nil s.children]
    refine .intro [] extent (fun o ho e he => Or.inl (here o ho e he)) fun t ht => ?_
    rw [List.append_nil] at ht
    exact ih t ht

end Schema

/-! ## Failures and extents -/

namespace Failure

/-- The tree of the failure has no more failures than there are nodes, with paths no longer than
    there are levels. -/
def Fits (e : Failure) (x : Extent) : Prop :=
  e.flatten.length ≤ x.nodes ∧ ∀ n ∈ e.flatten, n.path.length ≤ x.levels

/-- The same of trees side by side. -/
def AllFit (es : List Failure) (x : Extent) : Prop :=
  (flattenAll es).length ≤ x.nodes ∧ ∀ n ∈ flattenAll es, n.path.length ≤ x.levels

variable {e : Failure} {x : Extent} {xs : List Extent}

theorem fits_iff : e.Fits x ↔ (flattenAll e.causes).length + 1 ≤ x.nodes ∧
    e.path.length ≤ x.levels ∧ ∀ n ∈ flattenAll e.causes, n.path.length ≤ x.levels := by
  rw [Fits, flatten_eq, List.length_cons, List.forall_mem_cons]

theorem allFit_singleton : AllFit [e] x ↔ e.Fits x := by
  rw [AllFit, Fits, flattenAll, flattenAll, List.append_nil]

/-- Trees side by side fit into the total of what they fit into one by one. -/
theorem allFit_total {es : List Failure} (h : List.Forall₂ Fits es xs) : AllFit es (.total xs) := by
  induction h with
  | nil => exact ⟨Nat.le_refl 0, List.forall_mem_nil _⟩
  | @cons e x es xs he _ ih =>
    rw [AllFit, flattenAll, List.length_append, List.forall_mem_append]
    refine ⟨Nat.add_le_add he.1 ih.1, fun n hn => ?_, fun n hn => ?_⟩
    · exact (he.2 n hn).trans (Nat.le_max_left _ _)
    · exact (ih.2 n hn).trans (Nat.le_max_right _ _)

/-- A failure without causes fits any node, if that is a level for the step that its path may
    have. -/
theorem fits_node (level : Nat) (xs : List Extent) (causes : e.causes = [])
    (path : e.path.length ≤ level) : e.Fits (.around level xs) := by
  rw [fits_iff, causes]
  exact ⟨Nat.le_add_left 1 _, path.trans (Nat.le_add_left _ _), List.forall_mem_nil _⟩

theorem Fits.around (h : e.Fits x) (hx : x ∈ xs) (level : Nat) : e.Fits (.around level xs) := by
  obtain ⟨hnodes, hlevels⟩ := Extent.le_total_of_mem hx
  refine ⟨(h.1.trans hnodes).trans (Nat.le_succ _), fun n hn => ?_⟩
  exact ((h.2 n hn).trans hlevels).trans (Nat.le_add_right _ _)

/-- The failure of a part, one step further outside. Those behind it stay where they are. -/
theorem Fits.within (h : e.Fits x) (hx : x ∈ xs) (segment : Segment) :
    (e.within segment).Fits (.around 1 xs) := by
  obtain ⟨hcount, -, hcauses⟩ := fits_iff.1 (h.around hx 1)
  have hpath := ((fits_iff.1 h).2.1).trans (Extent.le_total_of_mem hx).2
  exact fits_iff.2 ⟨hcount, Nat.succ_le_succ hpath, hcauses⟩

theorem Fits.reworded (h : e.Fits x) (hx : x ∈ xs) (message : String) (code : Option String) :
    (e.reworded message code).Fits (.around 0 xs) := by
  obtain ⟨hnodes, hlevels⟩ := Extent.le_total_of_mem hx
  obtain ⟨hcount, hall⟩ := allFit_singleton.2 h
  refine fits_iff.2 ⟨Nat.succ_le_succ (hcount.trans hnodes), ?_, fun n hn => ?_⟩
  · exact (fits_iff.1 h).2.1.trans hlevels
  · exact (hall n hn).trans hlevels

/-- The failures of some of the parts, behind one without a path. -/
theorem fits_noAlternative {causes : List Failure} (h : List.Forall₂ Fits causes xs)
    (others : List Extent) (input : Option Json) :
    (noAlternative input causes).Fits (.around 0 (xs ++ others)) := by
  obtain ⟨hcount, hall⟩ := allFit_total h
  obtain ⟨hnodes, hlevels⟩ := Extent.total_le_total_append xs others
  exact fits_iff.2 ⟨Nat.succ_le_succ (hcount.trans hnodes), Nat.zero_le _,
    fun n hn => (hall n hn).trans hlevels⟩

end Failure

namespace Schema

open Failure Outcome

variable {order : KeyOrder} {s : Schema} {passedOn : List Schema} {size : Schema → Extent}
  {input : Option Json} {e : Failure}

theorem fits_union (alternatives : List Schema)
    (parts : ∀ t ∈ alternatives, ∀ place e, (t.check order place).result = .error e →
      e.Fits (size t)) (h : ((union alternatives).check order input).result = .error e) :
    e.Fits (.around 0 ((alternatives ++ passedOn).map size)) := by
  obtain ⟨causes, each, rfl⟩ := union_error_iff.1 h
  rw [List.map_append]
  refine fits_noAlternative ?_ _ input
  rw [List.forall₂_map_right_iff]
  have hall : List.Forall₂ (fun t cause => cause.Fits (size t)) alternatives causes := by
    rw [List.forall₂_iff_zip] at each ⊢
    refine ⟨each.1, fun {t cause} ht => ?_⟩
    exact parts t (List.of_mem_zip ht).1 input cause (each.2 ht)
  exact hall.flip

/-- **One step**: a failure fits into a node around what the failures of its parts, and of the
    schemas whose failures it passes on, fit into. -/
theorem fits_step (functions : s.PassesOn order passedOn)
    (parts : ∀ t ∈ s.children ++ passedOn, ∀ place e, (t.check order place).result = .error e →
      e.Fits (size t)) (h : (s.check order input).result = .error e) :
    e.Fits (.around s.level ((s.children ++ passedOn).map size)) := by
  have along : ∀ t ∈ s.children ++ passedOn, ∀ place e, (t.check order place).result = .error e →
      e.Fits (.around s.level ((s.children ++ passedOn).map size)) :=
    fun t ht place e he => (parts t ht place e he).around (List.mem_map_of_mem ht) s.level
  have further : ∀ t ∈ s.children, ∀ place e segment, (t.check order place).result = .error e →
      (e.within segment).Fits (.around 1 ((s.children ++ passedOn).map size)) := by
    intro t ht place e segment he
    have ht' := List.mem_append_left passedOn ht
    exact (parts t ht' place e he).within (List.mem_map_of_mem ht') segment
  have raised : ∀ o, s.Makes o → o.result = .error e →
      e.Fits (.around s.level ((s.children ++ passedOn).map size)) := by
    intro o ho he
    rcases functions o ho e he with ⟨hpath, hcauses⟩ | ⟨t, ht, place, he⟩
    · exact fits_node _ _ hcauses (by simp [hpath])
    · exact along t (List.mem_append_right _ ht) place e he
  cases s with
  | leaf l =>
    rw [check] at h
    cases Leaf.check_error h
    exact fits_node _ _ rfl (Nat.zero_le _)
  | literal expected =>
    rw [check] at h
    cases checkLiteral_error h
    exact fits_node _ _ rfl (Nat.zero_le _)
  | enums variants =>
    rw [check] at h
    rcases checkEnums_error h with rfl | rfl <;> exact fits_node _ _ rfl (Nat.zero_le _)
  | pattern p =>
    rw [check] at h
    rcases checkPattern_error h with rfl | rfl <;> exact fits_node _ _ rfl (Nat.zero_le _)
  | rule f =>
    rw [check] at h
    exact raised (f input) ⟨input, rfl⟩ h
  | jsonString inner =>
    rcases jsonString_error h with rfl | ⟨text, rfl, ⟨fault, rfl⟩ | ⟨value, -, he⟩⟩
    · exact fits_node _ _ rfl (Nat.zero_le _)
    · exact fits_node _ _ rfl (Nat.zero_le _)
    · exact along inner List.mem_cons_self _ e he
  | array item =>
    rcases array_error h with rfl | ⟨values, index, value, e, rfl, -, he, rfl⟩
    · exact fits_node _ _ rfl (Nat.zero_le _)
    · exact further item List.mem_cons_self _ e (.index index) he
  | tuple items =>
    rcases tuple_error h with rfl | ⟨values, rfl, -, rfl⟩ |
      ⟨values, index, item, value, e, rfl, hitem, -, he, rfl⟩
    · exact fits_node _ _ rfl (Nat.zero_le _)
    · exact fits_node _ _ rfl (Nat.zero_le _)
    · exact further item (List.mem_of_getElem? hitem) _ e (.index index) he
  | record value =>
    rcases record_error h with rfl | ⟨entries, key, v, e, rfl, -, he, rfl⟩
    · exact fits_node _ _ rfl (Nat.zero_le _)
    · exact further value List.mem_cons_self _ e (.key key) he
  | object fields deny =>
    rcases object_error h with rfl | ⟨entries, rfl, ⟨key, field, e, hfield, he, rfl⟩ |
      ⟨-, key, value, -, -, rfl⟩⟩
    · exact fits_node _ _ rfl (Nat.zero_le _)
    · exact further field (List.mem_map_of_mem (f := Prod.snd) hfield) _ e (.key key) he
    · -- the key that is not declared is the only step
      exact fits_node _ _ rfl (Nat.le_refl 1)
  | typedRecord fields =>
    rcases typedRecord_error h with rfl | ⟨entries, rfl, key, field, e, hfield, he, rfl⟩
    · exact fits_node _ _ rfl (Nat.zero_le _)
    · exact further field (List.mem_map_of_mem (f := Prod.snd) hfield) _ e (.key key) he
  | optional inner => exact along inner List.mem_cons_self input e (optional_error h)
  | nullable inner => exact along inner List.mem_cons_self input e (nullable_error h)
  | withDefault inner fallback =>
    exact along inner List.mem_cons_self input e (withDefault_error h)
  | withMessage inner message code =>
    obtain ⟨e, he, rfl⟩ := withMessage_error h
    exact (parts inner List.mem_cons_self input e he).reworded List.mem_cons_self message code
  | map inner f =>
    rcases map_error h with he | rfl
    · exact along inner List.mem_cons_self input e he
    · exact fits_node _ _ rfl (Nat.zero_le _)
  | tryMap inner f =>
    rw [check] at h
    rcases bind_error_iff.1 h with he | ⟨value, -, he⟩
    · exact along inner List.mem_cons_self input e he
    · exact raised (f value) ⟨value, rfl⟩ he
  | chain base steps => exact along base List.mem_cons_self input e (chain_error h)
  | union alternatives =>
    exact fits_union alternatives (fun t ht => parts t (List.mem_append_left _ ht)) h
  | orElse left right =>
    rw [check_orElse] at h
    exact fits_union [left, right] (fun t ht => parts t (List.mem_append_left _ ht)) h

/-- **All failures of a schema fit its extent.** -/
theorem Spans.fits {x : Extent} (hs : s.Spans order x)
    (h : (s.check order input).result = .error e) : e.Fits x := by
  induction hs generalizing input e with
  | intro passedOn size functions _ ih =>
    exact fits_step functions (fun t ht place e he => ih t ht he) h

/-- **The size of a failure is bounded by the schema**, whatever it was that was checked. The tree
    of a failure has at most as many failures as the schema has nodes, and none of their paths is
    longer than there are levels of arrays and objects on the deepest branch; schemas whose
    failures are passed on by functions count as parts. Where nothing is passed on, the schema alone
    counts. -/
theorem check_error_extent (s : Schema) :
    (∀ x, s.Spans order x → ∀ input e, (s.check order input).result = .error e →
        e.flatten.length ≤ x.nodes ∧ ∀ n ∈ e.flatten, n.path.length ≤ x.levels) ∧
      (s.Everywhere RaisesHere → ∀ input e, (s.check order input).result = .error e →
        e.flatten.length ≤ s.extent.nodes ∧ ∀ n ∈ e.flatten, n.path.length ≤ s.extent.levels) :=
  ⟨fun _ hs _ _ h => hs.fits h, fun hs _ _ h => (spans_extent hs).fits h⟩

/-- A choice whose second alternative checks the items of an array by a function, which passes on
    the failures of a record: four failures in a schema of nine nodes. -/
theorem check_error_extent_passed_on :
    let sizes := record (leaf .integer)
    let refer := tryMap (leaf .any) fun value => sizes.check .sorted (some value)
    let s := object [("a", union [leaf .string, withMessage (array refer) "sizes" none])] false
    let input := some (.obj [("a", .arr [.obj [("k", .bool true)]])])
    s.Spans .sorted ⟨9, 3⟩ ∧ sizes.Everywhere RaisesHere ∧
      ∃ e e', (s.check .sorted input).result = .error e ∧
        (sizes.check .sorted (some (.obj [("k", .bool true)]))).result = .error e' ∧
        (e.flatten.length = 4 ∧ e.flatten.length ≤ 9 ∧ ∀ n ∈ e.flatten, n.path.length ≤ 3) ∧
        e'.flatten.length ≤ 2 ∧ ∀ n ∈ e'.flatten, n.path.length ≤ 1 := by
  intro sizes refer s input
  have hleaf : ∀ l, (leaf l).Spans .sorted ⟨1, 0⟩ :=
    fun l => .intro [] extent (fun _ h => h.elim) (List.forall_mem_nil _)
  have hhere : sizes.Everywhere RaisesHere := by
    simp [sizes, everywhere_iff, children, RaisesHere, Makes]
  have hrefer : refer.Spans .sorted ⟨4, 1⟩ := by
    refine .intro [sizes] extent ?_ (List.forall_mem_cons.2 ⟨hleaf .any, ?_⟩)
    · rintro _ ⟨value, rfl⟩ e he
      exact Or.inr ⟨sizes, List.mem_cons_self, some value, he⟩
    · exact List.forall_mem_singleton.2 (spans_extent hhere)
  have harray : (array refer).Spans .sorted ⟨5, 2⟩ :=
    .intro [] (fun _ => ⟨4, 1⟩) (fun _ h => h.elim) (List.forall_mem_singleton.2 hrefer)
  have hmessage : (withMessage (array refer) "sizes" none).Spans .sorted ⟨6, 2⟩ :=
    .intro [] (fun _ => ⟨5, 2⟩) (fun _ h => h.elim) (List.forall_mem_singleton.2 harray)
  have hunion : (union [leaf .string, withMessage (array refer) "sizes" none]).Spans .sorted
      ⟨8, 2⟩ := by
    refine .intro [] (fun t => if t.children.isEmpty then ⟨1, 0⟩ else ⟨6, 2⟩)
      (fun _ h => h.elim) ?_
    exact List.forall_mem_cons.2 ⟨hleaf .string, List.forall_mem_singleton.2 hmessage⟩
  have hs : s.Spans .sorted ⟨9, 3⟩ :=
    .intro [] (fun _ => ⟨8, 2⟩) (fun _ h => h.elim) (List.forall_mem_singleton.2 hunion)
  refine ⟨hs, hhere, _, _, rfl, rfl, ⟨rfl, ?_⟩, ?_⟩
  · exact (check_error_extent s).1 _ hs input _ rfl
  · exact (@check_error_extent .sorted sizes).2 hhere (some (.obj [("k", .bool true)])) _ rfl

end Schema

end Conform
