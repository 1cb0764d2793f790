/-
  What can be read off the report of a failure. As long as no key has a point or an
  opening bracket in it, the text of a path tells its steps, and a report tells all
  but `null` from an absent value.
-/
import Conform.Failure.Tree
import Conform.Proofs.Alike

namespace Conform

/-! ## Steps -/

/-- The key has no character in it that a step may open with. -/
def Segment.Plain : Segment → Prop
  | .key name => ∀ c ∈ name.toList, c ≠ '.' ∧ c ≠ '['
  | .index _ => True

/-- The text is empty or opens with a step. -/
def OpensStep (cs : List Char) : Prop := ∀ c ∈ cs.head?, c = '.' ∨ c = '['

/-- Two texts of one class, each with something after it that is of another class, are equal if the
    whole texts are. -/
theorem append_inj_of_class {p : Char → Bool} {as bs rest rest' : List Char}
    (ha : ∀ c ∈ as, p c = true) (hb : ∀ c ∈ bs, p c = true)
    (hrest : ∀ c ∈ rest.head?, p c = false) (hrest' : ∀ c ∈ rest'.head?, p c = false)
    (h : as ++ rest = bs ++ rest') : as = bs ∧ rest = rest' := by
  obtain ⟨htake, hdrop⟩ := Numeral.span_of_class ha hrest
  obtain ⟨htake', hdrop'⟩ := Numeral.span_of_class hb hrest'
  rw [h] at htake hdrop
  exact ⟨htake.symm.trans htake', hdrop.symm.trans hdrop'⟩

namespace Segment

theorem toList_text_key (name : String) : (key name).text.toList = '.' :: name.toList := by
  simp [text]

theorem toList_text_index (n : Nat) :
    (index n).text.toList = '[' :: (Numeral.ofNat n ++ [']']) := by
  simp [text, Numeral.text]

/-- A step opens with a point or a bracket. -/
theorem text_eq_cons (s : Segment) :
    ∃ c cs, s.text.toList = c :: cs ∧ (c = '.' ∨ c = '[') := by
  cases s with
  | key name => exact ⟨_, _, toList_text_key name, Or.inl rfl⟩
  | index n => exact ⟨_, _, toList_text_index n, Or.inr rfl⟩

theorem ofNat_inj {m n : Nat} (h : Numeral.ofNat m = Numeral.ofNat n) : m = n := by
  rw [← Numeral.toNat_ofNat m, h, Numeral.toNat_ofNat]

/-- **The text of a plain step tells where it ends**, whatever steps come after it. -/
theorem text_append_inj {a b : Segment} (ha : a.Plain) (hb : b.Plain) {rest rest' : List Char}
    (hrest : OpensStep rest) (hrest' : OpensStep rest')
    (h : a.text.toList ++ rest = b.text.toList ++ rest') : a = b ∧ rest = rest' := by
  cases a with
  | key name =>
    cases b with
    | key name' =>
      rw [toList_text_key, toList_text_key] at h
      obtain ⟨-, h⟩ := List.cons.inj h
      -- a key lasts up to the next point or bracket
      have hclass : ∀ c : Char, (c ≠ '.' ∧ c ≠ '[') ↔ (c != '.' && c != '[') = true := by simp
      have hend : ∀ cs, OpensStep cs → ∀ c ∈ cs.head?, (c != '.' && c != '[') = false := by
        intro cs hcs c hc
        rcases hcs c hc with rfl | rfl <;> rfl
      obtain ⟨hname, hrest⟩ := append_inj_of_class (fun c hc => (hclass c).1 (ha c hc))
        (fun c hc => (hclass c).1 (hb c hc)) (hend _ hrest) (hend _ hrest') h
      exact ⟨congrArg key (String.toList_inj.1 hname), hrest⟩
    | index n =>
      rw [toList_text_key, toList_text_index] at h
      cases (List.cons.inj h).1
  | index m =>
    cases b with
    | key name =>
      rw [toList_text_key, toList_text_index] at h
      cases (List.cons.inj h).1
    | index n =>
      rw [toList_text_index, toList_text_index, List.cons_append, List.cons_append,
        List.append_assoc, List.append_assoc] at h
      obtain ⟨-, h⟩ := List.cons.inj h
      -- an index lasts as long as there are digits
      have hdigits : ∀ n, ∀ c ∈ Numeral.ofNat n, c.isDigit = true :=
        fun n => (Numeral.isDigits_iff.1 (Numeral.isDigits_ofNat n)).2
      have hend : ∀ cs : List Char, ∀ c ∈ ([']'] ++ cs).head?, c.isDigit = false := by
        intro cs c hc
        cases hc
        rfl
      obtain ⟨hindex, hrest⟩ :=
        append_inj_of_class (hdigits m) (hdigits n) (hend rest) (hend rest') h
      exact ⟨congrArg index (ofNat_inj hindex), (List.cons.inj hrest).2⟩

end Segment

/-! ## Paths -/

theorem opensStep_stepsText (path : List Segment) : OpensStep (stepsText path).toList := by
  intro c hc
  cases path with
  | nil => cases hc
  | cons segment rest =>
    obtain ⟨first, cs, htext, hfirst⟩ := segment.text_eq_cons
    rw [stepsText, String.toList_append, htext] at hc
    cases hc
    exact hfirst

theorem stepsText_ne_nil (segment : Segment) (rest : List Segment) :
    (stepsText (segment :: rest)).toList ≠ [] := by
  obtain ⟨first, cs, htext, -⟩ := segment.text_eq_cons
  rw [stepsText, String.toList_append, htext]
  exact List.cons_ne_nil first _

theorem stepsText_inj {path path' : List Segment} (h : ∀ s ∈ path, s.Plain)
    (h' : ∀ s ∈ path', s.Plain) (heq : (stepsText path).toList = (stepsText path').toList) :
    path = path' := by
  induction path generalizing path' with
  | nil =>
    cases path' with
    | nil => rfl
    | cons segment' rest' => exact (stepsText_ne_nil segment' rest' heq.symm).elim
  | cons segment rest ih =>
    cases path' with
    | nil => exact (stepsText_ne_nil segment rest heq).elim
    | cons segment' rest' =>
      obtain ⟨hsegment, hrest⟩ := List.forall_mem_cons.1 h
      obtain ⟨hsegment', hrest'⟩ := List.forall_mem_cons.1 h'
      rw [stepsText, stepsText, String.toList_append, String.toList_append] at heq
      obtain ⟨rfl, hafter⟩ := Segment.text_append_inj hsegment hsegment' (opensStep_stepsText rest)
        (opensStep_stepsText rest') heq
      rw [ih hrest hrest' hafter]

/-- **Plain paths are known from their texts.** -/
theorem pathText_inj {path path' : List Segment} (h : ∀ s ∈ path, s.Plain)
    (h' : ∀ s ∈ path', s.Plain) : pathText path = pathText path' ↔ path = path' := by
  refine ⟨fun heq => stepsText_inj h h' ?_, congrArg pathText⟩
  have htext : "$".toList ++ (stepsText path).toList = "$".toList ++ (stepsText path').toList := by
    rw [← String.toList_append, ← String.toList_append]
    exact congrArg String.toList heq
  exact List.append_cancel_left htext

/-- A point in a key could be the start of a step, and so could a bracket. -/
example : pathText [.key "a.b"] = pathText [.key "a", .key "b"] ∧
    pathText [.key "a[0]"] = pathText [.key "a", .index 0] := by decide

/-! ## Values by their parts -/

namespace Json

/-- A relation that holds of values iff it holds of their parts: of objects that were made from
    entries with the same keys, it holds iff it does at each key. -/
structure Likeness (R : Json → Json → Prop) : Prop where
  str {s t : String} : R (.str s) (.str t) ↔ s = t
  arr {as bs : List Json} : R (.arr as) (.arr bs) ↔ List.Forall₂ R as bs
  obj (order : KeyOrder) {as bs : Entries Json} (keys : as.keys = bs.keys)
      (distinct : as.keys.Nodup) : R (.obj (order.ofList as)) (.obj (order.ofList bs)) ↔
        List.Forall₂ (fun a b => a.1 = b.1 ∧ R a.2 b.2) as bs

/-- Entries with the same different keys are related one by one iff they are related key by key. -/
theorem forall₂_iff_lookup {R : Json → Json → Prop} {as bs : Entries Json}
    (keys : as.keys = bs.keys) (distinct : as.keys.Nodup) :
    List.Forall₂ (fun a b => a.1 = b.1 ∧ R a.2 b.2) as bs ↔
      ∀ a ∈ as, ∃ b, bs.lookup a.1 = some b ∧ R a.2 b := by
  have hpairs : List.Forall₂ (fun a b => a.1 = b.1) as bs := by
    have hkeys : List.Forall₂ (· = ·) (as.map Prod.fst) (bs.map Prod.fst) := by
      rw [List.forall₂_eq_eq_eq]
      exact keys
    rwa [List.forall₂_map_left_iff, List.forall₂_map_right_iff] at hkeys
  have hlookup : ∀ b ∈ bs, bs.lookup b.1 = some b.2 :=
    fun b hb => (Entries.lookup_eq_some_iff (keys ▸ distinct)).2 hb
  constructor
  · intro h a ha
    obtain ⟨b, hb, hkey, hR⟩ := forall₂_mem_left h a ha
    exact ⟨b.2, by rw [hkey, hlookup b hb], hR⟩
  · intro h
    rw [List.forall₂_iff_zip] at hpairs ⊢
    refine ⟨hpairs.1, fun {a b} hab => ?_⟩
    have hkey := hpairs.2 hab
    obtain ⟨ha, hb⟩ := List.of_mem_zip hab
    obtain ⟨value, hvalue, hR⟩ := h a ha
    rw [hkey, hlookup b hb] at hvalue
    cases hvalue
    exact ⟨hkey, hR⟩

theorem likeness_eq : Likeness (· = ·) where
  str := by simp
  arr := by simp [List.forall₂_eq_eq_eq]
  obj order as bs keys distinct := by
    have hpairs : List.Forall₂ (fun a b : String × Json => a.1 = b.1 ∧ a.2 = b.2) as bs ↔
        as = bs := by
      rw [← List.forall₂_eq_eq_eq (α := String × Json)]
      simp only [Prod.ext_iff]
    rw [hpairs, Json.obj.injEq]
    refine ⟨fun h => ?_, congrArg order.ofList⟩
    have hperm : as.Perm bs := by
      refine (KeyOrder.ofList_perm order distinct).symm.trans ?_
      rw [h]
      exact KeyOrder.ofList_perm order (keys ▸ distinct)
    exact Entries.eq_of_perm_of_keys distinct hperm keys

theorem sameItems_iff {as bs : List Json} :
    sameItems as bs = true ↔ List.Forall₂ (fun a b => a.same b = true) as bs := by
  induction as generalizing bs with
  | nil => cases bs <;> simp [sameItems]
  | cons a as ih => cases bs <;> simp [sameItems, ih]

theorem likeness_same : Likeness fun a b => a.same b = true where
  str := by simp [same]
  arr {as bs} := by rw [same, sameItems_iff]
  obj order as bs keys distinct := by
    have ha := KeyOrder.ofList_perm order distinct
    have hb := KeyOrder.ofList_perm order (keys ▸ distinct)
    have hlength : (order.ofList as).length = (order.ofList bs).length := by
      rw [ha.length_eq, hb.length_eq]
      simpa [Entries.keys] using congrArg List.length keys
    rw [forall₂_iff_lookup (R := fun a b => a.same b = true) keys distinct]
    change same (.obj (order.ofList as)) (.obj (order.ofList bs)) = true ↔ _
    rw [same, Bool.and_eq_true, beq_iff_eq, Alike.sameEntries_iff]
    simp only [hlength, true_and, ha.mem_iff, KeyOrder.lookup_ofList order (keys ▸ distinct)]

end Json

/-! ## Reports -/

namespace Failure

/-- All keys in the paths of the tree are plain. -/
def PlainPaths (e : Failure) : Prop := ∀ n ∈ e.flatten, ∀ s ∈ n.path, s.Plain

theorem plainPaths_iff {e : Failure} :
    e.PlainPaths ↔ (∀ s ∈ e.path, s.Plain) ∧ ∀ cause ∈ e.causes, cause.PlainPaths :=
  forall_mem_flatten_iff

/-- Failures with the same code, message and path, whose causes are in the same relation one by one.
    They carry values that are related, where `null` stands for an absent value. -/
inductive Indistinct (R : Json → Json → Prop) : Failure → Failure → Prop
  | intro {code message : String} {path : List Segment} {input input' : Option Json}
      {causes causes' : List Failure} (inputs : R (input.getD .null) (input'.getD .null))
      (behind : List.Forall₂ (Indistinct R) causes causes') :
      Indistinct R ⟨code, message, input, path, causes⟩ ⟨code, message, input', path, causes'⟩

theorem indistinct_iff {R : Json → Json → Prop} {code code' message message' : String}
    {input input' : Option Json} {path path' : List Segment} {causes causes' : List Failure} :
    Indistinct R ⟨code, message, input, path, causes⟩ ⟨code', message', input', path', causes'⟩ ↔
      code = code' ∧ message = message' ∧ path = path' ∧
        R (input.getD .null) (input'.getD .null) ∧
          List.Forall₂ (Indistinct R) causes causes' := by
  constructor
  · rintro ⟨inputs, behind⟩
    exact ⟨rfl, rfl, rfl, inputs, behind⟩
  · rintro ⟨rfl, rfl, rfl, inputs, behind⟩
    exact .intro inputs behind

variable {order : KeyOrder} {R : Json → Json → Prop}

mutual

/-- **Reports are alike iff the failures are indistinct.** -/
theorem report_iff (hR : Json.Likeness R) : ∀ {e e' : Failure}, e.PlainPaths → e'.PlainPaths →
    (R (e.report order) (e'.report order) ↔ e.Indistinct R e')
  | ⟨code, message, input, path, causes⟩, ⟨code', message', input', path', causes'⟩, h, h' => by
    obtain ⟨hpath, hcauses⟩ := plainPaths_iff.1 h
    obtain ⟨hpath', hcauses'⟩ := plainPaths_iff.1 h'
    rw [report, report, indistinct_iff]
    refine (hR.obj order (by rfl) (by simp [Entries.keys])).trans ?_
    simp only [List.forall₂_cons, List.forall₂_nil_left_iff, hR.str, hR.arr, true_and, and_true,
      pathText_inj hpath hpath', reportAll_iff hR hcauses hcauses']

theorem reportAll_iff (hR : Json.Likeness R) : ∀ {es es' : List Failure},
    (∀ e ∈ es, e.PlainPaths) → (∀ e ∈ es', e.PlainPaths) →
      (List.Forall₂ R (reportAll order es) (reportAll order es') ↔
        List.Forall₂ (Indistinct R) es es')
  | [], [], _, _ => by simp [reportAll]
  | [], _ :: _, _, _ => by simp [reportAll]
  | _ :: _, [], _, _ => by simp [reportAll]
  | e :: es, e' :: es', h, h' => by
    obtain ⟨he, hes⟩ := List.forall_mem_cons.1 h
    obtain ⟨he', hes'⟩ := List.forall_mem_cons.1 h'
    rw [reportAll, reportAll, List.forall₂_cons, List.forall₂_cons, report_iff hR he he',
      reportAll_iff hR hes hes']

end

/-- **Reports are unambiguous as long as keys are plain.** Plain paths with the same text are the
    same path. Failures with plain paths have equal reports iff they have the same codes, messages
    and paths and carry equal values, with all failures behind them, apart from `null` for an absent
    value. So it is too where equality neglects the order of entries. -/
theorem report_unambiguous :
    (∀ path path' : List Segment, (∀ s ∈ path, s.Plain) → (∀ s ∈ path', s.Plain) →
        pathText path = pathText path' → path = path') ∧
      ∀ e e' : Failure, e.PlainPaths → e'.PlainPaths →
        (e.report order = e'.report order ↔ e.Indistinct (· = ·) e') ∧
        ((e.report order).same (e'.report order) = true ↔
          e.Indistinct (fun a b => a.same b = true) e') := by
  refine ⟨fun path path' h h' => (pathText_inj h h').1, fun e e' h h' => ⟨?_, ?_⟩⟩
  · exact report_iff Json.likeness_eq h h'
  · exact report_iff Json.likeness_same h h'

/-- An empty key and one that looks like the end of an index: the report of a failure with a cause
    tells all but whether `null` was there. -/
theorem report_unambiguous_null :
    let path := [Segment.key "", .index 10, .key "0]"]
    let cause (input : Option Json) : Failure := (new "custom" "bad").withInput input
    let failure (input : Option Json) : Failure :=
      { code := "union", message := "no alternative matched", input, path, causes := [cause input] }
    (failure none).PlainPaths ∧ (failure (some .null)).PlainPaths ∧
      (failure none).Indistinct (· = ·) (failure (some .null)) ∧
      pathText path ≠ pathText [.key "", .index 1, .key "00]"] := by
  intro path cause failure
  have hpath : ∀ s ∈ path, s.Plain := by simp [path, Segment.Plain]
  have hplain : ∀ input, (failure input).PlainPaths := by
    intro input
    have hcause : (cause input).PlainPaths :=
      plainPaths_iff.2 ⟨List.forall_mem_nil _, List.forall_mem_nil _⟩
    exact plainPaths_iff.2 ⟨hpath, List.forall_mem_singleton.2 hcause⟩
  have hunambiguous := @report_unambiguous .insertion
  refine ⟨hplain none, hplain (some .null), ?_, fun htext => ?_⟩
  · exact (hunambiguous.2 _ _ (hplain none) (hplain (some .null))).1.1 rfl
  · have hother : ∀ s ∈ [.key "", .index 1, .key "00]"], Segment.Plain s := by
      simp [Segment.Plain]
    have hsame := hunambiguous.1 _ _ hpath hother htext
    simp [path] at hsame

end Failure

end Conform
