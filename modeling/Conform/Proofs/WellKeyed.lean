/-
  Values that are read from text have no key twice in an object.
-/
import Conform.Json.Reader
import Conform.Proofs.Entries

namespace Conform

namespace Json

/-- No object in a value has a key twice. -/
inductive WellKeyed : Json → Prop
  | null : WellKeyed .null
  | bool (b : Bool) : WellKeyed (.bool b)
  | num (n : Number) : WellKeyed (.num n)
  | str (s : String) : WellKeyed (.str s)
  | arr {items : List Json} (inside : ∀ item ∈ items, WellKeyed item) : WellKeyed (.arr items)
  | obj {entries : Entries Json} (distinct : entries.keys.Nodup)
      (inside : ∀ entry ∈ entries, WellKeyed entry.2) : WellKeyed (.obj entries)

namespace WellKeyed

theorem item {items : List Json} (h : WellKeyed (.arr items)) : ∀ item ∈ items, WellKeyed item := by
  cases h with | arr inside => exact inside

theorem distinct {entries : Entries Json} (h : WellKeyed (.obj entries)) : entries.keys.Nodup := by
  cases h with | obj distinct _ => exact distinct

theorem entry {entries : Entries Json} (h : WellKeyed (.obj entries)) :
    ∀ entry ∈ entries, WellKeyed entry.2 := by
  cases h with | obj _ inside => exact inside

theorem lookup {entries : Entries Json} (h : WellKeyed (.obj entries)) (key : String) :
    ∀ value ∈ entries.lookup key, WellKeyed value :=
  fun value hvalue => h.entry (key, value) (Entries.mem_of_lookup hvalue)

end WellKeyed

/-! ## Lexemes -/

/-- The value that a lexeme brings along is well-keyed. -/
def Lexeme.WellKeyed (lexeme : Lexeme) : Prop :=
  ∀ value, lexeme.token = .scalar value → value.WellKeyed

theorem scanWord_value {word cs rest : List Char} {value result : Json}
    (h : scanWord word value cs = .ok (result, rest)) : result = value := by
  fun_induction scanWord word value cs with
  | case1 => cases h; rfl
  | case3 w word cs ih => exact ih h
  | case2 => cases h
  | case4 => cases h

theorem word?_wellKeyed {c : Char} {word : List Char} {value : Json}
    (h : word? c = some (word, value)) : value.WellKeyed := by
  unfold word? at h
  split at h <;> cases h
  · exact .null
  · exact .bool true
  · exact .bool false

theorem scanToken_wellKeyed {c : Char} {cs : List Char} {value : Json}
    (h : (scanToken c cs).1 = .scalar value) : value.WellKeyed := by
  unfold scanToken at h
  split at h
  · next token _ hpunctuation =>
    unfold punctuation? at hpunctuation
    split at hpunctuation <;> cases hpunctuation <;> cases h
  · next word wordValue _ hword =>
    cases hscan : scanWord word wordValue cs with
    | error flaw => rw [hscan] at h; cases h
    | ok scanned =>
      rw [hscan] at h
      cases h
      rw [scanWord_value hscan]
      exact word?_wellKeyed hword
  · split_ifs at h
    · cases hscan : scanString cs <;> rw [hscan] at h <;> cases h
    · cases hscan : scanNumber (c :: cs) <;> rw [hscan] at h <;> cases h
      exact .num _

theorem scan_wellKeyed {cs : List Char} : ∀ lexeme ∈ scan cs, lexeme.WellKeyed := by
  fun_induction scan cs with
  | case1 => exact nofun
  | case2 c cs _ ih => exact ih
  | case3 c cs _ _ scanned ih =>
    exact List.forall_mem_cons.2 ⟨fun value hvalue => scanToken_wellKeyed hvalue, ih⟩

/-! ## Steps -/

/-- What an open bracket holds is well-keyed, and its entries were put in one after the other. -/
def Frame.WellKeyed (order : KeyOrder) : Frame → Prop
  | .array items => ∀ item ∈ items, item.WellKeyed
  | .object entries | .member entries _ =>
    (∃ given, entries = order.ofList given) ∧ ∀ entry ∈ entries, entry.2.WellKeyed

/-- All that a reader holds is well-keyed. -/
structure State.WellKeyed (order : KeyOrder) (state : State) : Prop where
  frames : ∀ frame ∈ state.frames, frame.WellKeyed order
  document : ∀ document, state.due = .nothing document → document.WellKeyed

namespace State

variable {order : KeyOrder} {frames outer : List Frame} {lexeme : Lexeme} {state state' : State}

theorem wellKeyed_of_frames {due : Due} (hdue : ∀ document, due ≠ .nothing document)
    (h : ∀ frame ∈ frames, frame.WellKeyed order) : WellKeyed order ⟨due, frames⟩ :=
  ⟨h, fun document heq => (hdue document heq).elim⟩

theorem settle_wellKeyed {value : Json} (hvalue : value.WellKeyed)
    (h : ∀ frame ∈ frames, frame.WellKeyed order) :
    (settle order value frames).WellKeyed order := by
  obtain _ | ⟨frame, outer⟩ := frames
  · refine ⟨by simp [settle], ?_⟩
    rintro _ ⟨rfl⟩
    exact hvalue
  · obtain ⟨hframe, houter⟩ := List.forall_mem_cons.1 h
    cases frame with
    | array items =>
      refine wellKeyed_of_frames nofun (List.forall_mem_cons.2 ⟨?_, houter⟩)
      exact List.forall_mem_cons.2 ⟨hvalue, hframe⟩
    | object entries =>
      exact wellKeyed_of_frames nofun (List.forall_mem_cons.2 ⟨hframe, houter⟩)
    | member entries key =>
      obtain ⟨⟨given, rfl⟩, hentries⟩ := hframe
      refine wellKeyed_of_frames nofun (List.forall_mem_cons.2 ⟨⟨?_, ?_⟩, houter⟩)
      · exact ⟨given ++ [(key, value)], by simp [KeyOrder.ofList]⟩
      · intro entry hentry
        rcases Entries.mem_of_mem_insert hentry with rfl | hentry
        · exact hvalue
        · exact hentries entry hentry

/-- What a frame holds becomes a value. -/
theorem close_wellKeyed (h : ∀ frame ∈ frames, frame.WellKeyed order) :
    (close order frames).WellKeyed order := by
  have hobject : ∀ {entries : Entries Json}, ((∃ given, entries = order.ofList given) ∧
      ∀ entry ∈ entries, entry.2.WellKeyed) → (Json.obj entries).WellKeyed := by
    rintro _ ⟨⟨given, rfl⟩, hentries⟩
    exact .obj (Entries.nodup_keys_ofList order given) hentries
  obtain _ | ⟨frame, outer⟩ := frames
  · refine ⟨by simp [close], ?_⟩
    rintro _ ⟨rfl⟩
    exact .null
  · obtain ⟨hframe, houter⟩ := List.forall_mem_cons.1 h
    cases frame with
    | array items =>
      refine settle_wellKeyed (.arr fun item hitem => ?_) houter
      exact hframe item (List.mem_reverse.1 hitem)
    | object entries => exact settle_wellKeyed (hobject hframe) houter
    | member entries key => exact settle_wellKeyed (hobject hframe) houter

theorem openBracket_wellKeyed {due : Due} {frame : Frame}
    (hdue : ∀ document, due ≠ .nothing document)
    (hframe : frame.WellKeyed order) (h : ∀ frame ∈ frames, frame.WellKeyed order)
    (hopen : openBracket lexeme due frame frames = .ok state') : state'.WellKeyed order := by
  unfold openBracket at hopen
  split_ifs at hopen
  cases hopen
  exact wellKeyed_of_frames hdue (List.forall_mem_cons.2 ⟨hframe, h⟩)

theorem beginValue_wellKeyed (hlexeme : lexeme.WellKeyed)
    (h : ∀ frame ∈ frames, frame.WellKeyed order)
    (hbegin : beginValue order frames lexeme = .ok state') : state'.WellKeyed order := by
  unfold beginValue at hbegin
  split at hbegin
  · next value htoken =>
    cases hbegin
    exact settle_wellKeyed (hlexeme value htoken) h
  · cases hbegin
    exact settle_wellKeyed (.str _) h
  · have hempty : Frame.WellKeyed order (.array []) := fun _ => nofun
    refine openBracket_wellKeyed ?_ hempty h hbegin
    exact fun _ => nofun
  · have hempty : Frame.WellKeyed order (.object []) := ⟨⟨[], rfl⟩, fun _ => nofun⟩
    refine openBracket_wellKeyed ?_ hempty h hbegin
    exact fun _ => nofun
  all_goals cases hbegin

theorem beginMember_wellKeyed (h : ∀ frame ∈ frames, frame.WellKeyed order)
    (hbegin : beginMember frames lexeme = .ok state') : state'.WellKeyed order := by
  unfold beginMember at hbegin
  split at hbegin <;> cases hbegin
  exact wellKeyed_of_frames nofun h

theorem awaitValue_wellKeyed {key : String} (h : ∀ frame ∈ frames, frame.WellKeyed order) :
    (awaitValue key frames).WellKeyed order := by
  unfold awaitValue
  split
  · obtain ⟨hframe, houter⟩ := List.forall_mem_cons.1 h
    exact wellKeyed_of_frames nofun (List.forall_mem_cons.2 ⟨hframe, houter⟩)
  · exact wellKeyed_of_frames nofun h

theorem separate_wellKeyed (h : ∀ frame ∈ frames, frame.WellKeyed order)
    (hseparate : separate order frames lexeme = .ok state') : state'.WellKeyed order := by
  unfold separate at hseparate
  split at hseparate <;> split at hseparate <;> cases hseparate
  · exact wellKeyed_of_frames nofun h
  · exact close_wellKeyed h
  · exact wellKeyed_of_frames nofun h
  · exact close_wellKeyed h

/-- **One lexeme keeps what is held well-keyed.** -/
theorem step_wellKeyed (hlexeme : lexeme.WellKeyed) (h : state.WellKeyed order)
    (hstep : step order state lexeme = .ok state') : state'.WellKeyed order := by
  unfold step at hstep
  split at hstep
  · exact beginValue_wellKeyed hlexeme h.frames hstep
  · cases hstep
    exact close_wellKeyed h.frames
  · exact beginValue_wellKeyed hlexeme h.frames hstep
  · cases hstep
  · exact beginValue_wellKeyed hlexeme h.frames hstep
  · cases hstep
    exact close_wellKeyed h.frames
  · exact beginMember_wellKeyed h.frames hstep
  · cases hstep
  · exact beginMember_wellKeyed h.frames hstep
  · cases hstep
    exact awaitValue_wellKeyed h.frames
  · cases hstep
  · exact separate_wellKeyed h.frames hstep
  · cases hstep

theorem run_wellKeyed {lexemes : List Lexeme} (hlexemes : ∀ lexeme ∈ lexemes, lexeme.WellKeyed)
    (h : state.WellKeyed order) (hrun : lexemes.foldlM (step order) state = .ok state') :
    state'.WellKeyed order := by
  induction lexemes generalizing state with
  | nil =>
    cases hrun
    exact h
  | cons lexeme rest ih =>
    obtain ⟨hlexeme, hrest⟩ := List.forall_mem_cons.1 hlexemes
    rw [List.foldlM_cons, bind_eq_ok] at hrun
    obtain ⟨next, hstep, hrun⟩ := hrun
    exact ih hrest (step_wellKeyed hlexeme h hstep) hrun

end State

/-- **Values that are read from text are well-keyed.** -/
theorem read_wellKeyed {order : KeyOrder} {text : String} {value : Json}
    (h : Json.read order text = .ok value) : value.WellKeyed := by
  unfold Json.read at h
  split at h <;> cases h
  next hvalue =>
    obtain ⟨state, hrun, hfinish⟩ := bind_eq_ok.1 hvalue
    have hstart : State.start.WellKeyed order := ⟨by simp [State.start], by simp [State.start]⟩
    have hstate := State.run_wellKeyed scan_wellKeyed hstart hrun
    unfold State.finish at hfinish
    split at hfinish <;> cases hfinish
    next hdue => exact hstate.document _ hdue

end Json

end Conform
