/-
  Schemas of text undo text: the text of a value without doubles is read as the value,
  unless its brackets nest too deep.
-/
import Conform.Proofs.Entries
import Conform.Proofs.Scanning
import Conform.Schema.Check
import Mathlib.Logic.Function.Iterate

namespace Conform

namespace Json

variable {order : KeyOrder}

/-! ## Values -/

mutual

/-- How many brackets are open at once in a value. -/
def depth : Json → Nat
  | .arr items => itemsDepth items + 1
  | .obj entries => entriesDepth entries + 1
  | _ => 0

/-- The greatest depth of some items. -/
def itemsDepth : List Json → Nat
  | [] => 0
  | item :: rest => max (depth item) (itemsDepth rest)

/-- The greatest depth of the values of some entries. -/
def entriesDepth : List (String × Json) → Nat
  | [] => 0
  | (_, value) :: rest => max (depth value) (entriesDepth rest)

end

/-- A value without doubles: whole numbers have 64 bits, and objects keep their keys in order. -/
inductive Exact (order : KeyOrder) : Json → Prop
  | null : Exact order .null
  | bool (b : Bool) : Exact order (.bool b)
  | int {n : Int} (low : -0x8000000000000000 ≤ n) (high : n < 0x10000000000000000) :
    Exact order (.int n)
  | str (s : String) : Exact order (.str s)
  | arr {items : List Json} (inside : ∀ item ∈ items, Exact order item) : Exact order (.arr items)
  | obj {entries : Entries Json} (keeps : order.Keeps entries)
    (inside : ∀ entry ∈ entries, Exact order entry.2) : Exact order (.obj entries)

/-- A value as a string that holds its text. -/
def encode (value : Json) : Json := .str value.text

/-! ## Runs of the reader -/

namespace State

variable {state state' state'' : State} {cs cs' cs'' rest : List Char} {lexeme : Lexeme}
  {due : Due} {frames outer : List Frame} {d d' : Nat}

/-- The state after the lexemes of a text. -/
def run (order : KeyOrder) (state : State) (cs : List Char) : Except Flaw State :=
  (scan cs).foldlM (step order) state

theorem run_of_scan (h : scan cs = lexeme :: scan rest) :
    run order state cs = step order state lexeme >>= (run order · rest) := by
  rw [run, h, List.foldlM_cons]
  rfl

theorem run_nil : run order state [] = .ok state := by
  rw [run, scan]
  rfl

/-- A run goes on from another state with another text if that takes no more open brackets than
    there may be, and else it stops at the first bracket that is too deep. -/
structure Passes (order : KeyOrder) (depth : Nat) (state : State) (cs : List Char)
    (state' : State) (cs' : List Char) : Prop where
  goes : depth ≤ maxDepth → run order state cs = run order state' cs'
  stops : maxDepth < depth → ∃ flaw, flaw.reason = .tooDeep ∧ run order state cs = .error flaw

namespace Passes

theorem head (hscan : scan cs = lexeme :: scan cs') (hstep : step order state lexeme = .ok state')
    (h : Passes order d state' cs' state'' cs'') : Passes order d state cs state'' cs'' := by
  have hrun : run order state cs = run order state' cs' := by
    rw [run_of_scan hscan, hstep]
    rfl
  constructor
  · intro hd
    rw [hrun, h.goes hd]
  · intro hd
    rw [hrun]
    exact h.stops hd

theorem refl (hd : d ≤ maxDepth) : Passes order d state cs state cs where
  goes _ := rfl
  stops hlt := absurd hd (Nat.not_le.2 hlt)

/-- **Two runs in a row** take the brackets of the one that takes more. -/
theorem trans (h : Passes order d state cs state' cs')
    (h' : Passes order d' state' cs' state'' cs'') :
    Passes order (max d d') state cs state'' cs'' := by
  constructor
  · intro hmax
    obtain ⟨hd, hd'⟩ := Nat.max_le.1 hmax
    rw [h.goes hd, h'.goes hd']
  · intro hmax
    by_cases hd : d ≤ maxDepth
    · have hd' : maxDepth < d' := by omega
      rw [h.goes hd]
      exact h'.stops hd'
    · exact h.stops (Nat.not_le.1 hd)

end Passes

/-! ### Values in a text -/

/-- A value may come next. -/
inductive TakesValue : Due → Prop
  | value : TakesValue .value
  | firstItem : TakesValue .firstItem
  | nextItem : TakesValue .nextItem

theorem step_value (hdue : TakesValue due) (htoken : lexeme.token ≠ .arrayClose) :
    step order ⟨due, frames⟩ lexeme = beginValue order frames lexeme := by
  obtain ⟨token, text⟩ := lexeme
  cases hdue with
  | value => rfl
  | firstItem => cases token <;> first | rfl | exact absurd rfl htoken
  | nextItem => cases token <;> first | rfl | exact absurd rfl htoken

theorem passes_lexeme {value : Json} (hframes : frames.length ≤ maxDepth) (hdue : TakesValue due)
    (hscan : scan cs = lexeme :: scan rest) (htoken : lexeme.token ≠ .arrayClose)
    (hbegin : beginValue order frames lexeme = .ok (settle order value frames)) :
    Passes order frames.length ⟨due, frames⟩ cs (settle order value frames) rest := by
  have hstep : step order ⟨due, frames⟩ lexeme = .ok (settle order value frames) := by
    rw [step_value hdue htoken, hbegin]
  exact .head hscan hstep (.refl hframes)

/-- A value that opens a bracket: one more is open inside, or one too many. -/
theorem passes_bracket {inner : Due} {frame : Frame} {value : Json}
    (hframes : frames.length ≤ maxDepth) (hdue : TakesValue due)
    (hscan : scan cs = lexeme :: scan cs') (htoken : lexeme.token ≠ .arrayClose)
    (hbegin : beginValue order frames lexeme = openBracket lexeme inner frame frames)
    (hinside : frames.length < maxDepth →
      Passes order (frames.length + 1 + d) ⟨inner, frame :: frames⟩ cs' (settle order value frames)
        rest) :
    Passes order (frames.length + (d + 1)) ⟨due, frames⟩ cs (settle order value frames) rest := by
  have hdepth : frames.length + (d + 1) = frames.length + 1 + d := by omega
  have hstep : step order ⟨due, frames⟩ lexeme = openBracket lexeme inner frame frames := by
    rw [step_value hdue htoken, hbegin]
  rw [hdepth]
  by_cases hroom : frames.length < maxDepth
  · rw [openBracket, if_pos hroom] at hstep
    exact .head hscan hstep (hinside hroom)
  · rw [openBracket, if_neg hroom] at hstep
    constructor
    · intro hd
      omega
    · intro _
      refine ⟨.after .tooDeep lexeme.text, rfl, ?_⟩
      rw [run_of_scan hscan, hstep]
      rfl

/-- The text of a value leads to the state that holds the value. -/
def ReadsBack (order : KeyOrder) (value : Json) : Prop :=
  ∀ due frames rest, TakesValue due → EndsNumber rest → frames.length ≤ maxDepth →
    Passes order (frames.length + value.depth) ⟨due, frames⟩ (value.chars ++ rest)
      (settle order value frames) rest

/-- The items of an array up to its bracket, after some that have been read. -/
theorem passes_items {items : List Json} (hitems : ∀ item ∈ items, ReadsBack order item)
    (hne : items ≠ []) (hdue : TakesValue due) (acc : List Json) (hroom : outer.length < maxDepth) :
    Passes order (outer.length + 1 + itemsDepth items) ⟨due, .array acc :: outer⟩
      (itemChars items ++ ']' :: rest) (settle order (.arr (acc.reverse ++ items)) outer) rest := by
  induction items generalizing due acc with
  | nil => exact absurd rfl hne
  | cons item items ih =>
    obtain ⟨hitem, hitems⟩ := List.forall_mem_cons.1 hitems
    have hread : ∀ tail, EndsNumber tail → Passes order (outer.length + 1 + item.depth)
        ⟨due, .array acc :: outer⟩ (item.chars ++ tail)
        ⟨.separator, .array (item :: acc) :: outer⟩ tail :=
      fun tail htail => hitem due (.array acc :: outer) tail hdue htail hroom
    have hdepth : outer.length + 1 + itemsDepth (item :: items) =
        max (outer.length + 1 + item.depth) (outer.length + 1 + itemsDepth items) := by
      rw [itemsDepth]
      omega
    have hitemsOf : acc.reverse ++ item :: items = (item :: acc).reverse ++ items := by simp
    rw [hdepth, hitemsOf]
    cases items with
    | nil =>
      -- the bracket closes after the last item
      have hclose : Passes order (outer.length + 1 + itemsDepth [])
          ⟨.separator, .array (item :: acc) :: outer⟩ (']' :: rest)
          (settle order (.arr (item :: acc).reverse) outer) rest :=
        .head (scan_punctuation rfl) rfl (.refl hroom)
      rw [List.append_nil]
      exact (hread (']' :: rest) (.punctuation rfl rest)).trans hclose
    | cons next items =>
      have hcomma : Passes order (outer.length + 1 + itemsDepth (next :: items))
          ⟨.separator, .array (item :: acc) :: outer⟩
          (',' :: (itemChars (next :: items) ++ ']' :: rest))
          (settle order (.arr ((item :: acc).reverse ++ next :: items)) outer) rest :=
        .head (scan_punctuation rfl) rfl (ih hitems (List.cons_ne_nil _ _) .nextItem (item :: acc))
      have hchars : itemChars (item :: next :: items) ++ ']' :: rest =
          item.chars ++ ',' :: (itemChars (next :: items) ++ ']' :: rest) := by
        rw [itemChars]
        · simp
        · simp
      rw [hchars]
      exact (hread _ (.punctuation rfl _)).trans hcomma

/-- A key may come next. -/
inductive TakesKey : Due → Prop
  | firstKey : TakesKey .firstKey
  | nextKey : TakesKey .nextKey

/-- One entry: its key, a colon and its value. -/
theorem passes_entry {key : String} {value : Json} (hvalue : ReadsBack order value)
    (hdue : TakesKey due) (acc : Entries Json) (hroom : outer.length < maxDepth)
    (hrest : EndsNumber rest) :
    Passes order (outer.length + 1 + value.depth) ⟨due, .object acc :: outer⟩
      (stringChars key ++ ':' :: (value.chars ++ rest))
      ⟨.separator, .object (order.insert key value acc) :: outer⟩ rest := by
  have hread : Passes order (outer.length + 1 + value.depth)
      ⟨.value, .member acc key :: outer⟩ (value.chars ++ rest)
      ⟨.separator, .object (order.insert key value acc) :: outer⟩ rest :=
    hvalue .value (.member acc key :: outer) rest .value hrest hroom
  have hcolon : Passes order (outer.length + 1 + value.depth)
      ⟨.colon key, .object acc :: outer⟩ (':' :: (value.chars ++ rest))
      ⟨.separator, .object (order.insert key value acc) :: outer⟩ rest :=
    .head (scan_punctuation rfl) rfl hread
  refine .head (scan_string key _) ?_ hcolon
  cases hdue with
  | firstKey => rfl
  | nextKey => rfl

/-- The entries of an object up to its bracket, after some that have been put in. -/
theorem passes_entries {entries built : Entries Json}
    (hentries : ∀ entry ∈ entries, ReadsBack order entry.2) (hne : entries ≠ [])
    (hdue : TakesKey due) {acc : Entries Json}
    (hbuilt : entries.foldl (fun built entry => order.insert entry.1 entry.2 built) acc = built)
    (hroom : outer.length < maxDepth) :
    Passes order (outer.length + 1 + entriesDepth entries) ⟨due, .object acc :: outer⟩
      (entryChars entries ++ '\x7d' :: rest) (settle order (.obj built) outer) rest := by
  induction entries generalizing due acc with
  | nil => exact absurd rfl hne
  | cons entry entries ih =>
    obtain ⟨key, value⟩ := entry
    obtain ⟨hvalue, hentries⟩ := List.forall_mem_cons.1 hentries
    have hread : ∀ tail, EndsNumber tail → Passes order (outer.length + 1 + value.depth)
        ⟨due, .object acc :: outer⟩ (stringChars key ++ ':' :: (value.chars ++ tail))
        ⟨.separator, .object (order.insert key value acc) :: outer⟩ tail :=
      fun tail => passes_entry hvalue hdue acc hroom
    have hdepth : outer.length + 1 + entriesDepth ((key, value) :: entries) =
        max (outer.length + 1 + value.depth) (outer.length + 1 + entriesDepth entries) := by
      rw [entriesDepth]
      omega
    rw [List.foldl_cons] at hbuilt
    rw [hdepth]
    cases entries with
    | nil =>
      -- the bracket closes after the last entry
      have hclose : Passes order (outer.length + 1 + entriesDepth [])
          ⟨.separator, .object (order.insert key value acc) :: outer⟩ ('\x7d' :: rest)
          (settle order (.obj (order.insert key value acc)) outer) rest :=
        .head (scan_punctuation rfl) rfl (.refl hroom)
      have hchars : entryChars [(key, value)] ++ '\x7d' :: rest =
          stringChars key ++ ':' :: (value.chars ++ '\x7d' :: rest) := by
        simp [entryChars]
      rw [hchars, ← hbuilt]
      exact (hread _ (.punctuation rfl rest)).trans hclose
    | cons next entries =>
      have hcomma : Passes order (outer.length + 1 + entriesDepth (next :: entries))
          ⟨.separator, .object (order.insert key value acc) :: outer⟩
          (',' :: (entryChars (next :: entries) ++ '\x7d' :: rest))
          (settle order (.obj built) outer) rest :=
        .head (scan_punctuation rfl) rfl (ih hentries (List.cons_ne_nil _ _) .nextKey hbuilt)
      have hchars : entryChars ((key, value) :: next :: entries) ++ '\x7d' :: rest =
          stringChars key ++ ':' ::
            (value.chars ++ ',' :: (entryChars (next :: entries) ++ '\x7d' :: rest)) := by
        rw [entryChars]
        · simp
        · simp
      rw [hchars]
      exact (hread _ (.punctuation rfl _)).trans hcomma

/-- **The text of a value leads to that value**, in any place where a value may stand. -/
theorem readsBack {value : Json} (h : value.Exact order) : ReadsBack order value := by
  induction h with
  | null =>
    intro due frames rest hdue _ hframes
    exact passes_lexeme hframes hdue (scan_null rest) nofun rfl
  | bool b =>
    intro due frames rest hdue _ hframes
    exact passes_lexeme hframes hdue (scan_bool b rest) nofun rfl
  | int low high =>
    intro due frames rest hdue hrest hframes
    exact passes_lexeme hframes hdue (scan_int low high hrest) nofun rfl
  | str s =>
    intro due frames rest hdue _ hframes
    exact passes_lexeme hframes hdue (scan_string s rest) nofun rfl
  | @arr items _ ih =>
    intro due frames rest hdue _ hframes
    have hchars : (Json.arr items).chars ++ rest = '[' :: (itemChars items ++ ']' :: rest) := by
      simp [chars]
    rw [hchars]
    have hopen : beginValue order frames ⟨.arrayOpen, '[' :: (itemChars items ++ ']' :: rest)⟩ =
        openBracket ⟨.arrayOpen, _⟩ .firstItem (.array []) frames := rfl
    refine passes_bracket hframes hdue (scan_punctuation rfl) nofun hopen fun hroom => ?_
    by_cases hempty : items = []
    · subst hempty
      exact .head (scan_punctuation rfl) rfl (.refl hroom)
    · exact passes_items ih hempty .firstItem [] hroom
  | @obj entries keeps _ ih =>
    intro due frames rest hdue _ hframes
    have hchars : (Json.obj entries).chars ++ rest =
        '\x7b' :: (entryChars entries ++ '\x7d' :: rest) := by
      simp [chars]
    rw [hchars]
    have hopen : beginValue order frames
        ⟨.objectOpen, '\x7b' :: (entryChars entries ++ '\x7d' :: rest)⟩ =
          openBracket ⟨.objectOpen, _⟩ .firstKey (.object []) frames := rfl
    refine passes_bracket hframes hdue (scan_punctuation rfl) nofun hopen fun hroom => ?_
    by_cases hempty : entries = []
    · subst hempty
      exact .head (scan_punctuation rfl) rfl (.refl hroom)
    · exact passes_entries ih hempty .firstKey (KeyOrder.ofList_eq_self keeps) hroom

end State

/-! ## Texts -/

theorem ofLexemes_eq_run (order : KeyOrder) (cs : List Char) :
    ofLexemes order (scan cs) = State.run order .start cs >>= State.finish :=
  rfl

theorem passes_text {value : Json} (h : value.Exact order) :
    State.Passes order value.depth .start value.text.toList ⟨.nothing value, []⟩ [] := by
  have hpasses := State.readsBack h .value [] [] .value .nil (Nat.zero_le _)
  rw [List.length_nil, Nat.zero_add, List.append_nil] at hpasses
  rwa [text, String.toList_ofList]

/-- **The text of a value reads as that value**, if its brackets do not nest too deep. -/
theorem read_text {value : Json} (h : value.Exact order) (hdepth : value.depth ≤ maxDepth) :
    read order value.text = .ok value := by
  have hrun : State.run order .start value.text.toList = .ok ⟨.nothing value, []⟩ := by
    rw [(passes_text h).goes hdepth, State.run_nil]
  rw [read, ofLexemes_eq_run, hrun]
  rfl

/-- The text of a value whose brackets nest too deep is refused for that. -/
theorem read_text_tooDeep {value : Json} (h : value.Exact order) (hdepth : maxDepth < value.depth) :
    ∃ fault, fault.reason = .tooDeep ∧ read order value.text = .error fault := by
  obtain ⟨flaw, hreason, hrun⟩ := (passes_text h).stops hdepth
  refine ⟨flaw.locate value.text.toList, hreason, ?_⟩
  rw [read, ofLexemes_eq_run, hrun]
  rfl

/-! ## Values encoded several times -/

theorem exact_encode_iterate {value : Json} (h : value.Exact order) (n : Nat) :
    (encode^[n] value).Exact order := by
  cases n with
  | zero => exact h
  | succ n =>
    rw [Function.iterate_succ_apply']
    exact .str _

theorem depth_encode_iterate {value : Json} (h : value.depth ≤ maxDepth) (n : Nat) :
    (encode^[n] value).depth ≤ maxDepth := by
  cases n with
  | zero => exact h
  | succ n =>
    rw [Function.iterate_succ_apply']
    exact Nat.zero_le _

end Json

namespace Schema

open Json

variable {order : KeyOrder} {value : Json}

theorem check_jsonString_of_read (s : Schema) {text : String} (h : read order text = .ok value) :
    (jsonString s).check order (some (.str text)) = s.check order (some value) := by
  simp only [check, withString, h]

theorem check_jsonString_encode (s : Schema) (h : value.Exact order)
    (hdepth : value.depth ≤ maxDepth) :
    (jsonString s).check order (some (encode value)) = s.check order (some value) :=
  check_jsonString_of_read s (read_text h hdepth)

theorem check_jsonString_iterate (s : Schema) (h : value.Exact order)
    (hdepth : value.depth ≤ maxDepth) (n : Nat) :
    (jsonString^[n] s).check order (some (encode^[n] value)) = s.check order (some value) := by
  induction n with
  | zero => rfl
  | succ n ih =>
    rw [Function.iterate_succ_apply', Function.iterate_succ_apply',
      check_jsonString_encode _ (exact_encode_iterate h n) (depth_encode_iterate hdepth n), ih]

/-- The text of a value whose brackets nest too deep is refused as it stands. -/
theorem check_jsonString_tooDeep (s : Schema) (h : value.Exact order)
    (hdepth : maxDepth < value.depth) :
    ∃ fault, fault.reason = .tooDeep ∧ (jsonString s).check order (some (encode value)) =
      .fail (.badJson fault (some (encode value))) := by
  obtain ⟨fault, hreason, hread⟩ := read_text_tooDeep h hdepth
  refine ⟨fault, hreason, ?_⟩
  simp only [check, withString, encode, hread]

/-- **Schemas of text undo text.** The text of a value without doubles is checked like the value,
    with the same outcome, and so is the value encoded any number of times. If its brackets nest too
    deep, the innermost text is refused, with nothing on the path. -/
theorem jsonString_undoes_encode (h : value.Exact order) (s : Schema) :
    (value.depth ≤ 127 →
      (jsonString s).check order (some (.str value.text)) = s.check order (some value) ∧
      ∀ n, (jsonString^[n] s).check order (some (encode^[n] value)) =
        s.check order (some value)) ∧
    (128 ≤ value.depth → ∀ n, ∃ failure,
      (jsonString^[n + 1] s).check order (some (encode^[n + 1] value)) = .fail failure ∧
        failure.code = "json" ∧ failure.path = [] ∧ failure.input = some (.str value.text)) := by
  constructor
  · intro hdepth
    exact ⟨check_jsonString_encode s h hdepth, check_jsonString_iterate s h hdepth⟩
  · intro hdepth n
    obtain ⟨fault, -, hfail⟩ := check_jsonString_tooDeep s h hdepth
    -- all encodings but the first are undone, for they are of strings
    have hencoded : (encode value).Exact order := .str value.text
    have hothers := check_jsonString_iterate (jsonString s) hencoded (Nat.zero_le _) n
    refine ⟨.badJson fault (some (encode value)), ?_, rfl, rfl, rfl⟩
    rw [Function.iterate_succ_apply, Function.iterate_succ_apply, hothers, hfail]

/-- A string among whole numbers is refused at its place, also where the value is text in a text;
    128 brackets around each other are refused as text. -/
theorem jsonString_undoes_encode_twice :
    ((jsonString (jsonString (record (array (leaf .integer))))).check .sorted (some (encode (encode
      (.obj [("a\n", .arr []), ("é", .arr [.int (-0x8000000000000000), .str "\"\\\x01"])]))))
        ).result.mapError Failure.path = .error [.key "é", .index 1] ∧
    ∃ failure, (jsonString (leaf .any)).check .sorted
      (some (.str ((fun item => Json.arr [item])^[128] .null).text)) = .fail failure ∧
        failure.code = "json" ∧ failure.path = [] ∧
        failure.input = some (.str ((fun item => Json.arr [item])^[128] .null).text) := by
  constructor
  · have hitems : (Json.arr [.int (-0x8000000000000000), .str "\"\\\x01"]).Exact .sorted := by
      refine .arr (List.forall_mem_cons.2 ⟨?_, List.forall_mem_singleton.2 (.str _)⟩)
      exact .int (by decide) (by decide)
    have hkeys : "a\n" < "é" := by decide
    have hvalue : (Json.obj [("a\n", .arr []),
        ("é", .arr [.int (-0x8000000000000000), .str "\"\\\x01"])]).Exact .sorted := by
      refine .obj (List.pairwise_pair.2 hkeys) (List.forall_mem_cons.2 ⟨.arr nofun, ?_⟩)
      exact List.forall_mem_singleton.2 hitems
    have hcheck := ((jsonString_undoes_encode hvalue (record (array (leaf .integer)))).1
      (by decide)).2 2
    exact congrArg (fun outcome => outcome.result.mapError Failure.path) hcheck
  · have hvalue : ∀ n, ((fun item => Json.arr [item])^[n] .null).Exact .sorted := by
      intro n
      induction n with
      | zero => exact .null
      | succ n ih =>
        rw [Function.iterate_succ_apply']
        exact .arr (List.forall_mem_singleton.2 ih)
    have hdepth : ∀ n, ((fun item => Json.arr [item])^[n] .null).depth = n := by
      intro n
      induction n with
      | zero => rfl
      | succ n ih =>
        rw [Function.iterate_succ_apply', depth, itemsDepth, itemsDepth, ih, Nat.max_zero]
    exact (jsonString_undoes_encode (hvalue 128) (leaf .any)).2 (hdepth 128).ge 0

end Schema

end Conform
