/-
  The path of a failure leads through the schema and the value to what was refused,
  and goes on inside JSON text that the schema reads. The paths of causes start where
  they were recorded.
-/
import Conform.Proofs.Check

namespace Conform

/-! ## Paths through values -/

/-- The value at the end of a path: the value of a key is absent where there is no such entry, and
    an index has to be in range. -/
def Json.at? : List Segment → Option Json → Option (Option Json)
  | [], input => some input
  | .key key :: path, some (.obj entries) => at? path (entries.lookup key)
  | .index index :: path, some (.arr values) =>
    values[index]?.bind fun value => at? path (some value)
  | _ :: _, _ => none

theorem Json.at?_append (path path' : List Segment) (input : Option Json) :
    Json.at? (path ++ path') input = (Json.at? path input).bind (Json.at? path') := by
  fun_induction Json.at? path input with
  | case1 => rfl
  | case2 key path entries ih => simpa [Json.at?] using ih
  | case3 index path values ih =>
    cases h : values[index]? <;> simp [Json.at?, h, ih]
  | case4 segment path input hkey hindex =>
    rw [List.cons_append, Json.at?, Option.bind_none]
    · exact hkey
    · exact hindex

mutual

/-- The path of a failure leads to the value that it carries, and the path of each cause does so
    from some value on the path of the failure. -/
def Failure.PointsFrom : Failure → Option Json → Prop
  | ⟨_, _, input, path, causes⟩, start =>
    Json.at? path start = some input ∧ AllPointFrom causes path start

/-- The paths of causes lead to what they carry, each from some value on a path. -/
def Failure.AllPointFrom : List Failure → List Segment → Option Json → Prop
  | [], _, _ => True
  | cause :: rest, path, start =>
    (∃ stem place, stem <+: path ∧ Json.at? stem start = some place ∧ PointsFrom cause place) ∧
      AllPointFrom rest path start

end

namespace Schema

/-! ## Paths through schemas -/

/-- The parts of a schema that look at the same value. -/
def alongside : Schema → List Schema
  | optional inner | nullable inner | withDefault inner _ | withMessage inner _ _ => [inner]
  | map inner _ | tryMap inner _ | chain inner _ => [inner]
  | union alternatives => alternatives
  | orElse left right => [left, right]
  | _ => []

/-- The declared fields of a schema of objects. -/
def fields : Schema → List (String × Schema)
  | object fields _ | typedRecord fields => fields
  | _ => []

/-- The parts of a schema whose failures become causes of its own. -/
def recorded : Schema → List Schema
  | withMessage inner _ _ => [inner]
  | union alternatives => alternatives
  | orElse left right => [left, right]
  | _ => []

/-- A path leads from a schema at a value to a part of it at a part of the value. Keys and indices
    are followed in the value; a string of JSON text is read first. -/
inductive Reaches (order : KeyOrder) :
    Schema → Option Json → List Segment → Schema → Option Json → Prop
  | here {s input} : Reaches order s input [] s input
  | along {s part input path t place} : part ∈ s.alongside →
      Reaches order part input path t place → Reaches order s input path t place
  | document {inner text value path t place} : Json.read order text = .ok value →
      Reaches order inner (some value) path t place →
      Reaches order (jsonString inner) (some (.str text)) path t place
  | item {s values index value path t place} : values[index]? = some value →
      Reaches order s (some value) path t place →
      Reaches order (array s) (some (.arr values)) (.index index :: path) t place
  | tupleItem {items values index s value path t place} : items[index]? = some s →
      values[index]? = some value → Reaches order s (some value) path t place →
      Reaches order (tuple items) (some (.arr values)) (.index index :: path) t place
  | entry {s entries key value path t place} : entries.lookup key = some value →
      Reaches order s (some value) path t place →
      Reaches order (record s) (some (.obj entries)) (.key key :: path) t place
  | field {s part entries key path t place} : (key, part) ∈ s.fields →
      Reaches order part (entries.lookup key) path t place →
      Reaches order s (some (.obj entries)) (.key key :: path) t place

/-- A schema refuses the value that it stands at, or the first entry that it does not declare; in
    both cases the failure carries what is refused. -/
inductive Refuses (order : KeyOrder) : Schema → Option Json → List Segment → Option Json → Prop
  | itself {s input e} : (s.check order input).result = .error e → e.path = [] → e.input = input →
      Refuses order s input [] input
  | undeclared {fields entries key value} : key ∉ Entries.keys fields →
      entries.lookup key = some value →
      Refuses order (object fields true) (some (.obj entries)) [.key key] (some value)

mutual

/-- The path of a failure reaches a schema that refuses what the failure carries. Each cause is
    located in the same way in a part of a schema that a stem of the path reaches and that records
    the failures of this part. -/
def Locates (order : KeyOrder) : Failure → Schema → Option Json → Prop
  | ⟨_, _, input, path, causes⟩, s, start =>
    (∃ stem rest t place, path = stem ++ rest ∧ Reaches order s start stem t place ∧
      Refuses order t place rest input) ∧ LocatesAll order causes path s start

/-- All causes are located in parts of schemas that stems of a path reach. -/
def LocatesAll (order : KeyOrder) : List Failure → List Segment → Schema → Option Json → Prop
  | [], _, _, _ => True
  | cause :: rest, path, s, start =>
    (∃ stem t place part, stem <+: path ∧ Reaches order s start stem t place ∧
      part ∈ t.recorded ∧ Locates order cause part place) ∧ LocatesAll order rest path s start

end

/-- All failures of the schema are made by the library: no function of the user's raises one. -/
def RaisesOwn : Schema → Prop
  | rule _ | tryMap _ _ => False
  | _ => True

/-- The schema looks into no string. -/
def ReadsNoText : Schema → Prop
  | jsonString _ => False
  | _ => True

end Schema

namespace Schema

variable {order : KeyOrder}

/-! ## All failures are located -/

/-- Causes stay located when their schema becomes a part of another one. -/
theorem LocatesAll.lift {s part : Schema} {start place : Option Json} {steps : List Segment}
    (hsteps : ∀ {path t x}, Reaches order part place path t x →
      Reaches order s start (steps ++ path) t x) {path : List Segment} :
    ∀ {causes : List Failure}, LocatesAll order causes path part place →
      LocatesAll order causes (steps ++ path) s start
  | [], _ => trivial
  | _ :: _, ⟨⟨stem, t, x, c, hstem, hr, hc, hloc⟩, hrest⟩ =>
    ⟨⟨steps ++ stem, t, x, c, (List.prefix_append_right_inj steps).2 hstem, hsteps hr, hc, hloc⟩,
      hrest.lift hsteps⟩

/-- A failure of a part is a located failure of the whole, once its path starts with the steps to
    the part. -/
theorem Locates.lift {s part : Schema} {start place : Option Json} {e : Failure}
    (h : Locates order e part place) (steps : List Segment)
    (hsteps : ∀ {path t x}, Reaches order part place path t x →
      Reaches order s start (steps ++ path) t x) :
    Locates order { e with path := steps ++ e.path } s start := by
  obtain ⟨code, message, input, path, causes⟩ := e
  obtain ⟨⟨stem, rest, t, x, rfl, hr, href⟩, hcauses⟩ := h
  exact ⟨⟨steps ++ stem, rest, t, x, (List.append_assoc ..).symm, hsteps hr, href⟩,
    hcauses.lift hsteps⟩

theorem Locates.along {s part : Schema} {start : Option Json} {e : Failure}
    (hpart : part ∈ s.alongside) (h : Locates order e part start) : Locates order e s start := by
  cases e
  exact h.lift [] fun hr => .along hpart hr

/-- A schema that refuses its value has a located failure if that has no causes. -/
theorem locates_of_refuses {s : Schema} {start : Option Json} {e : Failure}
    (h : Refuses order s start e.path e.input) (hcauses : e.causes = []) :
    Locates order e s start := by
  obtain ⟨code, message, input, path, causes⟩ := e
  cases hcauses
  exact ⟨⟨[], path, s, start, rfl, .here, h⟩, trivial⟩

theorem locates_itself {s : Schema} {start : Option Json} {e : Failure}
    (h : (s.check order start).result = .error e) (hpath : e.path = []) (hinput : e.input = start)
    (hcauses : e.causes = []) : Locates order e s start := by
  refine locates_of_refuses ?_ hcauses
  rw [hpath, hinput]
  exact .itself h hpath hinput

/-- The causes that a schema records at its own place. -/
theorem locatesAll_of_recorded {path : List Segment} {s : Schema} {start : Option Json}
    {causes : List Failure}
    (h : ∀ cause ∈ causes, ∃ part ∈ s.recorded, Locates order cause part start) :
    LocatesAll order causes path s start := by
  induction causes with
  | nil => trivial
  | cons cause rest ih =>
    obtain ⟨part, hpart, hloc⟩ := h cause (by simp)
    exact ⟨⟨[], s, start, part, List.nil_prefix, .here, hpart, hloc⟩,
      ih fun c hc => h c (by simp [hc])⟩

theorem locates_reworded {inner : Schema} {message : String} {code : Option String}
    {start : Option Json} {e : Failure} (h : Locates order e inner start) :
    Locates order (e.reworded message code) (withMessage inner message code) start := by
  have hhere := h.along (s := withMessage inner message code) (by simp [alongside])
  refine ⟨by cases e; exact hhere.1, locatesAll_of_recorded fun cause hcause => ?_⟩
  rw [List.mem_singleton.1 hcause]
  exact ⟨inner, by simp [recorded], h⟩

theorem locates_noAlternative {s : Schema} {alternatives : List Schema} {start : Option Json}
    {causes : List Failure}
    (hs : (s.check order start).result = .error (.noAlternative start causes))
    (hrecorded : s.recorded = alternatives) (hcauses : List.Forall₂
      (fun t cause => (t.check order start).result = .error cause) alternatives causes)
    (h : ∀ t ∈ alternatives, ∀ e, (t.check order start).result = .error e →
      Locates order e t start) :
    Locates order (.noAlternative start causes) s start := by
  refine ⟨⟨[], [], s, start, rfl, .here, .itself hs rfl rfl⟩,
    locatesAll_of_recorded fun cause hcause => ?_⟩
  obtain ⟨t, ht, he⟩ := forall₂_mem_right hcauses cause hcause
  exact ⟨t, hrecorded ▸ ht, h t ht cause he⟩

theorem locates_field {s field : Schema} {key : String} {entries : Entries Json} {e : Failure}
    (hfield : (key, field) ∈ s.fields) (h : Locates order e field (entries.lookup key)) :
    Locates order (e.within (.key key)) s (some (.obj entries)) :=
  h.lift [.key key] fun hr => .field hfield hr

/-- **All failures of a check are located**, together with everything behind them. -/
theorem locates_of_check {s : Schema} (hs : s.Everywhere RaisesOwn) :
    ∀ (start : Option Json) (e : Failure), (s.check order start).result = .error e →
      Locates order e s start := by
  induction s with
  | leaf l =>
    intro start e h
    have he := h
    rw [check] at he
    cases Leaf.check_error he
    exact locates_itself h rfl rfl rfl
  | literal expected =>
    intro start e h
    have he := h
    rw [check] at he
    cases checkLiteral_error he
    exact locates_itself h rfl rfl rfl
  | enums variants =>
    intro start e h
    have he := h
    rw [check] at he
    rcases checkEnums_error he with rfl | rfl <;> exact locates_itself h rfl rfl rfl
  | pattern p =>
    intro start e h
    have he := h
    rw [check] at he
    rcases checkPattern_error he with rfl | rfl <;> exact locates_itself h rfl rfl rfl
  | rule f => exact hs.here.elim
  | jsonString inner ih =>
    intro start e h
    rcases jsonString_error h with rfl | ⟨text, rfl, ⟨fault, rfl⟩ | ⟨value, hread, he⟩⟩
    · exact locates_itself h rfl rfl rfl
    · exact locates_itself h rfl rfl rfl
    · have hloc := ih (hs.part rfl) _ e he
      cases e
      exact hloc.lift [] fun hr => .document hread hr
  | array item ih =>
    intro start e h
    rcases array_error h with rfl | ⟨values, index, value, e, rfl, hvalue, he, rfl⟩
    · exact locates_itself h rfl rfl rfl
    · exact (ih (hs.part rfl) _ e he).lift [.index index] fun hr => .item hvalue hr
  | tuple items ih =>
    intro start e h
    rcases tuple_error h with rfl | ⟨values, rfl, -, rfl⟩ |
      ⟨values, index, item, value, e, rfl, hitem, hvalue, he, rfl⟩
    · exact locates_itself h rfl rfl rfl
    · exact locates_itself h rfl rfl rfl
    · have hmem := List.mem_of_getElem? hitem
      exact (ih item hmem (hs.inside item hmem) _ e he).lift [.index index]
        fun hr => .tupleItem hitem hvalue hr
  | record value ih =>
    intro start e h
    rcases record_error h with rfl | ⟨entries, key, v, e, rfl, hv, he, rfl⟩
    · exact locates_itself h rfl rfl rfl
    · exact (ih (hs.part rfl) _ e he).lift [.key key] fun hr => .entry hv hr
  | object fields deny ih =>
    intro start e h
    rcases object_error h with rfl | ⟨entries, rfl, ⟨key, field, e, hmem, he, rfl⟩ |
      ⟨rfl, key, value, hkey, hvalue, rfl⟩⟩
    · exact locates_itself h rfl rfl rfl
    · exact locates_field hmem (ih _ hmem (hs.field rfl _ hmem) _ e he)
    · exact locates_of_refuses (.undeclared hkey hvalue) rfl
  | typedRecord fields ih =>
    intro start e h
    rcases typedRecord_error h with rfl | ⟨entries, rfl, key, field, e, hmem, he, rfl⟩
    · exact locates_itself h rfl rfl rfl
    · exact locates_field hmem (ih _ hmem (hs.field rfl _ hmem) _ e he)
  | optional inner ih =>
    intro start e h
    exact (ih (hs.part rfl) _ e (optional_error h)).along (by simp [alongside])
  | nullable inner ih =>
    intro start e h
    exact (ih (hs.part rfl) _ e (nullable_error h)).along (by simp [alongside])
  | withDefault inner fallback ih =>
    intro start e h
    exact (ih (hs.part rfl) _ e (withDefault_error h)).along (by simp [alongside])
  | withMessage inner message code ih =>
    intro start e h
    obtain ⟨e, he, rfl⟩ := withMessage_error h
    exact locates_reworded (ih (hs.part rfl) _ e he)
  | map inner f ih =>
    intro start e h
    rcases map_error h with he | rfl
    · exact (ih (hs.part rfl) _ e he).along (by simp [alongside])
    · exact locates_itself h rfl rfl rfl
  | tryMap inner f _ => exact hs.here.elim
  | chain base steps ih =>
    intro start e h
    exact (ih (hs.part rfl) _ e (chain_error h)).along (by simp [alongside])
  | union alternatives ih =>
    intro start e h
    obtain ⟨causes, hcauses, rfl⟩ := union_error_iff.1 h
    exact locates_noAlternative h rfl hcauses fun t ht => ih t ht (hs.inside t ht) start
  | orElse left right ihl ihr =>
    intro start e h
    obtain ⟨causes, hcauses, rfl⟩ := union_error_iff.1 (check_orElse order start left right ▸ h)
    refine locates_noAlternative h rfl hcauses fun t ht => ?_
    have ht' := hs.inside t ht
    rcases List.mem_pair.1 ht with rfl | rfl
    · exact ihl ht' start
    · exact ihr ht' start

/-! ## Paths without texts -/

theorem mem_children_of_alongside {s part : Schema} (h : part ∈ s.alongside) :
    part ∈ s.children := by
  cases s <;> simp_all [alongside, children]

theorem mem_children_of_recorded {s part : Schema} (h : part ∈ s.recorded) : part ∈ s.children := by
  cases s <;> simp_all [recorded, children]

theorem mem_children_of_field {s part : Schema} {key : String} (h : (key, part) ∈ s.fields) :
    part ∈ s.children := by
  cases s with
  | object fields deny => exact List.mem_map_of_mem (f := Prod.snd) h
  | typedRecord fields => exact List.mem_map_of_mem (f := Prod.snd) h
  | _ => cases h

/-- Where no text is read, a path leads through the value alone. -/
theorem Reaches.at? {s t : Schema} {start place : Option Json} {path : List Segment}
    (h : Reaches order s start path t place) (hs : s.Everywhere ReadsNoText) :
    Json.at? path start = some place ∧ t.Everywhere ReadsNoText := by
  induction h with
  | here => exact ⟨rfl, hs⟩
  | along hpart _ ih => exact ih (hs.inside _ (mem_children_of_alongside hpart))
  | document _ _ _ => exact hs.here.elim
  | item hvalue _ ih =>
    obtain ⟨hat, ht⟩ := ih (hs.part rfl)
    exact ⟨by rw [Json.at?, hvalue, Option.bind_some, hat], ht⟩
  | tupleItem hitem hvalue _ ih =>
    obtain ⟨hat, ht⟩ := ih (hs.inside _ (List.mem_of_getElem? hitem))
    exact ⟨by rw [Json.at?, hvalue, Option.bind_some, hat], ht⟩
  | entry hvalue _ ih =>
    obtain ⟨hat, ht⟩ := ih (hs.part rfl)
    exact ⟨by rw [Json.at?, hvalue, hat], ht⟩
  | field hfield _ ih =>
    obtain ⟨hat, ht⟩ := ih (hs.inside _ (mem_children_of_field hfield))
    exact ⟨by rw [Json.at?, hat], ht⟩

theorem Refuses.at? {s : Schema} {place input : Option Json} {rest : List Segment}
    (h : Refuses order s place rest input) : Json.at? rest place = some input := by
  cases h with
  | itself => rfl
  | undeclared _ hvalue => rw [Json.at?, hvalue, Json.at?]

mutual

theorem Locates.pointsFrom : ∀ {e : Failure} {s : Schema} {start : Option Json},
    Locates order e s start → s.Everywhere ReadsNoText → e.PointsFrom start
  | ⟨_, _, input, _, _⟩, _, start, ⟨⟨stem, rest, t, place, hpath, hr, href⟩, hcauses⟩, hs => by
    refine ⟨?_, hcauses.allPointFrom hs⟩
    rw [hpath, Json.at?_append, (hr.at? hs).1, Option.bind_some, href.at?]

theorem LocatesAll.allPointFrom : ∀ {causes : List Failure} {path : List Segment} {s : Schema}
    {start : Option Json}, LocatesAll order causes path s start → s.Everywhere ReadsNoText →
      Failure.AllPointFrom causes path start
  | [], _, _, _, _, _ => trivial
  | _ :: _, _, _, _, ⟨⟨stem, _, place, _, hstem, hr, hpart, hloc⟩, hrest⟩, hs => by
    obtain ⟨hat, ht⟩ := hr.at? hs
    exact ⟨⟨stem, place, hstem, hat,
      hloc.pointsFrom (ht.inside _ (mem_children_of_recorded hpart))⟩, hrest.allPointFrom hs⟩

end

/-- **Failures point at what they carry.** The path of a failure leads through the schema and the
    value to a schema that refuses what the failure carries, and so it is for all failures behind
    it, from the places that recorded them. Without texts to read, the value alone shows the way. -/
theorem check_error_located {s : Schema} (hs : s.Everywhere RaisesOwn) {start : Option Json}
    {e : Failure} (h : (s.check order start).result = .error e) :
    Locates order e s start ∧ (s.Everywhere ReadsNoText → e.PointsFrom start) :=
  have hloc := locates_of_check hs start e h
  ⟨hloc, hloc.pointsFrom⟩

/-- An alternative under a message, in an array, in an object, in a string; and without that. -/
theorem check_error_located_text :
    Locates .sorted
        ((Failure.noAlternative (some (.bool true)) [.typeMismatch "string" (some (.bool true)),
          (Failure.typeMismatch "integer" (some (.bool true))).reworded "whole" none]).atIndex 1
          |>.atKey "items" |>.atKey "doc")
        (object [("doc", jsonString (object [("items", array (union
          [leaf .string, withMessage (leaf .integer) "whole" none]))] false))] false)
        (some (.obj [("doc", .str "\x7b\"items\":[\"a\",true]\x7d")])) ∧
      Failure.PointsFrom
        ((Failure.noAlternative (some (.bool true)) [.typeMismatch "string" (some (.bool true)),
          (Failure.typeMismatch "integer" (some (.bool true))).reworded "whole" none]).atIndex 1
          |>.atKey "items")
        (some (.obj [("items", .arr [.str "a", .bool true])])) :=
  ⟨(check_error_located (by simp [everywhere_iff, children, RaisesOwn])
      (by with_unfolding_all rfl)).1,
    (@check_error_located .sorted (object [("items", array (union
      [leaf .string, withMessage (leaf .integer) "whole" none]))] false)
      (by simp [everywhere_iff, children, RaisesOwn]) _ _ rfl).2
      (by simp [everywhere_iff, children, ReadsNoText])⟩

end Schema

end Conform
