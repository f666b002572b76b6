import JsonShapes.Http.Fetch
import JsonShapes.Proofs.Except
import JsonShapes.Proofs.Pairs
import JsonShapes.Request.Headers

/-! # What header lines say

Of the lines `Name: value` the last one of each name counts (`lastGiven`): with it a call is made, and for
other names with the header that every call has (`lookup_sent`). -/

namespace JsonShapes.Request

variable {lines : List String} {headers done : List (String × String)} {name : String}

/-- The headers of those lines that have one. -/
def givenHeaders (lines : List String) : List (String × String) :=
  lines.filterMap fun line => (parseHeader line).toOption

/-- **The value of a name**: that of its last line. -/
def lastGiven (lines : List String) (name : String) : Option String :=
  (givenHeaders lines).reverse.lookup name

theorem lastGiven_append (front back : List String) (name : String) :
    lastGiven (front ++ back) name = (lastGiven back name).or (lastGiven front name) := by
  rw [lastGiven, givenHeaders, List.filterMap_append, List.reverse_append, List.lookup_append]
  rfl

theorem putHeader_eq (name value : String) (headers : List (String × String)) :
    putHeader name value headers = putPair name value headers := by
  induction headers with
  | nil => rfl
  | cons h rest ih => rw [putHeader, putPair, ih]

theorem parseHeadersFrom_eq (h : parseHeadersFrom done lines = .ok headers) :
    headers = (givenHeaders lines).foldl (fun all p => putPair p.1 p.2 all) done := by
  induction lines generalizing done with
  | nil =>
    cases h
    rfl
  | cons line rest ih =>
    obtain ⟨header, hheader, h⟩ := bind_eq_ok_iff.mp h
    rw [ih h, givenHeaders, givenHeaders, List.filterMap_cons, hheader, putHeader_eq]
    rfl

theorem exists_parseHeaders_iff :
    (∃ headers, parseHeadersFrom done lines = .ok headers) ↔
      ∀ line ∈ lines, ∃ header, parseHeader line = .ok header := by
  induction lines generalizing done with
  | nil => simp [parseHeadersFrom]
  | cons line rest ih =>
    rw [List.forall_mem_cons]
    constructor
    · rintro ⟨headers, h⟩
      obtain ⟨header, hheader, h⟩ := bind_eq_ok_iff.mp h
      exact ⟨⟨header, hheader⟩, ih.mp ⟨headers, h⟩⟩
    · rintro ⟨⟨header, hheader⟩, hrest⟩
      obtain ⟨headers, h⟩ := ih.mpr hrest
      exact ⟨headers, bind_eq_ok_iff.mpr ⟨header, hheader, h⟩⟩

theorem lookup_of_parseHeaders (h : parseHeaders lines = .ok headers) (name : String) :
    headers.reverse.lookup name = lastGiven lines name := by
  have heq := parseHeadersFrom_eq h
  have hnodup : (headers.map Prod.fst).Nodup := by
    rw [heq]
    exact nodup_foldl_putPair _ List.nodup_nil
  rw [lookup_reverse_of_nodup hnodup, heq, lookup_foldl_putPair, List.lookup_nil, Option.or_none, lastGiven]

/-! ### Calls -/

/-- Headers as the fields of an object. -/
def headerFields (headers : List (String × String)) : List (Key × Value) :=
  headers.map fun h => (.name h.1, .string h.2)

theorem putField_eq (k : Key) (v : Value) (fields : List (Key × Value)) :
    Value.putField k v fields = putPair k v fields := by
  induction fields with
  | nil => rfl
  | cons f rest ih => rw [Value.putField, putPair, ih]

theorem lookup_withHeaders (fields : List (Key × Value)) (k : Key) :
    (Http.withHeaders fields).lookup k = (fields.reverse.lookup k).or (Http.defaultHeaders.lookup k) := by
  have hput : (fun (all : List (Key × Value)) (h : Key × Value) => Value.putField h.1 h.2 all) =
      fun all p => putPair p.1 p.2 all := by
    funext all p
    exact putField_eq _ _ _
  rw [Http.withHeaders, hput, lookup_foldl_putPair]

theorem lookup_headerFields (headers : List (String × String)) (name : String) :
    (headerFields headers).lookup (.name name) = (headers.lookup name).map .string := by
  induction headers with
  | nil => rfl
  | cons h rest ih =>
    rw [headerFields, List.map_cons, List.lookup_cons, List.lookup_cons, ← headerFields, ih]
    by_cases hname : name = h.1
    · simp [hname]
    · have hkey : (Key.name name == Key.name h.1) = false := by simpa using hname
      simp [beq_eq_false_iff_ne.mpr hname, hkey]

/-- **What is found in a call that is made with header lines**: the value of the last line of the name,
else that of the header that every call has. -/
theorem lookup_sent (h : parseHeaders lines = .ok headers) (name : String) :
    (Http.withHeaders (headerFields headers)).lookup (.name name) =
      ((lastGiven lines name).map .string).or (Http.defaultHeaders.lookup (.name name)) := by
  have hreverse : (headerFields headers).reverse = headerFields headers.reverse := by
    rw [headerFields, headerFields, List.map_reverse]
  rw [lookup_withHeaders, hreverse, lookup_headerFields, lookup_of_parseHeaders h]

theorem lookup_sent_of_ne {k : Key} (hk : ∀ name, k ≠ .name name)
    (headers : List (String × String)) : (Http.withHeaders (headerFields headers)).lookup k = none := by
  have hnone : (headerFields headers).reverse.lookup k = none := by
    rw [List.lookup_eq_none_iff]
    intro f hf
    obtain ⟨h, -, rfl⟩ := List.mem_map.mp (List.mem_reverse.mp hf)
    exact bne_iff_ne.mpr (hk h.1)
  have hne : ∀ name, (k == Key.name name) = false := fun name => beq_eq_false_iff_ne.mpr (hk name)
  rw [lookup_withHeaders, hnone, Http.defaultHeaders]
  simp [List.lookup_cons, hne]

end JsonShapes.Request
