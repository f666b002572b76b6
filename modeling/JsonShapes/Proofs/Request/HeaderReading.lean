import JsonShapes.Proofs.Request.HeaderLines
import JsonShapes.Proofs.Text.Cutting

/-! # Header lines are read

A line says a header by its first colon, with the blanks left out around the name and around the value
(`SaysHeader`); a line that says none has no colon, or only blanks before the first one (`IsNameless`). The
first line without a name is reported, and if there is none the headers of all lines are gathered. So headers
that are written as lines are read back, whatever colons their values hold (`header_lines_read`). -/

namespace JsonShapes.Request

open Text

variable {lines : List String} {line : String} {header : String × String}
  {headers done : List (String × String)}

/-- **What a line says**: a name before its first colon and a value behind it, without the blanks around
them, and the name is not empty. -/
def SaysHeader (line : String) (header : String × String) : Prop :=
  header.1 ≠ "" ∧ ∃ before behind, line.toList = before ++ ':' :: behind ∧ ':' ∉ before ∧
    Strips before header.1.toList ∧ Strips behind header.2.toList

/-- **A line without a name**: it has no colon, or only blanks before the first one. -/
def IsNameless (line : String) : Prop :=
  ':' ∉ line.toList ∨ ∃ before behind, line.toList = before ++ ':' :: behind ∧ ':' ∉ before ∧
    ∀ c ∈ before, isBlank c = true

theorem trim_eq_nil_iff {cs : List Char} : trim cs = [] ↔ ∀ c ∈ cs, isBlank c = true := by
  rw [trim_eq_iff]
  constructor
  · rintro ⟨-, front, back, rfl, hfront, hback⟩
    rw [List.append_nil, List.forall_mem_append]
    exact ⟨hfront, hback⟩
  · intro h
    exact ⟨isStripped_nil, cs, [], by simp, h, List.forall_mem_nil _⟩

/-! ### One line -/

section Line

variable {before behind : List Char}

theorem parseHeader_of_no_colon (h : ':' ∉ line.toList) : parseHeader line = .error ⟨line⟩ := by
  rw [parseHeader, cut_of_notMem h]

theorem parseHeader_of_colon (hline : line.toList = before ++ ':' :: behind) (hcolon : ':' ∉ before) :
    parseHeader line = if (trim before).isEmpty then .error ⟨line⟩
      else .ok (String.ofList (trim before), String.ofList (trim behind)) := by
  rw [parseHeader, hline, cut_append hcolon]

/-- **A line is cut at its first colon**, if it has one. -/
theorem colon_cases (line : String) : ':' ∉ line.toList ∨
    ∃ before behind, line.toList = before ++ ':' :: behind ∧ ':' ∉ before := by
  by_cases hcolon : ':' ∈ line.toList
  · exact .inr (List.eq_append_cons_of_mem hcolon)
  · exact .inl hcolon

theorem parseHeader_eq_ok_iff : parseHeader line = .ok header ↔ SaysHeader line header := by
  constructor
  · intro h
    rcases colon_cases line with hnone | ⟨before, behind, hline, hcolon⟩
    · rw [parseHeader_of_no_colon hnone] at h
      cases h
    · rw [parseHeader_of_colon hline hcolon, ite_error_eq_ok_iff] at h
      obtain ⟨hname, h⟩ := h
      cases h
      refine ⟨fun hempty => hname ?_, before, behind, hline, hcolon, ?_, ?_⟩
      · simpa using hempty
      · rw [String.toList_ofList]
        exact strips_trim before
      · rw [String.toList_ofList]
        exact strips_trim behind
  · rintro ⟨hne, before, behind, hline, hcolon, hname, hvalue⟩
    rw [parseHeader_of_colon hline hcolon, trim_eq_iff.mpr hname, trim_eq_iff.mpr hvalue,
      String.ofList_toList, String.ofList_toList, if_neg (by simpa using hne)]

theorem parseHeader_eq_error_iff {fault : HeaderFault} :
    parseHeader line = .error fault ↔ IsNameless line ∧ fault = ⟨line⟩ := by
  rcases colon_cases line with hnone | ⟨before, behind, hline, hcolon⟩
  · rw [parseHeader_of_no_colon hnone, Except.error.injEq, and_iff_right (.inl hnone), eq_comm]
  · have hnameless : IsNameless line ↔ (trim before).isEmpty = true := by
      rw [List.isEmpty_iff, trim_eq_nil_iff, IsNameless, hline]
      constructor
      · rintro (hnone | ⟨before', behind', hline', hcolon', hblank⟩)
        · exact absurd (by simp) hnone
        · rw [((append_mark_inj hcolon hcolon').mp hline').1]
          exact hblank
      · intro hblank
        exact .inr ⟨before, behind, rfl, hcolon, hblank⟩
    rw [parseHeader_of_colon hline hcolon, hnameless]
    cases (trim before).isEmpty <;> simp [eq_comm]

end Line

/-! ### Several lines -/

theorem parseHeadersFrom_cons (h : SaysHeader line header) (done : List (String × String))
    (rest : List String) : parseHeadersFrom done (line :: rest) =
      parseHeadersFrom (putPair header.1 header.2 done) rest := by
  rw [parseHeadersFrom, parseHeader_eq_ok_iff.mpr h, ← putHeader_eq]
  rfl

theorem parseHeadersFrom_of_says {given : List (String × String)}
    (h : List.Forall₂ SaysHeader lines given) (done : List (String × String)) :
    parseHeadersFrom done lines = .ok (given.foldl (fun all p => putPair p.1 p.2 all) done) := by
  induction h generalizing done with
  | nil => rfl
  | cons hsays _ ih => rw [parseHeadersFrom_cons hsays, ih, List.foldl_cons]

/-- **A line without a name**, and none before it. -/
def FirstNameless (lines : List String) (line : String) : Prop :=
  ∃ front back, lines = front ++ line :: back ∧ IsNameless line ∧ ∀ l ∈ front, ¬ IsNameless l

theorem says_or_isNameless (line : String) : (∃ header, SaysHeader line header) ∨ IsNameless line := by
  cases hparse : parseHeader line with
  | ok header => exact .inl ⟨header, parseHeader_eq_ok_iff.mp hparse⟩
  | error fault => exact .inr (parseHeader_eq_error_iff.mp hparse).1

theorem not_isNameless_of_says (h : SaysHeader line header) : ¬ IsNameless line := by
  intro hnameless
  have herror := parseHeader_eq_error_iff.mpr ⟨hnameless, rfl⟩
  cases herror.symm.trans (parseHeader_eq_ok_iff.mpr h)

theorem forall_says_or_exists_first (lines : List String) :
    ((∀ l ∈ lines, ¬ IsNameless l) ∧ ∃ given, List.Forall₂ SaysHeader lines given) ∨
      ∃ line, FirstNameless lines line := by
  induction lines with
  | nil => exact .inl ⟨List.forall_mem_nil _, [], .nil⟩
  | cons line rest ih =>
    rcases says_or_isNameless line with ⟨header, hsays⟩ | hnameless
    · have hnamed := not_isNameless_of_says hsays
      rcases ih with ⟨hrest, given, hgiven⟩ | ⟨other, front, back, rfl, hother, hfront⟩
      · exact .inl ⟨List.forall_mem_cons.mpr ⟨hnamed, hrest⟩, header :: given, .cons hsays hgiven⟩
      · exact .inr ⟨other, line :: front, back, rfl, hother, List.forall_mem_cons.mpr ⟨hnamed, hfront⟩⟩
    · exact .inr ⟨line, [], rest, rfl, hnameless, List.forall_mem_nil _⟩

theorem parseHeadersFrom_of_first (h : FirstNameless lines line) (done : List (String × String)) :
    parseHeadersFrom done lines = .error ⟨line⟩ := by
  obtain ⟨front, back, rfl, hline, hfront⟩ := h
  induction front generalizing done with
  | nil =>
    rw [List.nil_append, parseHeadersFrom, parseHeader_eq_error_iff.mpr ⟨hline, rfl⟩]
    rfl
  | cons l front ih =>
    rw [List.forall_mem_cons] at hfront
    obtain ⟨header, hsays⟩ := (says_or_isNameless l).resolve_right hfront.1
    rw [List.cons_append, parseHeadersFrom_cons hsays, ih _ hfront.2]

/-! ### Written headers -/

/-- **A header that can be written**: the name is not empty and holds no colon, and neither the name nor the
value has blanks at its ends. -/
structure CanBeWritten (header : String × String) : Prop where
  ne_empty : header.1 ≠ ""
  colon : ':' ∉ header.1.toList
  name : IsStripped header.1.toList
  value : IsStripped header.2.toList

/-- **A header as a line.** -/
def written (header : String × String) : String := header.1 ++ ": " ++ header.2

theorem CanBeWritten.saysHeader (h : CanBeWritten header) : SaysHeader (written header) header := by
  refine ⟨h.ne_empty, header.1.toList, ' ' :: header.2.toList, by simp [written], h.colon,
    ⟨h.name, [], [], by simp, List.forall_mem_nil _, List.forall_mem_nil _⟩,
    ⟨h.value, [' '], [], by simp, ?_, List.forall_mem_nil _⟩⟩
  rw [List.forall_mem_singleton]
  decide +kernel

theorem forall_says_written (h : ∀ header ∈ headers, CanBeWritten header) :
    List.Forall₂ SaysHeader (headers.map written) headers := by
  rw [List.forall₂_map_left_iff, List.forall₂_same]
  exact fun header hheader => (h header hheader).saysHeader

theorem foldl_putPair_of_nodup (h : ((done ++ headers).map Prod.fst).Nodup) :
    headers.foldl (fun all p => putPair p.1 p.2 all) done = done ++ headers := by
  induction headers generalizing done with
  | nil => rw [List.foldl_nil, List.append_nil]
  | cons p rest ih =>
    have hnew : p.1 ∉ done.map Prod.fst := by
      rw [List.map_append, List.nodup_append'] at h
      intro hmem
      exact h.2.2 hmem (by simp)
    rw [List.append_cons] at h ⊢
    rw [List.foldl_cons, putPair_of_notMem hnew, ih h]

/-- **Header lines are read back.** Lines are turned down exactly when one of them has no name, and then the
first such line is quoted; otherwise each says a header, and the headers are gathered: each name in the place
of its first line, with the value of its last. So headers with different names that can be written are read
back from their lines, in the same order. -/
theorem header_lines_read :
    (∀ lines,
      ((∃ fault, parseHeaders lines = .error fault) ↔ ∃ line ∈ lines, IsNameless line) ∧
      (∀ fault, parseHeaders lines = .error fault → FirstNameless lines fault.line ∧
        fault.message = "Invalid header '" ++ fault.line ++ "', expected 'Name: value'") ∧
      ∀ headers, parseHeaders lines = .ok headers →
        ∃ given, List.Forall₂ SaysHeader lines given ∧ Gathers given headers) ∧
    ∀ headers : List (String × String), (headers.map Prod.fst).Nodup →
      (∀ header ∈ headers, CanBeWritten header) → parseHeaders (headers.map written) = .ok headers := by
  refine ⟨fun lines => ?_, fun headers hnodup hwritten => ?_⟩
  · rcases forall_says_or_exists_first lines with ⟨hnamed, given, hgiven⟩ | ⟨line, hfirst⟩
    · have hparse := parseHeadersFrom_of_says hgiven []
      rw [parseHeaders, hparse]
      refine ⟨⟨nofun, ?_⟩, nofun, ?_⟩
      · rintro ⟨line, hline, hnameless⟩
        exact absurd hnameless (hnamed line hline)
      · rintro headers ⟨⟩
        exact ⟨given, hgiven, gathers_foldl_putPair given⟩
    · have hparse := parseHeadersFrom_of_first hfirst []
      rw [parseHeaders, hparse]
      refine ⟨⟨fun _ => ?_, fun _ => ⟨_, rfl⟩⟩, ?_, nofun⟩
      · obtain ⟨front, back, hlines, hnameless, -⟩ := hfirst
        exact ⟨line, by simp [hlines], hnameless⟩
      · rintro fault ⟨⟩
        exact ⟨hfirst, rfl⟩
  · have hput := @foldl_putPair_of_nodup headers [] hnodup
    rw [parseHeaders, parseHeadersFrom_of_says (forall_says_written hwritten), hput, List.nil_append]

/-- A value may hold colons or nothing, and a name may be given twice. -/
theorem host_header_read_back :
    parseHeaders ["A: 1", "Host: b:80", "A :2 "] = .ok [("A", "2"), ("Host", "b:80")] ∧
      (∃ given, List.Forall₂ SaysHeader ["A: 1", "Host: b:80", "A :2 "] given ∧
        Gathers given [("A", "2"), ("Host", "b:80")]) ∧
      (∀ header ∈ [("Host", "b:80"), ("A", "")], CanBeWritten header) ∧
      parseHeaders ([("Host", "b:80"), ("A", "")].map written) = .ok [("Host", "b:80"), ("A", "")] := by
  have hparse : parseHeaders ["A: 1", "Host: b:80", "A :2 "] = .ok [("A", "2"), ("Host", "b:80")] := by
    cbv
  have hstripped : ∀ text ∈ ["Host", "b:80", "A", ""], IsStripped text.toList := by
    simp only [List.forall_mem_cons]
    exact ⟨isStripped_of_ends rfl rfl rfl rfl, isStripped_of_ends rfl rfl rfl rfl,
      isStripped_of_ends rfl rfl rfl rfl, isStripped_nil, List.forall_mem_nil _⟩
  have hwritten : ∀ header ∈ [("Host", "b:80"), ("A", "")], CanBeWritten header := by
    simp only [List.forall_mem_cons] at hstripped ⊢
    obtain ⟨hhost, hport, hname, hempty, -⟩ := hstripped
    exact ⟨⟨by decide, by decide, hhost, hport⟩, ⟨by decide, by decide, hname, hempty⟩, List.forall_mem_nil _⟩
  exact ⟨hparse, (header_lines_read.1 _).2.2 _ hparse, hwritten, header_lines_read.2 _ (by decide) hwritten⟩

end JsonShapes.Request
