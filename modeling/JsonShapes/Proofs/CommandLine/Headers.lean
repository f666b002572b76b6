import JsonShapes.CommandLine.Run
import JsonShapes.Proofs.CommandLine.Arguments
import JsonShapes.Proofs.Http.Outcomes
import JsonShapes.Proofs.Request.Checking
import JsonShapes.Proofs.Request.HeaderLines
import JsonShapes.Proofs.Request.Retrieving

/-! # What header options send

Header lines may be given in one option or in several. Of several options only the last one counts
(`parse_headerArgs`), so a call carries the headers of all lines exactly when none of them loses its header
(`LosesHeader`, `grouped_headers_sent_iff`). -/

namespace JsonShapes

/-! ### Calls -/

namespace Request

variable {w : World} {t : FileTree} {r : Request}

theorem retrieve_calls : (r.retrieve w).2.1 = (r.fetched w).calls := by
  unfold retrieve fetched
  dsimp only
  split
  · rfl
  · split
    · rfl
    · split <;> rfl

theorem run_calls : (r.run w t).calls = (r.fetched w).calls := by
  rw [← retrieve_calls]
  unfold run
  split
  · rename_i hretrieve
    rw [hretrieve]
  · rename_i hretrieve
    rw [hretrieve]
  · rename_i hretrieve
    rw [hretrieve]
    split <;> rfl

end Request

namespace CommandLine

open Conversion (UrlJob)
open Request (World headerFields lastGiven)

variable {c : Console} {w : World} {t : FileTree} {url : String} {lines : List String}
  {groups : List (List String)} {headers : List (String × String)}

/-- A job with header lines, and all else as it is when nothing is given. -/
def headerJob (url : String) (lines : List String) : UrlJob :=
  urlJob ⟨url, none, "GET", lines, none, none, none, none⟩

/-- **A URL is called**: it is an absolute one, and it is not refused. -/
structure IsCalled (url : String) : Prop where
  nonempty : url.isEmpty = false
  absolute : ∃ parsed, Url.parse? url = some parsed ∧ parsed.isAbsolute = true
  accepted : Url.refusal? url = none

theorem headerJob_checked_iff (fields : List (Key × Value)) :
    Request.fault? ((headerJob url lines).request fields) = none ↔
      url.isEmpty = false ∧ ∃ parsed, Url.parse? url = some parsed ∧ parsed.isAbsolute = true := by
  rw [Request.fault?_eq_none_iff]
  constructor
  · rintro ⟨_, ⟨⟩, hchecked⟩
    obtain ⟨_, parsed, ⟨⟩, hempty, hparsed, habsolute⟩ := hchecked.url
    exact ⟨hempty, parsed, hparsed, habsolute⟩
  · rintro ⟨hempty, parsed, hparsed, habsolute⟩
    refine ⟨_, rfl, ⟨url, parsed, rfl, hempty, hparsed, habsolute⟩, ?_, rfl, nofun⟩
    show Request.absentOr Value.isObject (.object fields) = true
    rw [Request.absentOr, Value.isObject, Bool.or_true]

theorem convertUrl_calls_eq (h : Request.parseHeaders lines = .ok headers) :
    (Conversion.convertUrl w t (headerJob url lines)).calls =
      (Request.process w t ((headerJob url lines).request (headerFields headers))).calls := by
  have hheaders : (headerJob url lines).headers = .ok (headerFields headers) := by
    rw [headerJob, urlJob, h]
    rfl
  unfold Conversion.convertUrl
  rw [hheaders]
  dsimp only
  split
  · rfl
  · split <;> rfl

/-- **A URL that is called** is called once, with the headers of the lines. -/
theorem calls_of_called (hurl : IsCalled url) (h : Request.parseHeaders lines = .ok headers) :
    (Conversion.convertUrl w t (headerJob url lines)).calls =
      [⟨.string "GET", url, Http.withHeaders (headerFields headers), .null, Http.defaultTimeout⟩] := by
  have hchecked : Request.fault? ((headerJob url lines).request (headerFields headers)) = none :=
    (headerJob_checked_iff _).mpr ⟨hurl.nonempty, hurl.absolute⟩
  obtain ⟨r, hr, -, -, -, hprocess⟩ := Request.process_of_accepted (w := w) (t := t) hchecked
  rw [convertUrl_calls_eq h, hprocess, Request.run_calls]
  cases hr
  exact (Http.fetch_of_accepted hurl.accepted).1

theorem calls_of_not_called (hurl : ¬ IsCalled url) (h : Request.parseHeaders lines = .ok headers) :
    (Conversion.convertUrl w t (headerJob url lines)).calls = [] := by
  rw [convertUrl_calls_eq h]
  cases hfault : Request.fault? ((headerJob url lines).request (headerFields headers)) with
  | some fault => rw [Request.process_of_fault hfault]
  | none =>
    obtain ⟨hempty, hparsed⟩ := (headerJob_checked_iff _).mp hfault
    obtain ⟨r, hr, -, -, -, hprocess⟩ := Request.process_of_accepted (w := w) (t := t) hfault
    rw [hprocess, Request.run_calls]
    cases hrefused : Url.refusal? url with
    | none => exact absurd ⟨hempty, hparsed, hrefused⟩ hurl
    | some refusal =>
      cases hr
      exact congrArg Http.Fetched.calls (Http.fetch_of_refusal hrefused)

/-! ### Options -/

/-- The arguments that give header lines in several options. -/
def headerArgs (groups : List (List String)) : List String := groups.flatMap ("--header" :: ·)

/-- The option of header lines. -/
def headerFlag : Flag := ⟨["--header"], .many, .text, false⟩

theorem length_le_headerArgs (groups : List (List String)) :
    groups.length ≤ (headerArgs groups).length := by
  induction groups with
  | nil => exact Nat.le_refl _
  | cons words groups ih =>
    rw [headerArgs] at ih ⊢
    rw [List.flatMap_cons, List.length_append, List.length_cons, List.length_cons]
    omega

/-- The settings that header options make. -/
def headerSettings (url : String) (groups : List (List String)) : Settings :=
  ⟨groups.map fun lines => ("--header", lines.map .text), some url, none, [], false⟩

theorem urlGrammar_parse (hurl : IsPlain url) (hgroups : groups ≠ [])
    (hlines : ∀ lines ∈ groups, ∀ line ∈ lines, IsPlain line) :
    urlGrammar.parse (url :: headerArgs groups) = .ok (headerSettings url groups) := by
  have hmarks : urlGrammar.marks (headerArgs groups) =
      .ok (groups.flatMap (optionWords headerFlag "--header")) :=
    marks_groups (by decide) (show urlGrammar.mark "--header" = .ok (.option headerFlag "--header" none)
      from rfl) hlines
  have hurltaken : urlGrammar.takePositional .start
      ((url, .word) :: groups.flatMap (optionWords headerFlag "--header")) =
        .ok (⟨[], some url, none, [], false⟩, 1) := by
    cases groups with
    | nil => exact absurd rfl hgroups
    | cons lines groups => rfl
  have hany : ((url, Mark.word) :: groups.flatMap (optionWords headerFlag "--header")).any
      (fun a => a.2.isOption) = true := by
    cases groups with
    | nil => exact absurd rfl hgroups
    | cons lines groups => rfl
  have hrounds : groups.length < (headerArgs groups).length + 1 :=
    Nat.lt_succ_of_le (length_le_headerArgs groups)
  have hall : urlGrammar.takeAll ((url :: headerArgs groups).length + 1) .start
      ((url, .word) :: groups.flatMap (optionWords headerFlag "--header")) =
        .ok (headerSettings url groups) := by
    rw [Grammar.takeAll, if_pos hany]
    dsimp only
    rw [if_neg (by decide), hurltaken]
    exact takeAll_options rfl rfl rfl groups hrounds rfl
  rw [Grammar.parse, marks_cons hurl.ne_dashes (hurl.mark_eq _) hmarks]
  show (urlGrammar.takeAll ((url :: headerArgs groups).length + 1) .start
    ((url, .word) :: groups.flatMap (optionWords headerFlag "--header"))).bind _ = _
  rw [hall]
  rfl

theorem values?_headerSettings (hgroups : groups ≠ []) (name : String) :
    (headerSettings url groups).values? name =
      if name = "--header" then some ((groups.getLast hgroups).map .text) else none := by
  have hreverse : groups.reverse = groups.getLast hgroups :: groups.dropLast.reverse := by
    rw [← List.reverse_concat, List.dropLast_append_getLast]
  rw [Settings.values?, headerSettings, ← List.map_reverse, hreverse]
  by_cases hname : name = "--header"
  · simp [hname]
  · rw [if_neg hname, List.lookup_eq_none_iff]
    intro option hoption
    obtain ⟨lines, -, rfl⟩ := List.mem_map.mp hoption
    exact bne_iff_ne.mpr hname

theorem texts_map_text (lines : List String) : texts (lines.map .text) = lines := by
  rw [texts, List.filterMap_map]
  exact List.filterMap_some

/-- **Of several options the last one counts.** -/
theorem parse_headerArgs (hurl : IsPlain url) (hgroups : groups ≠ [])
    (hlines : ∀ lines ∈ groups, ∀ line ∈ lines, IsPlain line) :
    parse ("url2ts" :: url :: headerArgs groups) =
      .ok (.url false ⟨url, none, "GET", groups.getLast hgroups, none, none, none, none⟩) := by
  have hmain : mainGrammar.marks (headerArgs groups) = _ :=
    marks_groups (by decide) (show mainGrammar.mark "--header" = .ok .unknown from rfl) hlines
  have hvalues := @values?_headerSettings url groups hgroups
  have htext : ∀ name, name ≠ "--header" → (headerSettings url groups).text? name = none := by
    intro name hname
    rw [Settings.text?, hvalues, if_neg hname]
  have htimeout : (headerSettings url groups).values? "--timeout" = none := by
    rw [hvalues, if_neg (by decide)]
  rw [parse_url (marks_cons hurl.ne_dashes (hurl.mark_eq _) hmain)
    (urlGrammar_parse hurl hgroups hlines) rfl, urlOptions, htext _ (by decide), htext _ (by decide),
    htext _ (by decide), htext _ (by decide), htext _ (by decide), htimeout, hvalues, if_pos rfl,
    Option.getD_some, texts_map_text]
  rfl

/-! ### What is sent -/

/-- **The same request**: two calls that differ in the order of their headers at most. -/
structure SameRequest (a b : Http.Call) : Prop where
  method : a.method = b.method
  url : a.url = b.url
  body : a.body = b.body
  timeout : a.timeout = b.timeout
  headers : ∀ k, a.headers.lookup k = b.headers.lookup k

/-- **A header is lost**: the URL is called, and an option before the last one gives a name that the last
one does not give, with a value that no call has by itself. -/
def LosesHeader (url : String) (earlier : List (List String)) (last : List String) : Prop :=
  IsCalled url ∧ ∃ name value, lastGiven earlier.flatten name = some value ∧ lastGiven last name = none ∧
    Http.defaultHeaders.lookup (.name name) ≠ some (.string value)

/-- **The headers of the last option are all headers** unless one is lost. -/
theorem sameHeaders_iff {earlier : List (List String)} {last : List String}
    {lastHeaders allHeaders : List (String × String)} (hlast : Request.parseHeaders last = .ok lastHeaders)
    (hall : Request.parseHeaders (earlier.flatten ++ last) = .ok allHeaders) :
    (∀ k, (Http.withHeaders (headerFields lastHeaders)).lookup k =
        (Http.withHeaders (headerFields allHeaders)).lookup k) ↔
      ∀ name value, lastGiven earlier.flatten name = some value → lastGiven last name = none →
        Http.defaultHeaders.lookup (.name name) = some (.string value) := by
  constructor
  · intro h name value hearlier hnone
    have hname := h (.name name)
    rw [Request.lookup_sent hlast, Request.lookup_sent hall, Request.lastGiven_append, hnone, hearlier]
      at hname
    simpa using hname
  · intro h k
    by_cases hk : ∃ name, k = .name name
    · obtain ⟨name, rfl⟩ := hk
      rw [Request.lookup_sent hlast, Request.lookup_sent hall, Request.lastGiven_append]
      cases hgiven : lastGiven last name with
      | some value => rfl
      | none =>
        cases hearlier : lastGiven earlier.flatten name with
        | none => rfl
        | some value => simp [h name value hearlier hgiven]
    · have hne : ∀ name, k ≠ .name name := fun name hname => hk ⟨name, hname⟩
      rw [Request.lookup_sent_of_ne hne, Request.lookup_sent_of_ne hne]

theorem run_headerArgs_calls (hurl : IsPlain url) (hgroups : groups ≠ [])
    (hlines : ∀ lines ∈ groups, ∀ line ∈ lines, IsPlain line) :
    (run c t ("url2ts" :: url :: headerArgs groups)).calls =
      (Conversion.convertUrl c.world t (headerJob url (groups.getLast hgroups))).calls := by
  rw [run, parse_headerArgs hurl hgroups hlines]
  show (finish _ _ _ _ _ _).calls = _
  unfold finish
  split <;> rfl

/-- **The lines of the last option send what all lines send** unless a header is lost. -/
theorem sameRequests_iff {earlier : List (List String)} {last : List String}
    (hlines : ∀ line ∈ earlier.flatten ++ last, ∃ header, Request.parseHeader line = .ok header) :
    List.Forall₂ SameRequest (Conversion.convertUrl w t (headerJob url last)).calls
        (Conversion.convertUrl w t (headerJob url (earlier.flatten ++ last))).calls ↔
      ¬ LosesHeader url earlier last := by
  obtain ⟨lastHeaders, hlast⟩ : ∃ headers, Request.parseHeaders last = .ok headers :=
    Request.exists_parseHeaders_iff.mpr fun line hline => hlines line (List.mem_append_right _ hline)
  obtain ⟨allHeaders, hall⟩ : ∃ headers, Request.parseHeaders (earlier.flatten ++ last) = .ok headers :=
    Request.exists_parseHeaders_iff.mpr hlines
  by_cases hcalled : IsCalled url
  · rw [calls_of_called hcalled hlast, calls_of_called hcalled hall, LosesHeader]
    have hsame := sameHeaders_iff hlast hall
    constructor
    · rintro hrequests ⟨-, name, value, hearlier, hnone, hdefault⟩
      cases hrequests with
      | cons hrequest _ => exact hdefault (hsame.mp hrequest.headers name value hearlier hnone)
    · intro hlost
      refine .cons ⟨rfl, rfl, rfl, rfl, hsame.mpr fun name value hearlier hnone => ?_⟩ .nil
      by_contra hdefault
      exact hlost ⟨hcalled, name, value, hearlier, hnone, hdefault⟩
  · rw [calls_of_not_called hcalled hlast, calls_of_not_called hcalled hall]
    exact ⟨fun _ h => hcalled h.1, fun _ => .nil⟩

/-- **What grouped header lines send.** Lines that do not start with a dash and that are headers may be
given in any number of options. The call is the one that is made with the lines of the last option alone;
and it is the one that is made with all lines, up to the order of the headers, exactly when no header is
lost. -/
theorem grouped_headers_sent_iff (c : Console) (t : FileTree) (url : String)
    (earlier : List (List String)) (last : List String) (hurl : IsPlain url)
    (hplain : ∀ lines ∈ earlier ++ [last], ∀ line ∈ lines, IsPlain line)
    (hlines : ∀ line ∈ earlier.flatten ++ last, ∃ header, Request.parseHeader line = .ok header) :
    (run c t ("url2ts" :: url :: headerArgs (earlier ++ [last]))).calls =
        (Conversion.convertUrl c.world t (headerJob url last)).calls ∧
      (List.Forall₂ SameRequest (run c t ("url2ts" :: url :: headerArgs (earlier ++ [last]))).calls
          (Conversion.convertUrl c.world t (headerJob url (earlier.flatten ++ last))).calls ↔
        ¬ LosesHeader url earlier last) := by
  have hcalls := run_headerArgs_calls (c := c) (t := t) hurl (by simp) hplain
  rw [List.getLast_append_singleton] at hcalls
  rw [hcalls]
  exact ⟨rfl, sameRequests_iff hlines⟩

/-- A console without input, at which every call is answered by the empty object. -/
def emptyObject : Console :=
  ⟨Request.answering (Request.bodyInTwo "application/json" [0x7B] [0x7D]), ["tmp".toList], .ok ""⟩

/-- A name that the last option gives again is not lost. -/
theorem repeated_header_kept :
    (∀ lines ∈ [["A: 1"], []] ++ [["A: 2", "B: 3"]], ∀ line ∈ lines, IsPlain line) ∧
    (∀ line ∈ [["A: 1"], []].flatten ++ ["A: 2", "B: 3"],
      ∃ header, Request.parseHeader line = .ok header) ∧
    List.Forall₂ SameRequest
      (run emptyObject ⟨[]⟩ ("url2ts" :: "https://example.com/a" ::
        headerArgs ([["A: 1"], []] ++ [["A: 2", "B: 3"]]))).calls
      (Conversion.convertUrl emptyObject.world ⟨[]⟩
        (headerJob "https://example.com/a" ([["A: 1"], []].flatten ++ ["A: 2", "B: 3"]))).calls := by
  have hplain : ∀ lines ∈ [["A: 1"], []] ++ [["A: 2", "B: 3"]], ∀ line ∈ lines, IsPlain line := by
    decide
  have hlines : ∀ line ∈ [["A: 1"], []].flatten ++ ["A: 2", "B: 3"],
      ∃ header, Request.parseHeader line = .ok header := by
    simp only [List.flatten_cons, List.flatten_nil, List.append_nil, List.singleton_append,
      List.forall_mem_cons]
    exact ⟨⟨_, rfl⟩, ⟨_, rfl⟩, ⟨_, rfl⟩, nofun⟩
  obtain ⟨-, hsame⟩ := grouped_headers_sent_iff emptyObject ⟨[]⟩ "https://example.com/a" [["A: 1"], []]
    ["A: 2", "B: 3"] (by decide) hplain hlines
  refine ⟨hplain, hlines, hsame.mpr ?_⟩
  rintro ⟨-, name, value, hearlier, hnone, -⟩
  have hname : name = "A" := by
    by_contra hname
    have hgiven : Request.givenHeaders [["A: 1"], []].flatten = [("A", "1")] := by decide +kernel
    rw [lastGiven, hgiven] at hearlier
    simp [List.lookup_cons, beq_eq_false_iff_ne.mpr hname] at hearlier
  rw [hname] at hnone
  revert hnone
  decide +kernel

/-- The header of the first option is lost. -/
theorem header_of_first_option_lost :
    (∀ lines ∈ [["A: 1"]] ++ [["B: 2"]], ∀ line ∈ lines, IsPlain line) ∧
    (∀ line ∈ [["A: 1"]].flatten ++ ["B: 2"], ∃ header, Request.parseHeader line = .ok header) ∧
    ¬ List.Forall₂ SameRequest
      (run emptyObject ⟨[]⟩ ("url2ts" :: "https://example.com/a" ::
        headerArgs ([["A: 1"]] ++ [["B: 2"]]))).calls
      (Conversion.convertUrl emptyObject.world ⟨[]⟩
        (headerJob "https://example.com/a" ([["A: 1"]].flatten ++ ["B: 2"]))).calls := by
  have hplain : ∀ lines ∈ [["A: 1"]] ++ [["B: 2"]], ∀ line ∈ lines, IsPlain line := by
    decide
  have hlines : ∀ line ∈ [["A: 1"]].flatten ++ ["B: 2"],
      ∃ header, Request.parseHeader line = .ok header := by
    simp only [List.flatten_cons, List.flatten_nil, List.append_nil, List.singleton_append,
      List.forall_mem_cons]
    exact ⟨⟨_, rfl⟩, ⟨_, rfl⟩, nofun⟩
  refine ⟨hplain, hlines, ?_⟩
  rw [run_headerArgs_calls (by decide) (by simp) hplain, List.getLast_append_singleton,
    sameRequests_iff hlines, not_not]
  exact ⟨⟨by decide, ⟨_, rfl, rfl⟩, by decide +kernel⟩, "A", "1", by decide +kernel, by decide +kernel,
    nofun⟩

end CommandLine

end JsonShapes
