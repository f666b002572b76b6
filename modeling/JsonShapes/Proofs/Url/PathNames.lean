import JsonShapes.Proofs.Url.Decoration
import JsonShapes.Proofs.Url.Suggesting

/-! # Names by the path

A URL that names a scheme and an authority, and holds no question mark, number sign or semicolon, ends with
its path (`EndsInPath`). A query or a fragment behind it is cut off again, whatever it holds, and slashes
add no segment (`EndsInPath.parse?_tail`); so the names that it suggests are made of the last segment of its
path, and a tail has no part in them (`suggestions_by_path`).

The last segment of a path is told from the path alone (`IsLastSegment`), and its words are the pieces
between its hyphens and underscores (`words_eq_filter`). -/

namespace JsonShapes

namespace Text

/-- **Words are the pieces between separators** that are not empty. -/
theorem words_eq_filter (p : Char → Bool) (cs : List Char) :
    words p cs = (cs.splitOnP p).filter fun w => !w.isEmpty := by
  induction cs with
  | nil => rfl
  | cons c rest ih =>
    rw [List.splitOnP_cons_eq_if_modifyHead]
    cases hc : p c with
    | true => rw [words_separator hc, ih, if_pos rfl, List.filter_cons_of_neg (by simp)]
    | false =>
      obtain ⟨w, ws, hw⟩ := List.exists_cons_of_ne_nil (List.splitOnP_ne_nil p rest)
      rw [hw] at ih ⊢
      cases rest with
      | nil =>
        cases hw
        simp [words, hc]
      | cons d rest =>
        rw [List.splitOnP_cons_eq_if_modifyHead] at hw
        rw [words.eq_def]
        dsimp only
        rw [ih]
        -- the piece that `c` is put in front of is empty just when a separator follows
        cases hd : p d with
        | true =>
          rw [hd, if_pos rfl] at hw
          cases hw
          cases hws : (rest.splitOnP p).filter fun w => !w.isEmpty <;> simp [hc, hd, hws]
        | false =>
          have hne : w ≠ [] := by
            rintro rfl
            obtain ⟨v, vs, hv⟩ := List.exists_cons_of_ne_nil (List.splitOnP_ne_nil p rest)
            simp [hd, hv] at hw
          simp [hc, hd, hne]

end Text

namespace Url

open Text

variable {cs tail path segment : List Char} {url ending : String} {parsed : Url}

/-! ### Segments -/

/-- **The last segment of a path**: it is not empty and holds no slash, it starts the path or stands behind
a slash, and only slashes follow it. -/
def IsLastSegment (path segment : List Char) : Prop :=
  segment ≠ [] ∧ '/' ∉ segment ∧ ∃ front k, (∀ c ∈ front.getLast?, c = '/') ∧
    path = front ++ segment ++ List.replicate k '/'

/-- **The words of a segment**: its pieces between hyphens and underscores, the first character of each in
upper case and the rest in lower case, one behind the other. -/
def titled (segment : List Char) : List Char :=
  (segment.splitOnP fun c => c == '-' || c == '_').flatMap Naming.titleChars

theorem titled_eq (segment : List Char) :
    titled segment = (words separatesSegment segment).flatMap Naming.titleChars := by
  rw [words_eq_filter]
  show (segment.splitOnP separatesSegment).flatMap Naming.titleChars = _
  induction segment.splitOnP separatesSegment with
  | nil => rfl
  | cons w ws ih =>
    rw [List.flatMap_cons, ih]
    cases w with
    | nil => rfl
    | cons c rest => rw [List.filter_cons_of_pos (by simp), List.flatMap_cons]

theorem lastSegment?_slashes (path : List Char) (k : ℕ) :
    lastSegment? (path ++ List.replicate k '/') = lastSegment? path := by
  induction k with
  | zero => rw [List.replicate_zero, List.append_nil]
  | succ k ih =>
    rw [List.replicate_succ', ← List.append_assoc, ← ih, lastSegment?, lastSegment?, pieces_append]
    simp [pieces]

theorem IsLastSegment.lastSegment?_eq (h : IsLastSegment path segment) :
    lastSegment? path = some segment := by
  obtain ⟨hne, hslash, front, k, hfront, rfl⟩ := h
  rw [lastSegment?_slashes]
  rcases List.eq_nil_or_concat front with rfl | ⟨before, last, rfl⟩
  · rw [List.nil_append, lastSegment?, pieces_of_notMem hslash]
    simp [hne]
  · rw [List.concat_eq_append] at hfront ⊢
    have hlast : last = '/' := hfront last (by simp)
    rw [hlast, List.append_assoc, List.singleton_append, lastSegment?, pieces_append,
      pieces_of_notMem hslash]
    simp [hne]

/-- **A path has a last segment**, or it is made of slashes only. -/
theorem slashes_or_exists_lastSegment (path : List Char) :
    (∃ k, path = List.replicate k '/') ∨ ∃ segment, IsLastSegment path segment := by
  induction path using List.reverseRecOn with
  | nil => exact .inl ⟨0, rfl⟩
  | append_singleton path c ih =>
    by_cases hc : c = '/'
    · rw [hc]
      rcases ih with ⟨k, rfl⟩ | ⟨segment, hne, hslash, front, k, hfront, rfl⟩
      · exact .inl ⟨k + 1, List.replicate_succ'.symm⟩
      · exact .inr ⟨segment, hne, hslash, front, k + 1, hfront, by simp [List.replicate_succ']⟩
    · refine .inr ⟨afterLast '/' path ++ [c], by simp, ?_, uptoLast '/' path, 0,
        getLast?_uptoLast '/' path, ?_⟩
      · rw [List.mem_append, List.mem_singleton, not_or]
        exact ⟨mark_notMem_afterLast '/' path, Ne.symm hc⟩
      · rw [List.replicate_zero, List.append_nil, ← List.append_assoc, uptoLast_append_afterLast]

theorem lastSegment?_replicate (k : ℕ) : lastSegment? (List.replicate k '/') = none :=
  lastSegment?_slashes [] k

/-! ### Tails -/

/-- **What may stand behind a path** and names nothing: slashes, a query, or a fragment. -/
inductive IsTail : List Char → Prop
  | slashes (k : ℕ) : IsTail (List.replicate k '/')
  | query (text : List Char) : IsTail ('?' :: text)
  | fragment (text : List Char) : IsTail ('#' :: text)

theorem IsTail.unbroken (h : IsTail tail) : IsTail (unbroken tail) := by
  cases h with
  | slashes k =>
    rw [unbroken_of_notMem]
    · exact .slashes k
    · intro c hc
      rw [List.eq_of_mem_replicate hc]
      decide
  | query text => exact .query (Url.unbroken text)
  | fragment text => exact .fragment (Url.unbroken text)

theorem IsTail.head (h : IsTail tail) : ∀ c ∈ tail.head?, c ∈ "/?#".toList := by
  cases h with
  | slashes k => cases k <;> simp [List.replicate_succ]
  | query text => simp
  | fragment text => simp

theorem dropParameters_of_notMem (h : ';' ∉ path) : dropParameters path = path := by
  have hlast : ';' ∉ afterLast '/' path := by
    intro hmem
    apply h
    rw [← uptoLast_append_afterLast '/' path]
    exact List.mem_append_right _ hmem
  rw [dropParameters, cut_of_notMem hlast, uptoLast_append_afterLast]

theorem pathOf_eq {rest : List Char} (scheme : List Char) (hcut : (cut '?' (cut '#' rest).1).1 = path)
    (hparameters : ';' ∉ path) : pathOf scheme rest = path := by
  rw [pathOf, hcut]
  split_ifs
  · exact dropParameters_of_notMem hparameters
  · rfl

/-- **A plain path** is all of what follows an authority. -/
theorem pathOf_of_plain (hplain : ∀ c ∈ path, c ∉ "?#;".toList) (scheme : List Char) :
    pathOf scheme path = path := by
  refine pathOf_eq scheme ?_ fun hmem => hplain _ hmem (by decide)
  have hnumber : '#' ∉ path := fun hmem => hplain _ hmem (by decide)
  rw [cut_of_notMem hnumber]
  exact congrArg Prod.fst (cut_of_notMem fun hmem => hplain _ hmem (by decide))

/-- **A tail adds nothing but slashes to a plain path.** -/
theorem pathOf_tail (hplain : ∀ c ∈ path, c ∉ "?#;".toList) (scheme : List Char) (h : IsTail tail) :
    ∃ k, pathOf scheme (path ++ tail) = path ++ List.replicate k '/' := by
  have hquestion : '?' ∉ path := fun hmem => hplain _ hmem (by decide)
  have hnumber : '#' ∉ path := fun hmem => hplain _ hmem (by decide)
  have hsemicolon : ';' ∉ path := fun hmem => hplain _ hmem (by decide)
  cases h with
  | slashes k =>
    refine ⟨k, pathOf_of_plain (List.forall_mem_append.mpr ⟨hplain, fun c hc => ?_⟩) scheme⟩
    rw [List.eq_of_mem_replicate hc]
    decide
  | query text =>
    refine ⟨0, ?_⟩
    rw [List.replicate_zero, List.append_nil]
    refine pathOf_eq scheme ?_ hsemicolon
    rw [fst_cut_append hnumber, cut, if_neg (by decide), cut_append hquestion]
  | fragment text =>
    refine ⟨0, ?_⟩
    rw [List.replicate_zero, List.append_nil]
    refine pathOf_eq scheme ?_ hsemicolon
    rw [cut_append hnumber, cut_of_notMem hquestion]

/-! ### Parts -/

theorem mem_of_mem_clean {c : Char} (h : c ∈ clean cs) : c ∈ cs :=
  (List.dropWhile_suffix _).subset (List.mem_of_mem_filter h)

theorem clean_append (h : clean cs ≠ []) (tail : List Char) :
    clean (cs ++ tail) = clean cs ++ unbroken tail := by
  have hstart : (cs.dropWhile fun c => decide (c.toNat ≤ 0x20)).isEmpty = false := by
    rw [Bool.eq_false_iff]
    intro hempty
    apply h
    rw [clean, List.isEmpty_iff.mp hempty, List.filter_nil]
  rw [clean, List.dropWhile_append, hstart, if_neg Bool.false_ne_true, List.filter_append, clean, unbroken]

theorem splitScheme_parts (h : (splitScheme cs).1 ≠ []) :
    ∃ name, cs = name ++ ':' :: (splitScheme cs).2 ∧
      ∀ rest, splitScheme (name ++ ':' :: rest) = ((splitScheme cs).1, rest) := by
  unfold splitScheme at h ⊢
  split at h
  · rename_i c scheme rest hcut
    obtain ⟨hcolon, hcs⟩ := cut_eq_some_iff.mp hcut
    split_ifs at h with hscheme
    · refine ⟨c :: scheme, by simpa only [hscheme, if_true] using hcs, fun other => ?_⟩
      rw [cut_append hcolon]
      simp only [hscheme, if_true]
    · exact absurd rfl h
  · exact absurd rfl h

theorem splitAuthority_parts (h : (splitAuthority cs).1 ≠ []) :
    cs = '/' :: '/' :: ((splitAuthority cs).1 ++ (splitAuthority cs).2) ∧
      (∀ c ∈ (splitAuthority cs).1, c ∉ "/?#".toList) ∧
      ∀ c ∈ (splitAuthority cs).2.head?, c ∈ "/?#".toList := by
  unfold splitAuthority at h ⊢
  split at h
  · rename_i rest
    refine ⟨by rw [List.takeWhile_append_dropWhile], fun c hc => ?_, fun c hc => ?_⟩
    · have hinside := List.mem_takeWhile_imp hc
      simpa [and_assoc] using hinside
    · have hstop := List.head?_dropWhile_not (fun c => c != '/' && c != '?' && c != '#') rest
      rw [Option.mem_def.mp hc] at hstop
      simp at hstop ⊢
      tauto
  · exact absurd rfl h

theorem parse?_eq_some_iff : parse? url = some parsed ↔
    isAuthority (splitAuthority (splitScheme (clean url.toList)).2).1 = true ∧
      ⟨(splitScheme (clean url.toList)).1, (splitAuthority (splitScheme (clean url.toList)).2).1,
        pathOf (splitScheme (clean url.toList)).1
          (splitAuthority (splitScheme (clean url.toList)).2).2⟩ = parsed := by
  unfold parse?
  dsimp only
  split_ifs with hauthority
  · rw [Option.some.injEq, and_iff_right hauthority]
  · simp [hauthority]

/-! ### Suggestions -/

/-- **A URL ends with its path**: it names a scheme and an authority, and holds no question mark, number
sign or semicolon. -/
structure EndsInPath (url : String) (parsed : Url) : Prop where
  parses : parse? url = some parsed
  absolute : parsed.isAbsolute = true
  plain : ∀ c ∈ url.toList, c ∉ "?#;".toList

/-- **A tail behind the path of a URL** adds nothing but slashes to it. -/
theorem EndsInPath.parse?_tail (h : EndsInPath url parsed) (htail : IsTail tail) :
    ∃ k, parse? (url ++ String.ofList tail) =
      some ⟨parsed.scheme, parsed.authority, parsed.path ++ List.replicate k '/'⟩ := by
  obtain ⟨hauthority, hparsed⟩ := parse?_eq_some_iff.mp h.parses
  have habsolute := h.absolute
  rw [← hparsed] at habsolute ⊢
  simp only [isAbsolute, Bool.and_eq_true, Bool.not_eq_true', List.isEmpty_eq_false_iff] at habsolute
  obtain ⟨hscheme, hne⟩ := habsolute
  have hclean : clean url.toList ≠ [] := by
    intro hempty
    rw [hempty] at hscheme
    exact hscheme rfl
  obtain ⟨name, hname, hfollows⟩ := splitScheme_parts hscheme
  obtain ⟨hparts, hinside, hends⟩ := splitAuthority_parts hne
  generalize (splitScheme (clean url.toList)).1 = scheme at *
  generalize (splitScheme (clean url.toList)).2 = rest at *
  generalize (splitAuthority rest).1 = authority at *
  generalize (splitAuthority rest).2 = path at *
  -- the path is a part of the URL, so it holds no mark that ends a path
  have hplain : ∀ c ∈ path, c ∉ "?#;".toList := by
    intro c hc
    refine h.plain c (mem_of_mem_clean ?_)
    rw [hname, hparts]
    simp [hc]
  have hsplit : splitScheme (clean (url ++ String.ofList tail).toList) = (scheme, rest ++ unbroken tail) := by
    rw [String.toList_append, String.toList_ofList, clean_append hclean, hname, List.append_assoc,
      List.cons_append, hfollows]
  have hends' : ∀ c ∈ (path ++ unbroken tail).head?, c ∈ "/?#".toList := by
    cases path with
    | nil => exact htail.unbroken.head
    | cons c path => exact hends
  have hcut : splitAuthority (rest ++ unbroken tail) = (authority, path ++ unbroken tail) := by
    rw [hparts, List.cons_append, List.cons_append, List.append_assoc, splitAuthority_append hinside hends']
  obtain ⟨k, hpath⟩ := pathOf_tail hplain scheme htail.unbroken
  refine ⟨k, parse?_eq_some_iff.mpr ?_⟩
  rw [hsplit, hcut, hpath, pathOf_of_plain hplain]
  exact ⟨hauthority, rfl⟩

theorem EndsInPath.namingSegment?_tail (h : EndsInPath url parsed) (htail : IsTail tail) :
    namingSegment? (url ++ String.ofList tail) = lastSegment? parsed.path := by
  obtain ⟨k, hparse⟩ := h.parse?_tail htail
  have habsolute : (⟨parsed.scheme, parsed.authority, parsed.path ++ List.replicate k '/'⟩ : Url).isAbsolute =
      true := h.absolute
  unfold namingSegment?
  rw [hparse]
  dsimp only
  rw [if_pos habsolute, lastSegment?_slashes]

theorem EndsInPath.namingSegment?_eq (h : EndsInPath url parsed) :
    namingSegment? url = lastSegment? parsed.path := by
  unfold namingSegment?
  rw [h.parses]
  exact if_pos h.absolute

theorem nameFrom?_of_segment (hsegment : namingSegment? url = some segment) (hending : ending ≠ "") :
    nameFrom? url ending = some (String.ofList (titled segment) ++ ending) := by
  rw [nameFrom?_eq hending, hsegment, Option.map_some, titled_eq, String.ofList_append, String.ofList_toList]

theorem nameFrom?_of_no_segment (hsegment : namingSegment? url = none) (ending : String) :
    nameFrom? url ending = none := by
  rw [nameFrom?_eq_bind, hsegment, Option.bind_none]

theorem suggestFileName_of_no_segment (hsegment : namingSegment? url = none) (root : Option String) :
    suggestFileName url root = (root.filter (· ≠ "")).getD defaultFileName := by
  unfold suggestFileName
  rw [nameFrom?_of_no_segment hsegment]
  cases root with
  | none => rfl
  | some name => by_cases hname : name = "" <;> simp [hname, Option.filter]

/-- **Suggestions by the path.** A URL that ends with its path suggests the same names when slashes, a
query or a fragment are put behind it, whatever they hold. The names are made of the last segment of the
path, with the ending behind its words; a path of slashes only suggests none, and the names that are given
for that case stand. -/
theorem suggestions_by_path (h : EndsInPath url parsed) (ending fallback : String)
    (root : Option String) :
    (∀ tail, IsTail tail →
      suggestRootName (url ++ String.ofList tail) ending fallback = suggestRootName url ending fallback ∧
        suggestFileName (url ++ String.ofList tail) root = suggestFileName url root) ∧
    ((∃ segment, IsLastSegment parsed.path segment ∧
        (ending ≠ "" → suggestRootName url ending fallback = String.ofList (titled segment) ++ ending) ∧
        suggestFileName url root = String.ofList (titled segment) ++ fileNameEnding) ∨
      (∃ k, parsed.path = List.replicate k '/') ∧ suggestRootName url ending fallback = fallback ∧
        suggestFileName url root = (root.filter (· ≠ "")).getD defaultFileName) := by
  constructor
  · intro tail htail
    have hname : ∀ ending, nameFrom? (url ++ String.ofList tail) ending = nameFrom? url ending := by
      intro ending
      rw [nameFrom?_eq_bind, nameFrom?_eq_bind, h.namingSegment?_tail htail, h.namingSegment?_eq]
    refine ⟨?_, ?_⟩
    · rw [suggestRootName, suggestRootName, hname]
    · unfold suggestFileName
      rw [hname]
  · rcases slashes_or_exists_lastSegment parsed.path with ⟨k, hpath⟩ | ⟨segment, hlast⟩
    · have hnone : namingSegment? url = none := by
        rw [h.namingSegment?_eq, hpath, lastSegment?_replicate]
      refine .inr ⟨⟨k, hpath⟩, ?_, suggestFileName_of_no_segment hnone root⟩
      rw [suggestRootName, nameFrom?_of_no_segment hnone, Option.getD_none]
    · have hsome : namingSegment? url = some segment := by
        rw [h.namingSegment?_eq, hlast.lastSegment?_eq]
      refine .inl ⟨segment, hlast, fun hending => ?_, ?_⟩
      · rw [suggestRootName, nameFrom?_of_segment hsome hending, Option.getD_some]
      · exact suggestFileName_of_some (nameFrom?_of_segment hsome (by decide))

/-- The query of a URL may look like another URL. -/
theorem suggestions_before_query :
    EndsInPath "https://example.com/v1/user-profile/"
        ⟨"https".toList, "example.com".toList, "/v1/user-profile/".toList⟩ ∧
      IsTail ('?' :: "next=http://other.org/a;b#c/d".toList) ∧
      suggestRootName ("https://example.com/v1/user-profile/" ++
        String.ofList ('?' :: "next=http://other.org/a;b#c/d".toList)) rootNameEnding "Root" =
          "UserProfileResponse" := by
  have hends : EndsInPath "https://example.com/v1/user-profile/"
      ⟨"https".toList, "example.com".toList, "/v1/user-profile/".toList⟩ :=
    ⟨by decide +kernel, rfl, by simp⟩
  have htail : IsTail ('?' :: "next=http://other.org/a;b#c/d".toList) := .query _
  refine ⟨hends, htail, ?_⟩
  rw [((suggestions_by_path hends rootNameEnding "Root" none).1 _ htail).1]
  decide +kernel

end Url

end JsonShapes
