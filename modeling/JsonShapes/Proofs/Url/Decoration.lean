import JsonShapes.Proofs.Text.CharSet
import JsonShapes.Proofs.Text.Cutting
import JsonShapes.Proofs.Text.LowerCase
import JsonShapes.Url.Guard

/-! # What stands around a host

A host stands in a web address behind a scheme and perhaps a user, and before a port and a tail
(`Decoration`). All of these may be chosen freely. The user may hold at signs and colons, the tail other
hosts, and tabs and line ends count nowhere; still the address is read as having that host, and nothing
but the host decides whether it is refused (`Decoration.refusal?_url`). -/

namespace JsonShapes.Url

open Text

/-- **All of a web address but its host.** -/
structure Decoration where
  scheme : List Char
  userInfo : Option (List Char)
  port : Option (List Char)
  tail : List Char
  /-- The scheme is `http` or `https` in any case. -/
  web : scheme.map Char.toLower = "http".toList ∨ scheme.map Char.toLower = "https".toList
  /-- The user is any ASCII text without delimiters of the authority. -/
  plainInfo : ∀ info ∈ userInfo, ∀ c ∈ info, c.toNat < 0x80 ∧ c ∉ "/?#[]".toList
  /-- The port is made of digits, of any number and script. -/
  digits : ∀ p ∈ port, ∀ c ∈ p, isDecimal c = true
  /-- The tail ends the authority. -/
  ends : ∀ c ∈ tail.head?, c ∈ "/?#".toList

/-- A user with the at sign behind it. -/
def infoChars : Option (List Char) → List Char
  | none => []
  | some info => info ++ ['@']

/-- A port with the colon before it. -/
def portChars : Option (List Char) → List Char
  | none => []
  | some p => ':' :: p

namespace Decoration

/-- The authority with a host. -/
def authority (d : Decoration) (host : List Char) : List Char :=
  infoChars d.userInfo ++ (host ++ portChars d.port)

/-- **The web address with a host.** -/
def url (d : Decoration) (host : List Char) : String :=
  String.ofList (d.scheme ++ "://".toList ++ d.authority host ++ d.tail)

end Decoration

/-! ### Characters -/

variable {c : Char} {cs : List Char}

/-- A text without tabs and line ends. -/
def unbroken (cs : List Char) : List Char :=
  cs.filter fun c => c != '\t' && c != '\r' && c != '\n'

/-- Characters of a host that end no part of an authority and are no breaks. -/
def IsBare (host : List Char) : Prop :=
  ∀ c ∈ host, c.toNat < 0x80 ∧ c ∉ "/?#@\t\r\n".toList

/-- A host in brackets. -/
def inBrackets (form : List Char) : List Char := '[' :: form ++ [']']

theorem ends_of_slash (rest : List Char) : ∀ c ∈ ('/' :: rest).head?, c ∈ "/?#".toList := by simp

theorem unbroken_append (a b : List Char) : unbroken (a ++ b) = unbroken a ++ unbroken b :=
  List.filter_append ..

theorem unbroken_of_notMem (h : ∀ c ∈ cs, c ∉ "\t\r\n".toList) : unbroken cs = cs := by
  rw [unbroken, List.filter_eq_self]
  intro c hc
  have := h c hc
  simp at this
  simp [this]

theorem mem_of_mem_unbroken (h : c ∈ unbroken cs) : c ∈ cs := List.mem_of_mem_filter h

theorem not_disguised_of_ascii (h : c.toNat < 0x80) : disguisedDelimiters.has c = false := by
  have hnone : coversNone disguisedDelimiters.ranges 0 0x7F = true := by decide
  exact not_covers_of_coversNone hnone (by omega) (by omega)

theorem plain_of_isAlphanum (h : c.isAlphanum = true) :
    c.toNat < 0x80 ∧ c ∉ "/?#@\t\r\n".toList ∧ c ∉ ":%[]".toList := by
  refine ⟨?_, ?_, ?_⟩
  · simp only [Char.isAlphanum, Char.isAlpha, Char.isUpper, Char.isLower, Char.isDigit, Bool.or_eq_true,
      Bool.and_eq_true, decide_eq_true_eq, UInt32.le_iff_toNat_le, ge_iff_le] at h
    have hz : 'z'.val.toNat < 0x80 ∧ 'Z'.val.toNat < 0x80 ∧ '9'.val.toNat < 0x80 := by decide
    show c.val.toNat < 0x80
    omega
  · intro hmem
    simp at hmem
    rcases hmem with rfl | rfl | rfl | rfl | rfl | rfl | rfl <;> exact absurd h (by decide)
  · intro hmem
    simp at hmem
    rcases hmem with rfl | rfl | rfl | rfl <;> exact absurd h (by decide)

theorem isBare_of_isAlphanum {host : List Char}
    (h : ∀ c ∈ host, c.isAlphanum = true ∨ c = '.' ∨ c = ':') : IsBare host := by
  intro c hc
  rcases h c hc with hc | rfl | rfl
  · exact ⟨(plain_of_isAlphanum hc).1, (plain_of_isAlphanum hc).2.1⟩
  · exact ⟨by decide, by decide⟩
  · exact ⟨by decide, by decide⟩

theorem exists_range_of_covers {ranges : List (ℕ × ℕ)} {n : ℕ} (h : covers ranges n = true) :
    ∃ r ∈ ranges, r.1 ≤ n ∧ n ≤ r.2 := by
  induction ranges with
  | nil => cases h
  | cons r rest ih =>
    obtain ⟨first, last⟩ := r
    rw [covers] at h
    split_ifs at h with hfirst hlast
    · exact ⟨_, List.mem_cons_self, by omega, hlast⟩
    · obtain ⟨r, hmem, hr⟩ := ih h
      exact ⟨r, List.mem_cons_of_mem _ hmem, hr⟩

theorem not_disguised_of_isDecimal (h : isDecimal c = true) : disguisedDelimiters.has c = false := by
  have hnone : ∀ r ∈ decimalDigits.ranges, coversNone disguisedDelimiters.ranges r.1 r.2 = true := by
    decide +kernel
  obtain ⟨r, hmem, hfirst, hlast⟩ := exists_range_of_covers h
  exact not_covers_of_coversNone (hnone r hmem) hfirst hlast

theorem notMem_of_isDecimal (h : isDecimal c = true) : c ∉ "/?#[]@:\t\r\n".toList := by
  intro hmem
  simp at hmem
  rcases hmem with rfl | rfl | rfl | rfl | rfl | rfl | rfl | rfl | rfl | rfl <;>
    exact absurd h (by decide)

/-! ### Cutting a web address -/

theorem isAlpha_of_toLower (h : c.toLower.isAlpha = true) : c.isAlpha = true := by
  unfold Char.toLower at h
  split_ifs at h with hupper
  · have : c.isUpper = true := by
      simp only [Char.isUpper, decide_eq_true_eq]
      exact hupper
    simp [Char.isAlpha, this]
  · exact h

theorem splitAuthority_append {authority tail : List Char}
    (ha : ∀ c ∈ authority, c ∉ "/?#".toList) (ht : ∀ c ∈ tail.head?, c ∈ "/?#".toList) :
    splitAuthority ('/' :: '/' :: (authority ++ tail)) = (authority, tail) := by
  have hinside : ∀ c ∈ authority, (c != '/' && c != '?' && c != '#') = true := by
    intro c hc
    have := ha c hc
    simp at this
    simp [this]
  rw [splitAuthority, List.takeWhile_append_of_pos hinside, List.dropWhile_append_of_pos hinside]
  cases tail with
  | nil => simp
  | cons c rest =>
    have hc := ht c rfl
    simp at hc
    have hstop : (c != '/' && c != '?' && c != '#') = false := by
      rcases hc with rfl | rfl | rfl <;> decide
    simp [hstop]

namespace Decoration

variable (d : Decoration) {host : List Char}

theorem isAlpha_of_mem_scheme (h : c ∈ d.scheme) : c.isAlpha = true := by
  have hletters : "http".toList.all Char.isAlpha = true ∧ "https".toList.all Char.isAlpha = true := by
    decide
  have hlower : c.toLower ∈ d.scheme.map Char.toLower := List.mem_map_of_mem h
  apply isAlpha_of_toLower
  rcases d.web with hweb | hweb
  · exact List.all_eq_true.mp hletters.1 _ (hweb ▸ hlower)
  · exact List.all_eq_true.mp hletters.2 _ (hweb ▸ hlower)

theorem scheme_ne_nil : d.scheme ≠ [] := by
  intro h
  have := d.web
  simp [h] at this

theorem clean_url : clean (d.url host).toList =
    d.scheme ++ ':' :: '/' :: '/' :: (unbroken (d.authority host) ++ unbroken d.tail) := by
  have hvisible : ∀ x ∈ d.scheme, ¬ x.toNat ≤ 0x20 := by
    intro x hx hle
    have hletter := d.isAlpha_of_mem_scheme hx
    simp [Char.isAlpha, Char.isUpper, Char.isLower, UInt32.le_iff_toNat_le] at hletter
    have : x.val.toNat = x.toNat := rfl
    omega
  have hscheme : unbroken d.scheme = d.scheme := by
    apply unbroken_of_notMem
    intro x hx hbreak
    apply hvisible x hx
    simp at hbreak
    rcases hbreak with rfl | rfl | rfl <;> decide
  obtain ⟨c, rest, hcons⟩ := List.exists_cons_of_ne_nil d.scheme_ne_nil
  have hfirst : ¬ c.toNat ≤ 0x20 := hvisible c (hcons ▸ List.mem_cons_self)
  have hslashes : unbroken "://".toList = [':', '/', '/'] := by rfl
  have hkept : clean (d.url host).toList = unbroken (d.url host).toList := by
    simp [clean, unbroken, url, hcons, hfirst]
  rw [hkept, url, String.toList_ofList]
  simp only [unbroken_append, hscheme, hslashes]
  simp

theorem splitScheme_clean : splitScheme (clean (d.url host).toList) =
    (d.scheme.map Char.toLower,
      '/' :: '/' :: (unbroken (d.authority host) ++ unbroken d.tail)) := by
  have hletter : ∀ x ∈ d.scheme, x.isAlpha = true := fun x hx => d.isAlpha_of_mem_scheme hx
  have hcolon : ':' ∉ d.scheme := fun hmem => absurd (hletter ':' hmem) (by decide)
  obtain ⟨c, rest, hcons⟩ := List.exists_cons_of_ne_nil d.scheme_ne_nil
  rw [hcons] at hletter hcolon
  have hall : rest.all isSchemeChar = true := by
    rw [List.all_eq_true]
    intro x hx
    simp [isSchemeChar, Char.isAlphanum, hletter x (List.mem_cons_of_mem _ hx)]
  rw [clean_url, splitScheme, hcons, cut_append hcolon]
  simp [hall, hletter c List.mem_cons_self]

theorem of_mem_infoChars (h : c ∈ infoChars d.userInfo) :
    c ∉ "/?#[]".toList ∧ disguisedDelimiters.has c = false := by
  cases hinfo : d.userInfo with
  | none => simp [hinfo, infoChars] at h
  | some info =>
    rw [hinfo, infoChars, List.mem_append, List.mem_singleton] at h
    rcases h with h | rfl
    · have hplain := d.plainInfo info hinfo c h
      exact ⟨hplain.2, not_disguised_of_ascii hplain.1⟩
    · exact ⟨by decide, not_disguised_of_ascii (by decide)⟩

theorem of_mem_portChars (h : c ∈ portChars d.port) :
    c ∉ "/?#[]@\t\r\n".toList ∧ disguisedDelimiters.has c = false := by
  cases hport : d.port with
  | none => simp [hport, portChars] at h
  | some p =>
    rw [hport, portChars, List.mem_cons] at h
    rcases h with rfl | h
    · exact ⟨by decide, not_disguised_of_ascii (by decide)⟩
    · have hdigit := d.digits p hport c h
      have hmarks := notMem_of_isDecimal hdigit
      refine ⟨?_, not_disguised_of_isDecimal hdigit⟩
      simp at hmarks ⊢
      tauto

theorem mem_authority :
    c ∈ d.authority host ↔ c ∈ infoChars d.userInfo ∨ c ∈ host ∨ c ∈ portChars d.port := by
  simp [authority]

theorem of_mem_authority (hbare : IsBare host) (h : c ∈ d.authority host) :
    c ∉ "/?#".toList ∧ disguisedDelimiters.has c = false := by
  rcases d.mem_authority.mp h with h | h | h
  · have hinfo := d.of_mem_infoChars h
    simp at hinfo ⊢
    tauto
  · refine ⟨?_, not_disguised_of_ascii (hbare c h).1⟩
    have hhost := (hbare c h).2
    simp at hhost ⊢
    tauto
  · have hport := d.of_mem_portChars h
    simp at hport ⊢
    tauto

theorem splitAuthority_url (hbare : IsBare host) :
    splitAuthority ('/' :: '/' :: (unbroken (d.authority host) ++ unbroken d.tail)) =
      (unbroken (d.authority host), unbroken d.tail) := by
  apply splitAuthority_append
  · exact fun c hc => (d.of_mem_authority hbare (mem_of_mem_unbroken hc)).1
  · cases htail : d.tail with
    | nil => simp [unbroken]
    | cons c rest =>
      have hc : c ∈ "/?#".toList := d.ends c (by simp [htail])
      have hkept : unbroken (c :: rest) = c :: unbroken rest := by
        simp at hc
        rcases hc with rfl | rfl | rfl <;> rfl
      rw [hkept]
      intro x hx
      obtain rfl : c = x := by simpa using hx
      exact hc

theorem unbroken_authority (hbare : IsBare host) : unbroken (d.authority host) =
    infoChars (d.userInfo.map unbroken) ++ (host ++ portChars d.port) := by
  have hkept : unbroken (host ++ portChars d.port) = host ++ portChars d.port := by
    apply unbroken_of_notMem
    intro c hc
    rcases List.mem_append.mp hc with hc | hc
    · have hhost := (hbare c hc).2
      simp at hhost ⊢
      tauto
    · have hport := (d.of_mem_portChars hc).1
      simp at hport ⊢
      tauto
  rw [authority, unbroken_append, hkept]
  cases d.userInfo with
  | none => rfl
  | some info =>
    rw [infoChars, unbroken_append]
    rfl

theorem afterLast_authority (hbare : IsBare host) :
    afterLast '@' (unbroken (d.authority host)) = host ++ portChars d.port := by
  have hat : '@' ∉ host ++ portChars d.port := by
    rw [List.mem_append]
    rintro (h | h)
    · exact (hbare _ h).2 (by decide)
    · exact (d.of_mem_portChars h).1 (by decide)
  rw [d.unbroken_authority hbare]
  cases d.userInfo with
  | none => exact afterLast_of_notMem hat
  | some info =>
    rw [Option.map_some, infoChars, List.append_assoc, List.singleton_append, afterLast_append hat]

theorem bracket_mem_authority (hc : c ∈ "[]".toList) :
    c ∈ unbroken (d.authority host) ↔ c ∈ host := by
  have hmarks : c = '[' ∨ c = ']' := by simpa using hc
  have hkept : c ∈ unbroken (d.authority host) ↔ c ∈ d.authority host := by
    rw [unbroken, List.mem_filter]
    rcases hmarks with rfl | rfl <;> simp
  rw [hkept, mem_authority]
  constructor
  · rintro (h | h | h)
    · have hinfo := (d.of_mem_infoChars h).1
      simp at hinfo
      tauto
    · exact h
    · have hport := (d.of_mem_portChars h).1
      simp at hport
      tauto
  · exact fun h => .inr (.inl h)

theorem isAuthority_iff (hbare : IsBare host) :
    isAuthority (unbroken (d.authority host)) = true ↔
      ('[' ∈ host ↔ ']' ∈ host) ∧
        ('[' ∈ host → bracketsFit (unbroken (d.authority host)) = true) := by
  have hdisguised : (unbroken (d.authority host)).any disguisedDelimiters.has = false := by
    rw [List.any_eq_false]
    intro c hc
    rw [(d.of_mem_authority hbare (mem_of_mem_unbroken hc)).2]
    exact Bool.false_ne_true
  have hopens : (unbroken (d.authority host)).contains '[' = decide ('[' ∈ host) := by
    rw [Bool.eq_iff_iff, List.contains_iff_mem, decide_eq_true_eq]
    exact d.bracket_mem_authority (by decide)
  have hcloses : (unbroken (d.authority host)).contains ']' = decide (']' ∈ host) := by
    rw [Bool.eq_iff_iff, List.contains_iff_mem, decide_eq_true_eq]
    exact d.bracket_mem_authority (by decide)
  simp only [isAuthority, hopens, hcloses, hdisguised]
  by_cases ho : '[' ∈ host <;> simp [ho]

/-- **Nothing but the host decides** whether an address is refused. -/
theorem refusal?_url {shown : List Char} (hbare : IsBare host)
    (hfits : isAuthority (unbroken (d.authority host)) = true)
    (hshown : lowerHost (hostChars (unbroken (d.authority host))) = shown) (hne : shown ≠ []) :
    refusal? (d.url host) =
      if isLocalAddress (String.ofList shown) then some .localAddress else none := by
  have hparsed : parse? (d.url host) = some ⟨d.scheme.map Char.toLower, unbroken (d.authority host),
      pathOf (d.scheme.map Char.toLower) (unbroken d.tail)⟩ := by
    rw [parse?, splitScheme_clean]
    dsimp only
    rw [d.splitAuthority_url hbare]
    dsimp only
    rw [if_pos hfits]
  have hweb : d.scheme.map Char.toLower ∈ webSchemes := by
    rcases d.web with h | h <;> rw [h] <;> simp [webSchemes]
  have hscheme : (d.scheme.map Char.toLower).isEmpty = false := by
    rw [List.isEmpty_eq_false_iff, ne_eq, List.map_eq_nil_iff]
    exact d.scheme_ne_nil
  have hhost : host? ⟨d.scheme.map Char.toLower, unbroken (d.authority host),
      pathOf (d.scheme.map Char.toLower) (unbroken d.tail)⟩ = some (String.ofList shown) := by
    rw [host?, hshown]
    cases shown with
    | nil => exact absurd rfl hne
    | cons c rest => rfl
  simp [refusal?, hparsed, hhost, hscheme, hweb]

theorem lowerHost_of_plain {cs : List Char} (h : ∀ c ∈ cs, c.toNat < 0x80) (hzone : '%' ∉ cs) :
    lowerHost cs = cs.map Char.toLower := by
  rw [lowerHost, cut_of_notMem hzone]
  exact lower_of_ascii h

theorem refusal?_name (hbare : IsBare host) (hplain : ∀ c ∈ host, c ∉ ":%[]".toList)
    (hne : host ≠ []) :
    refusal? (d.url host) =
      if isLocalAddress (String.ofList (host.map Char.toLower)) then some .localAddress else none := by
  have hopens : '[' ∉ host := fun h => hplain _ h (by decide)
  have hcloses : ']' ∉ host := fun h => hplain _ h (by decide)
  have hcolon : ':' ∉ host := fun h => hplain _ h (by decide)
  have hchars : hostChars (unbroken (d.authority host)) = host := by
    have hinside : '[' ∉ host ++ portChars d.port := by
      rw [List.mem_append]
      rintro (h | h)
      · exact hopens h
      · exact (d.of_mem_portChars h).1 (by decide)
    rw [hostChars, d.afterLast_authority hbare, cut_of_notMem hinside]
    cases d.port with
    | none => rw [portChars, List.append_nil, cut_of_notMem hcolon]
    | some p => rw [portChars, cut_append hcolon]
  apply d.refusal?_url hbare
  · rw [d.isAuthority_iff hbare]
    exact ⟨by simp [hopens, hcloses], fun h => absurd h hopens⟩
  · rw [hchars]
    exact lowerHost_of_plain (fun c hc => (hbare c hc).1) fun h => hplain _ h (by decide)
  · simpa using hne

theorem refusal?_inBrackets {form : List Char} (hbare : IsBare form)
    (hplain : ∀ c ∈ form, c ∉ "%[]".toList) (hfits : isBracketable form = true) :
    refusal? (d.url (inBrackets form)) =
      if isLocalAddress (String.ofList (form.map Char.toLower)) then some .localAddress else none := by
  have hcloses : ']' ∉ form := fun h => hplain _ h (by decide)
  have hne : form ≠ [] := by
    rintro rfl
    exact absurd hfits (by decide)
  have hhost : IsBare (inBrackets form) := by
    intro c hc
    rw [inBrackets, List.mem_append, List.mem_cons, List.mem_singleton] at hc
    rcases hc with (rfl | hc) | rfl
    · exact ⟨by decide, by decide⟩
    · exact hbare c hc
    · exact ⟨by decide, by decide⟩
  have hlast : afterLast '@' (unbroken (d.authority (inBrackets form))) =
      '[' :: (form ++ ']' :: portChars d.port) := by
    rw [d.afterLast_authority hhost, inBrackets]
    simp
  have hcut : cut '[' ('[' :: (form ++ ']' :: portChars d.port)) =
      ([], some (form ++ ']' :: portChars d.port)) := by simp [cut]
  have hchars : hostChars (unbroken (d.authority (inBrackets form))) = form := by
    rw [hostChars, hlast, hcut]
    dsimp only
    rw [cut_append hcloses]
  apply d.refusal?_url hhost
  · rw [d.isAuthority_iff hhost]
    refine ⟨by simp [inBrackets], fun _ => ?_⟩
    rw [bracketsFit, hlast, hcut]
    dsimp only
    rw [cut_append hcloses]
    cases d.port <;> simp [hfits, portChars]
  · rw [hchars]
    exact lowerHost_of_plain (fun c hc => (hbare c hc).1) fun h => hplain _ h (by decide)
  · simpa using hne

end Decoration

end JsonShapes.Url
