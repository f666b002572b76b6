import JsonShapes.Proofs.Url.Ipv6
import JsonShapes.Proofs.Url.PrivateHosts

/-! # Spellings of the loopback address

The local machine has the IPv6 address 1, and the mapped addresses of its IPv4 network (`IsLoopback`). An
address in brackets is refused when it names the local machine, but it is looked at as a text: of all the
spellings of those addresses one is refused, and every other one is called
(`loopback_refused_iff_shortest`, `loopback_in_full_called`). -/

namespace JsonShapes.Url

open Text

variable {form : List Char} {ws : List ℕ} {c : Char}

/-- **An address of the local machine**: the loopback address, or one of the IPv4 network 127.0.0.0/8 in
its mapped form. -/
def IsLoopback (ws : List ℕ) : Prop :=
  ws = [0, 0, 0, 0, 0, 0, 0, 1] ∨ ∃ x y, ws = [0, 0, 0, 0, 0, 0xFFFF, x, y] ∧ x / 256 = 127

theorem IsLoopback.head (h : IsLoopback ws) : ws.head? = some 0 := by
  rcases h with rfl | ⟨x, y, rfl, -⟩
  · rfl
  · rfl

/-! ### The first part of a spelling -/

theorem Spells.exists_first {ps : List (List Char)} (h : Spells ps ws) (hlong : 2 ≤ ps.length) :
    ∃ p q rest, ps = p :: q :: rest ∧ isHextet p = true ∧ ws.head? = some (wordOf p) := by
  cases h with
  | hextets h =>
    match ps, hlong with
    | p :: q :: rest, _ => exact ⟨p, q, rest, rfl, h p List.mem_cons_self, rfl⟩
  | @quad init h q =>
    match init, hlong, h with
    | [p], _, h => exact ⟨p, q.text, [], rfl, h p List.mem_cons_self, rfl⟩
    | p :: r :: rest, _, h => exact ⟨p, r, rest ++ [q.text], rfl, h p List.mem_cons_self, rfl⟩

/-- **A spelling up to its first colon**: nothing, or the hextet of its first word. -/
theorem Form.exists_first (h : Form form ws) :
    ∃ first rest, form = first ++ ':' :: rest ∧
      (first = [] ∨ isHextet first = true ∧ ws.head? = some (wordOf first)) := by
  cases h with
  | full h hall =>
    have hlong := h.length_bounds
    obtain ⟨p, q, rest, rfl, hp, hhead⟩ := h.exists_first (by omega)
    exact ⟨p, join [':'] (q :: rest), by simp [join], .inr ⟨hp, hhead⟩⟩
  | @compressed before behind ws hbefore hbehind hgap =>
    cases before with
    | nil => exact ⟨[], ':' :: join [':'] behind, by simp [join], .inl rfl⟩
    | cons p rest =>
      have hp : isHextet p = true := hbefore p List.mem_cons_self
      cases rest with
      | nil => exact ⟨p, ':' :: join [':'] behind, by simp [join], .inr ⟨hp, rfl⟩⟩
      | cons q rest =>
        exact ⟨p, join [':'] (q :: rest) ++ "::".toList ++ join [':'] behind, by simp [join],
          .inr ⟨hp, rfl⟩⟩

/-! ### Spellings in lower case -/

theorem Form.isAscii (h : Form form ws) (hc : c ∈ form) : c.toNat < 0x80 := by
  rcases h.of_mem hc with h | rfl | rfl
  · exact (plain_of_isAlphanum (isAlphanum_of_isHexDigit h)).1
  · decide
  · decide

/-- The shortest spelling has no letters. -/
theorem map_toLower_eq_shortest_iff {cs : List Char} (hascii : ∀ c ∈ cs, c.toNat < 0x80) :
    cs.map Char.toLower = "::1".toList ↔ cs = "::1".toList := by
  constructor
  · intro h
    have hkept : ∀ c ∈ cs, c.toLower = c := by
      intro c hc
      have hlow : "::1".toList.all (fun c => decide (c.toNat < 'A'.toNat)) = true := by decide
      have hmem : c.toLower ∈ "::1".toList := h ▸ List.mem_map_of_mem hc
      have hdelimiter := of_decide_eq_true (List.all_eq_true.mp hlow _ hmem)
      exact (eq_of_toLower_eq (hascii c hc) hdelimiter rfl).symm
    rwa [List.map_congr_left hkept, List.map_id'] at h
  · rintro rfl
    decide

/-- **The case of its digits** does not change what a hextet spells. -/
theorem wordOf_map_toLower {p : List Char} (h : isHextet p = true) :
    wordOf (p.map Char.toLower) = wordOf p := by
  have hall : ∀ n < 0x80, isHexDigit (Char.ofNat n) = true →
      hexValue (Char.ofNat n).toLower = hexValue (Char.ofNat n) := by decide +kernel
  have hvalue : ∀ c ∈ p, hexValue c.toLower = hexValue c := by
    intro c hc
    have hdigit := isHexDigit_of_mem h hc
    have hascii := (plain_of_isAlphanum (isAlphanum_of_isHexDigit hdigit)).1
    exact forall_ascii (P := fun c => isHexDigit c = true → hexValue c.toLower = hexValue c) hall hascii
      hdigit
  rw [wordOf, wordOf, List.foldl_map]
  exact List.foldl_ext _ _ _ fun n c hc => by rw [hvalue c hc]

/-! ### Spellings as local addresses -/

/-- **A spelling in lower case up to its first colon**: no point, and no other word than the first. -/
theorem Form.exists_first_toLower (h : Form form ws) :
    ∃ first rest, form.map Char.toLower = first ++ ':' :: rest ∧ '.' ∉ first ∧ ':' ∉ first ∧
      (first = [] ∨ ws.head? = some (wordOf first)) := by
  obtain ⟨first, rest, hcut, hfirst⟩ := h.exists_first
  have hshown : form.map Char.toLower = first.map Char.toLower ++ ':' :: rest.map Char.toLower := by
    rw [hcut, List.map_append, List.map_cons]
    rfl
  have hnotMem : ∀ {x : Char}, isHexDigit x = false → x.toNat < 'A'.toNat → x ∉ first.map Char.toLower := by
    intro x hx hlow
    apply notMem_map_toLower (fun c hc => h.isAscii (by simp [hcut, hc])) hlow
    rcases hfirst with rfl | ⟨hhextet, -⟩
    · exact List.not_mem_nil
    · exact notMem_of_isHextet hhextet hx
  refine ⟨_, _, hshown, hnotMem (by decide) (by decide), hnotMem (by decide) (by decide), ?_⟩
  rcases hfirst with rfl | ⟨hhextet, hhead⟩
  · exact .inl rfl
  · exact .inr (by rw [hhead, wordOf_map_toLower hhextet])

/-- **Of the spellings of the loopback address one names the local machine**, as far as its text tells. -/
theorem isLocalAddress_form (hform : Form form ws) (hloop : IsLoopback ws) :
    isLocalAddress (String.ofList (form.map Char.toLower)) = true ↔ form = "::1".toList := by
  obtain ⟨first, rest, hshown, hpoint, hcolon, hfirst⟩ := hform.exists_first_toLower
  have hascii : ∀ c ∈ form, c.toNat < 0x80 := fun c hc => hform.isAscii hc
  have hline : '\n' ∉ form := hform.notMem (by decide) (by decide) (by decide)
  have hname : form.map Char.toLower ≠ "localhost".toList := by
    intro h
    have hmem : ':' ∈ form.map Char.toLower := by simp [hshown]
    rw [h] at hmem
    exact absurd hmem (by decide)
  have hprivate : ¬ ∃ p ∈ localPrefixes, p <+: form.map Char.toLower := by
    rw [hshown]
    exact not_localPrefix_of_colon hpoint
  have hlink : ¬ "fe80:".toList <+: form.map Char.toLower := by
    rw [hshown]
    rintro ⟨t, ht⟩
    have hcolons : "fe80".toList ++ ':' :: t = first ++ ':' :: rest := by simpa using ht
    obtain ⟨rfl, -⟩ := (append_mark_inj (by decide) hcolon).mp hcolons
    -- the first word of a loopback address is zero
    rcases hfirst with hnil | hhead
    · exact absurd hnil (by decide)
    · rw [hloop.head, Option.some.injEq] at hhead
      exact absurd hhead (by decide)
  simp only [isLocalAddress_toLower_iff hascii hline, hname, hprivate, hlink,
    map_toLower_eq_shortest_iff hascii, or_false, false_or]

/-! ### Addresses with a spelling as their host -/

/-- **A spelling as a host**, behind any decoration. -/
theorem Decoration.refusal?_form (d : Decoration) (hform : Form form ws) (hloop : IsLoopback ws) :
    refusal? (d.url (inBrackets form)) =
      if form = "::1".toList then some .localAddress else none := by
  have hbare : IsBare form := by
    apply isBare_of_isAlphanum
    intro c hc
    have := @isAlphanum_of_isHexDigit c
    have := hform.of_mem hc
    tauto
  have hplain : ∀ c ∈ form, c ∉ "%[]".toList := by
    intro c hc hmem
    simp at hmem
    rcases hmem with rfl | rfl | rfl <;> exact hform.notMem (by decide) (by decide) (by decide) hc
  rw [d.refusal?_inBrackets hbare hplain hform.isBracketable]
  simp only [isLocalAddress_form hform hloop]

/-- **A fetch of a URL makes its one call**, whatever comes back. -/
def Called (url : String) : Prop :=
  ∀ (codecs : Text.Codecs) (transport : Http.Call → Http.Exchange) (method : Value)
    (headers : List (Key × Value)) (body timeout : Value) (limit : Int),
    (Http.fetch codecs transport url method headers body timeout limit).calls =
      [⟨method, url, Http.withHeaders headers, body, timeout⟩]

theorem called_of_accepted {url : String} (h : refusal? url = none) : Called url :=
  fun _ _ _ _ _ _ _ => (Http.fetch_of_accepted h).1

theorem Called.not_turnedAway {url : String} {error : ApiError} (h : Called url) :
    ¬ TurnedAway url error := by
  intro haway
  have hcall := h Text.Charset.codecs (fun _ => .failure ⟨.timeout, ""⟩) .null [] .null .null 0
  rw [(haway _ _ _ _ _ _ _).2] at hcall
  cases hcall

/-- A web address without a user and a port. -/
def plainly : Decoration where
  scheme := "http".toList
  userInfo := none
  port := none
  tail := "/".toList
  web := .inl (by decide)
  plainInfo := by simp
  digits := by simp
  ends := ends_of_slash []

theorem form_shortest : Form "::1".toList [0, 0, 0, 0, 0, 0, 0, 1] :=
  @Form.compressed [] ["1".toList] _ (by simp) (.hextets (by decide)) (by decide)

theorem form_in_full : Form "0:0:0:0:0:0:0:1".toList [0, 0, 0, 0, 0, 0, 0, 1] :=
  @Form.full (List.replicate 7 "0".toList ++ ["1".toList]) _ (.hextets (by decide)) (by decide)

theorem form_mapped : Form "::FFFF:127.0.0.1".toList [0, 0, 0, 0, 0, 0xFFFF, 0x7F00, 1] :=
  @Form.compressed [] (["FFFF".toList] ++ [Quad.text ⟨127, 0, 0, 1⟩]) _ (by simp)
    (.quad (by decide) ⟨127, 0, 0, 1⟩) (by decide)

/-- **The shortest spelling of the loopback address is refused, and no other**: every other spelling of it
and every spelling of a mapped address is called, whatever stands around it. -/
theorem loopback_refused_iff_shortest (d : Decoration) {form : List Char} {ws : List ℕ}
    (hform : Form form ws) (hloop : IsLoopback ws) :
    (TurnedAway (d.url (inBrackets form)) Refusal.localAddress.error ↔ form = "::1".toList) ∧
      (form ≠ "::1".toList → Called (d.url (inBrackets form))) := by
  have hrefusal := d.refusal?_form hform hloop
  have hcalled : form ≠ "::1".toList → Called (d.url (inBrackets form)) := by
    intro h
    rw [if_neg h] at hrefusal
    exact called_of_accepted hrefusal
  refine ⟨⟨fun haway => ?_, fun h => ?_⟩, hcalled⟩
  · by_contra h
    exact (hcalled h).not_turnedAway haway
  · rw [if_pos h] at hrefusal
    exact turnedAway_of_refusal hrefusal

/-- The shortest spelling is turned away, and the mapped address with a quad is called. -/
theorem mapped_loopback_called :
    TurnedAway "http://[::1]/" Refusal.localAddress.error ∧ Called "http://[::FFFF:127.0.0.1]/" :=
  ⟨(loopback_refused_iff_shortest plainly form_shortest (.inl rfl)).1.mpr rfl,
    (loopback_refused_iff_shortest plainly form_mapped (.inr ⟨0x7F00, 1, rfl, by decide⟩)).2 (by decide)⟩

/-- The loopback address in full is called. -/
theorem loopback_in_full_called :
    Form "0:0:0:0:0:0:0:1".toList [0, 0, 0, 0, 0, 0, 0, 1] ∧ IsLoopback [0, 0, 0, 0, 0, 0, 0, 1] ∧
      ¬ TurnedAway "http://[0:0:0:0:0:0:0:1]/" Refusal.localAddress.error := by
  refine ⟨form_in_full, .inl rfl, ?_⟩
  have hrefusal := plainly.refusal?_form form_in_full (.inl rfl)
  rw [if_neg (by decide)] at hrefusal
  exact (called_of_accepted hrefusal).not_turnedAway

end JsonShapes.Url
