import JsonShapes.DateText
import JsonShapes.Proofs.Text.CharSet

/-! # The language of date-time texts

A date-time text is written in parts (`Parts`): six numerals of fixed widths with marks between them, then
perhaps a point and three more digits, then perhaps `Z`. The recogniser accepts exactly these texts, when
the numerals are in ASCII digits and name a day of the calendar and a time of day (`IsDateTime`).

The same language comes out of two looser steps (`isDateText_iff`): a pattern that takes decimal digits of
any script and a line feed at the end (`FitsPattern`), and a reader of date-times that knows `Z` only
spelled out as an offset (`IsRead`). What the pattern lets through in excess the reader refuses, and what
the reader takes in excess no pattern text spells. -/

namespace JsonShapes.DateText

open Text (isDecimal)

/-! ### Days and times -/

/-- **Numbers that name a moment**: a day of the Gregorian calendar in the years 1 to 9999, and a time of
day. -/
structure Fields.IsProper (f : Fields) : Prop where
  year : 1 ≤ f.year ∧ f.year ≤ 9999
  month : 1 ≤ f.month ∧ f.month ≤ 12
  day : 1 ≤ f.day ∧ f.day ≤ 31
  short : f.month ∈ [4, 6, 9, 11] → f.day ≤ 30
  february : f.month = 2 → f.day ≤ 29
  leap : f.month = 2 → f.day = 29 → 4 ∣ f.year ∧ (100 ∣ f.year → 400 ∣ f.year)
  hour : f.hour ≤ 23
  minute : f.minute ≤ 59
  second : f.second ≤ 59

theorem isLeapYear_eq_true_iff {year : ℕ} :
    isLeapYear year = true ↔ 4 ∣ year ∧ (100 ∣ year → 400 ∣ year) := by
  simp only [isLeapYear, Bool.and_eq_true, Bool.or_eq_true, beq_iff_eq, bne_iff_ne,
    ← Nat.dvd_iff_mod_eq_zero, ne_eq, ← imp_iff_not_or]

theorem le_daysInMonth_iff {year month day : ℕ} : day ≤ daysInMonth year month ↔
    day ≤ 31 ∧ (month ∈ [4, 6, 9, 11] → day ≤ 30) ∧ (month = 2 → day ≤ 29) ∧
      (month = 2 → day = 29 → 4 ∣ year ∧ (100 ∣ year → 400 ∣ year)) := by
  rw [← isLeapYear_eq_true_iff]
  by_cases hfebruary : month = 2
  · subst hfebruary
    cases hleap : isLeapYear year <;> simp [daysInMonth, hleap] <;> omega
  by_cases hshort : month ∈ [4, 6, 9, 11]
  · have hlength : daysInMonth year month = 30 := by
      simp only [List.mem_cons, List.not_mem_nil, or_false] at hshort
      rcases hshort with rfl | rfl | rfl | rfl <;> rfl
    simp only [hlength, hshort, hfebruary, true_implies, false_implies, and_true]
    omega
  · have hlength : daysInMonth year month = 31 := by
      simp only [List.mem_cons, List.not_mem_nil, or_false, not_or] at hshort
      simp [daysInMonth, hshort]
    simp only [hlength, hshort, hfebruary, false_implies, and_true]

theorem Fields.isValid_iff {f : Fields} : f.isValid = true ↔ f.IsProper := by
  simp only [isValid, isDay, Bool.and_eq_true, decide_eq_true_eq, le_daysInMonth_iff]
  constructor
  · rintro ⟨⟨⟨⟨⟨⟨⟨⟨hfirst, hlast⟩, hlow⟩, hhigh⟩, hpos⟩, hday, hshort, hfebruary, hleap⟩, hhour⟩,
      hminute⟩, hsecond⟩
    exact ⟨⟨hfirst, hlast⟩, ⟨hlow, hhigh⟩, ⟨hpos, hday⟩, hshort, hfebruary, hleap, by omega, by omega,
      by omega⟩
  · intro h
    have hhour := h.hour
    have hminute := h.minute
    have hsecond := h.second
    exact ⟨⟨⟨⟨⟨⟨⟨h.year, h.month.1⟩, h.month.2⟩, h.day.1⟩, h.day.2, h.short, h.february, h.leap⟩,
      by omega⟩, by omega⟩, by omega⟩

/-! ### Parts -/

/-- Exactly `width` characters of a class. -/
def IsRun (digit : Char → Bool) (width : ℕ) (ds : List Char) : Prop :=
  ds.length = width ∧ ∀ c ∈ ds, digit c = true

/-- **The parts of a date-time**: its numerals, and its decimals with their point. -/
structure Parts where
  year : List Char
  month : List Char
  day : List Char
  hour : List Char
  minute : List Char
  second : List Char
  decimals : List Char

namespace Parts

/-- The parts with the marks between them, and what follows. -/
def text (p : Parts) (rest : List Char) : List Char :=
  p.year ++ '-' :: (p.month ++ '-' :: (p.day ++ 'T' :: (p.hour ++ ':' :: (p.minute ++ ':' ::
    (p.second ++ (p.decimals ++ rest))))))

/-- **The widths of the parts**, `YYYY-MM-DDThh:mm:ss` and perhaps a point and three more digits. -/
structure Fill (digit : Char → Bool) (p : Parts) : Prop where
  year : IsRun digit 4 p.year
  month : IsRun digit 2 p.month
  day : IsRun digit 2 p.day
  hour : IsRun digit 2 p.hour
  minute : IsRun digit 2 p.minute
  second : IsRun digit 2 p.second
  decimals : p.decimals = [] ∨ ∃ ds, IsRun digit 3 ds ∧ p.decimals = '.' :: ds

/-- The numbers that the numerals write. -/
def fields (p : Parts) : Fields where
  year := Nat.ofDigitChars 10 p.year 0
  month := Nat.ofDigitChars 10 p.month 0
  day := Nat.ofDigitChars 10 p.day 0
  hour := Nat.ofDigitChars 10 p.hour 0
  minute := Nat.ofDigitChars 10 p.minute 0
  second := Nat.ofDigitChars 10 p.second 0

end Parts

/-- **A date-time text**: ASCII digits that name a day of the calendar and a time of that day, and perhaps
one `Z` behind them. -/
def IsDateTime (cs : List Char) : Prop :=
  ∃ p : Parts, p.Fill Char.isDigit ∧ p.fields.IsProper ∧ ∃ zulu ∈ [[], ['Z']], cs = p.text zulu

/-- **The pattern**: decimal digits of any script, and perhaps a line feed at the end. -/
def FitsPattern (cs : List Char) : Prop :=
  ∃ p : Parts, p.Fill isDecimal ∧ ∃ zulu ∈ [[], ['Z']], ∃ final ∈ [[], ['\n']], cs = p.text (zulu ++ final)

/-- The text with the offset of universal time in the place of every `Z`. -/
def spelledOut (cs : List Char) : List Char :=
  cs.flatMap fun c => if c = 'Z' then ['+', '0', '0', ':', '0', '0'] else [c]

/-- **What the reader of date-times takes**, of texts with these parts: ASCII digits that name a day and a
time, without an offset or with that of universal time, and nothing behind them. -/
def IsRead (cs : List Char) : Prop :=
  ∃ p : Parts, p.Fill Char.isDigit ∧ p.fields.IsProper ∧
    ∃ zone ∈ [[], ['+', '0', '0', ':', '0', '0']], cs = p.text zone

/-! ### The recogniser -/

theorem isRun_cons_iff {digit : Char → Bool} {n : ℕ} {c : Char} {ds : List Char} :
    IsRun digit (n + 1) (c :: ds) ↔ digit c = true ∧ IsRun digit n ds := by
  simp only [IsRun, List.length_cons, Nat.succ.injEq, List.forall_mem_cons]
  tauto

theorem digits?_eq_some_iff {n v : ℕ} {cs rest : List Char} : digits? n cs = some (v, rest) ↔
    ∃ ds, IsRun Char.isDigit n ds ∧ Nat.ofDigitChars 10 ds 0 = v ∧ cs = ds ++ rest := by
  induction n generalizing v cs with
  | zero =>
    constructor
    · intro h
      cases h
      exact ⟨[], ⟨rfl, List.forall_mem_nil _⟩, rfl, rfl⟩
    · rintro ⟨ds, ⟨hlength, -⟩, rfl, rfl⟩
      obtain rfl := List.length_eq_zero_iff.mp hlength
      rfl
  | succ n ih =>
    have hvalue : ∀ (c : Char) (ds : List Char), ds.length = n →
        Nat.ofDigitChars 10 (c :: ds) 0 = (c.toNat - 0x30) * Nat.pow 10 n + Nat.ofDigitChars 10 ds 0 := by
      intro c ds hlength
      rw [Nat.ofDigitChars_cons, Nat.ofDigitChars_eq_ofDigitChars_zero, hlength, Nat.mul_zero,
        Nat.zero_add, Nat.mul_comm]
      rfl
    constructor
    · intro h
      cases cs with
      | nil => cases h
      | cons c cs =>
        rw [digits?] at h
        split_ifs at h with hc
        obtain ⟨⟨v', rest'⟩, hv, heq⟩ := Option.map_eq_some_iff.mp h
        cases heq
        obtain ⟨ds, hds, rfl, rfl⟩ := ih.mp hv
        exact ⟨c :: ds, isRun_cons_iff.mpr ⟨hc, hds⟩, hvalue c ds hds.1, rfl⟩
    · rintro ⟨ds, hds, rfl, rfl⟩
      cases ds with
      | nil => cases hds.1
      | cons c ds =>
        obtain ⟨hc, hds⟩ := isRun_cons_iff.mp hds
        rw [List.cons_append, digits?, if_pos hc, ih.mpr ⟨ds, hds, rfl, rfl⟩, hvalue c ds hds.1]
        rfl

theorem mark?_eq_some_iff {c : Char} {cs rest : List Char} : mark? c cs = some rest ↔ cs = c :: rest := by
  cases cs with
  | nil => simp [mark?]
  | cons d cs =>
    simp only [mark?, beq_iff_eq, List.cons.injEq]
    split_ifs with h <;> simp [h]

theorem skipDecimals_eq_iff {cs rest : List Char} (h : rest ∈ [[], ['Z']]) : skipDecimals cs = rest ↔
    ∃ decimals, (decimals = [] ∨ ∃ ds, IsRun Char.isDigit 3 ds ∧ decimals = '.' :: ds) ∧
      cs = decimals ++ rest := by
  constructor
  · rintro rfl
    unfold skipDecimals
    split
    · rename_i behind hmark
      split
      · rename_i v rest hdigits
        obtain ⟨ds, hds, -, rfl⟩ := digits?_eq_some_iff.mp hdigits
        exact ⟨'.' :: ds, .inr ⟨ds, hds, rfl⟩, mark?_eq_some_iff.mp hmark⟩
      · exact ⟨[], .inl rfl, rfl⟩
    · exact ⟨[], .inl rfl, rfl⟩
  · rintro ⟨decimals, rfl | ⟨ds, hds, rfl⟩, rfl⟩
    · simp only [List.mem_cons, List.not_mem_nil, or_false] at h
      rcases h with rfl | rfl <;> rfl
    · have hdigits : digits? 3 (ds ++ rest) = some (Nat.ofDigitChars 10 ds 0, rest) :=
        digits?_eq_some_iff.mpr ⟨ds, hds, rfl, rfl⟩
      rw [skipDecimals, List.cons_append, mark?_eq_some_iff.mpr rfl]
      dsimp only
      rw [hdigits]

section Bind
variable {α : Type} {a : α}

theorem digits?_bind_eq_some_iff {n : ℕ} {cs : List Char} {g : ℕ × List Char → Option α} :
    digits? n cs >>= g = some a ↔ ∃ ds rest, IsRun Char.isDigit n ds ∧ cs = ds ++ rest ∧
      g (Nat.ofDigitChars 10 ds 0, rest) = some a := by
  constructor
  · intro h
    obtain ⟨⟨v, rest⟩, hv, h⟩ := Option.bind_eq_some_iff.mp h
    obtain ⟨ds, hds, rfl, hcs⟩ := digits?_eq_some_iff.mp hv
    exact ⟨ds, rest, hds, hcs, h⟩
  · rintro ⟨ds, rest, hds, hcs, h⟩
    exact Option.bind_eq_some_iff.mpr ⟨_, digits?_eq_some_iff.mpr ⟨ds, hds, rfl, hcs⟩, h⟩

theorem mark?_bind_eq_some_iff {c : Char} {cs : List Char} {g : List Char → Option α} :
    mark? c cs >>= g = some a ↔ ∃ rest, cs = c :: rest ∧ g rest = some a := by
  refine Option.bind_eq_some_iff.trans (exists_congr fun rest => ?_)
  rw [mark?_eq_some_iff]

end Bind

theorem ends_iff {rest : List Char} :
    (rest.isEmpty || rest == ['Z']) = true ↔ rest ∈ [[], ['Z']] := by
  simp

/-- **The fields of a text** are those that its parts write. -/
theorem fields?_eq_some_iff {cs : List Char} {f : Fields} : fields? cs = some f ↔
    ∃ p : Parts, p.Fill Char.isDigit ∧ p.fields = f ∧ ∃ zulu ∈ [[], ['Z']], cs = p.text zulu := by
  constructor
  · intro h₀
    obtain ⟨year, cs, hyear, rfl, h₁⟩ := digits?_bind_eq_some_iff.mp h₀
    obtain ⟨cs, rfl, h₂⟩ := mark?_bind_eq_some_iff.mp h₁
    obtain ⟨month, cs, hmonth, rfl, h₃⟩ := digits?_bind_eq_some_iff.mp h₂
    obtain ⟨cs, rfl, h₄⟩ := mark?_bind_eq_some_iff.mp h₃
    obtain ⟨day, cs, hday, rfl, h₅⟩ := digits?_bind_eq_some_iff.mp h₄
    obtain ⟨cs, rfl, h₆⟩ := mark?_bind_eq_some_iff.mp h₅
    obtain ⟨hour, cs, hhour, rfl, h₇⟩ := digits?_bind_eq_some_iff.mp h₆
    obtain ⟨cs, rfl, h₈⟩ := mark?_bind_eq_some_iff.mp h₇
    obtain ⟨minute, cs, hminute, rfl, h₉⟩ := digits?_bind_eq_some_iff.mp h₈
    obtain ⟨cs, rfl, h₁₀⟩ := mark?_bind_eq_some_iff.mp h₉
    obtain ⟨second, cs, hsecond, rfl, h₁₁⟩ := digits?_bind_eq_some_iff.mp h₁₀
    dsimp only at h₁₁
    split_ifs at h₁₁ with hends
    obtain ⟨decimals, hdecimals, hcs⟩ := (skipDecimals_eq_iff (ends_iff.mp hends)).mp rfl
    cases h₁₁
    exact ⟨⟨year, month, day, hour, minute, second, decimals⟩,
      ⟨hyear, hmonth, hday, hhour, hminute, hsecond, hdecimals⟩, rfl, _, ends_iff.mp hends,
      by rw [Parts.text, ← hcs]⟩
  · rintro ⟨p, hp, rfl, zulu, hzulu, rfl⟩
    have hskip : skipDecimals (p.decimals ++ zulu) = zulu :=
      (skipDecimals_eq_iff hzulu).mpr ⟨p.decimals, hp.decimals, rfl⟩
    refine digits?_bind_eq_some_iff.mpr ⟨p.year, _, hp.year, rfl, ?_⟩
    refine mark?_bind_eq_some_iff.mpr ⟨_, rfl, ?_⟩
    refine digits?_bind_eq_some_iff.mpr ⟨p.month, _, hp.month, rfl, ?_⟩
    refine mark?_bind_eq_some_iff.mpr ⟨_, rfl, ?_⟩
    refine digits?_bind_eq_some_iff.mpr ⟨p.day, _, hp.day, rfl, ?_⟩
    refine mark?_bind_eq_some_iff.mpr ⟨_, rfl, ?_⟩
    refine digits?_bind_eq_some_iff.mpr ⟨p.hour, _, hp.hour, rfl, ?_⟩
    refine mark?_bind_eq_some_iff.mpr ⟨_, rfl, ?_⟩
    refine digits?_bind_eq_some_iff.mpr ⟨p.minute, _, hp.minute, rfl, ?_⟩
    refine mark?_bind_eq_some_iff.mpr ⟨_, rfl, ?_⟩
    refine digits?_bind_eq_some_iff.mpr ⟨p.second, _, hp.second, rfl, ?_⟩
    dsimp only
    rw [hskip, if_pos (ends_iff.mpr hzulu)]
    rfl

theorem isDateText_eq_true_iff (s : String) : isDateText s = true ↔ IsDateTime s.toList := by
  unfold isDateText IsDateTime
  constructor
  · intro h
    split at h
    · rename_i f hf
      obtain ⟨p, hp, rfl, hzulu⟩ := fields?_eq_some_iff.mp hf
      exact ⟨p, hp, Fields.isValid_iff.mp h, hzulu⟩
    · cases h
  · rintro ⟨p, hp, hproper, hzulu⟩
    rw [fields?_eq_some_iff.mpr ⟨p, hp, rfl, hzulu⟩]
    exact Fields.isValid_iff.mpr hproper

/-! ### The pattern and the reader -/

theorem IsRun.mono {digit digit' : Char → Bool} (h : ∀ c, digit c = true → digit' c = true) {n : ℕ}
    {ds : List Char} (hds : IsRun digit n ds) : IsRun digit' n ds :=
  ⟨hds.1, fun c hc => h c (hds.2 c hc)⟩

theorem Parts.Fill.mono {digit digit' : Char → Bool} (h : ∀ c, digit c = true → digit' c = true)
    {p : Parts} (hp : p.Fill digit) : p.Fill digit' :=
  ⟨hp.year.mono h, hp.month.mono h, hp.day.mono h, hp.hour.mono h, hp.minute.mono h, hp.second.mono h,
    hp.decimals.imp_right fun ⟨ds, hds, heq⟩ => ⟨ds, hds.mono h, heq⟩⟩

/-- Decimals are told from what follows them, unless that starts with a point. -/
theorem decimals_append_inj {digit digit' : Char → Bool} {a b s t : List Char}
    (ha : a = [] ∨ ∃ ds, IsRun digit 3 ds ∧ a = '.' :: ds)
    (hb : b = [] ∨ ∃ ds, IsRun digit' 3 ds ∧ b = '.' :: ds) (hs : s.head? ≠ some '.')
    (ht : t.head? ≠ some '.') (h : a ++ s = b ++ t) : a = b ∧ s = t := by
  rcases ha with rfl | ⟨ds, hds, rfl⟩ <;> rcases hb with rfl | ⟨ds', hds', rfl⟩
  · exact ⟨rfl, h⟩
  · rw [List.nil_append] at h
    exact absurd (by rw [h]; rfl) hs
  · rw [List.nil_append] at h
    exact absurd (by rw [← h]; rfl) ht
  · exact List.append_inj h (by rw [List.length_cons, List.length_cons, hds.1, hds'.1])

/-- **A text tells its parts**, by their widths. -/
theorem Parts.text_inj {digit digit' : Char → Bool} {p p' : Parts} (hp : p.Fill digit)
    (hp' : p'.Fill digit') {s t : List Char} (hs : s.head? ≠ some '.') (ht : t.head? ≠ some '.')
    (h : p.text s = p'.text t) : p = p' ∧ s = t := by
  obtain ⟨y, mo, d, ho, mi, se, de⟩ := p
  obtain ⟨y', mo', d', ho', mi', se', de'⟩ := p'
  obtain ⟨rfl, h⟩ := List.append_inj h (hp.year.1.trans hp'.year.1.symm)
  obtain ⟨rfl, h⟩ := List.append_inj (List.cons.inj h).2 (hp.month.1.trans hp'.month.1.symm)
  obtain ⟨rfl, h⟩ := List.append_inj (List.cons.inj h).2 (hp.day.1.trans hp'.day.1.symm)
  obtain ⟨rfl, h⟩ := List.append_inj (List.cons.inj h).2 (hp.hour.1.trans hp'.hour.1.symm)
  obtain ⟨rfl, h⟩ := List.append_inj (List.cons.inj h).2 (hp.minute.1.trans hp'.minute.1.symm)
  obtain ⟨rfl, h⟩ := List.append_inj (List.cons.inj h).2 (hp.second.1.trans hp'.second.1.symm)
  obtain ⟨rfl, rfl⟩ := decimals_append_inj hp.decimals hp'.decimals hs ht h
  exact ⟨rfl, rfl⟩

theorem spelledOut_append (cs ds : List Char) :
    spelledOut (cs ++ ds) = spelledOut cs ++ spelledOut ds := List.flatMap_append

theorem spelledOut_of_notMem {cs : List Char} (h : 'Z' ∉ cs) : spelledOut cs = cs := by
  induction cs with
  | nil => rfl
  | cons c cs ih =>
    simp only [List.mem_cons, not_or] at h
    rw [spelledOut, List.flatMap_cons, if_neg (Ne.symm h.1), List.singleton_append]
    exact congrArg (c :: ·) (ih h.2)

/-- No part holds a `Z`, so only what follows the parts is spelled out. -/
theorem spelledOut_text {p : Parts} (hp : p.Fill isDecimal) (rest : List Char) :
    spelledOut (p.text rest) = p.text (spelledOut rest) := by
  have hrun : ∀ {width : ℕ} {ds : List Char}, IsRun isDecimal width ds → spelledOut ds = ds := by
    intro width ds hds
    refine spelledOut_of_notMem fun hmem => ?_
    exact absurd (hds.2 'Z' hmem) (by decide)
  have hcons : ∀ {c : Char} (cs : List Char), c ≠ 'Z' → spelledOut (c :: cs) = c :: spelledOut cs := by
    intro c cs hc
    rw [spelledOut, List.flatMap_cons, if_neg hc, List.singleton_append]
    rfl
  have hdecimals : spelledOut p.decimals = p.decimals := by
    rcases hp.decimals with hnil | ⟨ds, hds, hpoint⟩
    · rw [hnil]
      rfl
    · rw [hpoint, hcons ds (by decide), hrun hds]
  simp only [Parts.text, spelledOut_append, hcons _ (by decide : '-' ≠ 'Z'),
    hcons _ (by decide : 'T' ≠ 'Z'), hcons _ (by decide : ':' ≠ 'Z'), hrun hp.year, hrun hp.month,
    hrun hp.day, hrun hp.hour, hrun hp.minute, hrun hp.second, hdecimals]

/-- **The pattern and the reader together** take the date-time texts. -/
theorem isDateTime_iff (cs : List Char) :
    IsDateTime cs ↔ FitsPattern cs ∧ IsRead (spelledOut cs) := by
  constructor
  · rintro ⟨p, hp, hproper, zulu, hzulu, rfl⟩
    have hp' : p.Fill isDecimal := hp.mono fun c hc => Text.isDecimal_of_isDigit hc
    refine ⟨⟨p, hp', zulu, hzulu, [], by simp, by rw [List.append_nil]⟩,
      p, hp, hproper, spelledOut zulu, ?_, spelledOut_text hp' zulu⟩
    simp only [List.mem_cons, List.not_mem_nil, or_false] at hzulu
    rcases hzulu with rfl | rfl <;> decide
  · rintro ⟨⟨p, hp, zulu, hzulu, final, hfinal, rfl⟩, p', hp', hproper, zone, hzone, h⟩
    rw [spelledOut_text hp] at h
    have hends : (spelledOut (zulu ++ final)).head? ≠ some '.' ∧ zone.head? ≠ some '.' ∧
        (spelledOut (zulu ++ final) = zone → final = []) := by
      simp only [List.mem_cons, List.not_mem_nil, or_false] at hzulu hfinal hzone
      rcases hzulu with rfl | rfl <;> rcases hfinal with rfl | rfl <;> rcases hzone with rfl | rfl <;>
        decide
    obtain ⟨rfl, hzone⟩ := Parts.text_inj hp hp' hends.1 hends.2.1 h
    rw [hends.2.2 hzone, List.append_nil]
    exact ⟨p, hp', hproper, zulu, hzulu, rfl⟩

/-- **Which texts are date-time texts.** Those that are written as one, `YYYY-MM-DDThh:mm:ss` in ASCII
digits with perhaps three decimals and perhaps a `Z`, for a day of the calendar and a time of day; and
these are the texts that fit the pattern and that the reader takes with their `Z` spelled out. -/
theorem isDateText_iff (s : String) :
    (isDateText s = true ↔ IsDateTime s.toList) ∧
      (isDateText s = true ↔ FitsPattern s.toList ∧ IsRead (spelledOut s.toList)) := by
  rw [← isDateTime_iff]
  exact ⟨isDateText_eq_true_iff s, isDateText_eq_true_iff s⟩

/-- A leap day; no leap day of 2023, no line feed at the end, and no digits of another script. -/
example : isDateText "2024-02-29T23:59:59.999Z" = true ∧ isDateText "2023-02-29T00:00:00" = false ∧
    isDateText "2024-02-29T00:00:00\n" = false ∧ isDateText "٢٠٢٤-02-29T00:00:00" = false := by
  refine ⟨?_, ?_, ?_, ?_⟩ <;> cbv

end JsonShapes.DateText
