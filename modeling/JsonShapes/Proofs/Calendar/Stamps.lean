import JsonShapes.Definitions.Render
import JsonShapes.Proofs.Calendar.Instants
import JsonShapes.Proofs.Text.Cutting

/-! # Stamps

The text of a moment is made of numerals with marks between them, and no mark is a digit. So the text
tells every field, the year without leading zeros as well as the others with them, and of the
microseconds the whole milliseconds (`Moment.text_eq_iff`).

The stamp of a moment is its text in universal time. Two stamps are equal just when the instants are,
cut to the millisecond (`Moment.stamp_denotes_instant`). -/

namespace JsonShapes

namespace Moment

open Text

/-! ### Numerals -/

theorem isDigit_of_mem_padded {width n : ℕ} {c : Char} (h : c ∈ (padded width n).toList) :
    c.isDigit = true := by
  rw [padded, String.toList_ofList, List.mem_append] at h
  rcases h with hzero | hdigit
  · rw [List.eq_of_mem_replicate hzero]
    decide
  · exact Nat.isDigit_of_mem_toDigits (by decide) (by decide) hdigit

theorem isDigit_of_mem_toString {n : ℕ} {c : Char} (h : c ∈ (toString n).toList) :
    c.isDigit = true := by
  rw [Nat.toString_eq_repr, Nat.toList_repr] at h
  exact Nat.isDigit_of_mem_toDigits (by decide) (by decide) h

theorem ofDigitChars_zeros (n : ℕ) : Nat.ofDigitChars 10 (List.replicate n '0') 0 = 0 := by
  induction n with
  | zero => rfl
  | succ n ih =>
    rw [List.replicate_succ, Nat.ofDigitChars_cons]
    exact ih

theorem ofDigitChars_padded (width n : ℕ) : Nat.ofDigitChars 10 (padded width n).toList 0 = n := by
  rw [padded, String.toList_ofList, Nat.ofDigitChars_append, ofDigitChars_zeros,
    Nat.ofDigitChars_ten_toDigits]

theorem padded_inj {width n n' : ℕ} : padded width n = padded width n' ↔ n = n' := by
  refine ⟨fun h => ?_, fun h => h ▸ rfl⟩
  rw [← ofDigitChars_padded width n, h, ofDigitChars_padded]

theorem toString_inj {n n' : ℕ} : toString n = toString n' ↔ n = n' := by
  refine ⟨fun h => ?_, fun h => h ▸ rfl⟩
  rw [Nat.toString_eq_repr, Nat.toString_eq_repr] at h
  rw [← Nat.ofDigitChars_ten_toDigits (n := n), ← Nat.toList_repr, h, Nat.toList_repr,
    Nat.ofDigitChars_ten_toDigits]

theorem numeral_append_inj {mark : String} {c : Char} (hmark : mark.toList = [c])
    (hc : c.isDigit = false) {a b s t : String} (ha : ∀ d ∈ a.toList, d.isDigit = true)
    (hb : ∀ d ∈ b.toList, d.isDigit = true) :
    a ++ (mark ++ s) = b ++ (mark ++ t) ↔ a = b ∧ s = t := by
  have hnot : ∀ w : String, (∀ d ∈ w.toList, d.isDigit = true) → c ∉ w.toList := by
    intro w hw hmem
    rw [hw c hmem] at hc
    cases hc
  have hcut := append_mark_inj (s := s.toList) (t := t.toList) (hnot a ha) (hnot b hb)
  simpa [← String.toList_inj, hmark] using hcut

/-! ### Texts -/

/-- **The text of a moment tells its fields**, down to the millisecond. -/
theorem text_eq_iff (m m' : Moment) : m.text = m'.text ↔
    m.day = m'.day ∧ m.hour = m'.hour ∧ m.minute = m'.minute ∧ m.second = m'.second ∧
      m.microsecond / 1000 = m'.microsecond / 1000 := by
  have hyear : ∀ n : ℕ, ∀ c ∈ (toString n).toList, c.isDigit = true :=
    fun _ _ => isDigit_of_mem_toString
  have hpart : ∀ width n, ∀ c ∈ (padded width n).toList, c.isDigit = true :=
    fun _ _ _ => isDigit_of_mem_padded
  obtain ⟨⟨year, month, day⟩, hour, minute, second, micro, offset⟩ := m
  obtain ⟨⟨year', month', day'⟩, hour', minute', second', micro', offset'⟩ := m'
  simp only [text, String.append_assoc]
  rw [numeral_append_inj rfl (by decide) (hyear _) (hyear _),
    numeral_append_inj rfl (by decide) (hpart _ _) (hpart _ _),
    numeral_append_inj rfl (by decide) (hpart _ _) (hpart _ _),
    numeral_append_inj rfl (by decide) (hpart _ _) (hpart _ _),
    numeral_append_inj rfl (by decide) (hpart _ _) (hpart _ _),
    numeral_append_inj rfl (by decide) (hpart _ _) (hpart _ _), String.append_left_inj]
  simp only [toString_inj, padded_inj, Day.mk.injEq, and_assoc]

/-- In universal time the fields down to the millisecond tell the instant, cut to the millisecond. -/
theorem fields_eq_iff {u u' : Moment} (h : u.IsProper) (h' : u'.IsProper) (ho : u.offset = none)
    (ho' : u'.offset = none) :
    (u.day = u'.day ∧ u.hour = u'.hour ∧ u.minute = u'.minute ∧ u.second = u'.second ∧
      u.microsecond / 1000 = u'.microsecond / 1000) ↔ u.instant / 1000 = u'.instant / 1000 := by
  have hminute := h.minute
  have hsecond := h.second
  have hmicro := h.microsecond
  have hminute' := h'.minute
  have hsecond' := h'.second
  have hmicro' := h'.microsecond
  have htime := seconds_lt h
  have htime' := seconds_lt h'
  rw [instant, instant, ho, ho', Option.getD_none]
  constructor
  · rintro ⟨hday, hhour, hm, hs, hmilli⟩
    rw [seconds, seconds, hday, hhour, hm, hs]
    omega
  · intro heq
    have hday : u.day.number = u'.day.number := by omega
    have hseconds : u.seconds = u'.seconds := by omega
    have hmilli : u.microsecond / 1000 = u'.microsecond / 1000 := by omega
    rw [seconds, seconds] at hseconds
    exact ⟨Day.eq_of_number_eq h.day h'.day hday, by omega, by omega, by omega, hmilli⟩

/-! ### Stamps -/

variable {m m' : Moment}

open Definitions (stamp)

theorem stamp_eq_ok_iff {stamped : String} : stamp m = .ok stamped ↔ m.stamp? = some stamped := by
  rw [stamp]
  cases m.stamp? with
  | none => simp
  | some _ => rw [Except.ok.injEq, Option.some.injEq]

/-- **A moment has a stamp just when its instant lies in the calendar**: the text of a moment of universal
time with this instant. -/
theorem stamp_cases (h : m.IsProper) :
    (m.InCalendar ∧ ∃ u : Moment, stamp m = .ok u.text ∧ u.IsProper ∧ u.offset = none ∧
        u.instant = m.instant) ∨
      (¬ m.InCalendar ∧ stamp m = .error .dateOutOfRange) := by
  rcases utc?_cases h with ⟨u, hu, hproper, ho, hinstant⟩ | ⟨hnone, hout⟩
  · refine .inl ⟨(inCalendar_congr hinstant).mp (inCalendar_of_offset hproper ho), u, ?_, hproper, ho,
      hinstant⟩
    rw [stamp, stamp?, hu]
    rfl
  · refine .inr ⟨hout, ?_⟩
    rw [stamp, stamp?, hnone]
    rfl

theorem stamp_eq_error_iff (h : m.IsProper) : stamp m = .error .dateOutOfRange ↔ ¬ m.InCalendar := by
  rcases stamp_cases h with ⟨hin, u, hu, -⟩ | ⟨hout, herror⟩
  · rw [hu]
    exact iff_of_false nofun (not_not.mpr hin)
  · exact iff_of_true herror hout

theorem stamp_of_offset_none (h : m.IsProper) (ho : m.offset = none) :
    ∃ text, stamp m = .ok text ∧ stamp { m with offset := some 0 } = .ok text := by
  have hproper : IsProper { m with offset := some 0 } :=
    ⟨h.day, h.hour, h.minute, h.second, h.microsecond, by simp⟩
  have hin := inCalendar_of_offset h ho
  have hinstant : instant { m with offset := some 0 } = m.instant := by
    simp [instant, seconds, ho]
  rcases stamp_cases hproper with ⟨-, u, hu, hu', hoffset, hsame⟩ | ⟨hout, -⟩
  · have hstamp : stamp m = .ok m.text := by
      rw [stamp, stamp?, utc?, ho]
      rfl
    refine ⟨m.text, hstamp, ?_⟩
    rw [hu, (text_eq_iff m u).mpr]
    rw [fields_eq_iff h hu' ho hoffset, hsame, hinstant]
  · exact absurd ((inCalendar_congr hinstant).mpr hin) hout

/-- **A stamp denotes an instant.** Two moments whose instants lie in the years 1 to 9999 have stamps, and
these are equal just when the instants are, cut down to the millisecond. A moment with a distance from
universal time has no stamp, but the fault that it is out of range, just when its instant lies in no such
year; a moment without one has the stamp of the same moment of universal time. -/
theorem stamp_denotes_instant (h : m.IsProper) (h' : m'.IsProper) :
    (m.InCalendar → m'.InCalendar → ∃ text text', stamp m = .ok text ∧ stamp m' = .ok text' ∧
        (text = text' ↔ m.instant / 1000 = m'.instant / 1000)) ∧
      (∀ offset, m.offset = some offset → (stamp m = .error .dateOutOfRange ↔ ¬ m.InCalendar)) ∧
      (m.offset = none →
        ∃ text, stamp m = .ok text ∧ stamp { m with offset := some 0 } = .ok text) := by
  refine ⟨fun hin hin' => ?_, fun _ _ => stamp_eq_error_iff h, stamp_of_offset_none h⟩
  obtain ⟨-, u, hu, hproper, ho, hinstant⟩ := (stamp_cases h).resolve_right fun hout => hout.1 hin
  obtain ⟨-, u', hu', hproper', ho', hinstant'⟩ :=
    (stamp_cases h').resolve_right fun hout => hout.1 hin'
  refine ⟨u.text, u'.text, hu, hu', ?_⟩
  rw [text_eq_iff, fields_eq_iff hproper hproper' ho ho', hinstant, hinstant']

/-- West of universal time on a leap day and east of it on the next day, within one millisecond; and the
first half hour of year 1, an hour east, which lies before the calendar. -/
theorem stamp_of_leap_day :
    let west : Moment := ⟨⟨2024, 2, 29⟩, 23, 30, 0, 123999, some (-7200)⟩
    let east : Moment := ⟨⟨2024, 3, 1⟩, 3, 0, 0, 123000, some 5400⟩
    let early : Moment := ⟨⟨1, 1, 1⟩, 0, 30, 0, 0, some 3600⟩
    west.IsProper ∧ east.IsProper ∧ early.IsProper ∧ west.InCalendar ∧ east.InCalendar ∧
      ¬ early.InCalendar ∧ stamp west = .ok "2024-03-01T01:30:00.123Z" ∧
      stamp east = .ok "2024-03-01T01:30:00.123Z" ∧ west.instant / 1000 = east.instant / 1000 := by
  intro west east early
  have hwest : west.IsProper := by decide
  have heast : east.IsProper := by decide
  have hearly : early.IsProper := by decide
  have hw : stamp west = .ok "2024-03-01T01:30:00.123Z" := by cbv
  have he : stamp east = .ok "2024-03-01T01:30:00.123Z" := by cbv
  have hout : stamp early = .error .dateOutOfRange := by cbv
  obtain ⟨hsame, hwestIn, -⟩ := stamp_denotes_instant hwest heast
  obtain ⟨-, heastIn, -⟩ := stamp_denotes_instant heast hwest
  obtain ⟨-, hearlyIn, -⟩ := stamp_denotes_instant hearly heast
  have hinWest : west.InCalendar := by
    by_contra hnot
    cases hw.symm.trans ((hwestIn _ rfl).mpr hnot)
  have hinEast : east.InCalendar := by
    by_contra hnot
    cases he.symm.trans ((heastIn _ rfl).mpr hnot)
  obtain ⟨text, text', htext, htext', hiff⟩ := hsame hinWest hinEast
  refine ⟨hwest, heast, hearly, hinWest, hinEast, (hearlyIn _ rfl).mp hout, hw, he, hiff.mp ?_⟩
  exact Except.ok.inj (htext.symm.trans (hw.trans (he.symm.trans htext')))

end Moment

end JsonShapes
