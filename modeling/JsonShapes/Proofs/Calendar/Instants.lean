import JsonShapes.Proofs.Calendar.Days

/-! # Instants

A moment stands for an instant, counted in microseconds from the start of year 1 in universal time
(`Moment.instant`). Put into universal time it stands for the same instant; it cannot be put there just
when the instant lies before year 1 or after year 9999 (`Moment.utc?_cases`). -/

namespace JsonShapes

namespace Moment

/-- **A moment that can be**: a day of the calendar, a time of a day, and less than a day from universal
time. -/
structure IsProper (m : Moment) : Prop where
  day : m.day.IsProper
  hour : m.hour < 24
  minute : m.minute < 60
  second : m.second < 60
  microsecond : m.microsecond < 1000000
  offset : ∀ offset ∈ m.offset, -86400 < offset ∧ offset < 86400

instance (m : Moment) : Decidable m.IsProper :=
  decidable_of_iff (m.day.IsProper ∧ m.hour < 24 ∧ m.minute < 60 ∧ m.second < 60 ∧
      m.microsecond < 1000000 ∧ ∀ offset ∈ m.offset, -86400 < offset ∧ offset < 86400)
    ⟨fun ⟨hday, hhour, hminute, hsecond, hmicro, hoffset⟩ =>
        ⟨hday, hhour, hminute, hsecond, hmicro, hoffset⟩,
      fun h => ⟨h.day, h.hour, h.minute, h.second, h.microsecond, h.offset⟩⟩

/-- **The instant of a moment**, in microseconds from the start of year 1. A moment without a distance
from universal time is taken as one of universal time. -/
def instant (m : Moment) : ℤ :=
  ((m.day.number - 1) * 86400 + m.seconds - m.offset.getD 0) * 1000000 + m.microsecond

/-- The instant at which a year starts. -/
def yearStart (year : ℕ) : ℤ := daysBefore year * 86400 * 1000000

/-- Whether the instant lies in the years 1 to 9999. -/
def InCalendar (m : Moment) : Prop := yearStart 1 ≤ m.instant ∧ m.instant < yearStart 10000

variable {m : Moment} {d : Day} {s : ℕ}

theorem yearStart_one : yearStart 1 = 0 := rfl

/-! ### Times of day -/

theorem seconds_lt (h : m.IsProper) : m.seconds < 86400 := by
  have hhour := h.hour
  have hminute := h.minute
  have hsecond := h.second
  unfold seconds
  omega

theorem seconds_atSeconds (m : Moment) (d : Day) (s : ℕ) : (m.atSeconds d s).seconds = s := by
  unfold seconds atSeconds
  dsimp only
  omega

theorem isProper_atSeconds (h : m.IsProper) (hd : d.IsProper) (hs : s < 86400) :
    (m.atSeconds d s).IsProper where
  day := hd
  hour := by
    change s / 3600 < 24
    omega
  minute := Nat.mod_lt _ (by decide)
  second := Nat.mod_lt _ (by decide)
  microsecond := h.microsecond
  offset := nofun

theorem instant_atSeconds (m : Moment) (d : Day) (s : ℕ) :
    (m.atSeconds d s).instant = ((d.number - 1) * 86400 + s) * 1000000 + m.microsecond := by
  rw [instant, seconds_atSeconds]
  simp [atSeconds]

theorem inCalendar_of_offset (h : m.IsProper) (ho : m.offset = none) : m.InCalendar := by
  obtain ⟨hfirst, hlast⟩ := Day.number_bounds h.day
  have hseconds := seconds_lt h
  have hmicro := h.microsecond
  rw [InCalendar, yearStart_one, yearStart, instant, ho, Option.getD_none]
  omega

/-! ### Universal time -/

/-- **Universal time keeps the instant.** A moment cannot be put into universal time just when its instant
lies outside the years 1 to 9999. -/
theorem utc?_cases (h : m.IsProper) :
    (∃ u, m.utc? = some u ∧ u.IsProper ∧ u.offset = none ∧ u.instant = m.instant) ∨
      m.utc? = none ∧ ¬ m.InCalendar := by
  cases ho : m.offset with
  | none => exact .inl ⟨m, by rw [utc?, ho], h, ho, rfl⟩
  | some offset =>
    obtain ⟨hwest, heast⟩ := h.offset offset ho
    have hseconds := seconds_lt h
    have hmicro := h.microsecond
    have hinstant : m.instant =
        ((m.day.number - 1) * 86400 + (m.seconds - offset)) * 1000000 + m.microsecond := by
      rw [instant, ho, Option.getD_some]
      ring
    rw [utc?, ho]
    dsimp only
    split_ifs with hbefore hsame
    · rcases Day.previous?_cases h.day with ⟨d, hd, hproper, hnumber⟩ | ⟨hd, hnumber⟩
      · refine .inl ⟨_, by rw [hd]; rfl, isProper_atSeconds h hproper (by omega), rfl, ?_⟩
        rw [instant_atSeconds, hinstant]
        omega
      · refine .inr ⟨by rw [hd]; rfl, ?_⟩
        rw [InCalendar, yearStart_one, hinstant]
        omega
    · refine .inl ⟨_, rfl, isProper_atSeconds h h.day (by omega), rfl, ?_⟩
      rw [instant_atSeconds, hinstant]
      omega
    · rcases Day.next?_cases h.day with ⟨d, hd, hproper, hnumber⟩ | ⟨hd, hnumber⟩
      · refine .inl ⟨_, by rw [hd]; rfl, isProper_atSeconds h hproper (by omega), rfl, ?_⟩
        rw [instant_atSeconds, hinstant]
        omega
      · refine .inr ⟨by rw [hd]; rfl, ?_⟩
        rw [InCalendar, yearStart_one, yearStart, hinstant, ← hnumber]
        omega

theorem inCalendar_congr {u : Moment} (h : u.instant = m.instant) : u.InCalendar ↔ m.InCalendar := by
  rw [InCalendar, InCalendar, h]

end Moment

end JsonShapes
