import Mathlib
import JsonShapes.Calendar

/-! # Counting days

The days of the calendar are counted from the first day of year 1, through whole years, whole months and
the days of a month (`Day.number`). The next day has the next number and the day before the number before
(`Day.next?_cases`, `Day.previous?_cases`), and a number is that of one day only
(`Day.eq_of_number_eq`). -/

namespace JsonShapes

/-- The number of days of a year. -/
def daysInYear (year : ℕ) : ℕ := if isLeapYear year then 366 else 365

/-- The number of days from the start of year 1 to the start of a year. -/
def daysBefore (year : ℕ) : ℕ := ∑ y ∈ Finset.Ico 1 year, daysInYear y

namespace Day

/-- Whether this is a day of the calendar, from year 1 to year 9999. -/
def IsProper (d : Day) : Prop := isDay d.year d.month d.day = true

instance (d : Day) : Decidable d.IsProper := inferInstanceAs (Decidable (_ = true))

/-- **The number of a day**, 1 for the first day of year 1. -/
def number (d : Day) : ℕ :=
  daysBefore d.year + ∑ m ∈ Finset.Ico 1 d.month, daysInMonth d.year m + d.day

theorem isProper_mk {year month day : ℕ} : IsProper ⟨year, month, day⟩ ↔
    (1 ≤ year ∧ year ≤ 9999) ∧ (1 ≤ month ∧ month ≤ 12) ∧
      1 ≤ day ∧ day ≤ daysInMonth year month := by
  simp [IsProper, isDay, and_assoc]

/-! ### Years and months -/

theorem daysInMonth_pos (year month : ℕ) : 1 ≤ daysInMonth year month := by
  cases hleap : isLeapYear year <;> simp only [daysInMonth, hleap] <;> split <;> decide

theorem sum_daysInMonth (year : ℕ) : ∑ m ∈ Finset.Ico 1 13, daysInMonth year m = daysInYear year := by
  simp only [Finset.sum_Ico_eq_sum_range, Finset.sum_range_succ, Finset.sum_range_zero, daysInMonth,
    daysInYear]
  split_ifs <;> rfl

theorem daysBefore_succ {year : ℕ} (h : 1 ≤ year) :
    daysBefore (year + 1) = daysBefore year + daysInYear year := Finset.sum_Ico_succ_top h _

theorem daysBefore_mono {year year' : ℕ} (h : year ≤ year') : daysBefore year ≤ daysBefore year' :=
  Finset.sum_le_sum_of_subset (Finset.Ico_subset_Ico_right h)

theorem place_lt {f : ℕ → ℕ} {a b x y : ℕ} (ha : 1 ≤ a) (hab : a < b) (hx : x ≤ f a) (hy : 1 ≤ y) :
    ∑ i ∈ Finset.Ico 1 a, f i + x < ∑ i ∈ Finset.Ico 1 b, f i + y := by
  have hblock : ∑ i ∈ Finset.Ico 1 (a + 1), f i = ∑ i ∈ Finset.Ico 1 a, f i + f a :=
    Finset.sum_Ico_succ_top ha f
  have hlater : ∑ i ∈ Finset.Ico 1 (a + 1), f i ≤ ∑ i ∈ Finset.Ico 1 b, f i :=
    Finset.sum_le_sum_of_subset (Finset.Ico_subset_Ico_right hab)
  omega

theorem place_inj {f : ℕ → ℕ} {a b x y : ℕ} (ha : 1 ≤ a) (hb : 1 ≤ b) (hx : 1 ≤ x ∧ x ≤ f a)
    (hy : 1 ≤ y ∧ y ≤ f b)
    (h : ∑ i ∈ Finset.Ico 1 a, f i + x = ∑ i ∈ Finset.Ico 1 b, f i + y) : a = b ∧ x = y := by
  rcases lt_trichotomy a b with hab | rfl | hba
  · exact absurd h (place_lt ha hab hx.2 hy.1).ne
  · exact ⟨rfl, Nat.add_left_cancel h⟩
  · exact absurd h (place_lt hb hba hy.2 hx.1).ne'

/-! ### Numbers -/

/-- The number of a day in its year. -/
def inYear (d : Day) : ℕ := ∑ m ∈ Finset.Ico 1 d.month, daysInMonth d.year m + d.day

theorem number_eq (d : Day) : d.number = daysBefore d.year + d.inYear := Nat.add_assoc _ _ _

variable {d e : Day}

theorem inYear_bounds (h : d.IsProper) : 1 ≤ d.inYear ∧ d.inYear ≤ daysInYear d.year := by
  obtain ⟨-, ⟨hlow, hhigh⟩, hpos, hday⟩ := isProper_mk.mp h
  have hmonth := place_lt (y := 1) hlow (Nat.lt_succ_of_le hhigh) hday le_rfl
  rw [sum_daysInMonth] at hmonth
  unfold inYear
  omega

theorem number_bounds (h : d.IsProper) : 1 ≤ d.number ∧ d.number ≤ daysBefore 10000 := by
  obtain ⟨⟨hlow, hhigh⟩, -⟩ := isProper_mk.mp h
  have hyear := inYear_bounds h
  have hnext := daysBefore_succ hlow
  have hlast : daysBefore (d.year + 1) ≤ daysBefore 10000 := daysBefore_mono (by omega)
  rw [number_eq]
  omega

theorem eq_of_number_eq (hd : d.IsProper) (he : e.IsProper) (h : d.number = e.number) : d = e := by
  obtain ⟨⟨hyear, -⟩, ⟨hmonth, -⟩, hday⟩ := isProper_mk.mp hd
  obtain ⟨⟨hyear', -⟩, ⟨hmonth', -⟩, hday'⟩ := isProper_mk.mp he
  obtain ⟨year, month, day⟩ := d
  obtain ⟨year', month', day'⟩ := e
  rw [number_eq, number_eq] at h
  obtain ⟨rfl, hin⟩ := place_inj hyear hyear' (inYear_bounds hd) (inYear_bounds he) h
  obtain ⟨rfl, rfl⟩ := place_inj hmonth hmonth' hday hday' hin
  rfl

/-! ### The days around a day -/

/-- **The next day has the next number**, and only the last day has none. -/
theorem next?_cases (h : d.IsProper) :
    (∃ e, d.next? = some e ∧ e.IsProper ∧ e.number = d.number + 1) ∨
      d.next? = none ∧ d.number = daysBefore 10000 := by
  obtain ⟨year, month, day⟩ := d
  obtain ⟨⟨hyear, hlast⟩, ⟨hmonth, hdecember⟩, hday, hend⟩ := isProper_mk.mp h
  have hmonths := Finset.sum_Ico_succ_top hmonth (daysInMonth year)
  have hyears := daysBefore_succ hyear
  unfold next?
  dsimp only
  split_ifs with hin hbefore hmore
  · exact .inl ⟨_, rfl, isProper_mk.mpr ⟨⟨hyear, hlast⟩, ⟨hmonth, hdecember⟩, by omega, hin⟩, rfl⟩
  · refine .inl ⟨_, rfl, isProper_mk.mpr
      ⟨⟨hyear, hlast⟩, ⟨by omega, hbefore⟩, le_rfl, daysInMonth_pos _ _⟩, ?_⟩
    simp only [number]
    omega
  · obtain rfl : month = 12 := by omega
    rw [sum_daysInMonth] at hmonths
    refine .inl ⟨_, rfl, isProper_mk.mpr
      ⟨⟨by omega, hmore⟩, ⟨le_rfl, by omega⟩, le_rfl, daysInMonth_pos _ _⟩, ?_⟩
    simp only [number, Finset.Ico_self, Finset.sum_empty]
    omega
  · obtain rfl : month = 12 := by omega
    obtain rfl : year = 9999 := by omega
    change daysBefore 10000 = _ at hyears
    rw [sum_daysInMonth] at hmonths
    refine .inr ⟨rfl, ?_⟩
    simp only [number]
    omega

theorem previous?_cases (h : d.IsProper) :
    (∃ e, d.previous? = some e ∧ e.IsProper ∧ e.number + 1 = d.number) ∨
      d.previous? = none ∧ d.number = 1 := by
  obtain ⟨year, month, day⟩ := d
  obtain ⟨⟨hyear, hlast⟩, ⟨hmonth, hdecember⟩, hday, hend⟩ := isProper_mk.mp h
  unfold previous?
  dsimp only
  split_ifs with hin hbefore hmore
  · refine .inl ⟨_, rfl, isProper_mk.mpr
      ⟨⟨hyear, hlast⟩, ⟨hmonth, hdecember⟩, by omega, by omega⟩, ?_⟩
    simp only [number]
    omega
  · obtain ⟨m, rfl⟩ : ∃ m, month = m + 1 := ⟨month - 1, by omega⟩
    have hmonths := Finset.sum_Ico_succ_top (by omega : 1 ≤ m) (daysInMonth year)
    refine .inl ⟨_, rfl, isProper_mk.mpr
      ⟨⟨hyear, hlast⟩, ⟨by omega, by omega⟩, daysInMonth_pos _ _, le_rfl⟩, ?_⟩
    simp only [number, Nat.add_sub_cancel]
    omega
  · obtain rfl : month = 1 := by omega
    obtain ⟨y, rfl⟩ : ∃ y, year = y + 1 := ⟨year - 1, by omega⟩
    have hmonths := Finset.sum_Ico_succ_top (by omega : 1 ≤ 12) (daysInMonth y)
    have hyears := daysBefore_succ (by omega : 1 ≤ y)
    have hdecember : daysInMonth y 12 = 31 := rfl
    rw [sum_daysInMonth] at hmonths
    refine .inl ⟨_, rfl, isProper_mk.mpr ⟨⟨by omega, by omega⟩, ⟨by omega, le_rfl⟩, by omega, le_rfl⟩, ?_⟩
    simp only [number, Nat.add_sub_cancel, Finset.Ico_self, Finset.sum_empty]
    omega
  · obtain rfl : day = 1 := by omega
    obtain rfl : month = 1 := by omega
    obtain rfl : year = 1 := by omega
    exact .inr ⟨rfl, by simp [number, daysBefore]⟩

end Day

end JsonShapes
