import JsonShapes.Text.CharClass
import Mathlib

/-! # Ranges against character sets

A set of characters is a list of ranges in ascending order, so a range of code points is compared with
it in one pass over its ranges: the range lies inside one of them (`coversAll`), or meets none of them
(`coversNone`). This settles a statement about many characters without a look at each.

An initial is what a type name starts with in most cases: a letter or a numeral that starts an
identifier and has no digit value. -/

namespace JsonShapes.Text

theorem forall_below {bound : ℕ} {P : Char → Prop} (h : ∀ n < bound, P (Char.ofNat n)) {c : Char}
    (hc : c.toNat < bound) : P c := by
  have hn := h c.toNat hc
  rwa [Char.ofNat_toNat] at hn

/-- Whether one range of the list holds the code points from `first` to `last`. -/
def coversAll : List (ℕ × ℕ) → (first last : ℕ) → Bool
  | [], _, _ => false
  | (a, b) :: rest, first, last =>
    a.ble first && (last.ble b || b.blt first && coversAll rest first last)

/-- Whether no range of the list meets the code points from `first` to `last`. -/
def coversNone : List (ℕ × ℕ) → (first last : ℕ) → Bool
  | [], _, _ => true
  | (a, b) :: rest, first, last => last.blt a || b.blt first && coversNone rest first last

variable {ranges : List (ℕ × ℕ)} {first last n : ℕ}

theorem covers_of_coversAll (h : coversAll ranges first last = true) (hfirst : first ≤ n)
    (hlast : n ≤ last) : covers ranges n = true := by
  induction ranges with
  | nil => cases h
  | cons r rest ih =>
    obtain ⟨a, b⟩ := r
    simp only [coversAll, Bool.or_eq_true, Bool.and_eq_true, Nat.ble_eq, Nat.blt_eq] at h
    obtain ⟨ha, hb | ⟨hb, hrest⟩⟩ := h
    · rw [covers, if_neg (by omega), if_pos (by omega)]
    · rw [covers, if_neg (by omega), if_neg (by omega), ih hrest]

theorem not_covers_of_coversNone (h : coversNone ranges first last = true) (hfirst : first ≤ n)
    (hlast : n ≤ last) : covers ranges n = false := by
  induction ranges with
  | nil => rfl
  | cons r rest ih =>
    obtain ⟨a, b⟩ := r
    simp only [coversNone, Bool.or_eq_true, Bool.and_eq_true, Nat.blt_eq] at h
    rw [covers]
    rcases h with ha | ⟨hb, hrest⟩
    · rw [if_pos (by omega)]
    · by_cases hn : n < a
      · rw [if_pos hn]
      · rw [if_neg hn, if_neg (by omega), ih hrest]

/-! ### Initials and other characters of names -/

/-- **A letter or a numeral that starts an identifier** and has no digit value. -/
def isInitial (c : Char) : Bool :=
  (isLetter c || isNumeral c) && isIdentifierStart c && !isDigitValued c

/-- A word character or a combining mark. -/
def isNameChar (c : Char) : Bool := isWord c || marks.has c

/-- Whether the code points from `first` to `last` are initials. -/
def allInitials (first last : ℕ) : Bool :=
  (coversAll letters.ranges first last && coversNone nonStartingLetters.ranges first last ||
      coversAll startingSigns.ranges first last && coversAll numberSigns.ranges first last) &&
    coversNone decimalDigits.ranges first last && coversNone digitSigns.ranges first last

/-- Whether no code point from `first` to `last` is a word character. -/
def noWords (first last : ℕ) : Bool :=
  coversNone letters.ranges first last && coversNone decimalDigits.ranges first last &&
    coversNone digitSigns.ranges first last && coversNone numberSigns.ranges first last &&
    (last.blt '_'.toNat || '_'.toNat.blt first)

section Initials
variable {c : Char}

theorem isInitial_of_allInitials (h : allInitials first last = true) (hfirst : first ≤ c.toNat)
    (hlast : c.toNat ≤ last) : isInitial c = true := by
  simp only [allInitials, Bool.and_eq_true, Bool.or_eq_true] at h
  obtain ⟨⟨hstart, hdecimal⟩, hdigit⟩ := h
  have hvalue : isDigitValued c = false := by
    simp [isDigitValued, isDecimal, CharSet.has, not_covers_of_coversNone hdecimal hfirst hlast,
      not_covers_of_coversNone hdigit hfirst hlast]
  rcases hstart with ⟨hletter, hnon⟩ | ⟨hsign, hnumber⟩
  · have hl : isLetter c = true := covers_of_coversAll hletter hfirst hlast
    have hn : nonStartingLetters.has c = false := not_covers_of_coversNone hnon hfirst hlast
    simp [isInitial, isIdentifierStart, hvalue, hl, hn]
  · have hs : startingSigns.has c = true := covers_of_coversAll hsign hfirst hlast
    have hn : numberSigns.has c = true := covers_of_coversAll hnumber hfirst hlast
    simp [isInitial, isIdentifierStart, isNumeral, hvalue, hs, hn]

theorem not_isWord_of_noWords (h : noWords first last = true) (hfirst : first ≤ c.toNat)
    (hlast : c.toNat ≤ last) : isWord c = false := by
  simp only [noWords, Bool.and_eq_true, Bool.or_eq_true, Nat.blt_eq] at h
  obtain ⟨⟨⟨⟨hletter, hdecimal⟩, hdigit⟩, hnumber⟩, hlow⟩ := h
  have hne : c ≠ '_' := by
    rintro rfl
    omega
  simp [isWord, isLetter, isNumeral, isDigitValued, isDecimal, CharSet.has, hne,
    not_covers_of_coversNone hletter hfirst hlast, not_covers_of_coversNone hdecimal hfirst hlast,
    not_covers_of_coversNone hdigit hfirst hlast, not_covers_of_coversNone hnumber hfirst hlast]

theorem isWord_of_isInitial (h : isInitial c = true) : isWord c = true := by
  simp only [isInitial, Bool.and_eq_true, Bool.or_eq_true] at h
  rw [isWord, Bool.or_eq_true, Bool.or_eq_true]
  exact Or.inl h.1.1

theorem isIdentifierStart_of_isInitial (h : isInitial c = true) : isIdentifierStart c = true := by
  simp only [isInitial, Bool.and_eq_true] at h
  exact h.1.2

theorem isDigitValued_of_isInitial (h : isInitial c = true) : isDigitValued c = false := by
  simp only [isInitial, Bool.and_eq_true, Bool.not_eq_true'] at h
  exact h.2

theorem ne_underscore_of_isInitial (h : isInitial c = true) : c ≠ '_' := by
  rintro rfl
  have hunderscore : isInitial '_' = false := by decide
  rw [hunderscore] at h
  cases h

theorem isIdentifierPart_of_start (h : isIdentifierStart c = true) : isIdentifierPart c = true := by
  simp [isIdentifierPart, h]

theorem nameChar_of_isInitial (h : isInitial c = true) :
    isIdentifierPart c = true ∧ isNameChar c = true :=
  ⟨isIdentifierPart_of_start (isIdentifierStart_of_isInitial h),
    by simp [isNameChar, isWord_of_isInitial h]⟩

theorem nameChar_of_mark (h : marks.has c = true) :
    isIdentifierPart c = true ∧ isNameChar c = true :=
  ⟨by simp [isIdentifierPart, h], by simp [isNameChar, h]⟩

theorem isDecimal_of_isDigit (h : c.isDigit = true) : isDecimal c = true := by
  simp only [Char.isDigit, Bool.and_eq_true, decide_eq_true_eq, ge_iff_le,
    UInt32.le_iff_toNat_le] at h
  have hdigits : coversAll decimalDigits.ranges 0x30 0x39 = true := by decide
  exact covers_of_coversAll hdigits h.1 h.2

theorem isIdentifierPart_of_isDigit (h : c.isDigit = true) : isIdentifierPart c = true := by
  simp [isIdentifierPart, isDecimal_of_isDigit h]

end Initials

end JsonShapes.Text
