import JsonShapes.Proofs.Text.CharSet
import JsonShapes.Text.Case

/-! # The upper case of one character

`Raised c cs` says what the upper case `cs` of a character `c` can be: the character itself, an initial
with letters and marks behind it, or a sign in the place of a sign. The mapping is read run by run and
expansion by expansion (`raisesRun`, `raisesExpansion`), so that the tables are gone through once, and
all that names need to know follows from `raised_upperChar`. -/

namespace JsonShapes.Text

/-- **What the upper case of `c` can be.** -/
inductive Raised (c : Char) : List Char → Prop
  /-- The character itself; small Latin letters have another upper case. -/
  | same (h : c.isLower = false) : Raised c [c]
  /-- An initial, and what may stand in a name behind it. A word character that has it is one too. -/
  | initial {d : Char} {ds : List Char} (hc : isWord c = true → isInitial c = true)
    (hd : isInitial d = true) (hlower : d.isLower = false)
    (hds : ∀ e ∈ ds, isIdentifierPart e = true ∧ isNameChar e = true) : Raised c (d :: ds)
  /-- A sign in the place of a sign. -/
  | sign {d : Char} (hc : isWord c = false) (hd : isWord d = false) : Raised c [d]

/-! ### The tables -/

/-- Whether the code points from `first` to `last` are characters and no small Latin letters. -/
def plainRange (first last : ℕ) : Bool :=
  (last < 0xD800 || 0xDFFF < first) && last < 0x110000 &&
    (last < 'a'.toNat || 'z'.toNat < first)

/-- Whether a shift takes initials, or characters of no word, to initials, or signs to signs. -/
def raisesRange (first last : ℕ) (shift : ℤ) : Bool :=
  let first' := (first + shift).toNat
  let last' := (last + shift).toNat
  0 ≤ first + shift && plainRange first' last' &&
    ((allInitials first last || noWords first last) && allInitials first' last' ||
      noWords first last && noWords first' last')

/-- Whether a run does so, as a whole or at each of its code points. -/
def raisesRun (run : CaseRun) : Bool :=
  raisesRange run.first run.last run.shift ||
    (List.range (run.last - run.first + 1)).all fun i =>
      i % run.step != 0 || raisesRange (run.first + i) (run.first + i) run.shift

/-- Whether an expansion takes an initial to an initial and, behind it, initials and marks. -/
def raisesExpansion : ℕ × List ℕ → Bool
  | (_, []) => false
  | (n, d :: ds) =>
    allInitials n n && plainRange d d && allInitials d d &&
      ds.all fun e => plainRange e e && (allInitials e e || coversAll marks.ranges e e)

/-- Whether an ASCII character is its own upper case and not small, or an initial with another one. -/
def raisesAscii (c : Char) : Bool :=
  c.toUpper == c && !c.isLower || isInitial c && isInitial c.toUpper && !c.toUpper.isLower

theorem tables_raise :
    upperRuns.all raisesRun = true ∧ upperExpansions.all raisesExpansion = true := by
  decide +kernel

theorem ascii_raises : ∀ n < 0x80, raisesAscii (Char.ofNat n) = true := by decide +kernel

/-! ### The mapping -/

theorem exists_run_of_shiftOf {runs : List CaseRun} {n : ℕ} {shift : ℤ}
    (h : shiftOf runs n = some shift) :
    ∃ run ∈ runs, run.first ≤ n ∧ n ≤ run.last ∧ (n - run.first) % run.step = 0 ∧
      run.shift = shift := by
  induction runs with
  | nil => cases h
  | cons run rest ih =>
    rw [shiftOf] at h
    split_ifs at h with hfirst hin
    · rw [Bool.and_eq_true, decide_eq_true_eq, beq_iff_eq] at hin
      exact ⟨run, List.mem_cons_self, by omega, hin.1, hin.2, Option.some.inj h⟩
    · obtain ⟨run', hmem, hrun⟩ := ih h
      exact ⟨run', List.mem_cons_of_mem _ hmem, hrun⟩

/-- A run that was checked is so around each of its code points. -/
theorem exists_raisesRange {run : CaseRun} {n : ℕ} (h : raisesRun run = true)
    (hfirst : run.first ≤ n) (hlast : n ≤ run.last) (hstep : (n - run.first) % run.step = 0) :
    ∃ first last, first ≤ n ∧ n ≤ last ∧ raisesRange first last run.shift = true := by
  rw [raisesRun, Bool.or_eq_true] at h
  rcases h with hwhole | heach
  · exact ⟨run.first, run.last, hfirst, hlast, hwhole⟩
  · have hpoint := List.all_eq_true.mp heach (n - run.first) (List.mem_range.mpr (by omega))
    rw [hstep, bne_self_eq_false, Bool.false_or, Nat.add_sub_cancel' hfirst] at hpoint
    exact ⟨n, n, le_rfl, le_rfl, hpoint⟩

theorem toNat_ofNat_of_plainRange {first last n : ℕ} (h : plainRange first last = true)
    (hfirst : first ≤ n) (hlast : n ≤ last) :
    (Char.ofNat n).toNat = n ∧ (Char.ofNat n).isLower = false := by
  simp only [plainRange, Bool.and_eq_true, Bool.or_eq_true, decide_eq_true_eq] at h
  obtain ⟨⟨hvalid, hbound⟩, hsmall⟩ := h
  have hchar : n.isValidChar := by
    unfold Nat.isValidChar
    omega
  have hn : (Char.ofNat n).toNat = n := by rw [Char.toNat_ofNat, if_pos hchar]
  refine ⟨hn, ?_⟩
  rw [Bool.eq_false_iff]
  intro hlower
  simp only [Char.isLower, Bool.and_eq_true, decide_eq_true_eq, ge_iff_le,
    UInt32.le_iff_toNat_le] at hlower
  change 'a'.toNat ≤ (Char.ofNat n).toNat ∧ (Char.ofNat n).toNat ≤ 'z'.toNat at hlower
  omega

theorem raised_shift {c : Char} {shift : ℤ} (h : shiftOf upperRuns c.toNat = some shift) :
    Raised c [Char.ofNat (c.toNat + shift).toNat] := by
  obtain ⟨run, hmem, hrunfirst, hrunlast, hstep, rfl⟩ := exists_run_of_shiftOf h
  obtain ⟨first, last, hfirst, hlast, hrange⟩ := exists_raisesRange
    (List.all_eq_true.mp tables_raise.1 run hmem) hrunfirst hrunlast hstep
  simp only [raisesRange, Bool.and_eq_true, Bool.or_eq_true, decide_eq_true_eq] at hrange
  obtain ⟨⟨hpos, hplain⟩, hclass⟩ := hrange
  obtain ⟨hn, hlower⟩ := toNat_ofNat_of_plainRange hplain
    (n := (c.toNat + run.shift).toNat) (by omega) (by omega)
  rcases hclass with ⟨hsource, himage⟩ | ⟨hsource, himage⟩
  · refine .initial (fun hword => ?_) (isInitial_of_allInitials himage (by omega) (by omega)) hlower
      (by simp)
    rcases hsource with hsource | hsource
    · exact isInitial_of_allInitials hsource hfirst hlast
    · rw [not_isWord_of_noWords hsource hfirst hlast] at hword
      cases hword
  · exact .sign (not_isWord_of_noWords hsource hfirst hlast)
      (not_isWord_of_noWords himage (by omega) (by omega))

theorem raised_expansion {c : Char} {several : List ℕ}
    (h : upperExpansions.lookup c.toNat = some several) : Raised c (several.map Char.ofNat) := by
  obtain ⟨before, after, heq, -⟩ := List.lookup_eq_some_iff.mp h
  have hmem : (c.toNat, several) ∈ upperExpansions := by
    rw [heq]
    exact List.mem_append_right _ List.mem_cons_self
  have hall := List.all_eq_true.mp tables_raise.2 _ hmem
  cases several with
  | nil => cases hall
  | cons d ds =>
    simp only [raisesExpansion, Bool.and_eq_true, Bool.or_eq_true, List.all_eq_true] at hall
    obtain ⟨⟨⟨hc, hplain⟩, hd⟩, hds⟩ := hall
    obtain ⟨hn, hlower⟩ := toNat_ofNat_of_plainRange hplain le_rfl le_rfl
    refine .initial (fun _ => isInitial_of_allInitials hc le_rfl le_rfl)
      (isInitial_of_allInitials hd hn.ge hn.le) hlower fun e he => ?_
    obtain ⟨m, hm, rfl⟩ := List.mem_map.mp he
    obtain ⟨hplain', hclass⟩ := hds m hm
    have hm' := (toNat_ofNat_of_plainRange hplain' le_rfl le_rfl).1
    rcases hclass with hinitial | hmark
    · exact nameChar_of_isInitial (isInitial_of_allInitials hinitial hm'.ge hm'.le)
    · exact nameChar_of_mark (covers_of_coversAll hmark hm'.ge hm'.le)

/-- **What the upper case of a character can be**, over all characters. -/
theorem raised_upperChar (c : Char) : Raised c (upperChar c) := by
  unfold upperChar
  split_ifs with hascii
  · have h := ascii_raises c.toNat hascii
    rw [Char.ofNat_toNat] at h
    simp only [raisesAscii, Bool.or_eq_true, Bool.and_eq_true, beq_iff_eq, Bool.not_eq_true'] at h
    rcases h with ⟨hsame, hlower⟩ | ⟨⟨hc, hd⟩, hlower⟩
    · rw [hsame]
      exact .same hlower
    · exact .initial (fun _ => hc) hd hlower (by simp)
  · unfold mapCase
    split
    · next several h => exact raised_expansion h
    · split
      · next shift h => exact raised_shift h
      · refine .same ?_
        rw [Bool.eq_false_iff]
        intro hlower
        simp only [Char.isLower, Bool.and_eq_true, decide_eq_true_eq, ge_iff_le,
          UInt32.le_iff_toNat_le] at hlower
        have hz : c.toNat ≤ 'z'.toNat := hlower.2
        have : 'z'.toNat < 0x80 := by decide
        omega

end JsonShapes.Text
