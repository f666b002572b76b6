import JsonShapes.Proofs.Text.UpperCase

/-! # Capitals stay as they are

The upper case of a character starts with a character that is its own upper case (`exists_capital`). The
tables are gone through run by run: what a run maps to lies apart from all that the tables take, or
alternates with it, as capital and small letters do that stand next to each other (`missesRuns`). -/

namespace JsonShapes.Text

/-! ### The tables -/

/-- Whether no run takes one of the code points `first`, `first + step`, … up to `last`. -/
def missesRuns : List CaseRun → (first last step : ℕ) → Bool
  | [], _, _, _ => true
  | run :: rest, first, last, step =>
    last.blt run.first ||
      (run.last.blt first || step.beq 2 && run.step.beq 2 && ((first + run.first) % 2).beq 1) &&
        missesRuns rest first last step

/-- Whether the upper case of these code points is not in the tables. -/
def misses (first last step : ℕ) : Bool :=
  missesRuns upperRuns first last step && upperExpansions.all fun e => last.blt e.1 || e.1.blt first

/-- Whether a run maps to code points that are not in the tables; one code point alone alternates with
every run that it is not in. -/
def staysUpper (run : CaseRun) : Bool :=
  0 ≤ run.first + run.shift &&
    misses (run.first + run.shift).toNat (run.last + run.shift).toNat
      (if run.first = run.last then 2 else run.step)

theorem tables_stay : upperRuns.all staysUpper = true ∧
    (upperExpansions.all fun e => e.2.head?.all fun n => misses n n 2) = true := by decide +kernel

/-! ### The mapping -/

theorem shiftOf_of_missesRuns {runs : List CaseRun} {first last step n : ℕ}
    (h : missesRuns runs first last step = true) (hfirst : first ≤ n) (hlast : n ≤ last)
    (hstep : (n - first) % step = 0) : shiftOf runs n = none := by
  induction runs with
  | nil => rfl
  | cons run rest ih =>
    simp only [missesRuns, Bool.or_eq_true, Bool.and_eq_true, Nat.blt_eq, Nat.beq_eq] at h
    rw [shiftOf]
    split_ifs with hbefore hin
    · rfl
    · rw [Bool.and_eq_true, decide_eq_true_eq, beq_iff_eq] at hin
      exfalso
      rcases h with hafter | ⟨hpast | ⟨⟨rfl, hrun⟩, hparity⟩, -⟩
      · omega
      · omega
      · rw [hrun] at hin
        omega
    · rcases h with hafter | ⟨-, hrest⟩
      · omega
      · exact ih hrest

theorem upperChar_of_misses {first last step : ℕ} {c : Char} (h : misses first last step = true)
    (hfirst : first ≤ c.toNat) (hlast : c.toNat ≤ last) (hstep : (c.toNat - first) % step = 0)
    (hlower : c.isLower = false) : upperChar c = [c] := by
  rw [misses, Bool.and_eq_true, List.all_eq_true] at h
  obtain ⟨hruns, hexpansions⟩ := h
  unfold upperChar
  split_ifs with hascii
  · rw [Char.toUpper_eq_of_not_isLower (Bool.eq_false_iff.mp hlower)]
  · have hnone : upperExpansions.lookup c.toNat = none := by
      rw [List.lookup_eq_none_iff]
      intro e he
      have hapart := hexpansions e he
      rw [Bool.or_eq_true, Nat.blt_eq, Nat.blt_eq] at hapart
      rw [bne_iff_ne]
      omega
    rw [mapCase, hnone, shiftOf_of_missesRuns hruns hfirst hlast hstep]

theorem stays_shift {c : Char} {shift : ℤ} (h : shiftOf upperRuns c.toNat = some shift) :
    upperChar (Char.ofNat (c.toNat + shift).toNat) = [Char.ofNat (c.toNat + shift).toNat] := by
  obtain ⟨run, hmem, hrunfirst, hrunlast, hstep, rfl⟩ := exists_run_of_shiftOf h
  obtain ⟨first, last, hfirst, hlast, hrange⟩ := exists_raisesRange
    (List.all_eq_true.mp tables_raise.1 run hmem) hrunfirst hrunlast hstep
  simp only [raisesRange, Bool.and_eq_true, decide_eq_true_eq] at hrange
  obtain ⟨⟨hpos, hplain⟩, -⟩ := hrange
  obtain ⟨hn, hlower⟩ := toNat_ofNat_of_plainRange hplain
    (n := (c.toNat + run.shift).toNat) (by omega) (by omega)
  have hstays := List.all_eq_true.mp tables_stay.1 run hmem
  rw [staysUpper, Bool.and_eq_true, decide_eq_true_eq] at hstays
  refine upperChar_of_misses hstays.2 (by omega) (by omega) ?_ hlower
  have hdiff : (c.toNat + run.shift).toNat - (run.first + run.shift).toNat = c.toNat - run.first := by
    omega
  rw [hn, hdiff]
  split_ifs with hone
  · have hzero : c.toNat - run.first = 0 := by omega
    rw [hzero]
  · exact hstep

theorem stays_expansion {c : Char} {d : ℕ} {ds : List ℕ}
    (h : upperExpansions.lookup c.toNat = some (d :: ds)) :
    upperChar (Char.ofNat d) = [Char.ofNat d] := by
  obtain ⟨before, after, heq, -⟩ := List.lookup_eq_some_iff.mp h
  have hmem : (c.toNat, d :: ds) ∈ upperExpansions := by
    rw [heq]
    exact List.mem_append_right _ List.mem_cons_self
  have hraises := List.all_eq_true.mp tables_raise.2 _ hmem
  simp only [raisesExpansion, Bool.and_eq_true] at hraises
  obtain ⟨hn, hlower⟩ := toNat_ofNat_of_plainRange hraises.1.1.2 le_rfl le_rfl
  have hstays : misses d d 2 = true := List.all_eq_true.mp tables_stay.2 _ hmem
  exact upperChar_of_misses hstays hn.ge hn.le (by rw [hn, Nat.sub_self]) hlower

theorem toNat_toUpper_lt {c : Char} (hascii : c.toNat < 0x80) : c.toUpper.toNat < 0x80 := by
  by_cases hlower : c.isLower = true
  · rw [Char.toUpper_eq_of_isLower hlower, Char.toNat_ofNat]
    split_ifs <;> omega
  · rwa [Char.toUpper_eq_of_not_isLower hlower]

/-- **The upper case of a character starts with a capital**, which is its own upper case. -/
theorem exists_capital (c : Char) : ∃ d ds, upperChar c = d :: ds ∧ upperChar d = [d] := by
  have hraised := raised_upperChar c
  by_cases hascii : c.toNat < 0x80
  · refine ⟨c.toUpper, [], if_pos hascii, ?_⟩
    rw [upperChar, if_pos (toNat_toUpper_lt hascii), Char.toUpper_toUpper_eq_toUpper]
  · have hupper : upperChar c = mapCase upperRuns upperExpansions c := if_neg hascii
    rw [mapCase] at hupper
    split at hupper
    · next several h =>
      cases several with
      | nil =>
        rw [hupper] at hraised
        cases hraised
      | cons d ds => exact ⟨_, _, hupper, stays_expansion h⟩
    · split at hupper
      · next shift h => exact ⟨_, _, hupper, stays_shift h⟩
      · exact ⟨c, [], hupper, hupper⟩

end JsonShapes.Text
