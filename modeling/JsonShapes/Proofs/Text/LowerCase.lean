import JsonShapes.Proofs.Text.UpperCase

/-! # What case mappings leave alone

The tables map to letters and marks alone, none of them below the letter `A`. So a case mapping brings no
delimiter into a text (`eq_of_mem_upperChar`, `mem_of_mem_lower`). The lower case of an ASCII text is
taken character by character (`lower_of_ascii`). -/

namespace JsonShapes.Text

/-! ### The tables -/

/-- Whether the code points from `first` to `last` are characters from `A` on. -/
def highRange (first last : ℕ) : Bool :=
  'A'.toNat ≤ first && (last < 0xD800 || 0xDFFF < first) && last < 0x110000

/-- Whether a run maps to such characters. -/
def mapsHigh (run : CaseRun) : Bool :=
  0 ≤ run.first + run.shift &&
    highRange (run.first + run.shift).toNat (run.last + run.shift).toNat

/-- Whether an expansion is made of such characters. -/
def expandsHigh (e : ℕ × List ℕ) : Bool := e.2.all fun n => highRange n n

/-- Whether an ASCII character is its own upper and lower case, or has such ones. -/
def staysHigh (c : Char) : Bool :=
  (c.toUpper == c || 'A'.toNat ≤ c.toUpper.toNat) && (c.toLower == c || 'A'.toNat ≤ c.toLower.toNat)

theorem runs_high : upperRuns.all mapsHigh = true ∧ lowerRuns.all mapsHigh = true := by
  decide +kernel

theorem expansions_high :
    upperExpansions.all expandsHigh = true ∧ lowerExpansions.all expandsHigh = true := by
  decide +kernel

theorem ascii_high : ∀ n < 0x80, staysHigh (Char.ofNat n) = true := by decide +kernel

theorem le_toNat_of_highRange {first last n : ℕ} (h : highRange first last = true)
    (hfirst : first ≤ n) (hlast : n ≤ last) : 'A'.toNat ≤ (Char.ofNat n).toNat := by
  simp only [highRange, Bool.and_eq_true, Bool.or_eq_true, decide_eq_true_eq] at h
  obtain ⟨⟨hhigh, hvalid⟩, hbound⟩ := h
  have hchar : n.isValidChar := by
    unfold Nat.isValidChar
    omega
  have hn : (Char.ofNat n).toNat = n := by rw [Char.toNat_ofNat, if_pos hchar]
  omega

/-! ### Delimiters -/

variable {c d : Char}

theorem eq_or_le_of_mem_mapCase {runs : List CaseRun} {expansions : List (ℕ × List ℕ)}
    (hruns : runs.all mapsHigh = true) (hexpansions : expansions.all expandsHigh = true)
    (h : d ∈ mapCase runs expansions c) : d = c ∨ 'A'.toNat ≤ d.toNat := by
  unfold mapCase at h
  split at h
  · next several hseveral =>
    obtain ⟨before, after, heq, -⟩ := List.lookup_eq_some_iff.mp hseveral
    have hmem : (c.toNat, several) ∈ expansions := by simp [heq]
    obtain ⟨n, hn, rfl⟩ := List.mem_map.mp h
    have hall := List.all_eq_true.mp (List.all_eq_true.mp hexpansions _ hmem) n hn
    exact .inr (le_toNat_of_highRange hall le_rfl le_rfl)
  · split at h
    · next shift hshift =>
      obtain ⟨run, hmem, hfirst, hlast, -, rfl⟩ := exists_run_of_shiftOf hshift
      have hrun := List.all_eq_true.mp hruns run hmem
      simp only [mapsHigh, Bool.and_eq_true, decide_eq_true_eq] at hrun
      obtain rfl := List.mem_singleton.mp h
      exact .inr (le_toNat_of_highRange hrun.2 (by omega) (by omega))
    · exact .inl (List.mem_singleton.mp h)

theorem forall_ascii {P : Char → Prop} (h : ∀ n < 0x80, P (Char.ofNat n)) (hc : c.toNat < 0x80) : P c :=
  forall_below h hc

theorem eq_or_le_of_ascii (hc : c.toNat < 0x80) :
    (c.toUpper = c ∨ 'A'.toNat ≤ c.toUpper.toNat) ∧
      (c.toLower = c ∨ 'A'.toNat ≤ c.toLower.toNat) := by
  have h := forall_ascii (P := fun c => staysHigh c = true) ascii_high hc
  simpa [staysHigh] using h

theorem eq_or_le_of_mem_upperChar (h : d ∈ upperChar c) : d = c ∨ 'A'.toNat ≤ d.toNat := by
  unfold upperChar at h
  split_ifs at h with hc
  · obtain rfl := List.mem_singleton.mp h
    exact (eq_or_le_of_ascii hc).1
  · exact eq_or_le_of_mem_mapCase runs_high.1 expansions_high.1 h

theorem eq_or_le_of_mem_lowerChar (h : d ∈ lowerChar c) : d = c ∨ 'A'.toNat ≤ d.toNat := by
  unfold lowerChar at h
  split_ifs at h with hc
  · obtain rfl := List.mem_singleton.mp h
    exact (eq_or_le_of_ascii hc).2
  · exact eq_or_le_of_mem_mapCase runs_high.2 expansions_high.2 h

/-- **A delimiter in an upper case is the character itself.** -/
theorem eq_of_mem_upperChar (h : d ∈ upperChar c) (hd : d.toNat < 'A'.toNat) : d = c :=
  (eq_or_le_of_mem_upperChar h).resolve_right (by omega)

theorem mem_of_mem_lower {cs : List Char} (h : d ∈ lower cs) (hd : d.toNat < 'A'.toNat) : d ∈ cs := by
  have hfrom : ∀ afterCased, d ∈ lowerFrom afterCased cs → d ∈ cs := by
    clear h
    induction cs with
    | nil => exact fun _ h => h
    | cons c rest ih =>
      intro afterCased h
      rw [lowerFrom, List.mem_append] at h
      rcases h with h | h
      · split_ifs at h with hsigma hfinal
        · obtain rfl := List.mem_singleton.mp h
          exact absurd hd (by decide)
        · obtain rfl := List.mem_singleton.mp h
          exact absurd hd (by decide)
        · have := (eq_or_le_of_mem_lowerChar h).resolve_right (by omega)
          exact this ▸ List.mem_cons_self
      · exact List.mem_cons_of_mem _ (ih _ h)
  exact hfrom false h

/-! ### ASCII -/

theorem lower_of_ascii {cs : List Char} (h : ∀ c ∈ cs, c.toNat < 0x80) :
    lower cs = cs.map Char.toLower := by
  have hfrom : ∀ afterCased, lowerFrom afterCased cs = cs.map Char.toLower := by
    induction cs with
    | nil => exact fun _ => rfl
    | cons c rest ih =>
      intro afterCased
      have hc := h c List.mem_cons_self
      have hsigma : (c == 'Σ') = false := by
        rw [beq_eq_false_iff_ne]
        rintro rfl
        exact absurd hc (by decide)
      rw [lowerFrom, ih fun d hd => h d (List.mem_cons_of_mem _ hd), hsigma, lowerChar, if_pos hc]
      rfl
  exact hfrom false

theorem eq_of_toLower_eq (hc : c.toNat < 0x80) (hd : d.toNat < 'A'.toNat) (h : c.toLower = d) :
    c = d := by
  rcases (eq_or_le_of_ascii hc).2 with heq | hle
  · exact heq.symm.trans h
  · rw [h] at hle
    omega

theorem notMem_map_toLower {cs : List Char} (hascii : ∀ c ∈ cs, c.toNat < 0x80)
    (hd : d.toNat < 'A'.toNat) (h : d ∉ cs) : d ∉ cs.map Char.toLower := by
  intro hmem
  obtain ⟨c, hc, hlower⟩ := List.mem_map.mp hmem
  exact h (eq_of_toLower_eq (hascii c hc) hd hlower ▸ hc)

end JsonShapes.Text
