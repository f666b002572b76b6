import JsonShapes.Text.Words
import Mathlib

/-! # Where texts are cut

A text is cut at its first mark or behind its last one (`cut_append`, `afterLast_append`), and into the
pieces between its marks (`pieces_append`). Texts without the mark are found again when they were joined
by it (`pieces_join`). What is dropped at the end of a text is all of a class, and what is left does not end
with it (`exists_dropEnd`); so a trimmed text is the only one without blanks at its ends that has only
blanks around it (`trim_eq_iff`). -/

namespace JsonShapes.Text

variable {mark : Char} {cs : List Char}

theorem cut_of_notMem (h : mark ∉ cs) : cut mark cs = (cs, none) := by
  induction cs with
  | nil => rfl
  | cons c rest ih =>
    simp only [List.mem_cons, not_or] at h
    simp [cut, Ne.symm h.1, ih h.2]

theorem cut_append (h : mark ∉ cs) (rest : List Char) :
    cut mark (cs ++ mark :: rest) = (cs, some rest) := by
  induction cs with
  | nil => simp [cut]
  | cons c cs ih =>
    simp only [List.mem_cons, not_or] at h
    simp [cut, Ne.symm h.1, ih h.2]

theorem cut_eq_some_iff {before behind : List Char} :
    cut mark cs = (before, some behind) ↔ mark ∉ before ∧ cs = before ++ mark :: behind := by
  constructor
  · intro h
    induction cs generalizing before with
    | nil => cases h
    | cons c rest ih =>
      unfold cut at h
      split_ifs at h with hc
      · cases h
        rw [beq_iff_eq.mp hc]
        exact ⟨List.not_mem_nil, rfl⟩
      · obtain ⟨hbefore, hbehind⟩ := Prod.mk.inj h
        obtain ⟨hmark, hrest⟩ := ih (Prod.ext rfl hbehind)
        rw [← hbefore, List.mem_cons, not_or]
        exact ⟨⟨fun heq => hc (beq_iff_eq.mpr heq.symm), hmark⟩, by rw [List.cons_append, ← hrest]⟩
  · rintro ⟨hmark, rfl⟩
    exact cut_append hmark behind

theorem fst_cut_append (h : mark ∉ cs) (rest : List Char) :
    (cut mark (cs ++ rest)).1 = cs ++ (cut mark rest).1 := by
  induction cs with
  | nil => rfl
  | cons c cs ih =>
    simp only [List.mem_cons, not_or] at h
    simp [cut, Ne.symm h.1, ih h.2]

/-- **Texts are equal up to their first mark**, and behind it. -/
theorem append_mark_inj {a b s t : List Char} (ha : mark ∉ a) (hb : mark ∉ b) :
    a ++ mark :: s = b ++ mark :: t ↔ a = b ∧ s = t := by
  constructor
  · intro h
    have hcut := congrArg (cut mark) h
    rw [cut_append ha, cut_append hb, Prod.mk.injEq, Option.some.injEq] at hcut
    exact hcut
  · rintro ⟨rfl, rfl⟩
    rfl

theorem prefix_of_notMem {p rest : List Char} (h : mark ∉ p) (hp : p <+: cs ++ mark :: rest) :
    p <+: cs := by
  have hcs : cs ++ [mark] <+: cs ++ mark :: rest := ⟨rest, by simp⟩
  rcases List.prefix_or_prefix_of_prefix hp hcs with hbegins | hbegins
  · rcases List.prefix_concat_iff.mp hbegins with rfl | hbegins
    · exact absurd (by simp) h
    · exact hbegins
  · exact absurd (hbegins.subset (by simp)) h

theorem afterLast_of_notMem (h : mark ∉ cs) : afterLast mark cs = cs := by
  have hall : cs.reverse.takeWhile (· != mark) = cs.reverse := by
    rw [List.takeWhile_eq_self_iff]
    intro c hc
    rw [bne_iff_ne]
    rintro rfl
    exact h (List.mem_reverse.mp hc)
  rw [afterLast, hall, List.reverse_reverse]

theorem afterLast_append {rest : List Char} (h : mark ∉ rest) (cs : List Char) :
    afterLast mark (cs ++ mark :: rest) = rest := by
  have hall : ∀ c ∈ rest.reverse, (c != mark) = true := by
    intro c hc
    rw [bne_iff_ne]
    rintro rfl
    exact h (List.mem_reverse.mp hc)
  have hrev : (cs ++ mark :: rest).reverse = rest.reverse ++ mark :: cs.reverse := by simp
  rw [afterLast, hrev, List.takeWhile_append_of_pos hall, List.takeWhile_cons_of_neg (by simp),
    List.append_nil, List.reverse_reverse]

theorem uptoLast_append_afterLast (mark : Char) (cs : List Char) :
    uptoLast mark cs ++ afterLast mark cs = cs := by
  rw [uptoLast, afterLast, ← List.reverse_append, List.takeWhile_append_dropWhile,
    List.reverse_reverse]

theorem uptoLast_append {rest : List Char} (h : mark ∉ rest) (cs : List Char) :
    uptoLast mark (cs ++ mark :: rest) = cs ++ [mark] := by
  have hcut := uptoLast_append_afterLast mark (cs ++ mark :: rest)
  rw [afterLast_append h] at hcut
  exact List.append_cancel_right (hcut.trans (List.append_cons _ _ _))

theorem mark_notMem_afterLast (mark : Char) (cs : List Char) : mark ∉ afterLast mark cs := by
  rw [afterLast, List.mem_reverse]
  intro hmem
  simpa using List.mem_takeWhile_imp hmem

theorem getLast?_uptoLast (mark : Char) (cs : List Char) :
    ∀ c ∈ (uptoLast mark cs).getLast?, c = mark := by
  intro c hc
  rw [uptoLast, List.getLast?_reverse] at hc
  have hstop := List.head?_dropWhile_not (· != mark) cs.reverse
  rw [Option.mem_def.mp hc] at hstop
  simpa using hstop

/-! ### Ends -/

theorem exists_dropEnd (p : Char → Bool) (cs : List Char) : ∃ back, cs = dropEnd p cs ++ back ∧
    (∀ c ∈ back, p c = true) ∧ ∀ c ∈ (dropEnd p cs).getLast?, p c = false := by
  refine ⟨(cs.reverse.takeWhile p).reverse, ?_, fun c hc => ?_, fun c hc => ?_⟩
  · rw [dropEnd, ← List.reverse_append, List.takeWhile_append_dropWhile, List.reverse_reverse]
  · exact List.mem_takeWhile_imp (List.mem_reverse.mp hc)
  · rw [dropEnd, List.getLast?_reverse] at hc
    have hstop := List.head?_dropWhile_not p cs.reverse
    rw [Option.mem_def.mp hc] at hstop
    exact hstop

theorem mem_dropEnd {p : Char → Bool} {c : Char} {cs : List Char} (h : c ∈ cs)
    (hc : p c = false) : c ∈ dropEnd p cs := by
  obtain ⟨back, hcut, hback, -⟩ := exists_dropEnd p cs
  rw [hcut, List.mem_append] at h
  refine h.resolve_right fun hdropped => ?_
  exact Bool.false_ne_true (hc.symm.trans (hback c hdropped))

theorem dropEnd_concat (p : Char → Bool) (cs : List Char) (c : Char) :
    dropEnd p (cs ++ [c]) = if p c then dropEnd p cs else cs ++ [c] := by
  rw [dropEnd, List.reverse_concat, List.dropWhile_cons]
  split
  · rfl
  · simp

theorem dropEnd_of_getLast? {p : Char → Bool} {cs : List Char} (h : ∀ c ∈ cs.getLast?, p c = false) :
    dropEnd p cs = cs := by
  rcases List.eq_nil_or_concat cs with rfl | ⟨front, last, rfl⟩
  · rfl
  · rw [List.concat_eq_append, List.getLast?_concat] at h
    rw [List.concat_eq_append, dropEnd_concat, h last rfl, if_neg Bool.false_ne_true]

theorem dropEnd_append {p : Char → Bool} {back : List Char} (h : ∀ c ∈ back, p c = true)
    (cs : List Char) : dropEnd p (cs ++ back) = dropEnd p cs := by
  rw [dropEnd, List.reverse_append, List.dropWhile_append_of_pos, dropEnd]
  intro c hc
  exact h c (List.mem_reverse.mp hc)

/-! ### Blanks -/

/-- **A text without blanks at its ends.** -/
def IsStripped (cs : List Char) : Prop :=
  (∀ c ∈ cs.head?, isBlank c = false) ∧ ∀ c ∈ cs.getLast?, isBlank c = false

theorem isStripped_nil : IsStripped [] := ⟨nofun, nofun⟩

theorem isStripped_of_ends {cs : List Char} {c d : Char} (hfirst : cs.head? = some c)
    (hlast : cs.getLast? = some d) (hc : isBlank c = false) (hd : isBlank d = false) : IsStripped cs := by
  constructor
  · intro a ha
    rw [hfirst, Option.mem_some_iff] at ha
    rw [← ha, hc]
  · intro a ha
    rw [hlast, Option.mem_some_iff] at ha
    rw [← ha, hd]

/-- **A text is stripped**: it has only blanks around what is left. -/
def Strips (cs core : List Char) : Prop :=
  IsStripped core ∧ ∃ front back, cs = front ++ core ++ back ∧ (∀ c ∈ front, isBlank c = true) ∧
    ∀ c ∈ back, isBlank c = true

theorem strips_trim (cs : List Char) : Strips cs (trim cs) := by
  obtain ⟨back, hcut, hback, hlast⟩ := exists_dropEnd isBlank (cs.dropWhile isBlank)
  have hhead : ∀ c ∈ (trim cs).head?, isBlank c = false := by
    intro c hc
    have hstop := List.head?_dropWhile_not isBlank cs
    rw [hcut, List.head?_append, ← trim, Option.mem_def.mp hc] at hstop
    exact hstop
  refine ⟨⟨hhead, hlast⟩, cs.takeWhile isBlank, back, ?_, fun c hc => List.mem_takeWhile_imp hc, hback⟩
  rw [List.append_assoc, trim, ← hcut, List.takeWhile_append_dropWhile]

theorem trim_eq_iff {cs core : List Char} : trim cs = core ↔ Strips cs core := by
  constructor
  · rintro rfl
    exact strips_trim cs
  · rintro ⟨⟨hhead, hlast⟩, front, back, rfl, hfront, hback⟩
    rw [List.append_assoc, trim, List.dropWhile_append_of_pos hfront]
    cases core with
    | nil =>
      rw [List.nil_append, List.dropWhile_eq_nil_iff.mpr hback]
      rfl
    | cons c rest =>
      rw [List.cons_append, List.dropWhile_cons_of_neg (by simp [hhead c rfl]), ← List.cons_append,
        dropEnd_append hback, dropEnd_of_getLast? hlast]

/-! ### Pieces -/

theorem pieces_ne_nil (mark : Char) (cs : List Char) : pieces mark cs ≠ [] := by
  cases cs with
  | nil => exact List.cons_ne_nil _ _
  | cons c rest =>
    unfold pieces
    split
    · exact List.cons_ne_nil _ _
    · split <;> exact List.cons_ne_nil _ _

/-- **A mark ends a piece**, and another one starts behind it. -/
theorem pieces_append (mark : Char) (cs rest : List Char) :
    pieces mark (cs ++ mark :: rest) = pieces mark cs ++ pieces mark rest := by
  induction cs with
  | nil => simp [pieces]
  | cons c cs ih =>
    rw [List.cons_append, pieces, pieces, ih]
    by_cases hc : (c == mark) = true
    · rw [if_pos hc, if_pos hc, List.cons_append]
    · rw [if_neg hc, if_neg hc]
      obtain ⟨p, ps, hps⟩ := List.exists_cons_of_ne_nil (pieces_ne_nil mark cs)
      rw [hps]
      rfl

theorem flatten_pieces (mark : Char) (cs : List Char) :
    (pieces mark cs).flatten = cs.filter (· != mark) := by
  induction cs with
  | nil => rfl
  | cons c rest ih =>
    rw [pieces]
    by_cases hc : (c == mark) = true
    · rw [if_pos hc, List.flatten_cons, ih, List.nil_append, List.filter_cons_of_neg (by simpa using hc)]
    · obtain ⟨p, ps, hps⟩ := List.exists_cons_of_ne_nil (pieces_ne_nil mark rest)
      rw [if_neg hc, List.filter_cons_of_pos (by simpa using hc), ← ih, hps]
      rfl

theorem mark_notMem_of_mem_pieces {p : List Char} (h : p ∈ pieces mark cs) : mark ∉ p := by
  intro hmem
  have hflat : mark ∈ (pieces mark cs).flatten := List.mem_flatten.mpr ⟨p, h, hmem⟩
  rw [flatten_pieces, List.mem_filter] at hflat
  simp at hflat

theorem pieces_of_notMem (h : mark ∉ cs) : pieces mark cs = [cs] := by
  induction cs with
  | nil => rfl
  | cons c rest ih =>
    simp only [List.mem_cons, not_or] at h
    simp [pieces, Ne.symm h.1, ih h.2]

/-- **Joined texts are found again**, one at least and none with the mark. -/
theorem pieces_join {ps : List (List Char)} (hne : ps ≠ []) (h : ∀ p ∈ ps, mark ∉ p) :
    pieces mark (join [mark] ps) = ps := by
  induction ps with
  | nil => exact absurd rfl hne
  | cons p ps ih =>
    have hp := pieces_of_notMem (h p List.mem_cons_self)
    cases ps with
    | nil => rw [join, hp]
    | cons q qs =>
      have hrest := ih (List.cons_ne_nil _ _) fun r hr => h r (List.mem_cons_of_mem _ hr)
      rw [join, List.append_assoc, List.singleton_append, pieces_append, hp, hrest]
      · rfl
      · exact List.cons_ne_nil _ _

theorem mem_of_mem_join {ps : List (List Char)} {c : Char} (h : c ∈ join [mark] ps) :
    c = mark ∨ ∃ p ∈ ps, c ∈ p := by
  induction ps with
  | nil => exact absurd h List.not_mem_nil
  | cons p rest ih =>
    cases rest with
    | nil => exact .inr ⟨p, List.mem_cons_self, h⟩
    | cons q rest =>
      rw [join, List.append_assoc, List.mem_append, List.mem_append] at h
      · rcases h with h | h | h
        · exact .inr ⟨p, List.mem_cons_self, h⟩
        · exact .inl (List.mem_singleton.mp h)
        · rcases ih h with h | ⟨r, hr, hc⟩
          · exact .inl h
          · exact .inr ⟨r, List.mem_cons_of_mem _ hr, hc⟩
      · exact List.cons_ne_nil _ _

end JsonShapes.Text
