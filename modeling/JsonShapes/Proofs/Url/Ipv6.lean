import JsonShapes.Proofs.Url.DottedQuad

/-! # Spellings of IPv6 addresses

One address of eight words has many spellings (`Form`): a word has one to four hexadecimal digits in
either case, a run of zeros may be left out for a double colon, and the last two words may be a dotted
quad. Every spelling may stand in brackets (`Form.isBracketable`). -/

namespace JsonShapes.Url

open Text

/-! ### Words -/

/-- The value of a hexadecimal digit in either case. -/
def hexValue (c : Char) : ℕ :=
  if c.isDigit then c.toNat - '0'.toNat else c.toLower.toNat - 'a'.toNat + 10

/-- **The word that a hextet spells.** -/
def wordOf (p : List Char) : ℕ := p.foldl (fun n c => n * 16 + hexValue c) 0

/-- The words of a dotted quad. -/
def Quad.words (q : Quad) : List ℕ := [q.first * 256 + q.second, q.third * 256 + q.fourth]

/-- **Parts that spell words**: hextets, and perhaps a dotted quad behind them. -/
inductive Spells : List (List Char) → List ℕ → Prop
  | hextets {ps : List (List Char)} (h : ∀ p ∈ ps, isHextet p = true) : Spells ps (ps.map wordOf)
  | quad {ps : List (List Char)} (h : ∀ p ∈ ps, isHextet p = true) (q : Quad) :
      Spells (ps ++ [q.text]) (ps.map wordOf ++ q.words)

/-- **A spelling of an address**: all of its words between colons, or a double colon for one zero at
least. -/
inductive Form : List Char → List ℕ → Prop
  | full {ps : List (List Char)} {ws : List ℕ} (h : Spells ps ws) (hall : ws.length = 8) :
      Form (join [':'] ps) ws
  | compressed {before behind : List (List Char)} {ws : List ℕ} (hbefore : ∀ p ∈ before, isHextet p = true)
      (hbehind : Spells behind ws) (hgap : before.length + ws.length ≤ 7) :
      Form (join [':'] before ++ "::".toList ++ join [':'] behind)
        (before.map wordOf ++ List.replicate (8 - (before.length + ws.length)) 0 ++ ws)

variable {p form : List Char} {ps : List (List Char)} {ws : List ℕ} {c : Char}

theorem isAlphanum_of_isHexDigit (h : isHexDigit c = true) : c.isAlphanum = true := by
  simp only [isHexDigit, Bool.or_eq_true, Bool.and_eq_true, decide_eq_true_eq, Char.le_def,
    UInt32.le_iff_toNat_le] at h
  simp only [Char.isAlphanum, Char.isAlpha, Char.isUpper, Char.isLower, Bool.or_eq_true,
    Bool.and_eq_true, decide_eq_true_eq, ge_iff_le, UInt32.le_iff_toNat_le]
  have hlower : 'f'.val.toNat ≤ 'z'.val.toNat := by decide
  have hupper : 'F'.val.toNat ≤ 'Z'.val.toNat := by decide
  rcases h with (h | h) | h
  · exact .inr h
  · exact .inl (.inr ⟨h.1, h.2.trans hlower⟩)
  · exact .inl (.inl ⟨h.1, h.2.trans hupper⟩)

theorem isHexDigit_of_mem (h : isHextet p = true) (hc : c ∈ p) : isHexDigit c = true := by
  simp only [isHextet, Bool.and_eq_true, List.all_eq_true] at h
  exact h.2 c hc

theorem notMem_of_isHextet (h : isHextet p = true) (hc : isHexDigit c = false) : c ∉ p := by
  intro hmem
  rw [isHexDigit_of_mem h hmem] at hc
  cases hc

/-- The last two words of zero stand for a quad. -/
theorem isHextet_zero : isHextet ['0'] = true := by decide

/-! ### Sides of a double colon -/

/-- A side of a double colon with its number of words. -/
def IsSide (side : List (List Char)) (n : ℕ) : Prop :=
  (side = [[]] ∧ n = 0) ∨ (side ≠ [] ∧ (∀ p ∈ side, isHextet p = true) ∧ n = side.length)

theorem IsSide.ne_nil {side : List (List Char)} {n : ℕ} (h : IsSide side n) : side ≠ [] := by
  rcases h with ⟨rfl, -⟩ | ⟨hne, -⟩
  · exact List.cons_ne_nil _ _
  · exact hne

theorem sideLength_of_isSide {side : List (List Char)} {n : ℕ} (h : IsSide side n) :
    sideLength side = some n := by
  rcases h with ⟨rfl, rfl⟩ | ⟨hne, hall, rfl⟩
  · rfl
  · have hside : ¬ (side == [[]]) = true := by
      rw [beq_iff_eq]
      rintro rfl
      exact absurd (hall [] List.mem_cons_self) (by decide)
    rw [sideLength, if_neg hside, if_pos (List.all_eq_true.mpr hall)]

theorem nil_notMem_tail {side : List (List Char)} {n : ℕ} (h : IsSide side n) : [] ∉ side.tail := by
  rcases h with ⟨rfl, -⟩ | ⟨-, hall, -⟩
  · exact List.not_mem_nil
  · exact fun hmem => absurd (hall [] (List.mem_of_mem_tail hmem)) (by decide)

theorem nil_notMem_dropLast {side : List (List Char)} {n : ℕ} (h : IsSide side n) :
    [] ∉ side.dropLast := by
  rcases h with ⟨rfl, -⟩ | ⟨-, hall, -⟩
  · exact List.not_mem_nil
  · exact fun hmem => absurd (hall [] (List.mem_of_mem_dropLast hmem)) (by decide)

/-- **A double colon between two short sides** stands for zeros. -/
theorem areHextets_sides {before behind : List (List Char)} {m n : ℕ} (hbefore : IsSide before m)
    (hbehind : IsSide behind n) (hgap : m + n ≤ 7) : areHextets (before ++ [] :: behind) = true := by
  have hinner : ((before ++ [] :: behind).drop 1).dropLast = before.tail ++ [] :: behind.dropLast := by
    obtain ⟨p, rest, rfl⟩ := List.exists_cons_of_ne_nil hbefore.ne_nil
    rw [List.cons_append, List.drop_one, List.tail_cons, List.tail_cons,
      List.dropLast_append_of_ne_nil (List.cons_ne_nil _ _),
      List.dropLast_cons_of_ne_nil hbehind.ne_nil]
  have hcount : (before.tail ++ [] :: behind.dropLast).count [] = 1 := by
    rw [List.count_append, List.count_cons_self, List.count_eq_zero_of_not_mem (nil_notMem_tail hbefore),
      List.count_eq_zero_of_not_mem (nil_notMem_dropLast hbehind)]
  have hgapAt : (before.tail ++ [] :: behind.dropLast).idxOf [] + 1 = before.length := by
    have := List.length_pos_of_ne_nil hbefore.ne_nil
    rw [List.idxOf_append_of_notMem (nil_notMem_tail hbefore), List.idxOf_cons_self, List.length_tail]
    omega
  have hdrop : (before ++ [] :: behind).drop (before.length + 1) = behind := by
    rw [← List.drop_drop, List.drop_left]
    rfl
  simp only [areHextets, hinner, hcount, hgapAt, hdrop, List.take_left, sideLength_of_isSide hbefore,
    sideLength_of_isSide hbehind, decide_eq_true_eq]
  exact hgap

theorem areHextets_eight (h : ∀ p ∈ ps, isHextet p = true) (hall : ps.length = 8) :
    areHextets ps = true := by
  have hnil : [] ∉ (ps.drop 1).dropLast := by
    intro hmem
    have := h [] (List.mem_of_mem_drop (List.mem_of_mem_dropLast hmem))
    exact absurd this (by decide)
  simp only [areHextets, List.count_eq_zero_of_not_mem hnil, hall, Bool.and_eq_true, beq_self_eq_true,
    true_and]
  exact List.all_eq_true.mpr h

/-! ### The parts of a spelling -/

theorem Spells.length_bounds (h : Spells ps ws) : ps.length ≤ ws.length ∧ ws.length ≤ ps.length + 1 := by
  cases h with
  | hextets h => simp
  | quad h q => simp [Quad.words]

theorem Spells.of_mem (h : Spells ps ws) (hp : p ∈ ps) (hc : c ∈ p) : isHexDigit c = true ∨ c = '.' := by
  cases h with
  | hextets h => exact .inl (isHexDigit_of_mem (h p hp) hc)
  | quad h q =>
    rcases List.mem_append.mp hp with hp | hp
    · exact .inl (isHexDigit_of_mem (h p hp) hc)
    · obtain rfl := List.mem_singleton.mp hp
      rcases q.of_mem_text hc with hdigit | hpoint
      · exact .inl (by simp [isHexDigit, hdigit])
      · exact .inr hpoint

theorem Spells.colon_notMem (h : Spells ps ws) (hp : p ∈ ps) : ':' ∉ p := by
  intro hmem
  rcases h.of_mem hp hmem with h | h
  · exact absurd h (by decide)
  · exact absurd h (by decide)

theorem colonParts_of_pieces {cs last : List Char} {front : List (List Char)}
    (hpieces : pieces ':' cs = front ++ [last]) (hlong : 2 ≤ front.length) :
    colonParts cs =
      if last.contains '.' then if isDotted last then some (front ++ [['0'], ['0']]) else none
      else some (front ++ [last]) := by
  have hshort : ¬ (front ++ [last]).length < 3 := by
    rw [List.length_append, List.length_singleton]
    omega
  simp only [colonParts, hpieces, hshort, if_false, List.getLastD_concat, List.dropLast_concat]

/-- **The parts of a text that ends in a spelling**, one hextet for each word. -/
theorem colonParts_of_spells {cs : List Char} {front : List (List Char)} (h : Spells ps ws)
    (hpieces : pieces ':' cs = front ++ ps) (hne : ps ≠ []) (hlong : 3 ≤ front.length + ps.length) :
    ∃ parts, colonParts cs = some (front ++ parts) ∧ (∀ p ∈ parts, isHextet p = true) ∧
      parts.length = ws.length := by
  cases h with
  | hextets h =>
    obtain ⟨init, last, rfl⟩ := (List.eq_nil_or_concat ps).resolve_left hne
    rw [List.concat_eq_append] at *
    have hpoint : last.contains '.' = false := by
      rw [← Bool.not_eq_true, List.contains_iff_mem]
      exact notMem_of_isHextet (h last (by simp)) (by decide)
    rw [← List.append_assoc] at hpieces
    rw [List.length_append, List.length_singleton] at hlong
    have hparts := colonParts_of_pieces hpieces (by rw [List.length_append]; omega)
    rw [hpoint, if_neg Bool.false_ne_true, List.append_assoc] at hparts
    exact ⟨init ++ [last], hparts, h, by simp⟩
  | @quad init h q =>
    have hpoint : q.text.contains '.' = true := by
      rw [List.contains_iff_mem, q.text_eq]
      simp
    rw [← List.append_assoc] at hpieces
    rw [List.length_append, List.length_singleton] at hlong
    have hparts := colonParts_of_pieces hpieces (by rw [List.length_append]; omega)
    rw [hpoint, q.isDotted_text, if_pos rfl, if_pos rfl, List.append_assoc] at hparts
    refine ⟨init ++ [['0'], ['0']], hparts, ?_, by simp [Quad.words]⟩
    intro p hp
    rcases List.mem_append.mp hp with hp | hp
    · exact h p hp
    · obtain rfl : p = ['0'] := by simpa using hp
      exact isHextet_zero

/-! ### Spellings are addresses -/

theorem Spells.of_mem_join (h : Spells ps ws) (hc : c ∈ join [':'] ps) :
    isHexDigit c = true ∨ c = '.' ∨ c = ':' := by
  rcases mem_of_mem_join hc with hc | ⟨p, hp, hc⟩
  · exact .inr (.inr hc)
  · have := h.of_mem hp hc
    tauto

theorem Form.of_mem (h : Form form ws) (hc : c ∈ form) : isHexDigit c = true ∨ c = '.' ∨ c = ':' := by
  cases h with
  | full h _ => exact h.of_mem_join hc
  | compressed hbefore hbehind _ =>
    rw [List.mem_append, List.mem_append] at hc
    rcases hc with (hc | hc) | hc
    · exact (Spells.hextets hbefore).of_mem_join hc
    · exact .inr (.inr (by simpa using hc))
    · exact hbehind.of_mem_join hc

theorem Form.notMem (h : Form form ws) (hc : isHexDigit c = false) (hpoint : c ≠ '.')
    (hcolon : c ≠ ':') : c ∉ form := by
  intro hmem
  rcases h.of_mem hmem with h | h | h
  · rw [hc] at h
    cases h
  · exact hpoint h
  · exact hcolon h

theorem isSide_pieces (h : ∀ p ∈ ps, isHextet p = true) :
    IsSide (pieces ':' (join [':'] ps)) ps.length := by
  by_cases hne : ps = []
  · subst hne
    exact .inl ⟨rfl, rfl⟩
  · rw [pieces_join hne fun p hp => notMem_of_isHextet (h p hp) (by decide)]
    exact .inr ⟨hne, h, rfl⟩

theorem Form.exists_parts (h : Form form ws) :
    ∃ parts, colonParts form = some parts ∧ areHextets parts = true := by
  cases h with
  | @full ps _ h hall =>
    have hlong : 3 ≤ ps.length := by
      have := h.length_bounds
      omega
    have hne : ps ≠ [] := by
      rintro rfl
      exact absurd hlong (by decide)
    have hpieces : pieces ':' (join [':'] ps) = [] ++ ps := pieces_join hne fun p hp => h.colon_notMem hp
    obtain ⟨parts, hparts, hhex, hlength⟩ := colonParts_of_spells h hpieces hne (by simpa using hlong)
    exact ⟨parts, hparts, areHextets_eight hhex (hlength.trans hall)⟩
  | @compressed before behind ws hbefore hbehind hgap =>
    have hside := isSide_pieces hbefore
    generalize hfront : pieces ':' (join [':'] before) = front at hside
    have hpieces : pieces ':' (join [':'] before ++ "::".toList ++ join [':'] behind) =
        front ++ [[]] ++ pieces ':' (join [':'] behind) := by
      have hcolons : join [':'] before ++ "::".toList ++ join [':'] behind =
          join [':'] before ++ ':' :: ([] ++ ':' :: join [':'] behind) := by simp
      rw [hcolons, pieces_append, pieces_append, hfront, List.append_assoc]
      rfl
    have hfrontLong := List.length_pos_of_ne_nil hside.ne_nil
    by_cases hne : behind = []
    · subst hne
      have hparts := colonParts_of_pieces hpieces
        (by rw [List.length_append, List.length_singleton]; omega)
      refine ⟨front ++ [] :: [[]], by simpa using hparts, ?_⟩
      exact areHextets_sides hside (.inl ⟨rfl, rfl⟩) (by omega)
    · rw [pieces_join hne fun p hp => hbehind.colon_notMem hp] at hpieces
      have hbehindLong := List.length_pos_of_ne_nil hne
      obtain ⟨parts, hparts, hhex, hlength⟩ := colonParts_of_spells hbehind hpieces hne
        (by rw [List.length_append, List.length_singleton]; omega)
      refine ⟨front ++ [] :: parts, by simpa using hparts, ?_⟩
      have hpartsNe : parts ≠ [] := by
        rw [← List.length_pos_iff]
        have := hbehind.length_bounds
        omega
      exact areHextets_sides hside (.inr ⟨hpartsNe, hhex, rfl⟩) (by omega)

theorem Form.isBracketable (h : Form form ws) : isBracketable form = true := by
  obtain ⟨parts, hparts, hhextets⟩ := h.exists_parts
  have hlater : ¬ (form.head? == some 'v') = true := by
    rw [beq_iff_eq]
    intro hhead
    exact h.notMem (by decide) (by decide) (by decide) (List.mem_of_head? hhead)
  have hzone : '%' ∉ form := h.notMem (by decide) (by decide) (by decide)
  rw [Url.isBracketable, if_neg hlater, isIpv6, cut_of_notMem hzone]
  simp [hparts, hhextets]

end JsonShapes.Url
