import Mathlib

/-! # Paragraphs and lines

A text is cut at its double line feeds into paragraphs (`paragraphsOf`), from left to right and without
overlap, and at its line feeds into lines (`linesOf`). A text whose paragraphs are made of lines that
are not empty is cut into just these again (`paragraphsOf_intercalate`, `IsParagraph.linesOf_eq`). -/

namespace JsonShapes.Text

/-- A character put in front of the first piece. -/
def onFirst (c : Char) : List (List Char) → List (List Char)
  | [] => [[c]]
  | p :: ps => (c :: p) :: ps

/-- **The pieces between double line feeds.** -/
def paragraphs : List Char → List (List Char)
  | [] => [[]]
  | '\n' :: '\n' :: rest => [] :: paragraphs rest
  | c :: rest => onFirst c (paragraphs rest)

/-- The paragraphs of a text. -/
def paragraphsOf (s : String) : List String := (paragraphs s.toList).map String.ofList

/-- The lines of a text. -/
def linesOf (s : String) : List String := (s.split '\n').toList.map (·.copy)

/-- A text without line feeds. -/
def NoFeed (s : String) : Prop := '\n' ∉ s.toList

instance (s : String) : Decidable (NoFeed s) := inferInstanceAs (Decidable (_ ∉ _))

@[simp] theorem noFeed_append (a b : String) : NoFeed (a ++ b) ↔ NoFeed a ∧ NoFeed b := by
  rw [NoFeed, String.toList_append, List.mem_append, not_or]
  rfl

/-- **A text without control characters.** -/
def NoControl (s : String) : Prop := ∀ c ∈ s.toList, 0x20 ≤ c.toNat

theorem NoControl.noFeed {s : String} (h : NoControl s) : NoFeed s :=
  fun hmem => absurd (h _ hmem) (by decide)

/-- A character that ASCII shows. -/
def isAscii (c : Char) : Bool := 0x20 ≤ c.toNat && c.toNat < 0x7F

theorem le_of_isAscii {c : Char} (h : isAscii c = true) : 0x20 ≤ c.toNat := by
  rw [isAscii, Bool.and_eq_true, decide_eq_true_eq] at h
  exact h.1

/-- **A text that ASCII shows.** -/
def Ascii (s : String) : Prop := ∀ c ∈ s.toList, isAscii c = true

instance (s : String) : Decidable (Ascii s) := List.decidableBAll _ _

@[simp] theorem ascii_append (a b : String) : Ascii (a ++ b) ↔ Ascii a ∧ Ascii b := by
  simp only [Ascii, String.toList_append, List.forall_mem_append]

theorem Ascii.noControl {s : String} (h : Ascii s) : NoControl s := fun c hc => le_of_isAscii (h c hc)

/-- **A text of lines that are not empty**, with line feeds between them. -/
structure IsParagraph (lines : List String) (s : String) : Prop where
  ne_nil : lines ≠ []
  line : ∀ l ∈ lines, l ≠ "" ∧ NoFeed l
  eq : s = "\n".intercalate lines

theorem IsParagraph.linesOf_eq {lines : List String} {s : String} (h : IsParagraph lines s) :
    linesOf s = lines := by
  have hsplit := String.toList_split_intercalate fun l hl => (h.line l hl).2
  rw [if_neg h.ne_nil] at hsplit
  rw [linesOf, h.eq]
  exact hsplit

/-! ### Cutting at double line feeds -/

theorem paragraphs_cons {c : Char} (h : c ≠ '\n') (rest : List Char) :
    paragraphs (c :: rest) = onFirst c (paragraphs rest) := by
  rw [paragraphs]
  intro rest' hc
  exact absurd hc h

theorem paragraphs_feed {d : Char} (h : d ≠ '\n') (rest : List Char) :
    paragraphs ('\n' :: d :: rest) = onFirst '\n' (paragraphs (d :: rest)) := by
  rw [paragraphs]
  intro rest' _ hd
  exact absurd (List.cons.inj hd).1 h

theorem paragraphs_line {l rest p : List Char} {ps : List (List Char)} (h : '\n' ∉ l)
    (hrest : paragraphs rest = p :: ps) : paragraphs (l ++ rest) = (l ++ p) :: ps := by
  induction l with
  | nil => exact hrest
  | cons c l ih =>
    rw [List.mem_cons, not_or] at h
    rw [List.cons_append, paragraphs_cons (Ne.symm h.1), ih h.2, onFirst, List.cons_append]

theorem paragraphs_lines {ls : List (List Char)} {rest p : List Char} {ps : List (List Char)}
    (hne : ls ≠ []) (h : ∀ l ∈ ls, l ≠ [] ∧ '\n' ∉ l) (hrest : paragraphs rest = p :: ps) :
    paragraphs (['\n'].intercalate ls ++ rest) = (['\n'].intercalate ls ++ p) :: ps := by
  induction ls with
  | nil => exact absurd rfl hne
  | cons l ls ih =>
    have hl := h l List.mem_cons_self
    cases ls with
    | nil =>
      rw [List.intercalate_singleton]
      exact paragraphs_line hl.2 hrest
    | cons m ms =>
      have htail := ih (List.cons_ne_nil _ _) fun l' hl' => h l' (List.mem_cons_of_mem _ hl')
      -- the next line starts with another character, so its line feed is a single one
      obtain ⟨d, m', rfl⟩ := List.exists_cons_of_ne_nil (h m (by simp)).1
      have hd : d ≠ '\n' := by
        rintro rfl
        exact (h ('\n' :: m') (by simp)).2 List.mem_cons_self
      obtain ⟨tail, htail'⟩ : ∃ tail, ['\n'].intercalate ((d :: m') :: ms) = d :: tail := by
        cases ms with
        | nil => exact ⟨m', List.intercalate_singleton⟩
        | cons n ns =>
          rw [List.intercalate_cons_cons]
          exact ⟨_, rfl⟩
      have hfeed : paragraphs (['\n'] ++ (['\n'].intercalate ((d :: m') :: ms) ++ rest)) =
          (['\n'] ++ (['\n'].intercalate ((d :: m') :: ms) ++ p)) :: ps := by
        rw [htail'] at htail ⊢
        rw [List.cons_append, List.nil_append, List.cons_append, paragraphs_feed hd,
          ← List.cons_append, htail]
        rfl
      rw [List.intercalate_cons_cons]
      simpa only [List.append_assoc] using paragraphs_line hl.2 hfeed

theorem toList_isParagraph {lines : List String} {s : String} (h : IsParagraph lines s) :
    lines.map String.toList ≠ [] ∧ (∀ l ∈ lines.map String.toList, l ≠ [] ∧ '\n' ∉ l) ∧
      s.toList = ['\n'].intercalate (lines.map String.toList) := by
  refine ⟨by simpa using h.ne_nil, ?_, ?_⟩
  · rw [List.forall_mem_map]
    intro l hl
    exact ⟨by simpa using (h.line l hl).1, (h.line l hl).2⟩
  · rw [h.eq, String.toList_intercalate]
    rfl

/-- **Paragraphs with double line feeds between them are found again.** -/
theorem paragraphsOf_intercalate {blocks : List String} (hne : blocks ≠ [])
    (h : ∀ b ∈ blocks, ∃ lines, IsParagraph lines b) :
    paragraphsOf ("\n\n".intercalate blocks) = blocks := by
  have key : paragraphs (['\n', '\n'].intercalate (blocks.map String.toList)) =
      blocks.map String.toList := by
    induction blocks with
    | nil => exact absurd rfl hne
    | cons b bs ih =>
      obtain ⟨lines, hb⟩ := h b List.mem_cons_self
      obtain ⟨hlines, hline, hs⟩ := toList_isParagraph hb
      cases bs with
      | nil =>
        have hlast := paragraphs_lines hlines hline paragraphs.eq_1
        rw [← hs, List.append_nil] at hlast
        rw [List.map_singleton, List.intercalate_singleton, hlast]
      | cons b' bs =>
        have htail := ih (List.cons_ne_nil _ _) fun c hc => h c (List.mem_cons_of_mem _ hc)
        have hnext := paragraphs_lines hlines hline
          (paragraphs.eq_2 (['\n', '\n'].intercalate ((b' :: bs).map String.toList)))
        rw [← hs, List.append_nil, htail] at hnext
        rw [List.map_cons, List.map_cons, List.intercalate_cons_cons, ← List.map_cons,
          List.append_assoc]
        exact hnext
  have htext : ("\n\n".intercalate blocks).toList =
      ['\n', '\n'].intercalate (blocks.map String.toList) := by
    rw [String.toList_intercalate]
    rfl
  rw [paragraphsOf, htext, key, List.map_map]
  simp [Function.comp_def]

end JsonShapes.Text
