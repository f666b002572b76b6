import JsonShapes.Proofs.Naming.TypeName
import JsonShapes.Proofs.Text.Capitals

/-! # Type names of type names

A type name is made of words that were put together, and its own type name is the same unless it comes
apart into several words again. That happens at a letter whose upper case is written with a combining
mark, as the caron of `ǰ`: a mark separates words (`fallsApart`). A type name is its own type name just
when no word of its hint starts with such a letter (`typeName_idempotent_iff`). -/

namespace JsonShapes

namespace Text

/-- **A word goes on up to the next separator.** -/
theorem words_of_not_separator {p : Char → Bool} {c : Char} (h : p c = false) (rest : List Char) :
    words p (c :: rest) =
      (c :: rest.takeWhile fun d => !p d) :: words p (rest.dropWhile fun d => !p d) := by
  induction rest generalizing c with
  | nil => simp [words, h]
  | cons d rest ih =>
    cases hd : p d with
    | true =>
      rw [List.takeWhile_cons_of_neg (by simp [hd]), List.dropWhile_cons_of_neg (by simp [hd])]
      rw [words.eq_def]
      cases hw : words p (d :: rest) <;> simp [h, hd, hw]
    | false =>
      rw [List.takeWhile_cons_of_pos (by simp [hd]), List.dropWhile_cons_of_pos (by simp [hd]),
        words.eq_def]
      simp [h, hd, ih hd]

end Text

namespace Naming

open Text

/-- The first letters of the words of a hint. -/
def initials (hint : String) : List Char := (words separatesHint hint.toList).filterMap List.head?

/-- **Whether the upper case of a letter is more than one word.** -/
def fallsApart (c : Char) : Bool := (upperChar c).any separatesHint

/-- What is put together from words starts with a capital, if with anything. -/
theorem hintChars_cases (cs : List Char) :
    hintChars cs = [] ∨
      ∃ d ds, hintChars cs = d :: ds ∧ separatesHint d = false ∧ upperChar d = [d] := by
  cases hw : words separatesHint cs with
  | nil => exact Or.inl (by rw [hintChars, hw]; rfl)
  | cons w ws =>
    have hmem : w ∈ words separatesHint cs := hw ▸ List.mem_cons_self
    obtain ⟨c, rest, rfl⟩ := List.exists_cons_of_ne_nil (ne_nil_of_mem_words hmem)
    obtain ⟨d, ds, hupper, hd, -⟩ :=
      exists_head_upperChar (not_separatesHint_of_mem_words hmem c List.mem_cons_self)
    obtain ⟨d', ds', hupper', hcapital⟩ := exists_capital c
    obtain rfl : d = d' := by
      rw [hupper] at hupper'
      exact (List.cons.inj hupper').1
    refine Or.inr ⟨d, ds ++ rest ++ ws.flatMap capitalizeChars, ?_, hd, hcapital⟩
    rw [hintChars, hw, List.flatMap_cons, capitalizeChars, hupper]
    rfl

theorem hintChars_capital {d : Char} (hd : separatesHint d = false) (hcapital : upperChar d = [d])
    (ds : List Char) :
    hintChars (d :: ds) =
      d :: (ds.takeWhile (fun c => !separatesHint c) ++
        hintChars (ds.dropWhile fun c => !separatesHint c)) := by
  rw [hintChars, words_of_not_separator hd, List.flatMap_cons, capitalizeChars, hcapital]
  rfl

/-- **What starts with a capital stays as it is just when it is one word.** Behind a first word that
ends, the rest starts with a separator, and what is made of it does not. -/
theorem hintChars_capital_eq_iff {d : Char} (hd : separatesHint d = false)
    (hcapital : upperChar d = [d]) (ds : List Char) :
    hintChars (d :: ds) = d :: ds ↔ ∀ c ∈ ds, separatesHint c = false := by
  rw [hintChars_capital hd hcapital, List.cons.injEq, and_iff_right rfl]
  have hsplit := List.takeWhile_append_dropWhile (p := fun c => !separatesHint c) (l := ds)
  constructor
  · intro h
    have hrest : hintChars (ds.dropWhile fun c => !separatesHint c) =
        ds.dropWhile fun c => !separatesHint c :=
      List.append_cancel_left (h.trans hsplit.symm)
    have hnil : (ds.dropWhile fun c => !separatesHint c) = [] := by
      rcases hintChars_cases (ds.dropWhile fun c => !separatesHint c) with hnil | ⟨e, es, he, hsep, -⟩
      · exact hrest.symm.trans hnil
      · have hfirst := List.head?_dropWhile_not (fun c => !separatesHint c) ds
        rw [hrest.symm.trans he, List.head?_cons] at hfirst
        simp [hsep] at hfirst
    simpa [List.dropWhile_eq_nil_iff] using hnil
  · intro h
    have hall : ∀ c ∈ ds, (!separatesHint c) = true := fun c hc => by simp [h c hc]
    rw [List.takeWhile_eq_self_iff.mpr hall, List.dropWhile_eq_nil_iff.mpr hall]
    exact List.append_nil ds

theorem forall_hintChars_iff (hint : String) :
    (∀ d ∈ hintChars hint.toList, separatesHint d = false) ↔
      ∀ c ∈ initials hint, fallsApart c = false := by
  have hword : ∀ w ∈ words separatesHint hint.toList,
      ((∀ d ∈ capitalizeChars w, separatesHint d = false) ↔ ∀ c ∈ w.head?, fallsApart c = false) := by
    intro w hw
    obtain ⟨c, rest, rfl⟩ := List.exists_cons_of_ne_nil (ne_nil_of_mem_words hw)
    have hrest : ∀ d ∈ rest, separatesHint d = false :=
      fun d hd => not_separatesHint_of_mem_words hw d (List.mem_cons_of_mem _ hd)
    rw [capitalizeChars, List.forall_mem_append, and_iff_left hrest]
    simp [fallsApart]
  unfold hintChars initials
  rw [List.forall_mem_flatMap]
  refine (forall₂_congr hword).trans ?_
  simp only [List.mem_filterMap]
  constructor
  · rintro h c ⟨w, hw, hc⟩
    exact h w hw c hc
  · intro h w hw c hc
    exact h c ⟨w, hw, hc⟩

/-- **When a type name is its own type name.** -/
theorem typeName_idempotent_iff (hint : String) :
    typeName (typeName hint) = typeName hint ↔ ∀ c ∈ initials hint, fallsApart c = false := by
  rw [← forall_hintChars_iff]
  rcases hintChars_cases hint.toList with hnil | ⟨d, ds, hchars, hd, hcapital⟩
  · have hname : typeName hint = unknownName := by rw [typeName, hnil]
    have hunknown : typeName unknownName = unknownName := by decide
    rw [hname, hnil]
    exact iff_of_true hunknown (List.forall_mem_nil _)
  · have hunderscore : separatesHint '_' = true := by decide
    -- the underscore in front separates nothing, and the first letter asks for it again
    have hagain : hintChars (typeName hint).toList = hintChars (d :: ds) := by
      rw [typeName, hchars]
      dsimp only
      split_ifs
      · rw [String.toList_ofList, hintChars, words_separator hunderscore, hintChars]
      · rw [String.toList_ofList]
    rw [hchars, List.forall_mem_cons, and_iff_right hd, ← hintChars_capital_eq_iff hd hcapital]
    have hname : ∀ s : String, ∀ es, hintChars s.toList = d :: es →
        typeName s = String.ofList (if isDigitValued d then '_' :: d :: es else d :: es) := by
      intro s es hs
      rw [typeName, hs]
    rw [hintChars_capital hd hcapital] at hagain ⊢
    rw [hname _ _ hagain, hname _ _ hchars, String.ofList_inj]
    split_ifs <;> simp

/-- The capital of a `ǰ` is a `J` and a caron, and the second conversion drops the caron. -/
theorem caron_dropped_by_second_conversion :
    typeName "ǰ" = "J̌" ∧ typeName "J̌" = "J" ∧ typeName (typeName "ǰ") ≠ typeName "ǰ" := by
  decide

/-- A capital of several letters stays one word, whether or not one of them is a spacing mark. -/
example : (initials "ßa ŉb").any fallsApart = false ∧ fallsApart 'ΐ' = true := by decide

end Naming

end JsonShapes
