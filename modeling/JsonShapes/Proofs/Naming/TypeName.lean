import JsonShapes.Naming
import JsonShapes.Proofs.Text.UpperCase

/-! # Type names and the characters of their hints

A type name is made of the letters and numerals of its hint, some of them in upper case. Not all of
these may stand in an identifier: a superscript two is a word character and has a digit value, and no
identifier has it.

* `Spellable s`: every word character of `s` may stand inside an identifier;
* `Nameable s`: moreover its first letter or numeral starts an identifier, or has a digit value and so
  gets an underscore in front.

The type name of a hint is an identifier exactly when the hint is nameable (`isIdentifier_typeName_iff`).
Whatever the hint, the name is made of word characters and marks and does not start with a small Latin
letter (`typeName_chars`, `typeName_head`). -/

namespace JsonShapes

namespace Text

theorem words_separator {p : Char → Bool} {c : Char} (h : p c = true) (rest : List Char) :
    words p (c :: rest) = words p rest := by
  rw [words.eq_def]
  exact if_pos h

/-- A character that is no separator starts a word, or is put in front of the first one. -/
theorem words_cons {p : Char → Bool} {c : Char} (h : p c = false) (rest : List Char) :
    words p (c :: rest) = [c] :: words p rest ∨
      ∃ w ws, words p rest = w :: ws ∧ words p (c :: rest) = (c :: w) :: ws := by
  rw [words.eq_def]
  simp only [h, Bool.false_eq_true, if_false]
  split
  · next d rest' w ws hw =>
    split_ifs
    · exact Or.inl (by rw [hw])
    · exact Or.inr ⟨w, ws, hw, rfl⟩
  · exact Or.inl rfl

theorem flatten_words (p : Char → Bool) (cs : List Char) :
    (words p cs).flatten = cs.filter fun c => !p c := by
  induction cs with
  | nil => rfl
  | cons c rest ih =>
    cases hc : p c with
    | true => rw [words_separator hc, ih, List.filter_cons_of_neg (by simp [hc])]
    | false =>
      rw [List.filter_cons_of_pos (by simp [hc]), ← ih]
      rcases words_cons hc rest with hw | ⟨w, ws, hrest, hw⟩
      · rw [hw]
        rfl
      · rw [hw, hrest]
        rfl

theorem ne_nil_of_mem_words {p : Char → Bool} {cs w : List Char} (h : w ∈ words p cs) : w ≠ [] := by
  induction cs generalizing w with
  | nil => cases h
  | cons c rest ih =>
    cases hc : p c with
    | true =>
      rw [words_separator hc] at h
      exact ih h
    | false =>
      rcases words_cons hc rest with hw | ⟨w', ws, hrest, hw⟩
      · rw [hw] at h
        rcases List.mem_cons.mp h with rfl | h
        · exact List.cons_ne_nil _ _
        · exact ih h
      · rw [hw] at h
        rcases List.mem_cons.mp h with rfl | h
        · exact List.cons_ne_nil _ _
        · exact ih (hrest ▸ List.mem_cons_of_mem _ h)

theorem exists_words_of_find? {p : Char → Bool} {cs : List Char} {c : Char}
    (h : cs.find? (fun c => !p c) = some c) : ∃ w ws, words p cs = (c :: w) :: ws := by
  rw [← List.head?_filter, ← flatten_words] at h
  cases hw : words p cs with
  | nil => rw [hw] at h; cases h
  | cons w ws =>
    cases w with
    | nil => exact absurd rfl (ne_nil_of_mem_words (hw ▸ List.mem_cons_self))
    | cons d w =>
      rw [hw] at h
      obtain rfl : d = c := Option.some.inj h
      exact ⟨w, ws, rfl⟩

end Text

namespace Naming

open Text

/-- **Every word character may stand inside an identifier.** -/
def Spellable (s : String) : Prop := ∀ c ∈ s.toList, isWord c = true → isIdentifierPart c = true

/-- The first letter or numeral of a text. -/
def firstLetter? (s : String) : Option Char := s.toList.find? fun c => !separatesHint c

/-- **What a type name can be made of**, so that it is an identifier. -/
structure Nameable (hint : String) : Prop where
  spellable : Spellable hint
  first : ∀ c, firstLetter? hint = some c → isDigitValued c = true ∨ isIdentifierStart c = true

instance (s : String) : Decidable (Spellable s) := inferInstanceAs (Decidable (∀ _ ∈ _, _))

/-! ### Capitals -/

theorem separatesHint_eq_false_iff {c : Char} :
    separatesHint c = false ↔ isWord c = true ∧ c ≠ '_' := by
  simp [separatesHint]

theorem isWord_of_not_separatesHint {c : Char} (h : separatesHint c = false) : isWord c = true :=
  (separatesHint_eq_false_iff.mp h).1

theorem separatesHint_of_isInitial {c : Char} (h : isInitial c = true) : separatesHint c = false :=
  separatesHint_eq_false_iff.mpr ⟨isWord_of_isInitial h, ne_underscore_of_isInitial h⟩

theorem exists_head_upperChar {c : Char} (h : separatesHint c = false) :
    ∃ d ds, upperChar c = d :: ds ∧ separatesHint d = false ∧ d.isLower = false ∧
      isDigitValued d = isDigitValued c ∧ isIdentifierStart d = isIdentifierStart c ∧
      ∀ e ∈ ds, isNameChar e = true := by
  have hword := isWord_of_not_separatesHint h
  have hraised := raised_upperChar c
  generalize upperChar c = cs at hraised ⊢
  cases hraised with
  | same hlower => exact ⟨c, [], rfl, h, hlower, rfl, rfl, by simp⟩
  | initial hc hd hlower hds =>
    have hc := hc hword
    refine ⟨_, _, rfl, separatesHint_of_isInitial hd, hlower, ?_, ?_, fun e he => (hds e he).2⟩
    · rw [isDigitValued_of_isInitial hd, isDigitValued_of_isInitial hc]
    · rw [isIdentifierStart_of_isInitial hd, isIdentifierStart_of_isInitial hc]
  | sign hc hd =>
    rw [hc] at hword
    cases hword

theorem spellable_upperChar_iff (c : Char) :
    (∀ d ∈ upperChar c, isWord d = true → isIdentifierPart d = true) ↔
      (isWord c = true → isIdentifierPart c = true) := by
  have hraised := raised_upperChar c
  generalize upperChar c = cs at hraised ⊢
  cases hraised with
  | same => simp
  | @initial d ds hc hd hlower hds =>
    refine iff_of_true (fun e he _ => ?_) fun hword => (nameChar_of_isInitial (hc hword)).1
    rcases List.mem_cons.mp he with rfl | he
    · exact (nameChar_of_isInitial hd).1
    · exact (hds e he).1
  | sign hc hd => simp [hc, hd]

theorem spellable_capitalizeChars_iff (cs : List Char) :
    (∀ d ∈ capitalizeChars cs, isWord d = true → isIdentifierPart d = true) ↔
      ∀ c ∈ cs, isWord c = true → isIdentifierPart c = true := by
  cases cs with
  | nil => rfl
  | cons c rest =>
    rw [capitalizeChars, List.forall_mem_append, List.forall_mem_cons, spellable_upperChar_iff]

theorem nameChar_capitalizeChars {w : List Char} (h : ∀ c ∈ w, separatesHint c = false) :
    ∀ d ∈ capitalizeChars w, isNameChar d = true := by
  have hname : ∀ c ∈ w, isNameChar c = true := by
    intro c hc
    simp [isNameChar, isWord_of_not_separatesHint (h c hc)]
  cases w with
  | nil => simp [capitalizeChars]
  | cons c rest =>
    rw [List.forall_mem_cons] at hname h
    obtain ⟨d, ds, hupper, hd, -, -, -, hds⟩ := exists_head_upperChar h.1
    rw [capitalizeChars, hupper, List.forall_mem_append, List.forall_mem_cons]
    exact ⟨⟨by simp [isNameChar, isWord_of_not_separatesHint hd], hds⟩, hname.2⟩

/-! ### The characters of a type name -/

theorem not_separatesHint_of_mem_words {cs w : List Char} (h : w ∈ words separatesHint cs) :
    ∀ c ∈ w, separatesHint c = false := by
  intro c hc
  have hmem : c ∈ (words separatesHint cs).flatten := List.mem_flatten.mpr ⟨w, h, hc⟩
  rw [flatten_words] at hmem
  simpa using (List.mem_filter.mp hmem).2

theorem nameChar_hintChars (cs : List Char) : ∀ d ∈ hintChars cs, isNameChar d = true := by
  intro d hd
  obtain ⟨w, hw, hd⟩ := List.mem_flatMap.mp hd
  exact nameChar_capitalizeChars (not_separatesHint_of_mem_words hw) d hd

theorem spellable_hintChars_iff (cs : List Char) :
    (∀ d ∈ hintChars cs, isWord d = true → isIdentifierPart d = true) ↔
      ∀ c ∈ cs, isWord c = true → isIdentifierPart c = true := by
  have hunderscore : isIdentifierPart '_' = true := by decide
  have hwords : (∀ d ∈ hintChars cs, isWord d = true → isIdentifierPart d = true) ↔
      ∀ c ∈ (words separatesHint cs).flatten, isWord c = true → isIdentifierPart c = true := by
    unfold hintChars
    rw [List.forall_mem_flatMap, List.forall_mem_flatten]
    exact forall₂_congr fun w _ => spellable_capitalizeChars_iff w
  rw [hwords, flatten_words]
  refine ⟨fun h c hc hword => ?_, fun h c hc => h c (List.mem_of_mem_filter hc)⟩
  by_cases hsep : c = '_'
  · rw [hsep]
    exact hunderscore
  · refine h c (List.mem_filter.mpr ⟨hc, ?_⟩) hword
    simp [separatesHint_eq_false_iff.mpr ⟨hword, hsep⟩]

/-! ### The form of a type name -/

theorem hintChars_eq_nil {cs : List Char} (h : cs.find? (fun c => !separatesHint c) = none) :
    hintChars cs = [] := by
  have hwords : words separatesHint cs = [] := by
    rw [List.eq_nil_iff_forall_not_mem]
    intro w hw
    obtain ⟨c, w', rfl⟩ := List.exists_cons_of_ne_nil (ne_nil_of_mem_words hw)
    have hc : c ∈ (words separatesHint cs).flatten :=
      List.mem_flatten.mpr ⟨_, hw, List.mem_cons_self⟩
    rw [flatten_words] at hc
    exact List.find?_eq_none.mp h c (List.mem_of_mem_filter hc) (List.mem_filter.mp hc).2
  rw [hintChars, hwords]
  rfl

/-- **A type name** is that of what has no name, or starts with the capital of the first letter, with
an underscore in front when that has a digit value. -/
theorem typeName_cases (hint : String) :
    (firstLetter? hint = none ∧ typeName hint = unknownName) ∨
      ∃ c d ds, firstLetter? hint = some c ∧ hintChars hint.toList = d :: ds ∧
        separatesHint d = false ∧ d.isLower = false ∧ isDigitValued d = isDigitValued c ∧
        isIdentifierStart d = isIdentifierStart c ∧
        typeName hint = String.ofList (if isDigitValued d then '_' :: d :: ds else d :: ds) := by
  cases h : firstLetter? hint with
  | none => exact Or.inl ⟨rfl, by rw [typeName, hintChars_eq_nil h]⟩
  | some c =>
    have hc : separatesHint c = false := by simpa using List.find?_some h
    obtain ⟨w, ws, hw⟩ := exists_words_of_find? h
    obtain ⟨d, ds, hupper, hd, hlower, hvalue, hstart, -⟩ := exists_head_upperChar hc
    have hchars : hintChars hint.toList = d :: (ds ++ w ++ ws.flatMap capitalizeChars) := by
      rw [hintChars, hw, List.flatMap_cons, capitalizeChars, hupper]
      rfl
    exact Or.inr ⟨c, d, _, rfl, hchars, hd, hlower, hvalue, hstart, by rw [typeName, hchars]⟩

theorem nameable_of_firstLetter?_eq_none {hint : String} (h : firstLetter? hint = none) :
    Nameable hint := by
  have hunderscore : isIdentifierPart '_' = true := by decide
  refine ⟨fun c hc hword => ?_, fun c hc => ?_⟩
  · have hsep := List.find?_eq_none.mp h c hc
    by_cases hne : c = '_'
    · rw [hne]
      exact hunderscore
    · simp [separatesHint_eq_false_iff.mpr ⟨hword, hne⟩] at hsep
  · rw [h] at hc
    cases hc

theorem typeName_chars (hint : String) : ∀ c ∈ (typeName hint).toList, isNameChar c = true := by
  rcases typeName_cases hint with ⟨-, hname⟩ | ⟨c, d, ds, -, hchars, -, -, -, -, hname⟩
  · have hletters : unknownName.toList.all isNameChar = true := by decide +kernel
    rw [hname]
    exact List.all_eq_true.mp hletters
  · have hall := nameChar_hintChars hint.toList
    have hunderscore : isNameChar '_' = true := by decide
    rw [hchars] at hall
    rw [hname, String.toList_ofList]
    split_ifs
    · exact List.forall_mem_cons.mpr ⟨hunderscore, hall⟩
    · exact hall

theorem typeName_head (hint : String) :
    ∃ c cs, (typeName hint).toList = c :: cs ∧ c.isLower = false := by
  rcases typeName_cases hint with ⟨-, hname⟩ | ⟨c, d, ds, -, -, -, hlower, -, -, hname⟩
  · rw [hname]
    exact ⟨'U', ['n', 'k', 'n', 'o', 'w', 'n'], rfl, rfl⟩
  · rw [hname, String.toList_ofList]
    split_ifs
    · exact ⟨'_', d :: ds, rfl, rfl⟩
    · exact ⟨d, ds, rfl, hlower⟩

theorem exists_firstLetter?_typeName (hint : String) :
    ∃ d, firstLetter? (typeName hint) = some d ∧
      (Nameable hint → isDigitValued d = true ∨ isIdentifierStart d = true) := by
  rcases typeName_cases hint with ⟨-, hname⟩ | ⟨c, d, ds, hc, -, hd, -, hvalue, hstart, hname⟩
  · have hstart : isIdentifierStart 'U' = true := by decide
    exact ⟨'U', by rw [hname]; decide, fun _ => Or.inr hstart⟩
  · have hunderscore : separatesHint '_' = true := by decide
    refine ⟨d, ?_, fun h => hvalue ▸ hstart ▸ h.first c hc⟩
    rw [hname, firstLetter?, String.toList_ofList]
    split_ifs
    · rw [List.find?_cons_of_neg (by simp [hunderscore]), List.find?_cons_of_pos (by simp [hd])]
    · rw [List.find?_cons_of_pos (by simp [hd])]

/-! ### Identifiers -/

theorem isIdentifierChars_cons_iff {c : Char} {cs : List Char} (hc : isNameChar c = true)
    (h : ∀ d ∈ cs, isNameChar d = true) :
    isIdentifierChars (c :: cs) = true ↔ isIdentifierStart c = true ∧
      ∀ d ∈ cs, isWord d = true → isIdentifierPart d = true := by
  have hdollar : isNameChar '$' = false := by decide
  have hne : ∀ d, isNameChar d = true → (d == '$') = false := by
    intro d hd
    rw [beq_eq_false_iff_ne]
    rintro rfl
    rw [hdollar] at hd
    cases hd
  rw [isIdentifierChars, Bool.and_eq_true, hne c hc, Bool.false_or, List.all_eq_true]
  refine and_congr_right fun _ => forall₂_congr fun d hd => ?_
  rw [hne d (h d hd), Bool.false_or]
  refine ⟨fun hpart _ => hpart, fun hpart => ?_⟩
  have hd := h d hd
  rw [isNameChar, Bool.or_eq_true] at hd
  rcases hd with hword | hmark
  · exact hpart hword
  · exact (nameChar_of_mark hmark).1

/-- **When the type name of a hint is an identifier.** -/
theorem isIdentifier_typeName_iff (hint : String) :
    isIdentifier (typeName hint) = true ↔ Nameable hint := by
  rcases typeName_cases hint with ⟨hnone, hname⟩ | ⟨c, d, ds, hc, hchars, hd, -, hvalue, hstart, hname⟩
  · rw [hname]
    exact iff_of_true (by decide) (nameable_of_firstLetter?_eq_none hnone)
  · have hall := nameChar_hintChars hint.toList
    have hspell := spellable_hintChars_iff hint.toList
    have hunderscore : isNameChar '_' = true ∧ isIdentifierStart '_' = true := by decide
    rw [hchars] at hall hspell
    have hfirst : Nameable hint ↔ (∀ e ∈ d :: ds, isWord e = true → isIdentifierPart e = true) ∧
        (isDigitValued d = true ∨ isIdentifierStart d = true) := by
      rw [hspell, hvalue, hstart]
      refine ⟨fun h => ⟨h.1, h.2 c hc⟩, fun h => ⟨h.1, fun e he => ?_⟩⟩
      rw [hc] at he
      obtain rfl := Option.some.inj he
      exact h.2
    rw [isIdentifier, hname, String.toList_ofList, hfirst]
    split_ifs with hdigit
    · rw [isIdentifierChars_cons_iff hunderscore.1 hall]
      simp [hunderscore.2, hdigit]
    · rw [isIdentifierChars_cons_iff (hall d List.mem_cons_self)
        fun e he => hall e (List.mem_cons_of_mem _ he), List.forall_mem_cons]
      constructor
      · rintro ⟨hs, hrest⟩
        exact ⟨⟨fun _ => isIdentifierPart_of_start hs, hrest⟩, Or.inr hs⟩
      · rintro ⟨⟨-, hrest⟩, hs⟩
        exact ⟨hs.resolve_left hdigit, hrest⟩

/-! ### Names with more behind them -/

theorem spellable_append_iff (a b : String) : Spellable (a ++ b) ↔ Spellable a ∧ Spellable b := by
  unfold Spellable
  rw [String.toList_append, List.forall_mem_append]

theorem firstLetter?_append (a b : String) :
    firstLetter? (a ++ b) = (firstLetter? a).or (firstLetter? b) := by
  unfold firstLetter?
  rw [String.toList_append, List.find?_append]

theorem nameable_append_iff {a : String} (h : ∃ c, firstLetter? a = some c) (b : String) :
    Nameable (a ++ b) ↔ Nameable a ∧ Spellable b := by
  obtain ⟨c, hc⟩ := h
  have hfirst : firstLetter? (a ++ b) = firstLetter? a := by rw [firstLetter?_append, hc, Option.some_or]
  constructor
  · intro h
    obtain ⟨ha, hb⟩ := (spellable_append_iff a b).mp h.spellable
    exact ⟨⟨ha, fun d hd => h.first d (hfirst ▸ hd)⟩, hb⟩
  · rintro ⟨ha, hb⟩
    exact ⟨(spellable_append_iff a b).mpr ⟨ha.spellable, hb⟩, fun d hd => ha.first d (hfirst ▸ hd)⟩

theorem spellable_capitalize_iff (key : String) : Spellable (capitalize key) ↔ Spellable key := by
  unfold Spellable capitalize
  rw [String.toList_ofList]
  exact spellable_capitalizeChars_iff key.toList

theorem spellable_of_isIdentifier {s : String} (h : isIdentifier s = true) : Spellable s := by
  have hdollar : isWord '$' = false := by decide
  have hpart : ∀ c, (c == '$') = true ∨ isIdentifierPart c = true → isWord c = true →
      isIdentifierPart c = true := by
    rintro c (hc | hc) hword
    · rw [eq_of_beq hc, hdollar] at hword
      cases hword
    · exact hc
  rw [isIdentifier] at h
  unfold Spellable
  cases hs : s.toList with
  | nil => simp
  | cons c rest =>
    simp only [hs, isIdentifierChars, Bool.and_eq_true, Bool.or_eq_true, List.all_eq_true] at h
    refine List.forall_mem_cons.mpr ⟨hpart c ?_, fun d hd => hpart d (h.2 d hd)⟩
    exact h.1.imp_right isIdentifierPart_of_start

theorem nameable_typeName {hint : String} (h : Nameable hint) : Nameable (typeName hint) := by
  obtain ⟨d, hd, hfirst⟩ := exists_firstLetter?_typeName hint
  refine ⟨spellable_of_isIdentifier ((isIdentifier_typeName_iff hint).mpr h), fun e he => ?_⟩
  rw [hd] at he
  exact Option.some.inj he ▸ hfirst h

/-! ### Digits behind a name -/

/-- Nothing but ASCII digits. -/
def Digits (t : String) : Prop := ∀ c ∈ t.toList, c.isDigit = true

theorem Digits.spellable {t : String} (h : Digits t) : Spellable t :=
  fun c hc _ => isIdentifierPart_of_isDigit (h c hc)

theorem Digits.nameChar {t : String} (h : Digits t) : ∀ c ∈ t.toList, isNameChar c = true := by
  intro c hc
  simp [isNameChar, isWord, isNumeral, isDigitValued, isDecimal_of_isDigit (h c hc)]

theorem Digits.isIdentifier_append {s t : String} (hs : s.toList ≠ []) (h : Digits t) :
    isIdentifier (s ++ t) = isIdentifier s := by
  obtain ⟨c, cs, hcs⟩ := List.exists_cons_of_ne_nil hs
  have ht : t.toList.all (fun d => d == '$' || isIdentifierPart d) = true := by
    rw [List.all_eq_true]
    intro d hd
    rw [isIdentifierPart_of_isDigit (h d hd), Bool.or_true]
  rw [isIdentifier, isIdentifier, String.toList_append, hcs, List.cons_append, isIdentifierChars,
    isIdentifierChars, List.all_append, ht, Bool.and_true]

end Naming

end JsonShapes
