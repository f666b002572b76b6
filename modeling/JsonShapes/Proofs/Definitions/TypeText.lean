import JsonShapes.Definitions.Render
import JsonShapes.Proofs.Shape.Fitting
import JsonShapes.Proofs.Shape.Names
import JsonShapes.Proofs.Text.Lines

/-! # The texts of types

A type in the outcome of a walk is a keyword, an array, or a reference to a declaration (`Occurs`,
`Written`). Keywords and names are words: they have no bracket, blank or line feed. So the text of a
type is one word behind which pairs of brackets stand, and tells the type up to that word.

All keywords but one start with a small letter, and no declared name does. The exception is the keyword
for dates: a declared type can be called `Date`, and then that word stands for two types
(`type_texts_distinct_iff`). -/

namespace JsonShapes.Definitions

open Inference Naming

/-- The words for types that are not declared. -/
def keywords (dates : Bool) : List String :=
  ["any", "boolean", "number", "string"] ++ if dates then ["Date"] else []

/-- **The type expressions in an outcome**: those of the value and of all fields, what they are arrays
of, and the references to the declarations. -/
inductive Occurs (found : Result) : TypeExpr → Prop
  | root : Occurs found found.type
  | field {d : Declaration} {g : Field} (hd : d ∈ found.registry.declarations) (hg : g ∈ d.fields) :
    Occurs found g.type
  | item {t : TypeExpr} (h : Occurs found (.array t)) : Occurs found t
  | declared {d : Declaration} (hd : d ∈ found.registry.declarations) : Occurs found (.ref d.name)

/-- Keywords, references to declarations, and arrays of such types. -/
inductive Written (dates : Bool) (D : List Declaration) : TypeExpr → Prop
  | keyword {k : String} (h : k ∈ keywords dates) : Written dates D (.primitive k)
  | array {t : TypeExpr} (h : Written dates D t) : Written dates D (.array t)
  | ref {d : Declaration} (hd : d ∈ D) : Written dates D (.ref d.name)

variable {dates : Bool} {D : List Declaration} {v : Value} {name : String} {t : TypeExpr}

/-! ### The types that occur -/

theorem Written.of_fits (h : Fits dates D v t) : Written dates D t := by
  induction h with
  | date hdates => exact .keyword (by simp [keywords, hdates])
  | emptyArray => exact .array (.keyword (by simp [keywords]))
  | emptyTuple => exact .array (.keyword (by simp [keywords]))
  | array rest _ ih => exact .array ih
  | tuple rest _ ih => exact .array ih
  | @object fields d once hs =>
    have hd : d ∈ D := List.mem_of_mem_filter (once ▸ List.mem_singleton_self d)
    exact .ref hd
  | _ => exact .keyword (by simp [keywords])

/-- **A type that occurs** is a keyword, an array or a reference to a declaration. -/
theorem Occurs.written (h : Occurs (infer dates v name .empty) t) :
    Written dates (infer dates v name .empty).registry.declarations t := by
  obtain ⟨hroot, hdescribes⟩ := infer_sound dates v name
  induction h with
  | root => exact .of_fits hroot
  | field hd hg =>
    obtain ⟨fields, -, hdesc⟩ := hdescribes _ hd
    obtain ⟨f, -, hf⟩ := exists_left_of_forall₂ hdesc.fields _ hg
    exact .of_fits hf.2
  | item _ ih =>
    cases ih with
    | array h => exact h
  | declared hd => exact .ref hd

/-! ### Words -/

/-- **Characters of names and nothing else.** -/
def Word (s : String) : Prop := ∀ c ∈ s.toList, Text.isNameChar c = true

theorem Word.notMem {s : String} (h : Word s) {c : Char} (hc : Text.isNameChar c = false) :
    c ∉ s.toList := by
  intro hmem
  rw [h c hmem] at hc
  cases hc

theorem word_keyword {k : String} (h : k ∈ keywords dates) :
    Word k ∧ (k = "Date" ∨ ∃ c cs, k.toList = c :: cs ∧ c.isLower = true) := by
  have hall : ∀ dates, ((keywords dates).all fun k => k.toList.all Text.isNameChar &&
      (k == "Date" || k.toList.head?.any Char.isLower)) = true := by decide +kernel
  have hk := List.all_eq_true.mp (hall dates) k h
  rw [Bool.and_eq_true, Bool.or_eq_true, List.all_eq_true, beq_iff_eq] at hk
  refine ⟨hk.1, hk.2.imp_right fun hlower => ?_⟩
  cases hs : k.toList with
  | nil => simp [hs] at hlower
  | cons c cs => exact ⟨c, cs, rfl, by simpa [hs] using hlower⟩

/-- The name of a declared type is a keyword only when it is `Date`. -/
theorem eq_date_of_made {k hint : String} (h : k ∈ keywords dates) (hmade : Made k hint) :
    k = "Date" := by
  obtain ⟨c, cs, hcs, hlower⟩ := hmade.head
  rcases (word_keyword h).2 with hdate | ⟨d, ds, hds, hsmall⟩
  · exact hdate
  · rw [hcs, List.cons.injEq] at hds
    rw [← hds.1, hlower] at hsmall
    cases hsmall

/-! ### Texts -/

/-- **A type whose text is one piece**: it has one, without blanks and line feeds. -/
def OnePiece (t : TypeExpr) : Prop :=
  ∃ text, typeText t = .ok text ∧ ' ' ∉ text.toList ∧ Text.NoFeed text

/-- **The text of a type**: a word when it is no array, else the text of its items and brackets. -/
theorem Written.exists_text (hD : ∀ d ∈ D, ∃ hint, Made d.name hint) (h : Written dates D t) :
    ∃ text, typeText t = .ok text ∧
      ∀ c ∈ text.toList, Text.isNameChar c = true ∨ c = '[' ∨ c = ']' := by
  induction h with
  | keyword hk => exact ⟨_, rfl, fun c hc => .inl ((word_keyword hk).1 c hc)⟩
  | ref hd =>
    obtain ⟨hint, hmade⟩ := hD _ hd
    exact ⟨_, rfl, fun c hc => .inl (hmade.chars c hc)⟩
  | array _ ih =>
    obtain ⟨text, htext, hchars⟩ := ih
    refine ⟨text ++ "[]", by rw [typeText, htext]; rfl, ?_⟩
    rw [String.toList_append, List.forall_mem_append]
    exact ⟨hchars, fun c hc => .inr (by simpa using hc)⟩

theorem Written.onePiece (hD : ∀ d ∈ D, ∃ hint, Made d.name hint) (h : Written dates D t) :
    OnePiece t := by
  obtain ⟨text, htext, hchars⟩ := h.exists_text hD
  have hblank : Text.isNameChar ' ' = false := by decide
  have hfeed : Text.isNameChar '\n' = false := by decide
  refine ⟨text, htext, fun hc => ?_, fun hc => ?_⟩
  · simpa [hblank] using hchars _ hc
  · simpa [hfeed] using hchars _ hc

theorem word_ne_typeText_array {s : String} (h : Word s) : Except.ok s ≠ typeText (.array t) := by
  intro heq
  rw [typeText] at heq
  cases ht : typeText t with
  | error fault => rw [ht] at heq; cases heq
  | ok text =>
    rw [ht] at heq
    have hs : s = text ++ "[]" := Except.ok.inj heq
    have hbracket : Text.isNameChar ']' = false := by decide
    refine h.notMem hbracket ?_
    rw [hs, String.toList_append, List.mem_append]
    exact Or.inr (by decide)

theorem typeText_array_inj {u : TypeExpr} (h : Written dates D t)
    (hD : ∀ d ∈ D, ∃ hint, Made d.name hint) (heq : typeText (.array t) = typeText (.array u)) :
    typeText t = typeText u := by
  obtain ⟨text, htext, -, -⟩ := h.onePiece hD
  rw [typeText, typeText, htext] at heq
  cases hu : typeText u with
  | error fault => rw [hu] at heq; cases heq
  | ok text' =>
    rw [hu] at heq
    have hs : text ++ "[]" = text' ++ "[]" := Except.ok.inj heq
    rw [htext, String.append_left_inj "[]" |>.mp hs]

/-- **Types that occur are told by their texts**, unless a declared type is called as dates are. -/
theorem Occurs.eq_of_typeText_eq {t' : TypeExpr} (h : Occurs (infer dates v name .empty) t)
    (h' : Occurs (infer dates v name .empty) t') (heq : typeText t = typeText t')
    (hfree : ¬ (Occurs (infer dates v name .empty) .date ∧
      ∃ d ∈ (infer dates v name .empty).registry.declarations, d.name = "Date")) : t = t' := by
  have hmade := exists_made dates v name
  have hword : ∀ d ∈ (infer dates v name .empty).registry.declarations, Word d.name := by
    intro d hd
    obtain ⟨hint, hint'⟩ := hmade d hd
    exact hint'.chars
  -- the only word for two types
  have hclash : ∀ k d, Occurs (infer dates v name .empty) (.primitive k) → k ∈ keywords dates →
      d ∈ (infer dates v name .empty).registry.declarations → k ≠ d.name := by
    rintro k d hoccurs hk hd rfl
    obtain ⟨hint, hint'⟩ := hmade d hd
    have hdate := eq_date_of_made hk hint'
    rw [hdate] at hoccurs
    exact hfree ⟨hoccurs, d, hd, hdate⟩
  induction t generalizing t' with
  | unsupported shown => cases h.written
  | primitive k =>
    cases hw : h.written with | keyword hk =>
    cases h'.written with
    | keyword hk' => rw [Except.ok.inj heq]
    | array hw' => exact absurd heq (word_ne_typeText_array (word_keyword hk).1)
    | ref hd => exact absurd (Except.ok.inj heq) (hclash k _ h hk hd)
  | ref n =>
    cases hw : h.written with | ref hd =>
    cases h'.written with
    | keyword hk => exact absurd (Except.ok.inj heq).symm (hclash _ _ h' hk hd)
    | array hw' => exact absurd heq (word_ne_typeText_array (hword _ hd))
    | ref hd' => rw [Except.ok.inj heq]
  | array u ih =>
    cases hw : h.written with | array hu =>
    cases h'.written with
    | keyword hk => exact absurd heq.symm (word_ne_typeText_array (word_keyword hk).1)
    | array hu' => rw [ih h.item h'.item (typeText_array_inj hu hmade heq)]
    | ref hd => exact absurd heq.symm (word_ne_typeText_array (hword _ hd))

/-- **When the texts of types tell the types**: exactly when no declared type has the name `Date` where
a date occurs. Without dates none occurs, so the texts always do. -/
theorem type_texts_distinct_iff (dates : Bool) (v : Value) (name : String) :
    ((∀ t t', Occurs (infer dates v name .empty) t → Occurs (infer dates v name .empty) t' →
        typeText t = typeText t' → t = t') ↔
      ¬ (Occurs (infer dates v name .empty) .date ∧
        ∃ d ∈ (infer dates v name .empty).registry.declarations, d.name = "Date")) ∧
      ¬ Occurs (infer false v name .empty) .date := by
  refine ⟨⟨?_, fun hfree t t' h h' heq => h.eq_of_typeText_eq h' heq hfree⟩, fun h => ?_⟩
  · rintro hall ⟨hdate, d, hd, hname⟩
    have hsame := hall .date (.ref d.name) hdate (.declared hd) (by rw [hname]; rfl)
    cases hsame
  · have hnone : "Date" ∉ keywords false := by decide
    cases h.written with
    | keyword hk => exact hnone hk

/-- The object is called `Date`, and its field is a date: one text for the two types. -/
theorem date_text_for_two_types :
    (infer true (.object [(.name "on", .string "2024-01-02T03:04:05Z")]) "date"
      .empty).registry.declarations = [⟨"Date", "on", [⟨"on", .date⟩]⟩] ∧
    ¬ ∀ t t', Occurs (infer true (.object [(.name "on", .string "2024-01-02T03:04:05Z")]) "date"
        .empty) t → Occurs (infer true (.object [(.name "on", .string "2024-01-02T03:04:05Z")]) "date"
        .empty) t' → typeText t = typeText t' → t = t' := by
  have h : (infer true (.object [(.name "on", .string "2024-01-02T03:04:05Z")]) "date"
      .empty).registry.declarations = [⟨"Date", "on", [⟨"on", .date⟩]⟩] := by cbv
  have hd : (⟨"Date", "on", [⟨"on", .date⟩]⟩ : Declaration) ∈ (infer true (.object [(.name "on",
      .string "2024-01-02T03:04:05Z")]) "date" .empty).registry.declarations := by simp [h]
  refine ⟨h, fun hall => ?_⟩
  have hsame := hall .date (.ref "Date") (.field hd List.mem_cons_self) (.declared hd) rfl
  cases hsame

end JsonShapes.Definitions
