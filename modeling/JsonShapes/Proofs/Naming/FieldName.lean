import JsonShapes.Naming
import JsonShapes.Proofs.Json.Strings
import JsonShapes.Proofs.Text.CharSet
import JsonShapes.Proofs.Text.Lines

/-! # Field names that collide

A key that starts with a decimal digit gets an underscore in front, and the key that has it already
stays as it is: where the result is an identifier, the two keys have one field name (`Collides`). All
other keys keep their field names apart (`fieldName_eq_iff`): bare names and quoted ones start
differently, and quoting is injective. So a key can be told from its field name up to such a collision
(`fieldName_identifies_key`). -/

namespace JsonShapes.Naming

open Text

/-- Whether a key starts with a decimal digit. -/
def startsDecimal (key : String) : Bool := key.toList.head?.any isDecimal

/-- **Two keys with one field name**: `b` is `a` behind an underscore, `a` starts with a decimal digit
and `b` is an identifier. -/
def Collides (a b : String) : Prop :=
  startsDecimal a = true ∧ b = "_" ++ a ∧ isIdentifier b = true

instance (a b : String) : Decidable (Collides a b) := inferInstanceAs (Decidable (_ ∧ _ ∧ _))

/-! ### Bare names -/

theorem guardDigit_toList (key : String) :
    guardDigit key.toList = if startsDecimal key then '_' :: key.toList else key.toList := by
  unfold startsDecimal
  cases key.toList with
  | nil => rfl
  | cons c rest => rfl

/-- The underscore is no digit, so a key that starts with it is not guarded. -/
theorem guardDigit_underscore (key : String) :
    guardDigit ("_" ++ key).toList = ("_" ++ key).toList := by
  have h : isDecimal '_' = false := by decide
  have hstart : startsDecimal ("_" ++ key) = false := by
    simp [startsDecimal, String.toList_append, h]
  rw [guardDigit_toList, hstart, if_neg Bool.false_ne_true]

theorem guardDigit_inj {a b : String} (h : guardDigit a.toList = guardDigit b.toList) :
    a = b ∨ (startsDecimal a = true ∧ b = "_" ++ a) ∨ (startsDecimal b = true ∧ a = "_" ++ b) := by
  rw [guardDigit_toList, guardDigit_toList] at h
  by_cases ha : startsDecimal a = true <;> by_cases hb : startsDecimal b = true
  · rw [if_pos ha, if_pos hb] at h
    exact Or.inl (String.toList_injective (List.cons_injective h))
  · rw [if_pos ha, if_neg hb] at h
    refine Or.inr (Or.inl ⟨ha, String.toList_injective ?_⟩)
    rw [String.toList_append, ← h]
    rfl
  · rw [if_neg ha, if_pos hb] at h
    refine Or.inr (Or.inr ⟨hb, String.toList_injective ?_⟩)
    rw [String.toList_append, h]
    rfl
  · rw [if_neg ha, if_neg hb] at h
    exact Or.inl (String.toList_injective h)

theorem head_ne_quote {cs : List Char} (h : isIdentifierChars cs = true) : cs.head? ≠ some '"' := by
  have hquote : isIdentifierStart '"' = false := by decide
  intro hc
  cases cs with
  | nil => cases hc
  | cons c rest =>
    obtain rfl : c = '"' := Option.some.inj hc
    simp [isIdentifierChars, hquote] at h

theorem ofList_ne_quoted {cs : List Char} (h : isIdentifierChars cs = true) (key : String) :
    String.ofList cs ≠ Json.quoted key := by
  intro heq
  have hcs : cs = Json.quotedChars key.toList := String.ofList_injective heq
  exact head_ne_quote h (by rw [hcs]; rfl)

/-! ### Field names -/

theorem fieldName_bare {key : String} (h : isIdentifierChars (guardDigit key.toList) = true) :
    fieldName key = String.ofList (guardDigit key.toList) := if_pos h

theorem fieldName_quoted {key : String} (h : ¬ isIdentifierChars (guardDigit key.toList) = true) :
    fieldName key = Json.quoted key := if_neg h

theorem le_of_isIdentifierChars {cs : List Char} (h : isIdentifierChars cs = true) {c : Char}
    (hc : c ∈ cs) : 0x20 ≤ c.toNat := by
  have hcontrol : ∀ n < 0x20, ((Char.ofNat n == '$' || isIdentifierStart (Char.ofNat n)) ||
      (Char.ofNat n == '$' || isIdentifierPart (Char.ofNat n))) = false := by decide +kernel
  by_contra hlow
  have hnone := forall_below (P := fun c => ((c == '$' || isIdentifierStart c) ||
    (c == '$' || isIdentifierPart c)) = false) hcontrol (Nat.lt_of_not_le hlow)
  rw [Bool.or_eq_false_iff] at hnone
  cases cs with
  | nil => exact List.not_mem_nil hc
  | cons first rest =>
    rw [isIdentifierChars, Bool.and_eq_true, List.all_eq_true] at h
    rcases List.mem_cons.mp hc with rfl | hc
    · exact Bool.false_ne_true (hnone.1.symm.trans h.1)
    · exact Bool.false_ne_true (hnone.2.symm.trans (h.2 c hc))

/-- **What a field name is made of**: characters of its key that are no control characters, and others
that ASCII shows. -/
theorem mem_key_or_isAscii_of_mem_fieldName {key : String} {c : Char}
    (hc : c ∈ (fieldName key).toList) : c ∈ key.toList ∧ 0x20 ≤ c.toNat ∨ isAscii c = true := by
  by_cases h : isIdentifierChars (guardDigit key.toList) = true
  · rw [fieldName_bare h, String.toList_ofList] at hc
    have hlow := le_of_isIdentifierChars h hc
    rw [guardDigit_toList] at hc
    split_ifs at hc
    · rcases List.mem_cons.mp hc with rfl | hc
      · exact .inr (by decide)
      · exact .inl ⟨hc, hlow⟩
    · exact .inl ⟨hc, hlow⟩
  · rw [fieldName_quoted h, Json.quoted, String.toList_ofList, Json.quotedChars] at hc
    simp only [List.cons_append, List.mem_cons, List.mem_append, List.mem_flatMap, List.not_mem_nil,
      or_false] at hc
    rcases hc with rfl | ⟨d, hd, hc⟩ | rfl
    · exact .inr (by decide)
    · refine (Json.eq_or_isAscii_of_mem_quotedChar hc).imp_left ?_
      rintro ⟨rfl, hlow⟩
      exact ⟨hd, hlow⟩
    · exact .inr (by decide)

theorem noControl_fieldName (key : String) : NoControl (fieldName key) := fun _ hc =>
  (mem_key_or_isAscii_of_mem_fieldName hc).elim And.right le_of_isAscii

theorem Collides.fieldName_eq {a b : String} (h : Collides a b) : fieldName a = fieldName b := by
  obtain ⟨ha, rfl, hid⟩ := h
  have hguard : guardDigit a.toList = ("_" ++ a).toList := by
    rw [guardDigit_toList, if_pos ha, String.toList_append]
    rfl
  have hguard' := guardDigit_underscore a
  rw [fieldName_bare (by rw [hguard]; exact hid), fieldName_bare (by rw [hguard']; exact hid),
    hguard, hguard']

/-- **When two keys have one field name.** -/
theorem fieldName_eq_iff (a b : String) :
    fieldName a = fieldName b ↔ a = b ∨ Collides a b ∨ Collides b a := by
  constructor
  · intro h
    by_cases ha : isIdentifierChars (guardDigit a.toList) = true <;>
      by_cases hb : isIdentifierChars (guardDigit b.toList) = true
    · rw [fieldName_bare ha, fieldName_bare hb] at h
      have hguard := String.ofList_injective h
      rcases guardDigit_inj hguard with heq | ⟨hd, rfl⟩ | ⟨hd, rfl⟩
      · exact Or.inl heq
      · rw [guardDigit_underscore] at hb
        exact Or.inr (Or.inl ⟨hd, rfl, hb⟩)
      · rw [guardDigit_underscore] at ha
        exact Or.inr (Or.inr ⟨hd, rfl, ha⟩)
    · rw [fieldName_bare ha, fieldName_quoted hb] at h
      exact absurd h (ofList_ne_quoted ha b)
    · rw [fieldName_quoted ha, fieldName_bare hb] at h
      exact absurd h.symm (ofList_ne_quoted hb a)
    · rw [fieldName_quoted ha, fieldName_quoted hb] at h
      exact Or.inl (Json.quoted_injective h)
  · rintro (rfl | h | h)
    · rfl
    · exact h.fieldName_eq
    · exact h.fieldName_eq.symm

theorem Collides.ne {a b : String} (h : Collides a b) : a ≠ b := by
  obtain ⟨-, rfl, -⟩ := h
  intro heq
  have hlength := congrArg String.length heq
  rw [String.length_append] at hlength
  have hone : "_".length = 1 := rfl
  omega

theorem nodup_fieldNames_iff {keys : List String} (h : keys.Nodup) :
    (keys.map fieldName).Nodup ↔ ∀ a ∈ keys, ∀ b ∈ keys, ¬ Collides a b := by
  rw [List.nodup_map_iff_inj_on h]
  constructor
  · intro hinj a ha b hb hc
    exact hc.ne (hinj a ha b hb hc.fieldName_eq)
  · intro hfree a ha b hb heq
    rcases (fieldName_eq_iff a b).mp heq with heq | hc | hc
    · exact heq
    · exact absurd hc (hfree a ha b hb)
    · exact absurd hc (hfree b hb a ha)

theorem ofList_guardDigit (key : String) :
    String.ofList (guardDigit key.toList) = if startsDecimal key then "_" ++ key else key := by
  rw [guardDigit_toList, ← String.toList_inj, String.toList_ofList]
  split_ifs
  · rw [String.toList_append]
    rfl
  · rfl

theorem isIdentifier_quoted (key : String) : isIdentifier (Json.quoted key) = false := by
  rw [Bool.eq_false_iff]
  intro h
  exact ofList_ne_quoted h key String.ofList_toList

/-- **A field name identifies its key, with one exception.** It is an identifier, the key or the key
behind the underscore that its decimal digit asks for, or else a JSON string that is read as the key;
and two keys have one field name just when they collide. -/
theorem fieldName_identifies_key (key : String) :
    ((isIdentifier (fieldName key) = true ∧
          fieldName key = if startsDecimal key then "_" ++ key else key) ∨
        isIdentifier (fieldName key) = false ∧ (∃ inner, fieldName key = "\"" ++ inner ++ "\"") ∧
          Json.read (fieldName key) = .ok (.string key)) ∧
      ∀ other, key ≠ other →
        (fieldName key = fieldName other ↔ Collides key other ∨ Collides other key) := by
  refine ⟨?_, fun other hne => ?_⟩
  · by_cases h : isIdentifierChars (guardDigit key.toList) = true
    · refine Or.inl ⟨?_, by rw [fieldName_bare h, ofList_guardDigit]⟩
      rw [fieldName_bare h, isIdentifier, String.toList_ofList]
      exact h
    · rw [fieldName_quoted h]
      refine Or.inr ⟨isIdentifier_quoted key, ⟨String.ofList (key.toList.flatMap Json.quotedChar), ?_⟩,
        Json.read_quoted key⟩
      rw [← String.toList_inj, Json.quoted, Json.quotedChars]
      simp
  · rw [fieldName_eq_iff, or_iff_right hne]

/-- A key with a leading digit and the key behind an underscore have one field name. -/
theorem digit_key_identified_up_to_underscore : "٣a" ≠ "_٣a" ∧ fieldName "٣a" = fieldName "_٣a" := by
  have hne : "٣a" ≠ "_٣a" := by decide
  exact ⟨hne, ((fieldName_identifies_key "٣a").2 "_٣a" hne).mpr (Or.inl (by decide))⟩

/-- The digit's script does not matter, but what the underscore makes of it has to be an identifier. -/
example : Collides "٣a" "_٣a" ∧ ¬ Collides "3 a" "_3 a" := by decide

end JsonShapes.Naming
