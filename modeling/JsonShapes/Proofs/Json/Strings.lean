import JsonShapes.Json.Quoted
import JsonShapes.Json.Reader
import JsonShapes.Proofs.Text.Lines
import Mathlib

/-! # Written strings are read back

Inside a string, the first step at a written character gives that character and passes all that was
written for it (`stringPart_quotedChar`). So a string that is written is read back to its closing
quote, whatever follows (`scanString_quoted`), different texts are written differently, and a text that
is one string alone has this string as its value (`read_quoted`). -/

namespace JsonShapes.Json

theorem codeUnit?_hex {n : ℕ} (hn : n < 0x20) (d : Char) (rest : List Char) :
    codeUnit? (Text.hex 4 n ++ d :: rest) = some n := by
  interval_cases n <;> rfl

theorem length_hex {n : ℕ} (hn : n < 0x20) : (Text.hex 4 n).length = 4 := by
  interval_cases n <;> rfl

theorem stringPart_plain {c : Char} (hq : c ≠ '"') (hb : c ≠ '\\') (hc : ¬ c.toNat < 0x20)
    (rest : List Char) : stringPart (c :: rest) = some (.char c 1) := by
  rw [stringPart]
  · rw [if_neg hc]
  · exact fun h => hq h
  · exact fun h => hb h

/-- **One written character is read in one step**, when it does not end the text. -/
theorem stringPart_quotedChar (c d : Char) (rest : List Char) :
    stringPart (quotedChar c ++ d :: rest) = some (.char c (quotedChar c).length) := by
  unfold quotedChar
  split
  case h_8 hq hb _ _ _ _ _ =>
    split_ifs with hc
    · have hhigh : Text.Charset.isHighSurrogate c.toNat = false := by
        simp only [Text.Charset.isHighSurrogate, Bool.and_eq_false_iff, decide_eq_false_iff_not]
        omega
      have hlow : Text.Charset.isLowSurrogate c.toNat = false := by
        simp only [Text.Charset.isLowSurrogate, Bool.and_eq_false_iff, decide_eq_false_iff_not]
        omega
      simp [stringPart, codeUnit?_hex hc, hhigh, hlow, length_hex hc]
    · exact stringPart_plain hq hb hc _
  all_goals rfl

theorem quotedChar_ne_nil (c : Char) : quotedChar c ≠ [] := by
  unfold quotedChar
  split
  case h_8 => split_ifs <;> exact List.cons_ne_nil _ _
  all_goals exact List.cons_ne_nil _ _

theorem eq_or_isAscii_of_mem_quotedChar {c d : Char} (h : d ∈ quotedChar c) :
    d = c ∧ 0x20 ≤ d.toNat ∨ Text.isAscii d = true := by
  have hhex : ∀ n < 0x20, ((Text.hex 4 n).all Text.isAscii) = true := by decide
  revert h
  unfold quotedChar
  split
  case h_8 =>
    split_ifs with hc
    · rw [List.mem_cons, List.mem_cons]
      rintro (rfl | rfl | hmem)
      · exact .inr (by decide)
      · exact .inr (by decide)
      · exact .inr (List.all_eq_true.mp (hhex c.toNat hc) d hmem)
    · rw [List.mem_singleton]
      rintro rfl
      exact .inl ⟨rfl, Nat.le_of_not_lt hc⟩
  all_goals
    simp only [List.mem_cons, List.not_mem_nil, or_false]
    rintro (rfl | rfl) <;> exact .inr (by decide)

theorem scanString_quotedChar (start offset : ℕ) (c d : Char) (rest : List Char) :
    scanString start offset (quotedChar c ++ d :: rest) =
      (scanString start (offset + (quotedChar c).length) (d :: rest)).map
        fun (ds, next) => (c :: ds, next) := by
  have hstep := stringPart_quotedChar c d rest
  obtain ⟨e, es, he⟩ := List.exists_cons_of_ne_nil (quotedChar_ne_nil c)
  rw [he, List.cons_append] at hstep ⊢
  rw [scanString, hstep]
  simp

/-- **A string that is written is read back.** -/
theorem scanString_quoted (start offset : ℕ) (cs rest : List Char) :
    scanString start offset (cs.flatMap quotedChar ++ '"' :: rest) =
      .ok (cs, ⟨offset + (cs.flatMap quotedChar).length + 1, rest⟩) := by
  induction cs generalizing offset with
  | nil =>
    rw [List.flatMap_nil, List.nil_append, scanString]
    rfl
  | cons c cs ih =>
    -- the closing quote is still there, so the written character does not end the text
    obtain ⟨d, tail, htail⟩ : ∃ d tail, cs.flatMap quotedChar ++ '"' :: rest = d :: tail :=
      List.exists_cons_of_ne_nil (by simp)
    rw [List.flatMap_cons, List.append_assoc, htail, scanString_quotedChar, ← htail, ih]
    simp [Except.map, Nat.add_assoc]

theorem quoted_injective : Function.Injective quoted := by
  intro a b h
  have hchars : a.toList.flatMap quotedChar = b.toList.flatMap quotedChar := by
    have h' := String.ofList_injective h
    simpa [quotedChars] using h'
  have ha := scanString_quoted 0 0 a.toList []
  rw [hchars, scanString_quoted] at ha
  exact String.toList_injective (congrArg Prod.fst (Except.ok.inj ha)).symm

theorem read_quoted (s : String) : read (quoted s) = .ok (.string s) := by
  have hscan := scanString_quoted 0 1 s.toList []
  rw [read, quoted, String.toList_ofList]
  -- the opening quote is neither a gap nor a byte order mark, and nothing follows the closing one
  simp [readChars, quotedChars, Cursor.skipGaps, Cursor.advance, isGap, readValue, hscan, Except.map,
    Except.mapError, bind, Except.bind, pure, Except.pure]

end JsonShapes.Json
