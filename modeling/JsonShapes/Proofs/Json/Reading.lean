import JsonShapes.Json.Reader
import JsonShapes.Proofs.Except
import Mathlib.Data.Nat.Digits.Defs

/-! # Values that were read

In a value that is read from a text nothing is foreign, and no integer is too long to be written out
(`isWritable_of_read`). The reader takes a value, the items of an array and the fields of an object in
turns, each with less fuel, so the three are shown together by induction on the fuel. -/

namespace JsonShapes.Json

open Value (isWritable)
open Value.isWritable (allWritable allFieldsWritable)

/-! ### Scalars -/

theorem isWritable_of_literal {cs : List Char} {v : Value} {width : ℕ}
    (h : literal? cs = some (v, width)) : v.isWritable = true := by
  obtain ⟨⟨word, v'⟩, hfind, hv⟩ := Option.map_eq_some_iff.mp h
  cases hv
  have hall : ∀ entry ∈ literals, entry.2.isWritable = true := by
    simp [literals, isWritable]
  exact hall _ (List.mem_of_find?_eq_some hfind)

theorem foldl_digits_lt (cs : List Char) (hcs : ∀ c ∈ cs, c.isDigit = true) (start : ℕ) :
    cs.foldl (fun n c => n * 10 + (c.toNat - 0x30)) start < (start + 1) * 10 ^ cs.length := by
  induction cs generalizing start with
  | nil => simp
  | cons c rest ih =>
    rw [List.forall_mem_cons] at hcs
    have hdigit : c.toNat - 0x30 < 10 := by
      have hc := hcs.1
      simp only [Char.isDigit, Bool.and_eq_true, decide_eq_true_eq, ge_iff_le,
        UInt32.le_iff_toNat_le] at hc
      have hhigh : c.toNat ≤ 0x39 := hc.2
      omega
    refine (ih hcs.2 _).trans_le ?_
    rw [List.length_cons, pow_succ', ← mul_assoc]
    refine Nat.mul_le_mul_right _ ?_
    dsimp only
    omega

theorem isShort_of_digits {cs : List Char} {i : ℤ} (hcs : ∀ c ∈ cs, c.isDigit = true)
    (hlength : cs.length ≤ maxIntegerDigits) (hi : i.natAbs = Decimal.ofDigits cs) :
    isShort i = true := by
  have hlt := foldl_digits_lt cs hcs 0
  rw [zero_add, one_mul] at hlt
  rw [isShort, hi, decide_eq_true_iff]
  refine Nat.toDigits_length 10 _ maxIntegerDigits (by decide) (hlt.trans_le ?_)
  exact Nat.pow_le_pow_right (by decide) hlength

theorem isDigit_of_numeral {cs : List Char} {n : Numeral} {width : ℕ}
    (h : numeral? cs = some (n, width)) : ∀ c ∈ n.whole, c.isDigit = true := by
  have hwhole : ∀ digits : List Char, ∀ c ∈ (if (digits.takeWhile Char.isDigit).head? == some '0'
      then ['0'] else digits.takeWhile Char.isDigit), c.isDigit = true := by
    intro digits c hc
    split_ifs at hc
    · rw [List.mem_singleton.mp hc]
      rfl
    · exact List.mem_takeWhile_imp hc
  unfold numeral? at h
  extract_lets negative signWidth digits whole at h
  split at h
  · cases h
  rename_i h
  split at h
  · rw [← (Prod.mk.inj (Option.some.inj h)).1]
    exact hwhole _
  · rw [← (Prod.mk.inj (Option.some.inj h)).1]
    exact hwhole _

theorem isWritable_of_numeral {n : Numeral} {v : Value} (hn : ∀ c ∈ n.whole, c.isDigit = true)
    (h : n.value = .ok v) : v.isWritable = true := by
  unfold Numeral.value at h
  split at h
  · split_ifs at h with hlength
    · cases h
      exact isShort_of_digits hn (not_lt.mp hlength) (Int.natAbs_neg _)
    · cases h
      exact isShort_of_digits hn (not_lt.mp hlength) (Int.natAbs_natCast _)
  · cases h
    rfl

theorem isWritable_of_readScalar {here next : Cursor} {v : Value}
    (h : readScalar here = .ok (v, next)) : v.isWritable = true := by
  unfold readScalar at h
  split at h
  case h_1 hliteral =>
    cases h
    exact isWritable_of_literal hliteral
  case h_2 =>
    split at h
    · rename_i hnumeral
      obtain ⟨v', hv', heq⟩ := map_eq_ok_iff.mp h
      cases heq
      exact isWritable_of_numeral (isDigit_of_numeral hnumeral) hv'
    · cases h

/-! ### Fields -/

theorem allFieldsWritable_putField {k : Key} {v : Value} (hk : k.isShort = true)
    (hv : v.isWritable = true) {fields : List (Key × Value)} (h : allFieldsWritable fields = true) :
    allFieldsWritable (Value.putField k v fields) = true := by
  induction fields with
  | nil => simp [Value.putField, allFieldsWritable, hk, hv]
  | cons f rest ih =>
    obtain ⟨k', v'⟩ := f
    rw [allFieldsWritable, Bool.and_eq_true] at h
    rw [Value.putField]
    split_ifs
    · rw [allFieldsWritable, hk, hv, h.2]
      rfl
    · rw [allFieldsWritable, h.1, ih h.2]
      rfl

/-! ### The reader -/

/-- **What is read with some fuel is writable**: a value, items, and fields behind writable ones. -/
structure ReadsWritable (fuel : ℕ) : Prop where
  value : ∀ {depth : ℕ} {here next : Cursor} {v : Value},
    readValue fuel depth here = .ok (v, next) → v.isWritable = true
  items : ∀ {depth : ℕ} {here next : Cursor} {items : List Value},
    readItems fuel depth here = .ok (items, next) → allWritable items = true
  fields : ∀ {depth : ℕ} {done fields : List (Key × Value)} {here next : Cursor},
    allFieldsWritable done = true → readFields fuel depth done here = .ok (fields, next) →
      allFieldsWritable fields = true

theorem readsWritable (fuel : ℕ) : ReadsWritable fuel := by
  induction fuel with
  | zero =>
    refine ⟨fun h => ?_, fun h => ?_, fun _ h => ?_⟩
    · rw [readValue] at h
      cases h
    · rw [readItems] at h
      cases h
    · rw [readFields] at h
      cases h
  | succ fuel ih =>
    refine ⟨fun h => ?value, fun h => ?items, fun hdone h => ?fields⟩
    case value =>
      rw [readValue] at h
      split at h
      · obtain ⟨_, -, heq⟩ := map_eq_ok_iff.mp h
        cases heq
        rfl
      · split at h
        · cases h
        · dsimp only at h
          split at h
          · cases h
            rfl
          · obtain ⟨read, hread, heq⟩ := map_eq_ok_iff.mp h
            cases heq
            exact ih.items hread
      · split at h
        · cases h
        · dsimp only at h
          split at h
          · cases h
            rfl
          · obtain ⟨read, hread, heq⟩ := map_eq_ok_iff.mp h
            cases heq
            exact ih.fields rfl hread
      · exact isWritable_of_readScalar h
    case items =>
      rw [readItems] at h
      obtain ⟨⟨v, behind⟩, hv, h⟩ := bind_eq_ok_iff.mp h
      have hfirst := ih.value hv
      dsimp only at h
      split at h
      · cases h
        rw [allWritable, hfirst]
        rfl
      · obtain ⟨⟨rest, last⟩, hrest, heq⟩ := bind_eq_ok_iff.mp h
        cases heq
        rw [allWritable, hfirst, ih.items hrest]
        rfl
      · cases h
    case fields =>
      rw [readFields] at h
      split at h
      · obtain ⟨⟨name, behind⟩, -, h⟩ := bind_eq_ok_iff.mp h
        dsimp only at h
        split at h
        · obtain ⟨⟨v, next⟩, hv, h⟩ := bind_eq_ok_iff.mp h
          have hput := allFieldsWritable_putField (k := .name (String.ofList name)) rfl
            (ih.value hv) hdone
          dsimp only at h
          split at h
          · cases h
            exact hput
          · exact ih.fields hput h
          · cases h
        · cases h
      · cases h

theorem isWritable_of_read {text : String} {v : Value} (h : read text = .ok v) :
    v.isWritable = true := by
  have hchars : readChars text.toList = .ok v := mapError_eq_ok_iff.mp h
  unfold readChars at hchars
  split at hchars
  · cases hchars
  · obtain ⟨⟨v', behind⟩, hv', hrest⟩ := bind_eq_ok_iff.mp hchars
    dsimp only at hrest
    split at hrest
    · cases hrest
      exact (readsWritable _).value hv'
    · cases hrest

end JsonShapes.Json
