import JsonShapes.Text.Utf8
import Mathlib

/-! # Written characters are decoded again

The bytes of a character are its head wherever they stand (`head_utf8EncodeChar`), so the bytes of a
text decode to the text: nothing is replaced (`decodeLossy_encode`), and no fault is found
(`decode_encode`). -/

namespace JsonShapes.Text.Utf8

theorem toNat_trailing (n : ℕ) : (UInt8.ofNat (n % 64 + 128)).toNat = n % 64 + 128 := by
  rw [UInt8.toNat_ofNat']
  omega

theorem toNat_leading (n : ℕ) {bound mark : ℕ} (h : bound + mark ≤ 256) (hb : 0 < bound) :
    (UInt8.ofNat (n % bound + mark)).toNat = n % bound + mark := by
  have := Nat.mod_lt n hb
  rw [UInt8.toNat_ofNat']
  omega

theorem continueWith_trailing {least greatest missing acc width n : ℕ} (hl : least ≤ n % 64 + 128)
    (hg : n % 64 + 128 ≤ greatest) (rest : List UInt8) :
    continueWith least greatest (missing + 1) acc width (UInt8.ofNat (n % 64 + 128) :: rest) =
      continueWith 0x80 0xBF missing (acc * 64 + n % 64) (width + 1) rest := by
  rw [continueWith, toNat_trailing]
  have hbounds : (decide (least ≤ n % 64 + 128) && decide (n % 64 + 128 ≤ greatest)) = true := by
    simp [hl, hg]
  rw [if_pos hbounds, Nat.add_sub_cancel]

theorem continueWith_last (least greatest acc width : ℕ) (rest : List UInt8) :
    continueWith least greatest 0 acc width rest = .char (Char.ofNat acc) width := rfl

theorem head_utf8EncodeChar (c : Char) : ∃ b tail, String.utf8EncodeChar c = b :: tail ∧
    ∀ rest, head b (tail ++ rest) = .char c (tail.length + 1) := by
  have hc : Char.ofNat c.val.toNat = c := Char.ofNat_toNat c
  have hvalid : c.val.toNat < 0xD800 ∨ 0xDFFF < c.val.toNat ∧ c.val.toNat < 0x110000 := c.valid
  unfold String.utf8EncodeChar
  generalize c.val.toNat = v at hc hvalid
  simp only
  split_ifs with h1 h2 h3
  · refine ⟨_, _, rfl, fun rest => ?_⟩
    have hb : (UInt8.ofNat v).toNat = v := by
      rw [UInt8.toNat_ofNat']
      omega
    rw [head, hb, if_pos (by omega), hc]
    rfl
  · refine ⟨_, _, rfl, fun rest => ?_⟩
    have hb := toNat_leading (v / 64) (show 32 + 192 ≤ 256 by omega) (by omega)
    rw [head, hb, if_neg (by omega), if_neg (by omega), if_pos (by omega)]
    rw [List.cons_append, continueWith_trailing (by omega) (by omega), continueWith_last]
    rw [show (v / 64 % 32 + 192 - 192) * 64 + v % 64 = v by omega, hc]
    rfl
  · refine ⟨_, _, rfl, fun rest => ?_⟩
    have hb := toNat_leading (v / 4096) (show 16 + 224 ≤ 256 by omega) (by omega)
    rw [head, hb, if_neg (by omega), if_neg (by omega), if_neg (by omega), if_pos (by omega)]
    rw [List.cons_append, List.cons_append, continueWith_trailing, continueWith_trailing,
      continueWith_last]
    · rw [show ((v / 4096 % 16 + 224 - 224) * 64 + v / 64 % 64) * 64 + v % 64 = v by omega, hc]
      rfl
    · omega
    · omega
    -- the second byte of a long form and of what would be a surrogate
    · simp only [beq_iff_eq]
      split_ifs <;> omega
    · simp only [beq_iff_eq]
      split_ifs <;> omega
  · refine ⟨_, _, rfl, fun rest => ?_⟩
    have hb := toNat_leading (v / 262144) (show 8 + 240 ≤ 256 by omega) (by omega)
    rw [head, hb, if_neg (by omega), if_neg (by omega), if_neg (by omega), if_neg (by omega),
      if_pos (by omega)]
    rw [List.cons_append, List.cons_append, List.cons_append, continueWith_trailing,
      continueWith_trailing, continueWith_trailing, continueWith_last]
    · rw [show (((v / 262144 % 8 + 240 - 240) * 64 + v / 4096 % 64) * 64 + v / 64 % 64) * 64
        + v % 64 = v by omega, hc]
      rfl
    · omega
    · omega
    · omega
    · omega
    · simp only [beq_iff_eq]
      split_ifs <;> omega
    · simp only [beq_iff_eq]
      split_ifs <;> omega

theorem heads_encode (cs : List Char) :
    heads (encode cs) = cs.map fun c => .char c (String.utf8EncodeChar c).length := by
  induction cs with
  | nil => rw [encode, List.flatMap_nil, heads, List.map_nil]
  | cons c cs ih =>
    obtain ⟨b, tail, hbytes, hhead⟩ := head_utf8EncodeChar c
    have hencode : encode (c :: cs) = b :: (tail ++ encode cs) := by
      rw [encode, List.flatMap_cons, hbytes]
      rfl
    have hdrop : (tail ++ encode cs).drop ((Head.char c (tail.length + 1)).width - 1) =
        encode cs := by
      rw [Head.width, Nat.add_sub_cancel, List.drop_left]
    rw [hencode, heads, hhead, hdrop, List.map_cons, ih, hbytes, List.length_cons]

/-- **The bytes of a text decode to the text.** -/
theorem decodeLossy_encode (cs : List Char) : decodeLossy (encode cs) = cs := by
  rw [decodeLossy, heads_encode, List.map_map]
  exact List.map_id cs

theorem collect_chars (width : Char → ℕ) (cs : List Char) (position : ℕ) :
    collect position (cs.map fun c => .char c (width c)) = .ok cs := by
  induction cs generalizing position with
  | nil => rfl
  | cons c cs ih =>
    rw [List.map_cons, collect, ih]
    rfl

theorem decode_encode (cs : List Char) : decode (encode cs) = .ok cs := by
  rw [decode, heads_encode, collect_chars]
  rfl

end JsonShapes.Text.Utf8
