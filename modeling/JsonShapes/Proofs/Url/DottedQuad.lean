import JsonShapes.Proofs.Url.Decoration
import JsonShapes.Proofs.Url.LocalAddress

/-! # Dotted quads

An IPv4 address is written as its four numbers between points (`Quad.text`). The text is read as such an
address (`Quad.isDotted_text`), its first numbers are found at its front (`Quad.first_prefix_iff`,
`Quad.second_prefix_iff`), and it names the local machine or a private network just when the address is
of one of their ranges (`Quad.isLocalAddress_text`). -/

namespace JsonShapes.Url

open Text

/-! ### Octets -/

/-- The digits of an octet. -/
def octet (n : Fin 256) : List Char := Nat.toDigits 10 n

theorem isDigit_of_mem_octet {n : Fin 256} {c : Char} (h : c ∈ octet n) : c.isDigit = true :=
  Nat.isDigit_of_mem_toDigits (by decide) (by decide) h

theorem point_notMem_octet (n : Fin 256) : '.' ∉ octet n :=
  fun h => absurd (isDigit_of_mem_octet h) (by decide)

theorem octet_inj {m n : Fin 256} : octet m = octet n ↔ m = n := by
  constructor
  · intro h
    have hvalue := congrArg (fun cs => Nat.ofDigitChars 10 cs 0) h
    simp only [octet, Nat.ofDigitChars_ten_toDigits] at hvalue
    exact Fin.ext hvalue
  · exact fun h => h ▸ rfl

theorem toLower_of_isDigit {c : Char} (h : c.isDigit = true) : c.toLower = c := by
  have hupper : ¬ (c.val ≥ 'A'.val ∧ c.val ≤ 'Z'.val) := by
    simp only [Char.isDigit, Bool.and_eq_true, decide_eq_true_eq, ge_iff_le,
      UInt32.le_iff_toNat_le] at h ⊢
    rintro ⟨hlow, -⟩
    exact absurd (hlow.trans h.2) (by decide)
  rw [Char.toLower, dif_neg hupper]

theorem isOctet_octet : ∀ n : Fin 256, isOctet (octet n) = true := by decide +kernel

/-! ### Quads -/

/-- **An IPv4 address.** -/
structure Quad where
  first : Fin 256
  second : Fin 256
  third : Fin 256
  fourth : Fin 256
deriving DecidableEq, Repr

namespace Quad

variable (q : Quad)

/-- The numbers of an address between points. -/
def text : List Char := join ['.'] [octet q.first, octet q.second, octet q.third, octet q.fourth]

theorem text_eq : q.text = octet q.first ++ '.' :: (octet q.second ++ '.' ::
    (octet q.third ++ '.' :: octet q.fourth)) := by
  simp [text, join]

theorem text_ne_nil : q.text ≠ [] := by
  simp [text_eq]

theorem of_mem_text {c : Char} (h : c ∈ q.text) : c.isDigit = true ∨ c = '.' := by
  have hdigit : ∀ n : Fin 256, c ∈ octet n → c.isDigit = true := fun _ => isDigit_of_mem_octet
  simp only [text_eq, List.mem_append, List.mem_cons] at h
  have := hdigit q.first
  have := hdigit q.second
  have := hdigit q.third
  have := hdigit q.fourth
  tauto

theorem isAlphanum_of_mem_text {c : Char} (h : c ∈ q.text) : c.isAlphanum = true ∨ c = '.' := by
  rcases q.of_mem_text h with hdigit | hpoint
  · exact .inl (by simp [Char.isAlphanum, hdigit])
  · exact .inr hpoint

theorem isAscii (c : Char) (h : c ∈ q.text) : c.toNat < 0x80 := by
  rcases q.isAlphanum_of_mem_text h with halphanum | rfl
  · exact (plain_of_isAlphanum halphanum).1
  · decide

theorem toLower_text : q.text.map Char.toLower = q.text := by
  have hkept : ∀ c ∈ q.text, c.toLower = c := by
    intro c hc
    rcases q.of_mem_text hc with hdigit | rfl
    · exact toLower_of_isDigit hdigit
    · rfl
  rw [List.map_congr_left hkept, List.map_id']

theorem pieces_text :
    pieces '.' q.text = [octet q.first, octet q.second, octet q.third, octet q.fourth] := by
  apply pieces_join (List.cons_ne_nil _ _)
  intro p hp
  simp only [List.mem_cons, List.not_mem_nil, or_false] at hp
  rcases hp with rfl | rfl | rfl | rfl <;> exact point_notMem_octet _

theorem isDotted_text : isDotted q.text = true := by
  simp [isDotted, pieces_text, isOctet_octet]

theorem first_prefix_iff (m : Fin 256) : octet m ++ ['.'] <+: q.text ↔ q.first = m := by
  rw [text_eq, List.prefix_iff_exists_append_eq]
  simp only [List.append_assoc, List.singleton_append]
  constructor
  · rintro ⟨rest, h⟩
    exact (octet_inj.mp ((append_mark_inj (point_notMem_octet _) (point_notMem_octet _)).mp h).1).symm
  · rintro rfl
    exact ⟨_, rfl⟩

theorem second_prefix_iff (m n : Fin 256) :
    octet m ++ '.' :: (octet n ++ ['.']) <+: q.text ↔ q.first = m ∧ q.second = n := by
  rw [text_eq, List.prefix_iff_exists_append_eq]
  simp only [List.append_assoc, List.cons_append, List.nil_append]
  constructor
  · rintro ⟨rest, h⟩
    obtain ⟨hm, h⟩ := (append_mark_inj (point_notMem_octet _) (point_notMem_octet _)).mp h
    obtain ⟨hn, -⟩ := (append_mark_inj (point_notMem_octet _) (point_notMem_octet _)).mp h
    exact ⟨(octet_inj.mp hm).symm, (octet_inj.mp hn).symm⟩
  · rintro ⟨rfl, rfl⟩
    exact ⟨_, rfl⟩

/-! ### Private networks -/

/-- **The address is of the local machine or of a private network**: it is in 127.0.0.0/8, 10.0.0.0/8,
192.168.0.0/16 or 172.16.0.0/12. -/
def IsPrivate : Prop :=
  q.first = 127 ∨ q.first = 10 ∨ (q.first = 192 ∧ q.second = 168) ∨
    (q.first = 172 ∧ 16 ≤ q.second ∧ q.second ≤ 31)

instance : Decidable q.IsPrivate :=
  inferInstanceAs (Decidable (q.first = 127 ∨ q.first = 10 ∨ (q.first = 192 ∧ q.second = 168) ∨
    (q.first = 172 ∧ 16 ≤ q.second ∧ q.second ≤ 31)))

theorem localPrefixes_eq : localPrefixes =
    [octet 127 ++ ['.'], octet 192 ++ '.' :: (octet 168 ++ ['.']), octet 10 ++ ['.']] ++
      (List.range 16).map fun n => octet 172 ++ '.' :: (octet (Fin.ofNat 256 (16 + n)) ++ ['.']) := by
  decide +kernel

theorem exists_localPrefix_iff : (∃ p ∈ localPrefixes, p <+: q.text) ↔ q.IsPrivate := by
  have hrange : (∃ n < 16, q.first = 172 ∧ q.second = Fin.ofNat 256 (16 + n)) ↔
      q.first = 172 ∧ 16 ≤ q.second ∧ q.second ≤ 31 := by
    simp only [Fin.ext_iff, Fin.le_def, Fin.val_ofNat, Fin.isValue]
    constructor
    · rintro ⟨n, hn, hfirst, hsecond⟩
      exact ⟨hfirst, by omega, by omega⟩
    · rintro ⟨hfirst, hlow, hhigh⟩
      exact ⟨q.second - 16, by omega, hfirst, by omega⟩
  simp only [localPrefixes_eq, List.mem_append, List.mem_cons, List.not_mem_nil, or_false, List.mem_map,
    List.mem_range, or_and_right, exists_or, exists_eq_left, exists_exists_and_eq_and, first_prefix_iff,
    second_prefix_iff, hrange, IsPrivate]
  tauto

/-- **A quad names the local machine or a private network** just when the address is of one. -/
theorem isLocalAddress_text : isLocalAddress (String.ofList q.text) = true ↔ q.IsPrivate := by
  have hnot : ∀ {c : Char}, c.isDigit = false → c ≠ '.' → c ∉ q.text := by
    intro c hdigit hpoint hc
    rcases q.of_mem_text hc with h | h
    · rw [hdigit] at h
      cases h
    · exact hpoint h
  have hname : q.text ≠ "localhost".toList := by
    intro h
    exact hnot (c := 'l') (by decide) (by decide) (h ▸ by decide)
  have hloopback : q.text ≠ "::1".toList := by
    intro h
    exact hnot (c := ':') (by decide) (by decide) (h ▸ by decide)
  have hlink : ¬ "fe80:".toList <+: q.text := by
    intro h
    exact hnot (c := 'f') (by decide) (by decide) (h.subset (by decide))
  have hlower := isLocalAddress_toLower_iff q.isAscii (hnot (by decide) (by decide))
  rw [q.toLower_text] at hlower
  simp only [hlower, hname, hloopback, hlink, exists_localPrefix_iff, false_or, or_false]

end Quad

end JsonShapes.Url
