import JsonShapes.Proofs.Text.Cutting
import JsonShapes.Proofs.Text.LowerCase
import JsonShapes.Url.Guard

/-! # Local addresses in lower case

A host is looked at in lower case. For ASCII hosts on one line the comparisons are then those of the text
as it is: two names, and what an address may start with (`isLocalAddress_toLower_iff`). -/

namespace JsonShapes.Url

open Text

variable {cs : List Char}

theorem map_foldCase_map_toLower (hascii : ∀ c ∈ cs, c.toNat < 0x80) :
    (cs.map Char.toLower).map foldCase = cs.map Char.toLower := by
  have hall : ∀ n < 0x80, foldCase (Char.ofNat n).toLower = (Char.ofNat n).toLower := by decide +kernel
  rw [List.map_map]
  apply List.map_congr_left
  intro c hc
  exact forall_ascii (P := fun c => foldCase c.toLower = c.toLower) hall (hascii c hc)

theorem dropFinalLineFeed_of_notMem (h : '\n' ∉ cs) : dropFinalLineFeed cs = cs := by
  rw [dropFinalLineFeed, if_neg]
  intro hlast
  exact h (List.mem_of_getLast? (by simpa using hlast))

theorem isLocalAddress_toLower_iff (hascii : ∀ c ∈ cs, c.toNat < 0x80) (hline : '\n' ∉ cs) :
    isLocalAddress (String.ofList (cs.map Char.toLower)) = true ↔
      cs.map Char.toLower = "localhost".toList ∨ cs.map Char.toLower = "::1".toList ∨
        (∃ p ∈ localPrefixes, p <+: cs.map Char.toLower) ∨ "fe80:".toList <+: cs.map Char.toLower := by
  have hshown : '\n' ∉ cs.map Char.toLower := notMem_map_toLower hascii (by decide) hline
  simp only [isLocalAddress, String.toList_ofList, dropFinalLineFeed_of_notMem hshown,
    map_foldCase_map_toLower hascii, Bool.or_eq_true, beq_iff_eq, List.any_eq_true,
    List.isPrefixOf_iff_prefix, or_assoc]

/-- **The prefixes of private networks** need a point before any colon. -/
theorem not_localPrefix_of_colon {front rest : List Char} (h : '.' ∉ front) :
    ¬ ∃ p ∈ localPrefixes, p <+: front ++ ':' :: rest := by
  have hmarks : localPrefixes.all (fun p => p.contains '.' && !p.contains ':') = true := by
    decide +kernel
  rintro ⟨p, hp, hbegins⟩
  have hpoint := List.all_eq_true.mp hmarks p hp
  simp only [Bool.and_eq_true, Bool.not_eq_true', ← Bool.not_eq_true, List.contains_iff_mem] at hpoint
  have hinside := prefix_of_notMem hpoint.2 hbegins
  exact h (hinside.subset hpoint.1)

end JsonShapes.Url
