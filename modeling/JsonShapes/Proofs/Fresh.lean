import Mathlib

/-! # Names that are not taken

Of names that are numbered without repetition, one more than are taken always has one that is not. -/

namespace JsonShapes

/-- **Among one more numbered names than there are taken ones**, one is not taken. -/
theorem exists_fresh {α : Type} (taken : List α) {name : ℕ → α} (h : Function.Injective name) :
    ∃ k < taken.length + 1, name k ∉ taken := by
  by_contra hall
  push Not at hall
  have hsub : (List.range (taken.length + 1)).map name ⊆ taken := by
    intro a ha
    obtain ⟨k, hk, rfl⟩ := List.mem_map.mp ha
    exact hall k (List.mem_range.mp hk)
  have hle := ((List.nodup_range.map h).subperm hsub).length_le
  rw [List.length_map, List.length_range] at hle
  omega

end JsonShapes
