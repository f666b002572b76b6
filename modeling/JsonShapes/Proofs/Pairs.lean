import Mathlib

/-! # Lists of pairs

A pair that is put into a list takes the place of the one with its name, or stands at the end; so of several
pairs that are put in one after the other the last of each name counts (`lookup_foldl_putPair`), in the place
of the first (`gathers_foldl_putPair`). -/

namespace JsonShapes

variable {α β : Type} [DecidableEq α] {a q : α} {b : β} {l all : List (α × β)}

/-- A pair put into a list: in the place of the one with its name, or at the end. -/
def putPair (a : α) (b : β) : List (α × β) → List (α × β)
  | [] => [(a, b)]
  | p :: rest => if p.1 = a then (a, b) :: rest else p :: putPair a b rest

theorem fst_mem_putPair : q ∈ (putPair a b l).map Prod.fst ↔ q = a ∨ q ∈ l.map Prod.fst := by
  induction l with
  | nil => simp [putPair]
  | cons p rest ih =>
    rw [putPair]
    split
    · rename_i hp
      simp [hp]
    · rw [List.map_cons, List.map_cons, List.mem_cons, List.mem_cons, ih]
      tauto

theorem map_fst_putPair (a : α) (b : β) (l : List (α × β)) : (putPair a b l).map Prod.fst =
    if a ∈ l.map Prod.fst then l.map Prod.fst else l.map Prod.fst ++ [a] := by
  induction l with
  | nil => rfl
  | cons p rest ih =>
    rw [putPair]
    by_cases hp : p.1 = a
    · simp [hp]
    · rw [if_neg hp, List.map_cons, ih, List.map_cons]
      by_cases hmem : a ∈ rest.map Prod.fst
      · rw [if_pos hmem, if_pos (List.mem_cons_of_mem _ hmem)]
      · rw [if_neg hmem, if_neg (by simpa [Ne.symm hp] using hmem), List.cons_append]

theorem putPair_of_notMem (h : a ∉ l.map Prod.fst) : putPair a b l = l ++ [(a, b)] := by
  induction l with
  | nil => rfl
  | cons p rest ih =>
    rw [List.map_cons, List.mem_cons, not_or] at h
    rw [putPair, if_neg (Ne.symm h.1), ih h.2, List.cons_append]

theorem mem_putPair {p : α × β} (h : (l.map Prod.fst).Nodup) (hmem : p ∈ putPair a b l) :
    p = (a, b) ∨ p ∈ l ∧ p.1 ≠ a := by
  induction l with
  | nil => exact .inl (List.mem_singleton.mp hmem)
  | cons r rest ih =>
    rw [List.map_cons, List.nodup_cons] at h
    rw [putPair] at hmem
    split at hmem
    · rename_i hr
      refine (List.mem_cons.mp hmem).imp_right fun hrest => ⟨List.mem_cons_of_mem _ hrest, ?_⟩
      rintro rfl
      exact h.1 (hr ▸ List.mem_map_of_mem hrest)
    · rename_i hr
      rcases List.mem_cons.mp hmem with rfl | hrest
      · exact .inr ⟨List.mem_cons_self, hr⟩
      · exact (ih h.2 hrest).imp_right fun hp => ⟨List.mem_cons_of_mem _ hp.1, hp.2⟩

theorem length_putPair_le (a : α) (b : β) (l : List (α × β)) : (putPair a b l).length ≤ l.length + 1 := by
  induction l with
  | nil => exact Nat.le_refl _
  | cons p rest ih =>
    rw [putPair]
    split
    · simp
    · simpa using ih

theorem putPair_putPair (a : α) (b b' : β) (l : List (α × β)) :
    putPair a b' (putPair a b l) = putPair a b' l := by
  induction l with
  | nil => simp [putPair]
  | cons p rest ih =>
    rw [putPair, putPair]
    split
    · simp [putPair]
    · rename_i hp
      rw [putPair, if_neg hp, ih]

theorem nodup_putPair (h : (l.map Prod.fst).Nodup) : ((putPair a b l).map Prod.fst).Nodup := by
  induction l with
  | nil => simp [putPair]
  | cons p rest ih =>
    rw [List.map_cons, List.nodup_cons] at h
    rw [putPair]
    split
    · rename_i hp
      rw [List.map_cons, List.nodup_cons]
      exact hp ▸ h
    · rename_i hp
      rw [List.map_cons, List.nodup_cons, fst_mem_putPair]
      exact ⟨not_or.mpr ⟨hp, h.1⟩, ih h.2⟩

theorem nodup_foldl_putPair (l : List (α × β)) (h : (all.map Prod.fst).Nodup) :
    ((l.foldl (fun all p => putPair p.1 p.2 all) all).map Prod.fst).Nodup := by
  induction l generalizing all with
  | nil => exact h
  | cons p rest ih => exact ih (nodup_putPair h)

variable [BEq α] [LawfulBEq α]

theorem lookup_putPair (a q : α) (b : β) (l : List (α × β)) :
    (putPair a b l).lookup q = if q = a then some b else l.lookup q := by
  induction l with
  | nil =>
    rw [putPair, List.lookup_cons, List.lookup_nil]
    by_cases h : q = a
    · simp [h]
    · simp [beq_eq_false_iff_ne.mpr h, h]
  | cons p rest ih =>
    rw [putPair]
    by_cases hp : p.1 = a
    · rw [if_pos hp, List.lookup_cons, List.lookup_cons, hp]
      by_cases h : q = a
      · simp [h]
      · simp [beq_eq_false_iff_ne.mpr h, h]
    · rw [if_neg hp, List.lookup_cons, List.lookup_cons, ih]
      by_cases h : q = p.1
      · simp [h, hp]
      · simp [beq_eq_false_iff_ne.mpr h]

/-- **The last of each name counts**, and what was there before counts for the other names. -/
theorem lookup_foldl_putPair (q : α) (l all : List (α × β)) :
    (l.foldl (fun all p => putPair p.1 p.2 all) all).lookup q =
      (l.reverse.lookup q).or (all.lookup q) := by
  induction l generalizing all with
  | nil => rfl
  | cons p rest ih =>
    rw [List.foldl_cons, ih, lookup_putPair, List.reverse_cons, List.lookup_append, Option.or_assoc]
    congr 1
    rw [List.lookup_cons, List.lookup_nil]
    by_cases h : q = p.1
    · simp [h]
    · simp [beq_eq_false_iff_ne.mpr h, h]

theorem lookup_reverse_of_nodup (h : (l.map Prod.fst).Nodup) : l.reverse.lookup q = l.lookup q := by
  induction l with
  | nil => rfl
  | cons p rest ih =>
    rw [List.map_cons, List.nodup_cons] at h
    rw [List.reverse_cons, List.lookup_append, ih h.2, List.lookup_cons, List.lookup_cons, List.lookup_nil]
    by_cases hq : q = p.1
    · have hnone : rest.lookup q = none := by
        rw [List.lookup_eq_none_iff]
        intro r hr
        rw [bne_iff_ne, hq]
        rintro heq
        exact h.1 (List.mem_map.mpr ⟨r, hr, heq.symm⟩)
      rw [hnone]
      simp [hq]
    · simp [beq_eq_false_iff_ne.mpr hq]

/-- **What pairs are gathered to**: each of their names stands once, in the order in which the names come
first, with what the last pair of the name holds. -/
structure Gathers (given all : List (α × β)) : Prop where
  name : ∀ q, q ∈ all.map Prod.fst ↔ q ∈ given.map Prod.fst
  order : (all.map Prod.fst).Pairwise fun q r =>
    (given.map Prod.fst).idxOf q < (given.map Prod.fst).idxOf r
  last : ∀ p ∈ all, ∃ front back, given = front ++ p :: back ∧ p.1 ∉ back.map Prod.fst

omit [DecidableEq α] [LawfulBEq α] in
theorem Gathers.nodup {given : List (α × β)} (h : Gathers given all) : (all.map Prod.fst).Nodup := by
  refine List.Pairwise.imp (fun {q r} hlt => ?_) h.order
  rintro rfl
  exact Nat.lt_irrefl _ hlt

theorem Gathers.concat {given : List (α × β)} (h : Gathers given all) (p : α × β) :
    Gathers (given ++ [p]) (putPair p.1 p.2 all) := by
  have hkept : ∀ q ∈ all.map Prod.fst,
      ((given ++ [p]).map Prod.fst).idxOf q = (given.map Prod.fst).idxOf q := by
    intro q hq
    rw [List.map_append]
    exact List.idxOf_append_of_mem ((h.name q).mp hq)
  have horder : (all.map Prod.fst).Pairwise fun q r =>
      ((given ++ [p]).map Prod.fst).idxOf q < ((given ++ [p]).map Prod.fst).idxOf r := by
    refine h.order.imp_of_mem fun hq hr hlt => ?_
    rw [hkept _ hq, hkept _ hr]
    exact hlt
  constructor
  · intro q
    rw [fst_mem_putPair, h.name, List.map_append, List.mem_append, List.map_singleton, List.mem_singleton,
      or_comm]
  · rw [map_fst_putPair]
    split_ifs with hmem
    · exact horder
    · rw [List.pairwise_append]
      refine ⟨horder, List.pairwise_singleton _ _, fun q hq r hr => ?_⟩
      obtain rfl := List.mem_singleton.mp hr
      have hnew : p.1 ∉ given.map Prod.fst := fun hgiven => hmem ((h.name _).mpr hgiven)
      rw [hkept q hq, List.map_append, List.idxOf_append_of_notMem hnew]
      have hlt := List.idxOf_lt_length_iff.mpr ((h.name q).mp hq)
      omega
  · intro r hr
    rcases mem_putPair h.nodup hr with rfl | ⟨hr, hne⟩
    · exact ⟨given, [], rfl, List.not_mem_nil⟩
    · obtain ⟨front, back, rfl, hback⟩ := h.last r hr
      refine ⟨front, back ++ [p], by simp, ?_⟩
      rw [List.map_append, List.mem_append, not_or]
      exact ⟨hback, fun hp => hne (List.mem_singleton.mp hp)⟩

/-- **Pairs that are put in one after the other** are gathered. -/
theorem gathers_foldl_putPair (given : List (α × β)) :
    Gathers given (given.foldl (fun all p => putPair p.1 p.2 all) []) := by
  induction given using List.reverseRecOn with
  | nil => exact ⟨fun _ => Iff.rfl, .nil, List.forall_mem_nil _⟩
  | append_singleton given p ih =>
    rw [List.foldl_append]
    exact ih.concat p

end JsonShapes
