import JsonShapes.Proofs.Fresh
import JsonShapes.Shape.Registry

/-! # The registry during a walk

A name is taken before its declaration is finished. `Consistent r pending` describes a registry while
the types named `pending` are being made: the names taken are those of the declarations and the
pending ones, each once, and the memo answers for every signature with the first declaration that
has it.

* `isDue_freshName`: the name that is handed out, the first free one, so it is new (`freshName_notMem`);
* `Consistent.reserve`, `Consistent.register`: taking a name makes it pending, and registering a
  declaration ends that;
* `Extends`: what a registry holds is still there later. -/

namespace JsonShapes.Registry

/-! ### Fresh names -/

theorem numbered_injective (candidate : String) : Function.Injective (numbered candidate) := by
  intro j k h
  have := Nat.repr_injective ((String.append_right_inj candidate).mp h)
  omega

/-- **The name for a candidate**: itself when it is free, else it with the least number from 2 on that
makes it free. -/
def IsDue (taken : List String) (candidate name : String) : Prop :=
  (candidate ∉ taken ∧ name = candidate) ∨
    (candidate ∈ taken ∧ ∃ k, IsLeast {k : ℕ | 2 ≤ k ∧ candidate ++ toString k ∉ taken} k ∧
      name = candidate ++ toString k)

theorem isDue_freshName (taken : List String) (candidate : String) :
    IsDue taken candidate (freshName taken candidate) := by
  unfold freshName
  split_ifs with htaken
  · rw [List.contains_iff_mem] at htaken
    rw [List.find?_map]
    refine Or.inr ⟨htaken, ?_⟩
    cases h : (List.range (taken.length + 1)).find?
        ((fun name => !taken.contains name) ∘ numbered candidate) with
    | none =>
      obtain ⟨k, hk, hfree⟩ := exists_fresh taken (numbered_injective candidate)
      have hall := List.find?_eq_none.mp h k (List.mem_range.mpr hk)
      exact absurd hfree (by simpa using hall)
    | some k =>
      rw [List.find?_range_eq_some] at h
      obtain ⟨hk, -, hbelow⟩ := h
      refine ⟨k + 2, ⟨⟨by omega, by simpa [numbered] using hk⟩, fun j hj => ?_⟩, rfl⟩
      by_contra hlt
      have heq : j - 2 + 2 = j := Nat.sub_add_cancel hj.1
      have hj' := hbelow (j - 2) (by omega)
      exact hj.2 (by simpa [numbered, heq] using hj')
  · exact Or.inl ⟨by simpa using htaken, rfl⟩

theorem IsDue.notMem {taken : List String} {candidate name : String}
    (h : IsDue taken candidate name) : name ∉ taken := by
  rcases h with ⟨hfree, rfl⟩ | ⟨-, k, hk, rfl⟩
  · exact hfree
  · exact hk.1.2

theorem freshName_notMem (taken : List String) (candidate : String) :
    freshName taken candidate ∉ taken := (isDue_freshName taken candidate).notMem

/-! ### What the operations do -/

theorem reserve_eq {r reserved : Registry} {candidate name : String}
    (h : r.reserve candidate = (name, reserved)) :
    name ∉ r.names ∧ reserved.names = r.names ++ [name] ∧ reserved.declarations = r.declarations ∧
      reserved.memo = r.memo := by
  cases h
  exact ⟨freshName_notMem r.names candidate, rfl, rfl, rfl⟩

@[simp] theorem declarations_register (r : Registry) (d : Declaration) :
    (r.register d).declarations = r.declarations ++ [d] := rfl

@[simp] theorem names_register (r : Registry) (d : Declaration) :
    (r.register d).names = r.names := rfl

theorem lookup_register (r : Registry) (d : Declaration) (signature : String) :
    (r.register d).lookup signature =
      (r.lookup signature).or (if d.signature == signature then some d.name else none) := by
  unfold register
  by_cases hs : (r.lookup d.signature).isSome
  · rw [if_pos hs]
    split_ifs with h
    · obtain ⟨name, hname⟩ := Option.isSome_iff_exists.mp hs
      rw [← eq_of_beq h, hname]
      exact hname
    · rw [Option.or_none]
      rfl
  · rw [if_neg hs]
    unfold lookup
    rw [List.lookup_append, List.lookup_singleton, BEq.comm]

theorem exists_lookup_register (r : Registry) (d : Declaration) :
    ∃ name, (r.register d).lookup d.signature = some name := by
  rw [lookup_register, beq_self_eq_true, if_pos rfl]
  cases r.lookup d.signature with
  | none => exact ⟨d.name, rfl⟩
  | some name => exact ⟨name, rfl⟩

theorem mem_keys_iff (r : Registry) (signature : String) :
    signature ∈ r.memo.map Prod.fst ↔ r.lookup signature ≠ none := by
  rw [← Option.isSome_iff_ne_none, lookup, List.lookup_isSome_iff, List.mem_map]
  constructor
  · rintro ⟨p, hp, rfl⟩
    exact ⟨p, hp, beq_self_eq_true _⟩
  · rintro ⟨p, hp, h⟩
    exact ⟨p, hp, (eq_of_beq h).symm⟩

theorem keys_register_nodup {r : Registry} (h : (r.memo.map Prod.fst).Nodup) (d : Declaration) :
    ((r.register d).memo.map Prod.fst).Nodup := by
  unfold register
  by_cases hs : (r.lookup d.signature).isSome
  · rw [if_pos hs]
    exact h
  · rw [if_neg hs, List.map_append, List.map_singleton, List.nodup_append]
    refine ⟨h, List.nodup_singleton _, fun a ha b hb => ?_⟩
    rintro rfl
    rw [List.mem_singleton.mp hb, mem_keys_iff] at ha
    exact hs (Option.isSome_iff_ne_none.mpr ha)

/-! ### Consistent registries -/

/-- **The registry while the types named `pending` are being made.** -/
structure Consistent (r : Registry) (pending : List String) : Prop where
  names : r.names.Perm (r.declarations.map (·.name) ++ pending)
  names_nodup : r.names.Nodup
  keys_nodup : (r.memo.map Prod.fst).Nodup
  lookup : ∀ s, r.lookup s = (r.declarations.find? fun d => d.signature == s).map (·.name)

theorem consistent_empty : Consistent empty [] := ⟨.nil, .nil, .nil, fun _ => rfl⟩

section Consistent
variable {r : Registry} {pending : List String}

theorem Consistent.nodup (h : Consistent r pending) : (r.declarations.map (·.name)).Nodup :=
  (h.names.nodup_iff.mp h.names_nodup).of_append_left

theorem Consistent.reserve (h : Consistent r pending) {candidate name : String}
    {reserved : Registry} (hr : r.reserve candidate = (name, reserved)) :
    Consistent reserved (name :: pending) := by
  obtain ⟨hnew, hnames, hdecl, hmemo⟩ := reserve_eq hr
  refine ⟨?_, ?_, hmemo ▸ h.keys_nodup, fun s => ?_⟩
  · rw [hnames, hdecl]
    exact (List.perm_append_singleton _ _).trans ((h.names.cons _).trans List.perm_middle.symm)
  · rw [hnames, List.nodup_append]
    refine ⟨h.names_nodup, List.nodup_singleton _, fun a ha b hb => ?_⟩
    rintro rfl
    exact hnew (List.mem_singleton.mp hb ▸ ha)
  · rw [hdecl, ← h.lookup s, Registry.lookup, hmemo]
    rfl

theorem Consistent.register {d : Declaration} (h : Consistent r (d.name :: pending)) :
    Consistent (r.register d) pending := by
  refine ⟨?_, h.names_nodup, keys_register_nodup h.keys_nodup d, fun s => ?_⟩
  · rw [names_register, declarations_register, List.map_append, List.append_assoc]
    exact h.names
  · rw [lookup_register, declarations_register, List.find?_append, Option.map_or, h.lookup s]
    cases hd : d.signature == s <;> simp [hd]

theorem Consistent.lookup_eq_none_iff (h : Consistent r pending) {s : String} :
    r.lookup s = none ↔ ∀ d ∈ r.declarations, d.signature ≠ s := by
  rw [h.lookup s, Option.map_eq_none_iff, List.find?_eq_none]
  simp

theorem Consistent.exists_of_lookup (h : Consistent r pending) {s name : String}
    (hs : r.lookup s = some name) : ∃ d ∈ r.declarations, d.signature = s ∧ d.name = name := by
  rw [h.lookup s] at hs
  obtain ⟨d, hd, rfl⟩ := Option.map_eq_some_iff.mp hs
  exact ⟨d, List.mem_of_find?_eq_some hd, by simpa using List.find?_some hd, rfl⟩

end Consistent

/-! ### Later registries -/

/-- **What `r` holds is still there in `r'`.** -/
structure Extends (r r' : Registry) : Prop where
  declarations : r.declarations <+: r'.declarations
  lookup : ∀ s name, r.lookup s = some name → r'.lookup s = some name

theorem Extends.refl (r : Registry) : Extends r r := ⟨List.prefix_rfl, fun _ _ h => h⟩

theorem Extends.trans {r₁ r₂ r₃ : Registry} (h : Extends r₁ r₂) (h' : Extends r₂ r₃) :
    Extends r₁ r₃ :=
  ⟨h.declarations.trans h'.declarations, fun s name hs => h'.lookup s name (h.lookup s name hs)⟩

theorem extends_reserve {r reserved : Registry} {candidate name : String}
    (h : r.reserve candidate = (name, reserved)) : Extends r reserved := by
  cases h
  exact ⟨List.prefix_rfl, fun _ _ h => h⟩

theorem extends_register (r : Registry) (d : Declaration) : Extends r (r.register d) :=
  ⟨List.prefix_append _ _, fun s name hs => by rw [lookup_register, hs, Option.some_or]⟩

end JsonShapes.Registry
