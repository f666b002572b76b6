import JsonShapes.Proofs.Shape.Walk

/-! # References among declarations

A type refers to at most one name, under whatever arrays (`target?`). For the declarations of a value:

* `Ordered`: the fields of a declaration refer to declarations before it, so none refers to itself,
  to a later one or to nothing;
* `Reaches`: every declaration is reached from the type of the value, so none is there for nothing.

A declaration is appended when its fields are typed, and what they refer to is declared by then; this
gives the order. What a walk declares for a field is reached from the type of the field, and so from
the type of the object, whose last declaration has that field. -/

namespace JsonShapes

/-- The name a type refers to. -/
def TypeExpr.target? : TypeExpr → Option String
  | .ref name => some name
  | .array item => item.target?
  | .primitive _ | .unsupported _ => none

namespace Inference

/-- What a type refers to is declared. -/
def Refers (D : List Declaration) (t : TypeExpr) : Prop :=
  ∀ name, t.target? = some name → ∃ d ∈ D, d.name = name

/-- **The fields of a declaration refer to earlier declarations.** -/
def Ordered (D : List Declaration) : Prop :=
  ∀ (i : ℕ) (d : Declaration), D[i]? = some d → ∀ g ∈ d.fields, ∀ name,
    g.type.target? = some name → ∃ j < i, ∃ e, D[j]? = some e ∧ e.name = name

/-- **The declarations that a type leads to**, from field to field. -/
inductive Reaches (D : List Declaration) (t : TypeExpr) : Declaration → Prop
  | direct {d : Declaration} (hd : d ∈ D) (ht : t.target? = some d.name) : Reaches D t d
  | field {d e : Declaration} {g : Field} (h : Reaches D t d) (hg : g ∈ d.fields) (he : e ∈ D)
    (ht : g.type.target? = some e.name) : Reaches D t e

variable {dates : Bool} {D D' : List Declaration} {t : TypeExpr}

theorem target?_textType (s : String) : (textType dates s).target? = none := by
  unfold textType
  split_ifs <;> rfl

theorem target?_leaf {v : Value} (h : leafType? dates v = some t) : t.target? = none := by
  unfold leafType? at h
  split at h <;> cases h
  case h_6 s => exact target?_textType s
  all_goals rfl

theorem Refers.mono (hD : D ⊆ D') (h : Refers D t) : Refers D' t := by
  intro name hname
  obtain ⟨d, hd, rfl⟩ := h name hname
  exact ⟨d, hD hd, rfl⟩

theorem ordered_nil : Ordered [] := by
  intro i d hd
  cases hd

theorem Ordered.concat (h : Ordered D) {d : Declaration} (hd : ∀ g ∈ d.fields, Refers D g.type) :
    Ordered (D ++ [d]) := by
  intro i e he g hg name hname
  rcases Nat.lt_or_ge i D.length with hi | hi
  · rw [List.getElem?_append_left hi] at he
    obtain ⟨j, hj, e', he', rfl⟩ := h i e he g hg name hname
    exact ⟨j, hj, e', by rw [List.getElem?_append_left (by omega)]; exact he', rfl⟩
  · rw [List.getElem?_append_right hi] at he
    obtain rfl := List.mem_singleton.mp (List.mem_of_getElem? he)
    obtain ⟨e', hmem, rfl⟩ := hd g hg name hname
    obtain ⟨j, hj, rfl⟩ := List.getElem_of_mem hmem
    exact ⟨j, by omega, D[j], by rw [List.getElem?_append_left hj, List.getElem?_eq_getElem hj], rfl⟩

theorem Reaches.mono (hD : D ⊆ D') {d : Declaration} (h : Reaches D t d) : Reaches D' t d := by
  induction h with
  | direct hd ht => exact .direct (hD hd) ht
  | field _ hg he ht ih => exact .field ih hg (hD he) ht

theorem Reaches.array {d : Declaration} (h : Reaches D t d) : Reaches D (.array t) d := by
  induction h with
  | direct hd ht => exact .direct hd ht
  | field _ hg he ht ih => exact .field ih hg he ht

theorem Reaches.through {d e : Declaration} {g : Field} (h : Reaches D t d) (hg : g ∈ d.fields)
    (he : Reaches D g.type e) : Reaches D t e := by
  induction he with
  | direct he ht => exact .field h hg he ht
  | field _ hg' he ht ih => exact .field ih hg' he ht

/-- From any consistent registry, a walk gives a type that refers to a declaration, keeps the order
and reaches what it declares from the type. -/
theorem infer_refers (dates : Bool) (v : Value) (hint : String) {r : Registry}
    {pending : List String} (h : r.Consistent pending) :
    Refers (infer dates v hint r).registry.declarations (infer dates v hint r).type ∧
      (Ordered r.declarations → Ordered (infer dates v hint r).registry.declarations) ∧
      ∀ d ∈ (infer dates v hint r).registry.declarations, d ∈ r.declarations ∨
        Reaches (infer dates v hint r).registry.declarations (infer dates v hint r).type d := by
  refine declaration_induction
    (P := fun _ D t D' => Refers D' t ∧ (Ordered D → Ordered D') ∧
      ∀ d ∈ D', d ∈ D ∨ Reaches D' t d)
    (Q := fun _ D typed D' => (∀ g ∈ typed, Refers D' g.type) ∧ (Ordered D → Ordered D') ∧
      ∀ d ∈ D', d ∈ D ∨ ∃ g ∈ typed, Reaches D' g.type d)
    ?leaf ?item ?known ?made ?nil ?cons v hint h
  case leaf =>
    intro v D t ht
    refine ⟨fun name hname => ?_, id, fun d hd => Or.inl hd⟩
    rw [target?_leaf ht] at hname
    cases hname
  case item =>
    rintro a v D t D' - ⟨href, hord, hreach⟩
    exact ⟨href, hord, fun d hd => (hreach d hd).imp_right Reaches.array⟩
  case known =>
    rintro fields D d - hd -
    refine ⟨fun name hname => ⟨d, hd, Option.some.inj hname⟩, id, fun e he => Or.inl he⟩
  case made =>
    rintro fields D D' d - - - - ⟨href, hord, hreach⟩
    have hsub : D' ⊆ D' ++ [d] := List.subset_append_left _ _
    have hlast : d ∈ D' ++ [d] := by simp
    have hroot : Reaches (D' ++ [d]) (.ref d.name) d := .direct hlast rfl
    refine ⟨fun name hname => ⟨d, hlast, Option.some.inj hname⟩,
      fun ho => (hord ho).concat href, fun e he => ?_⟩
    rcases List.mem_append.mp he with he | he
    · refine (hreach e he).imp_right ?_
      rintro ⟨g, hg, hr⟩
      exact hroot.through hg (hr.mono hsub)
    · obtain rfl := List.mem_singleton.mp he
      exact Or.inr hroot
  case nil => exact fun D => ⟨by simp, id, fun d hd => Or.inl hd⟩
  case cons =>
    rintro k v rest D t D₁ typed D₂ - hpre - ⟨href, hord, hreach⟩ ⟨href', hord', hreach'⟩
    refine ⟨?_, hord' ∘ hord, fun d hd => ?_⟩
    · rintro g (_ | ⟨_, hg⟩)
      · exact href.mono hpre.subset
      · exact href' g hg
    · rcases hreach' d hd with hd | ⟨g, hg, hr⟩
      · refine (hreach d hd).imp_right fun hr => ?_
        exact ⟨_, List.mem_cons_self, hr.mono hpre.subset⟩
      · exact Or.inr ⟨g, List.mem_cons_of_mem _ hg, hr⟩

/-- **The declarations of a value are named apart, in order and all needed.** -/
theorem declarations_ordered_and_reached (dates : Bool) (v : Value) (name : String) :
    ((infer dates v name .empty).registry.declarations.map (·.name)).Nodup ∧
      Ordered (infer dates v name .empty).registry.declarations ∧
      Refers (infer dates v name .empty).registry.declarations (infer dates v name .empty).type ∧
      ∀ d ∈ (infer dates v name .empty).registry.declarations,
        Reaches (infer dates v name .empty).registry.declarations
          (infer dates v name .empty).type d := by
  obtain ⟨href, hord, hreach⟩ :=
    infer_refers dates v name Registry.consistent_empty
  refine ⟨(infer_consistent dates Registry.consistent_empty v name).nodup, hord ordered_nil, href,
    fun d hd => (hreach d hd).resolve_left ?_⟩
  exact List.not_mem_nil

end Inference

end JsonShapes
