import JsonShapes.Proofs.Shape.Walk

/-! # Hints give names and nothing else

Two walks of one value from different hints declare types in step: the same signatures, members and
primitive types at the same places, and references to the declarations of one place. Taken names may
be numbered in one walk and not in the other, so the two lists of names only go together pair by pair
(`pairs`).

* `Alike D D'`: the declarations go in step under the pairs of their names. A walk keeps this and
  gives types that go in step (`infer_alike`).
* Names are distinct in each list, so the pairs are those of a function that is one to one, and the
  second outcome is the first one renamed by it (`infer_eq_rename`). -/

namespace JsonShapes

/-- The type with its references renamed. -/
def TypeExpr.rename (σ : String → String) : TypeExpr → TypeExpr
  | .ref name => .ref (σ name)
  | .array item => .array (item.rename σ)
  | .primitive keyword => .primitive keyword
  | .unsupported shown => .unsupported shown

/-- The declaration under its new name, with the references of its fields renamed. -/
def Declaration.rename (σ : String → String) (d : Declaration) : Declaration :=
  ⟨σ d.name, d.signature, d.fields.map fun g => ⟨g.name, g.type.rename σ⟩⟩

namespace Inference

/-! ### Types and declarations in step -/

/-- **Two types in step**: they differ in their references only, by the pairs `ρ`. -/
inductive TypesPaired (ρ : List (String × String)) : TypeExpr → TypeExpr → Prop
  | primitive (keyword : String) : TypesPaired ρ (.primitive keyword) (.primitive keyword)
  | array {t t' : TypeExpr} (h : TypesPaired ρ t t') : TypesPaired ρ (.array t) (.array t')
  | ref {name name' : String} (h : (name, name') ∈ ρ) : TypesPaired ρ (.ref name) (.ref name')

/-- Two fields of one name, with types in step. -/
def FieldsPaired (ρ : List (String × String)) (g g' : Field) : Prop :=
  g.name = g'.name ∧ TypesPaired ρ g.type g'.type

/-- **Two declarations in step.** -/
structure DeclarationsPaired (ρ : List (String × String)) (d d' : Declaration) : Prop where
  name : (d.name, d'.name) ∈ ρ
  signature : d.signature = d'.signature
  fields : List.Forall₂ (FieldsPaired ρ) d.fields d'.fields

/-- The names at the same places of two lists of declarations. -/
def pairs (D D' : List Declaration) : List (String × String) :=
  (D.map (·.name)).zip (D'.map (·.name))

/-- **Two lists of declarations in step.** -/
def Alike (D D' : List Declaration) : Prop :=
  List.Forall₂ (DeclarationsPaired (pairs D D')) D D'

variable {ρ ρ' : List (String × String)} {D D' : List Declaration} {dates : Bool}

theorem TypesPaired.mono (hρ : ρ ⊆ ρ') {t t' : TypeExpr} (h : TypesPaired ρ t t') :
    TypesPaired ρ' t t' := by
  induction h with
  | primitive keyword => exact .primitive keyword
  | array _ ih => exact .array ih
  | ref h => exact .ref (hρ h)

theorem FieldsPaired.mono (hρ : ρ ⊆ ρ') {g g' : Field} (h : FieldsPaired ρ g g') :
    FieldsPaired ρ' g g' := ⟨h.1, h.2.mono hρ⟩

theorem DeclarationsPaired.mono (hρ : ρ ⊆ ρ') {d d' : Declaration}
    (h : DeclarationsPaired ρ d d') : DeclarationsPaired ρ' d d' :=
  ⟨hρ h.name, h.signature, h.fields.imp fun _ _ hg => hg.mono hρ⟩

theorem pairs_subset (h : D.length = D'.length) {E E' : List Declaration} (hE : D <+: E)
    (hE' : D' <+: E') : pairs D D' ⊆ pairs E E' := by
  obtain ⟨more, rfl⟩ := hE
  obtain ⟨more', rfl⟩ := hE'
  unfold pairs
  rw [List.map_append, List.map_append, List.zip_append (by simpa using h)]
  exact List.subset_append_left _ _

theorem Alike.length_eq (h : Alike D D') : D.length = D'.length := List.Forall₂.length_eq h

theorem pairs_concat (h : D.length = D'.length) (d d' : Declaration) :
    pairs (D ++ [d]) (D' ++ [d']) = pairs D D' ++ [(d.name, d'.name)] := by
  unfold pairs
  rw [List.map_append, List.map_append, List.zip_append (by simpa using h)]
  rfl

theorem Alike.concat (h : Alike D D') {d d' : Declaration} (hs : d.signature = d'.signature)
    (hfields : List.Forall₂ (FieldsPaired (pairs D D')) d.fields d'.fields) :
    Alike (D ++ [d]) (D' ++ [d']) := by
  unfold Alike
  rw [pairs_concat h.length_eq]
  have hsub := List.subset_append_left (pairs D D') [(d.name, d'.name)]
  refine List.rel_append (h.imp fun _ _ hd => hd.mono hsub) (.cons ⟨?_, hs, ?_⟩ .nil)
  · exact List.mem_append_right _ List.mem_cons_self
  · exact hfields.imp fun _ _ hg => hg.mono hsub

theorem find?_paired (h : List.Forall₂ (DeclarationsPaired ρ) D D') (s : String) :
    Option.Rel (fun name name' => (name, name') ∈ ρ)
      ((D.find? fun d => d.signature == s).map (·.name))
      ((D'.find? fun d => d.signature == s).map (·.name)) := by
  induction h with
  | nil => exact .none
  | cons hd _ ih =>
    rw [List.find?_cons, List.find?_cons, hd.signature]
    split
    · exact .some hd.name
    · exact ih

theorem Alike.lookup {r r' : Registry} {pending pending' : List String}
    (hc : r.Consistent pending) (hc' : r'.Consistent pending')
    (h : Alike r.declarations r'.declarations) (s : String) :
    Option.Rel (fun name name' => (name, name') ∈ pairs r.declarations r'.declarations)
      (r.lookup s) (r'.lookup s) := by
  rw [hc.lookup, hc'.lookup]
  exact find?_paired h s

theorem leaf_paired {v : Value} {t : TypeExpr} (h : leafType? dates v = some t) :
    TypesPaired ρ t t := by
  unfold leafType? at h
  split at h <;> cases h
  case h_6 s =>
    unfold textType
    split_ifs <;> exact .primitive _
  all_goals first
    | exact .primitive _
    | exact .array (.primitive _)

/-! ### Two walks of one value -/

/-- **From registries in step, two walks of one value stay in step**, whatever their hints. -/
theorem infer_alike (dates : Bool) (v : Value) (hint hint' : String) {r r' : Registry}
    {pending pending' : List String} (hc : r.Consistent pending) (hc' : r'.Consistent pending')
    (h : Alike r.declarations r'.declarations) :
    Alike (infer dates v hint r).registry.declarations
        (infer dates v hint' r').registry.declarations ∧
      TypesPaired (pairs (infer dates v hint r).registry.declarations
          (infer dates v hint' r').registry.declarations)
        (infer dates v hint r).type (infer dates v hint' r').type := by
  -- the second walk may start anywhere, so the induction is over the first for all second ones
  refine (walk_induction dates
    (P := fun v hint r => ∀ hint' r' pending pending', Registry.Consistent r pending →
      Registry.Consistent r' pending' → Alike r.declarations r'.declarations →
      Alike (infer dates v hint r).registry.declarations
          (infer dates v hint' r').registry.declarations ∧
        TypesPaired (pairs (infer dates v hint r).registry.declarations
            (infer dates v hint' r').registry.declarations)
          (infer dates v hint r).type (infer dates v hint' r').type)
    (Q := fun owner fields r => ∀ owner' r' pending pending', Registry.Consistent r pending →
      Registry.Consistent r' pending' → Alike r.declarations r'.declarations →
      Alike (inferFields dates owner fields r).2.1.declarations
          (inferFields dates owner' fields r').2.1.declarations ∧
        List.Forall₂ (FieldsPaired (pairs (inferFields dates owner fields r).2.1.declarations
            (inferFields dates owner' fields r').2.1.declarations))
          (inferFields dates owner fields r).1 (inferFields dates owner' fields r').1)
    ?leaf ?item ?known ?made ?nil ?cons).1 v hint r hint' r' pending pending' hc hc' h
  case leaf =>
    intro v t hint r ht hint' r' pending pending' _ _ h
    rw [(infer_leaf ht hint r).1, (infer_leaf ht hint r).2, (infer_leaf ht hint' r').1,
      (infer_leaf ht hint' r').2]
    exact ⟨h, leaf_paired ht⟩
  case item =>
    intro a v hint r ha ih hint' r' pending pending' hc hc' h
    rw [(infer_item ha hint r).1, (infer_item ha hint r).2, (infer_item ha hint' r').1,
      (infer_item ha hint' r').2]
    obtain ⟨halike, htypes⟩ := ih (itemHint hint') r' pending pending' hc hc' h
    exact ⟨halike, .array htypes⟩
  case known =>
    intro fields hint r name hname hint' r' pending pending' hc hc' h
    have hlookup := h.lookup hc hc' (signature fields)
    rw [hname] at hlookup
    cases hname' : r'.lookup (signature fields) with
    | none => rw [hname'] at hlookup; cases hlookup
    | some name' =>
      rw [hname', Option.rel_some_some] at hlookup
      rw [infer_known hname, infer_known hname']
      exact ⟨h, .ref hlookup⟩
  case made =>
    intro fields hint r name reserved hnone hr ih hint' r' pending pending' hc hc' h
    have hlookup := h.lookup hc hc' (signature fields)
    rw [hnone] at hlookup
    cases hnone' : r'.lookup (signature fields) with
    | some name' => rw [hnone'] at hlookup; cases hlookup
    | none =>
      obtain ⟨name', reserved', hr'⟩ : ∃ name' reserved',
          r'.reserve (Naming.typeName hint') = (name', reserved') := ⟨_, _, rfl⟩
      have hstart : Alike reserved.declarations reserved'.declarations := by
        rw [(Registry.reserve_eq hr).2.2.1, (Registry.reserve_eq hr').2.2.1]
        exact h
      obtain ⟨halike, hfields⟩ := ih name' reserved' _ _ (hc.reserve hr) (hc'.reserve hr') hstart
      rw [infer_made hnone hr, infer_made hnone' hr']
      refine ⟨halike.concat rfl hfields, .ref ?_⟩
      rw [Registry.declarations_register, Registry.declarations_register,
        pairs_concat halike.length_eq]
      exact List.mem_append_right _ List.mem_cons_self
  case nil =>
    intro owner r owner' r' pending pending' _ _ h
    rw [inferFields_nil, inferFields_nil]
    exact ⟨h, .nil⟩
  case cons =>
    intro owner k v rest r ihv ihrest owner' r' pending pending' hc hc' h
    obtain ⟨halike, htypes⟩ := ihv (fieldHint owner' k.text) r' pending pending' hc hc' h
    have hmid := infer_consistent dates hc v (fieldHint owner k.text)
    have hmid' := infer_consistent dates hc' v (fieldHint owner' k.text)
    obtain ⟨halike', hfields⟩ := ihrest owner' _ pending pending' hmid hmid' halike
    rw [inferFields_cons, inferFields_cons]
    refine ⟨halike', .cons ⟨rfl, htypes.mono ?_⟩ hfields⟩
    exact pairs_subset halike.length_eq (inferFields_extends dates owner rest _).declarations
      (inferFields_extends dates owner' rest _).declarations

/-! ### The renaming -/

theorem exists_function_of_pairs (h : (ρ.map Prod.fst).Nodup) :
    ∃ σ : String → String, ∀ p ∈ ρ, σ p.1 = p.2 := by
  induction ρ with
  | nil => exact ⟨id, fun p hp => absurd hp List.not_mem_nil⟩
  | cons q ρ ih =>
    rw [List.map_cons, List.nodup_cons] at h
    obtain ⟨σ, hσ⟩ := ih h.2
    refine ⟨Function.update σ q.1 q.2, fun p hp => ?_⟩
    rcases List.mem_cons.mp hp with rfl | hp
    · exact Function.update_self _ _ _
    · have hne : p.1 ≠ q.1 := by
        intro heq
        exact h.1 (heq ▸ List.mem_map_of_mem hp)
      rw [Function.update_of_ne hne]
      exact hσ p hp

theorem eq_map_of_forall₂ {α β : Type} {R : α → β → Prop} {f : α → β} {as : List α} {bs : List β}
    (hR : ∀ a b, R a b → b = f a) (h : List.Forall₂ R as bs) : bs = as.map f := by
  induction h with
  | nil => rfl
  | cons hab _ ih => rw [List.map_cons, ← ih, hR _ _ hab]

section Renaming
variable {σ : String → String} (hσ : ∀ p ∈ ρ, σ p.1 = p.2)
include hσ

theorem TypesPaired.eq_rename {t t' : TypeExpr} (h : TypesPaired ρ t t') : t' = t.rename σ := by
  induction h with
  | primitive keyword => rfl
  | array _ ih => rw [TypeExpr.rename, ih]
  | ref h => rw [TypeExpr.rename, hσ _ h]

theorem FieldsPaired.eq_rename {g g' : Field} (h : FieldsPaired ρ g g') :
    g' = ⟨g.name, g.type.rename σ⟩ := by
  rw [h.1, ← h.2.eq_rename hσ]

theorem DeclarationsPaired.eq_rename {d d' : Declaration} (h : DeclarationsPaired ρ d d') :
    d' = d.rename σ := by
  have hfields := eq_map_of_forall₂ (fun _ _ hg => hg.eq_rename hσ) h.fields
  rw [Declaration.rename, hσ _ h.name, h.signature, ← hfields]

end Renaming

/-- **Another hint renames.** The outcomes of one value under two hints have their declarations in
the same order, with the same signatures and members; a function that is one to one between the
declared names of the first and those of the second turns one outcome into the other. -/
theorem infer_eq_rename (dates : Bool) (v : Value) (name name' : String) :
    ∃ σ : String → String,
      Set.BijOn σ
        {n | n ∈ (infer dates v name .empty).registry.declarations.map (·.name)}
        {n | n ∈ (infer dates v name' .empty).registry.declarations.map (·.name)} ∧
      (infer dates v name' .empty).registry.declarations =
        (infer dates v name .empty).registry.declarations.map (Declaration.rename σ) ∧
      (infer dates v name' .empty).type = (infer dates v name .empty).type.rename σ := by
  have hc := infer_consistent dates Registry.consistent_empty v name
  have hc' := infer_consistent dates Registry.consistent_empty v name'
  obtain ⟨halike, htypes⟩ := infer_alike dates v name name' Registry.consistent_empty
    Registry.consistent_empty .nil
  have hfirst : (pairs (infer dates v name .empty).registry.declarations
      (infer dates v name' .empty).registry.declarations).map Prod.fst =
        (infer dates v name .empty).registry.declarations.map (·.name) :=
    List.map_fst_zip (by simp [halike.length_eq])
  obtain ⟨σ, hσ⟩ := exists_function_of_pairs (hfirst ▸ hc.nodup)
  have hdeclarations := eq_map_of_forall₂ (fun _ _ hd => hd.eq_rename hσ) halike
  have hnames : (infer dates v name' .empty).registry.declarations.map (·.name) =
      ((infer dates v name .empty).registry.declarations.map (·.name)).map σ := by
    rw [hdeclarations, List.map_map, List.map_map]
    rfl
  refine ⟨σ, ⟨fun n hn => ?_, ?_, fun n hn => ?_⟩, hdeclarations, htypes.eq_rename hσ⟩
  · rw [Set.mem_ofPred_eq, hnames]
    exact List.mem_map_of_mem hn
  · exact fun n hn m hm => List.inj_on_of_nodup_map (hnames ▸ hc'.nodup) hn hm
  · rw [Set.mem_ofPred_eq, hnames] at hn
    obtain ⟨m, hm, rfl⟩ := List.mem_map.mp hn
    exact ⟨m, hm, rfl⟩

end Inference

end JsonShapes
