import JsonShapes.Proofs.Naming.FieldName
import JsonShapes.Proofs.Shape.Fitting

/-! # The members of the declared types

`entered v known` lists the objects that a walk of `v` enters, each after those inside it, when the
signatures `known` are declared before. A walk declares exactly these, in this order, each with its
signature and the field names of its keys (`infer_outlines`).

So the members of a type are named apart unless its object has two keys that collide
(`members_distinct_iff`): a key that starts with a digit, and the same key behind an underscore. -/

namespace JsonShapes.Inference

/-- The keys of an object, as texts. -/
def keyTexts (fields : List (Key × Value)) : List String := fields.map fun f => f.1.text

/-- **A declaration has the signature and the field names of an object.** -/
def Outlines (fields : List (Key × Value)) (d : Declaration) : Prop :=
  signature fields = d.signature ∧ d.fields.map (·.name) = (keyTexts fields).map Naming.fieldName

mutual

/-- **The objects that a walk enters**, each after those inside it. -/
def entered : Value → (known : List String) → List (List (Key × Value))
  | .array (v :: _), known => entered v known
  | .tuple (v :: _), known => entered v known
  | .object fields, known =>
    if signature fields ∈ known then [] else enteredFields fields known ++ [fields]
  | _, _ => []

def enteredFields : List (Key × Value) → (known : List String) → List (List (Key × Value))
  | [], _ => []
  | (_, v) :: rest, known =>
    entered v known ++ enteredFields rest (known ++ (entered v known).map signature)

end

variable {dates : Bool}

/-! ### The objects entered -/

theorem entered_leaf {v : Value} {t : TypeExpr} (h : leafType? dates v = some t)
    (known : List String) : entered v known = [] := by
  unfold leafType? at h
  split at h <;> cases h
  all_goals simp [entered]

theorem entered_item {a v : Value} (h : firstItem? a = some v) (known : List String) :
    entered a known = entered v known := by
  unfold firstItem? at h
  split at h <;> cases h <;> simp [entered]

theorem inside_of_entered :
    (∀ v known, ∀ o ∈ entered v known, Inside o v) ∧
      ∀ fields known, ∀ o ∈ enteredFields fields known, ∃ f ∈ fields, Inside o f.2 := by
  apply entered.mutual_induct
    (fun v known => ∀ o ∈ entered v known, Inside o v)
    (fun fields known => ∀ o ∈ enteredFields fields known, ∃ f ∈ fields, Inside o f.2)
  case case1 =>
    intro v tail known ih o ho
    rw [entered] at ho
    exact .array tail (ih o ho)
  case case2 =>
    intro v tail known ih o ho
    rw [entered] at ho
    exact .tuple tail (ih o ho)
  case case3 =>
    intro fields known h o ho
    rw [entered, if_pos h] at ho
    cases ho
  case case4 =>
    intro fields known h ih o ho
    rw [entered, if_neg h] at ho
    rcases List.mem_append.mp ho with ho | ho
    · obtain ⟨f, hf, hin⟩ := ih o ho
      exact .field hf hin
    · rw [List.mem_singleton.mp ho]
      exact .here
  case case5 =>
    intro v known h1 h2 h3 o ho
    rw [entered] at ho
    · cases ho
    all_goals assumption
  case case6 =>
    intro known o ho
    rw [enteredFields] at ho
    cases ho
  case case7 =>
    intro k v rest known ihv ihrest o ho
    rw [enteredFields] at ho
    rcases List.mem_append.mp ho with ho | ho
    · exact ⟨(k, v), List.mem_cons_self, ihv o ho⟩
    · obtain ⟨f, hf, hin⟩ := ihrest o ho
      exact ⟨f, List.mem_cons_of_mem _ hf, hin⟩

theorem map_signature_of_outlines {objects : List (List (Key × Value))} {D : List Declaration}
    (h : List.Forall₂ Outlines objects D) : objects.map signature = D.map (·.signature) := by
  induction h with
  | nil => rfl
  | cons ho _ ih => rw [List.map_cons, List.map_cons, ho.1, ih]

/-- **What a walk declares**: the objects that it enters, in order. -/
theorem infer_outlines (dates : Bool) (v : Value) (hint : String) {r : Registry}
    {pending : List String} (h : r.Consistent pending) :
    ∃ new, (infer dates v hint r).registry.declarations = r.declarations ++ new ∧
      List.Forall₂ Outlines (entered v (r.declarations.map (·.signature))) new := by
  refine declaration_induction
    (P := fun v D _ D' => ∃ new, D' = D ++ new ∧
      List.Forall₂ Outlines (entered v (D.map (·.signature))) new)
    (Q := fun fields D typed D' => (∃ new, D' = D ++ new ∧
      List.Forall₂ Outlines (enteredFields fields (D.map (·.signature))) new) ∧
      typed.map (·.name) = (keyTexts fields).map Naming.fieldName)
    ?leaf ?item ?known ?made ?nil ?cons v hint h
  case leaf =>
    intro v D t ht
    rw [entered_leaf ht]
    exact ⟨[], (List.append_nil D).symm, .nil⟩
  case item =>
    intro a v D t D' ha ih
    rw [entered_item ha]
    exact ih
  case known =>
    intro fields D d _ hd hs
    rw [entered, if_pos (List.mem_map.mpr ⟨d, hd, hs⟩)]
    exact ⟨[], (List.append_nil D).symm, .nil⟩
  case made =>
    rintro fields D D' d hnew - hs - ⟨⟨new, rfl, houtlines⟩, hnames⟩
    have hmem : signature fields ∉ D.map (·.signature) := by simpa using hnew
    rw [entered, if_neg hmem]
    refine ⟨new ++ [d], List.append_assoc D new [d], ?_⟩
    exact List.rel_append houtlines (.cons ⟨hs.symm, hnames⟩ .nil)
  case nil =>
    intro D
    rw [enteredFields]
    exact ⟨⟨[], (List.append_nil D).symm, .nil⟩, rfl⟩
  case cons =>
    rintro k v rest D t D₁ typed D₂ - - - ⟨new, rfl, hv⟩ ⟨⟨new', rfl, hrest⟩, hnames⟩
    rw [List.map_append, ← map_signature_of_outlines hv] at hrest
    rw [enteredFields]
    refine ⟨⟨new ++ new', List.append_assoc D new new', List.rel_append hv hrest⟩, ?_⟩
    rw [List.map_cons, hnames]
    rfl

/-! ### Member names -/

/-- **When the members of every type are named apart**, for a value whose objects have distinct keys:
exactly when no object that is entered has two keys that collide. -/
theorem members_distinct_iff (dates : Bool) (v : Value) (name : String)
    (h : ∀ o, Inside o v → (keyTexts o).Nodup) :
    (∀ d ∈ (infer dates v name .empty).registry.declarations, (d.fields.map (·.name)).Nodup) ↔
      ∀ o ∈ entered v [], ∀ a ∈ keyTexts o, ∀ b ∈ keyTexts o, ¬ Naming.Collides a b := by
  have hkeys : ∀ o ∈ entered v [], (keyTexts o).Nodup := by
    intro o ho
    exact h o (inside_of_entered.1 v [] o ho)
  obtain ⟨D, hD, houtlines⟩ := infer_outlines dates v name Registry.consistent_empty
  rw [hD]
  clear hD h
  change List.Forall₂ Outlines (entered v []) D at houtlines
  change (∀ d ∈ D, _) ↔ _
  -- the two lists go in step, so the question is one about each object and its declaration
  generalize entered v [] = objects at houtlines hkeys ⊢
  induction houtlines with
  | nil => simp
  | cons ho _ ih =>
    rw [List.forall_mem_cons] at hkeys
    rw [List.forall_mem_cons, List.forall_mem_cons, ho.2]
    exact and_congr (Naming.nodup_fieldNames_iff hkeys.1) (ih hkeys.2)

/-- Keys of different objects do not collide, nor do keys that are quoted with their underscore. -/
theorem members_distinct_nested :
    (∀ o, Inside o (.object [(.name "1", .object [(.name "_1", .null), (.name "3 a", .null),
      (.name "_3 a", .null)])]) → (keyTexts o).Nodup) ∧
    ∀ d ∈ (infer false (.object [(.name "1", .object [(.name "_1", .null), (.name "3 a", .null),
      (.name "_3 a", .null)])]) "Root" .empty).registry.declarations,
      (d.fields.map (·.name)).Nodup := by
  have h : ∀ o, Inside o (.object [(.name "1", .object [(.name "_1", .null), (.name "3 a", .null),
      (.name "_3 a", .null)])]) → (keyTexts o).Nodup := by
    intro o ho
    cases ho with
    | here => decide
    | field hf ho =>
      obtain rfl := List.mem_singleton.mp hf
      cases ho with
      | here => decide
      | field hf ho =>
        simp only [List.mem_cons, List.not_mem_nil, or_false] at hf
        rcases hf with rfl | rfl | rfl <;> cases ho
  have hentered : entered (.object [(.name "1", .object [(.name "_1", .null), (.name "3 a", .null),
      (.name "_3 a", .null)])]) [] =
        [[(.name "_1", .null), (.name "3 a", .null), (.name "_3 a", .null)],
          [(.name "1", .object [(.name "_1", .null), (.name "3 a", .null),
            (.name "_3 a", .null)])]] := by cbv
  exact ⟨h, (members_distinct_iff false _ "Root" h).mpr (by rw [hentered]; decide)⟩

/-- A key that starts with a digit, and the same key behind an underscore, get one member name. -/
theorem digit_key_member_twice :
    (keyTexts [(.name "1", .int 1), (.name "_1", .int 2)]).Nodup ∧
      (infer false (.object [(.name "1", .int 1), (.name "_1", .int 2)]) "Root"
        .empty).registry.declarations =
          [⟨"Root", "1,_1", [⟨"_1", .number⟩, ⟨"_1", .number⟩]⟩] ∧
      ¬ ∀ d ∈ (infer false (.object [(.name "1", .int 1), (.name "_1", .int 2)]) "Root"
        .empty).registry.declarations, (d.fields.map (·.name)).Nodup := by
  have h : (infer false (.object [(.name "1", .int 1), (.name "_1", .int 2)]) "Root"
      .empty).registry.declarations =
        [⟨"Root", "1,_1", [⟨"_1", .number⟩, ⟨"_1", .number⟩]⟩] := by
    cbv
  exact ⟨by decide, h, by rw [h]; decide⟩

end JsonShapes.Inference
