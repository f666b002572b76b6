import JsonShapes.Proofs.Shape.Walk

/-! # Dates and texts

Whether dates are wanted decides the types of texts and nothing else. A walk that wants no dates is the
walk that wants them with every date turned into a text: `undated` does this to types, fields,
declarations and registries, and to the outcomes of walks.

The signatures, the taken names and the remembered types do not see it, so both walks take the same
steps (`infer_undated`). -/

namespace JsonShapes

/-! ### Dates as texts -/

/-- **The type with every date turned into a text.** -/
def TypeExpr.undated : TypeExpr → TypeExpr
  | .primitive keyword => if TypeExpr.primitive keyword = .date then .string else .primitive keyword
  | .array item => .array item.undated
  | .ref name => .ref name
  | .unsupported shown => .unsupported shown

def Field.undated (g : Field) : Field := ⟨g.name, g.type.undated⟩

/-- The declaration with every date in its fields turned into a text. -/
def Declaration.undated (d : Declaration) : Declaration :=
  ⟨d.name, d.signature, d.fields.map Field.undated⟩

namespace Registry

/-- The registry with the dates in its declarations turned into texts. -/
def undated (r : Registry) : Registry := { r with declarations := r.declarations.map Declaration.undated }

@[simp] theorem undated_empty : empty.undated = empty := rfl

@[simp] theorem lookup_undated (r : Registry) (s : String) : r.undated.lookup s = r.lookup s := rfl

theorem reserve_undated (r : Registry) (candidate : String) :
    r.undated.reserve candidate = ((r.reserve candidate).1, (r.reserve candidate).2.undated) := rfl

theorem register_undated (r : Registry) (d : Declaration) :
    r.undated.register d.undated = (r.register d).undated := by
  simp only [register, undated, List.map_append]
  rfl

end Registry

namespace Inference

/-- The outcome of a walk with every date turned into a text. -/
def Result.undated (found : Result) : Result :=
  ⟨found.type.undated, found.registry.undated, found.events⟩

/-! ### Two walks of one value -/

theorem textType_undated (s : String) : textType false s = (textType true s).undated := by
  unfold textType
  cases DateText.isDateText s <;> decide

theorem infer_leaf_undated {v : Value} {t : TypeExpr} (h : leafType? true v = some t) (hint : String)
    (r : Registry) : infer false v hint r.undated = (infer true v hint r).undated := by
  cases v with
  | string s => simp only [infer, Result.undated, textType_undated]
  | array items =>
    cases items with
    | nil => simp only [infer]; rfl
    | cons v rest => cases h
  | tuple items =>
    cases items with
    | nil => simp only [infer]; rfl
    | cons v rest => cases h
  | object fields => cases h
  | _ => simp only [infer]; rfl

/-- **The walk without dates takes the steps of the walk with them.** -/
theorem infer_undated (v : Value) (hint : String) (r : Registry) :
    infer false v hint r.undated = (infer true v hint r).undated := by
  refine (walk_induction true
    (P := fun v hint r => infer false v hint r.undated = (infer true v hint r).undated)
    (Q := fun owner fields r => inferFields false owner fields r.undated =
      ((inferFields true owner fields r).1.map Field.undated,
        (inferFields true owner fields r).2.1.undated, (inferFields true owner fields r).2.2))
    ?leaf ?item ?known ?made ?nil ?cons).1 v hint r
  case leaf =>
    intro v t hint r h
    exact infer_leaf_undated h hint r
  case item =>
    intro a v hint r ha ih
    unfold firstItem? at ha
    split at ha
    · cases ha
      simp only [infer, ih]
      rfl
    · cases ha
      simp only [infer, ih]
      rfl
    · cases ha
  case known =>
    intro fields hint r name hname
    have hname' : r.undated.lookup (signature fields) = some name := by
      rw [Registry.lookup_undated, hname]
    rw [infer_known hname, infer_known hname']
    rfl
  case made =>
    intro fields hint r name reserved hnone hr ih
    have hnone' : r.undated.lookup (signature fields) = none := by
      rw [Registry.lookup_undated, hnone]
    have hr' : r.undated.reserve (Naming.typeName hint) = (name, reserved.undated) := by
      rw [Registry.reserve_undated, hr]
    rw [infer_made hnone hr, infer_made hnone' hr', ih, Result.undated, ← Registry.register_undated]
    rfl
  case nil =>
    intro owner r
    rw [inferFields_nil, inferFields_nil]
    rfl
  case cons =>
    intro owner k v rest r ihv ihrest
    rw [inferFields_cons, inferFields_cons, ihv]
    simp only [Result.undated, ihrest]
    rfl

/-- **Wanting dates changes the types of texts and nothing else.** Without dates a value gets the type
and the declarations that it gets with them, every date turned into a text; the declarations have the
same names, signatures and field names in the same order, and the walk tells the same about itself. -/
theorem dates_change_texts_only (v : Value) (name : String) :
    (infer false v name .empty).type = (infer true v name .empty).type.undated ∧
      (infer false v name .empty).registry.declarations =
        (infer true v name .empty).registry.declarations.map Declaration.undated ∧
      ((infer false v name .empty).registry.declarations.map
          fun d => (d.name, d.signature, d.fields.map (·.name))) =
        ((infer true v name .empty).registry.declarations.map
          fun d => (d.name, d.signature, d.fields.map (·.name))) ∧
      (infer false v name .empty).events = (infer true v name .empty).events := by
  have h := infer_undated v name .empty
  rw [Registry.undated_empty] at h
  rw [h]
  refine ⟨rfl, rfl, ?_, rfl⟩
  simp [Result.undated, Registry.undated, Declaration.undated, Field.undated, Function.comp_def]

/-- A date is one with dates, and a text without. -/
example : (infer true (.array [.string "2024-02-29T03:04:05Z"]) "Root" .empty).type = .array .date ∧
    (infer false (.array [.string "2024-02-29T03:04:05Z"]) "Root" .empty).type = .array .string := by
  refine ⟨?_, ?_⟩ <;> cbv

end Inference

end JsonShapes
