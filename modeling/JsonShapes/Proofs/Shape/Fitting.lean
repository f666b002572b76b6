import JsonShapes.Proofs.Shape.Walk

/-! # Values fit their types

`Fits dates D v t` says when a value fits a type under declarations `D`: a reference stands for the
objects of one signature, that of the only declaration of its name. `Describes dates D d fields` says
when a declaration belongs to an object, field by field, and `Inside fields v` that the object is
reached in `v` through fields and first items.

A walk gives a type that the value fits, and each declaration it makes describes an object inside the
value (`infer_fits_and_describes`). Both stay true when declarations of other names are added
(`Fits.mono`, `Describes.mono`), which is what carries them through the rest of a walk. -/

namespace JsonShapes.Inference

/-- **A value fits a type under the declarations `D`.** -/
inductive Fits (dates : Bool) (D : List Declaration) : Value → TypeExpr → Prop
  | null : Fits dates D .null .any
  | foreign : Fits dates D .foreign .any
  | bool (b : Bool) : Fits dates D (.bool b) .boolean
  | int (i : Int) : Fits dates D (.int i) .number
  | float (x : Float) : Fits dates D (.float x) .number
  | string {s : String} (h : ¬ (dates = true ∧ DateText.isDateText s = true)) :
    Fits dates D (.string s) .string
  | date {s : String} (hdates : dates = true) (hs : DateText.isDateText s = true) :
    Fits dates D (.string s) .date
  | emptyArray : Fits dates D (.array []) (.array .any)
  | emptyTuple : Fits dates D (.tuple []) (.array .any)
  | array {v : Value} {t : TypeExpr} (rest : List Value) (h : Fits dates D v t) :
    Fits dates D (.array (v :: rest)) (.array t)
  | tuple {v : Value} {t : TypeExpr} (rest : List Value) (h : Fits dates D v t) :
    Fits dates D (.tuple (v :: rest)) (.array t)
  | object {fields : List (Key × Value)} {d : Declaration}
    (once : D.filter (fun e => e.name == d.name) = [d]) (hs : d.signature = signature fields) :
    Fits dates D (.object fields) (.ref d.name)

/-- A declared field stands for a field of an object: it has its name and a type that it fits. -/
def FieldFits (dates : Bool) (D : List Declaration) (f : Key × Value) (g : Field) : Prop :=
  g.name = Naming.fieldName f.1.text ∧ Fits dates D f.2 g.type

/-- **A declaration belongs to an object**: it has its signature and, in order, its fields. -/
structure Describes (dates : Bool) (D : List Declaration) (d : Declaration)
    (fields : List (Key × Value)) : Prop where
  signature : signature fields = d.signature
  fields : List.Forall₂ (FieldFits dates D) fields d.fields

/-- **The objects inside a value**, reached through fields and first items. -/
inductive Inside (fields : List (Key × Value)) : Value → Prop
  | here : Inside fields (.object fields)
  | array {v : Value} (rest : List Value) (h : Inside fields v) : Inside fields (.array (v :: rest))
  | tuple {v : Value} (rest : List Value) (h : Inside fields v) : Inside fields (.tuple (v :: rest))
  | field {outer : List (Key × Value)} {f : Key × Value} (hf : f ∈ outer) (h : Inside fields f.2) :
    Inside fields (.object outer)

variable {dates : Bool} {D D' : List Declaration}

theorem exists_left_of_forall₂ {α β : Type} {R : α → β → Prop} {as : List α} {bs : List β}
    (h : List.Forall₂ R as bs) : ∀ b ∈ bs, ∃ a ∈ as, R a b := by
  induction h with
  | nil => exact fun b hb => absurd hb List.not_mem_nil
  | @cons a b as bs hab _ ih =>
    intro b' hb
    rcases List.mem_cons.mp hb with rfl | hb
    · exact ⟨a, List.mem_cons_self, hab⟩
    · obtain ⟨a', ha', h⟩ := ih b' hb
      exact ⟨a', List.mem_cons_of_mem _ ha', h⟩

/-! ### More declarations -/

theorem filter_name_eq (hn : (D.map (·.name)).Nodup) {d : Declaration} (hd : d ∈ D) :
    D.filter (fun e => e.name == d.name) = [d] := by
  obtain ⟨before, after, rfl⟩ := List.append_of_mem hd
  rw [List.map_append, List.map_cons, List.nodup_middle, List.nodup_cons] at hn
  have hother : ∀ e ∈ before ++ after, e.name ≠ d.name := by
    intro e he heq
    exact hn.1 (by rw [← List.map_append, ← heq]; exact List.mem_map_of_mem he)
  have hb : before.filter (fun e => e.name == d.name) = [] := by
    rw [List.filter_eq_nil_iff]
    intro e he
    simpa using hother e (List.mem_append_left _ he)
  have ha : after.filter (fun e => e.name == d.name) = [] := by
    rw [List.filter_eq_nil_iff]
    intro e he
    simpa using hother e (List.mem_append_right _ he)
  rw [List.filter_append, List.filter_cons_of_pos (by simp), hb, ha, List.nil_append]

theorem Fits.mono (hn : (D'.map (·.name)).Nodup) (hD : D ⊆ D') {v : Value} {t : TypeExpr}
    (h : Fits dates D v t) : Fits dates D' v t := by
  induction h with
  | null => exact .null
  | foreign => exact .foreign
  | bool b => exact .bool b
  | int i => exact .int i
  | float x => exact .float x
  | string h => exact .string h
  | date hdates hs => exact .date hdates hs
  | emptyArray => exact .emptyArray
  | emptyTuple => exact .emptyTuple
  | array rest _ ih => exact .array rest ih
  | tuple rest _ ih => exact .tuple rest ih
  | @object fields d once hs =>
    have hd : d ∈ D := List.mem_of_mem_filter (once ▸ List.mem_singleton_self d)
    exact .object (filter_name_eq hn (hD hd)) hs

theorem FieldFits.mono (hn : (D'.map (·.name)).Nodup) (hD : D ⊆ D') {f : Key × Value} {g : Field}
    (h : FieldFits dates D f g) : FieldFits dates D' f g := ⟨h.1, h.2.mono hn hD⟩

theorem Describes.mono (hn : (D'.map (·.name)).Nodup) (hD : D ⊆ D') {d : Declaration}
    {fields : List (Key × Value)} (h : Describes dates D d fields) : Describes dates D' d fields :=
  ⟨h.signature, h.fields.imp fun _ _ hf => hf.mono hn hD⟩

theorem Fits.exists_declaration {fields : List (Key × Value)} {name : String}
    (h : Fits dates D (.object fields) (.ref name)) :
    ∃ d ∈ D, d.name = name ∧ d.signature = signature fields := by
  cases h with
  | @object _ d once hs =>
    have hd : d ∈ D := List.mem_of_mem_filter (once ▸ List.mem_singleton_self d)
    exact ⟨d, hd, rfl, hs⟩

/-! ### Walks give fitting types -/

theorem fits_leaf {v : Value} {t : TypeExpr} (h : leafType? dates v = some t) :
    Fits dates D v t := by
  cases v with
  | null => cases h; exact .null
  | foreign => cases h; exact .foreign
  | bool b => cases h; exact .bool b
  | int i => cases h; exact .int i
  | float x => cases h; exact .float x
  | string s =>
    cases h
    unfold textType
    split_ifs with hs
    · rw [Bool.and_eq_true] at hs
      exact .date hs.1 hs.2
    · rw [Bool.and_eq_true] at hs
      exact .string hs
  | array items =>
    cases items with
    | nil => cases h; exact .emptyArray
    | cons _ _ => cases h
  | tuple items =>
    cases items with
    | nil => cases h; exact .emptyTuple
    | cons _ _ => cases h
  | object _ => cases h

theorem Fits.of_firstItem {a v : Value} {t : TypeExpr} (ha : firstItem? a = some v)
    (h : Fits dates D v t) : Fits dates D a (.array t) := by
  unfold firstItem? at ha
  split at ha
  · cases ha; exact .array _ h
  · cases ha; exact .tuple _ h
  · cases ha

theorem Inside.of_firstItem {fields : List (Key × Value)} {a v : Value}
    (ha : firstItem? a = some v) (h : Inside fields v) : Inside fields a := by
  unfold firstItem? at ha
  split at ha
  · cases ha; exact .array _ h
  · cases ha; exact .tuple _ h
  · cases ha

/-- From any consistent registry, the value fits its type and the declarations that are new describe
objects inside it. -/
theorem infer_fits_and_describes (dates : Bool) (v : Value) (hint : String) {r : Registry}
    {pending : List String} (h : r.Consistent pending) :
    Fits dates (infer dates v hint r).registry.declarations v (infer dates v hint r).type ∧
      ∀ d ∈ (infer dates v hint r).registry.declarations, d ∈ r.declarations ∨
        ∃ fields, Inside fields v ∧
          Describes dates (infer dates v hint r).registry.declarations d fields := by
  -- the fields of an object are described under the declarations before its own, and `mono` adds it
  refine declaration_induction
    (P := fun v D t D' => Fits dates D' v t ∧
      ∀ d ∈ D', d ∈ D ∨ ∃ fields, Inside fields v ∧ Describes dates D' d fields)
    (Q := fun fields D typed D' => List.Forall₂ (FieldFits dates D') fields typed ∧
      ∀ d ∈ D', d ∈ D ∨ ∃ f ∈ fields, ∃ inner, Inside inner f.2 ∧ Describes dates D' d inner)
    ?leaf ?item ?known ?made ?nil ?cons v hint h
  case leaf =>
    intro v D t ht
    exact ⟨fits_leaf ht, fun d hd => Or.inl hd⟩
  case item =>
    rintro a v D t D' ha ⟨hfits, hnew⟩
    refine ⟨hfits.of_firstItem ha, fun d hd => ?_⟩
    rcases hnew d hd with hd | ⟨fields, hin, hdesc⟩
    · exact Or.inl hd
    · exact Or.inr ⟨fields, hin.of_firstItem ha, hdesc⟩
  case known =>
    intro fields D d hn hd hs
    exact ⟨.object (filter_name_eq hn hd) hs, fun e he => Or.inl he⟩
  case made =>
    rintro fields D D' d - - hs hn ⟨htyped, hnew⟩
    have hsub : D' ⊆ D' ++ [d] := List.subset_append_left _ _
    refine ⟨.object (filter_name_eq hn (by simp)) hs, fun e he => ?_⟩
    rcases List.mem_append.mp he with he | he
    · rcases hnew e he with he | ⟨f, hf, inner, hin, hdesc⟩
      · exact Or.inl he
      · exact Or.inr ⟨inner, .field hf hin, hdesc.mono hn hsub⟩
    · obtain rfl := List.mem_singleton.mp he
      exact Or.inr ⟨fields, .here, hs.symm, htyped.imp fun _ _ hf => hf.mono hn hsub⟩
  case nil => exact fun D => ⟨.nil, fun d hd => Or.inl hd⟩
  case cons =>
    rintro k v rest D t D₁ typed D₂ - hpre hn ⟨hfits, hnew⟩ ⟨htyped, hnew'⟩
    refine ⟨.cons ⟨rfl, hfits.mono hn hpre.subset⟩ htyped, fun d hd => ?_⟩
    rcases hnew' d hd with hd | ⟨f, hf, inner, hin, hdesc⟩
    · rcases hnew d hd with hd | ⟨inner, hin, hdesc⟩
      · exact Or.inl hd
      · exact Or.inr ⟨(k, v), List.mem_cons_self, inner, hin, hdesc.mono hn hpre.subset⟩
    · exact Or.inr ⟨f, List.mem_cons_of_mem _ hf, inner, hin, hdesc⟩

/-- **Soundness.** A value fits the type it is given, and every declaration made for it describes
an object inside it. -/
theorem infer_sound (dates : Bool) (v : Value) (name : String) :
    Fits dates (infer dates v name .empty).registry.declarations v
        (infer dates v name .empty).type ∧
      ∀ d ∈ (infer dates v name .empty).registry.declarations, ∃ fields, Inside fields v ∧
        Describes dates (infer dates v name .empty).registry.declarations d fields := by
  obtain ⟨hfits, hnew⟩ := infer_fits_and_describes dates v name Registry.consistent_empty
  refine ⟨hfits, fun d hd => (hnew d hd).resolve_left ?_⟩
  exact List.not_mem_nil

end JsonShapes.Inference
