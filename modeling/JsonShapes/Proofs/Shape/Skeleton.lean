import JsonShapes.Proofs.Shape.Walk

/-! # What a walk sees of a value

The skeleton of a value keeps the kinds of its scalars, the keys of its objects and the first items of
its arrays. A walk of a value is decided by its skeleton, in every registry and under every hint
(`infer_of_skeleton_eq`): the type of a leaf, the first item and the signature of an object can be
told from the skeleton, and these are all that a walk asks for.

`Change v v'` is one change below or at a value that no walk sees: a scalar of the same kind, or other
items behind the first of an array. -/

namespace JsonShapes.Inference

/-- What a walk sees of a value. -/
inductive Skeleton
  | null
  | boolean
  | number
  /-- A text that is a date. -/
  | date
  /-- Any other text. -/
  | text
  | emptyArray
  | array (item : Skeleton)
  | object (fields : List (String × Skeleton))
  | unrecognised

mutual

/-- **The skeleton of a value.** -/
def skeleton : Value → Skeleton
  | .null => .null
  | .bool _ => .boolean
  | .int _ | .float _ => .number
  | .string s => if DateText.isDateText s then .date else .text
  | .array [] | .tuple [] => .emptyArray
  | .array (v :: _) | .tuple (v :: _) => .array (skeleton v)
  | .object fields => .object (skeletonFields fields)
  | .foreign => .unrecognised

def skeletonFields : List (Key × Value) → List (String × Skeleton)
  | [] => []
  | (k, v) :: rest => (k.text, skeleton v) :: skeletonFields rest

end

/-- Whether a value is a number. -/
def isNumber : Value → Bool
  | .int _ | .float _ => true
  | _ => false

/-- **One change that no walk sees**, at any depth. -/
inductive Change : Value → Value → Prop
  | bool (b b' : Bool) : Change (.bool b) (.bool b')
  | number {v v' : Value} (h : isNumber v = true) (h' : isNumber v' = true) : Change v v'
  | string {s s' : String} (h : DateText.isDateText s = DateText.isDateText s') :
    Change (.string s) (.string s')
  | items (v : Value) (rest rest' : List Value) :
    Change (.array (v :: rest)) (.array (v :: rest'))
  | tupleItems (v : Value) (rest rest' : List Value) :
    Change (.tuple (v :: rest)) (.tuple (v :: rest'))
  | firstItem {v v' : Value} (rest : List Value) (h : Change v v') :
    Change (.array (v :: rest)) (.array (v' :: rest))
  | tupleFirstItem {v v' : Value} (rest : List Value) (h : Change v v') :
    Change (.tuple (v :: rest)) (.tuple (v' :: rest))
  | field {v v' : Value} (before after : List (Key × Value)) (k : Key) (h : Change v v') :
    Change (.object (before ++ (k, v) :: after)) (.object (before ++ (k, v') :: after))

variable {dates : Bool}

/-! ### What can be told from a skeleton -/

/-- The type of a leaf. -/
def Skeleton.leafType? (dates : Bool) : Skeleton → Option TypeExpr
  | null | unrecognised => some .any
  | boolean => some .boolean
  | number => some .number
  | date => some (if dates then .date else .string)
  | text => some .string
  | emptyArray => some (.array .any)
  | array _ | object _ => none

/-- The first item of an array. -/
def Skeleton.firstItem? : Skeleton → Option Skeleton
  | array item => some item
  | _ => none

theorem leafType?_skeleton (v : Value) : (skeleton v).leafType? dates = leafType? dates v := by
  cases v with
  | string s =>
    unfold leafType? textType
    rw [skeleton]
    cases hs : DateText.isDateText s <;> simp [Skeleton.leafType?, hs]
  | array items => cases items <;> simp [skeleton, Skeleton.leafType?, leafType?]
  | tuple items => cases items <;> simp [skeleton, Skeleton.leafType?, leafType?]
  | _ => simp [skeleton, Skeleton.leafType?, leafType?]

theorem firstItem?_skeleton (v : Value) :
    (skeleton v).firstItem? = (firstItem? v).map skeleton := by
  cases v with
  | string s =>
    rw [skeleton]
    split_ifs <;> rfl
  | array items => cases items <;> simp [skeleton, Skeleton.firstItem?, firstItem?]
  | tuple items => cases items <;> simp [skeleton, Skeleton.firstItem?, firstItem?]
  | _ => simp [skeleton, Skeleton.firstItem?, firstItem?]

theorem exists_of_skeleton_eq_object {v : Value} {parts : List (String × Skeleton)}
    (h : skeleton v = .object parts) : ∃ fields, v = .object fields ∧ skeletonFields fields = parts := by
  cases v with
  | object fields =>
    rw [skeleton] at h
    exact ⟨fields, rfl, Skeleton.object.inj h⟩
  | string s =>
    rw [skeleton] at h
    split_ifs at h
  | array items => cases items <;> simp [skeleton] at h
  | tuple items => cases items <;> simp [skeleton] at h
  | _ => simp [skeleton] at h

theorem keys_skeletonFields (fields : List (Key × Value)) :
    (skeletonFields fields).map Prod.fst = fields.map fun f => f.1.text := by
  induction fields with
  | nil => rw [skeletonFields]; rfl
  | cons f rest ih => rw [skeletonFields, List.map_cons, List.map_cons, ih]

theorem signature_of_skeletonFields_eq {fields fields' : List (Key × Value)}
    (h : skeletonFields fields' = skeletonFields fields) : signature fields' = signature fields := by
  unfold signature
  rw [← keys_skeletonFields, ← keys_skeletonFields, h]

theorem skeletonFields_append (before after : List (Key × Value)) :
    skeletonFields (before ++ after) = skeletonFields before ++ skeletonFields after := by
  induction before with
  | nil => simp [skeletonFields]
  | cons f before ih => rw [List.cons_append, skeletonFields, skeletonFields, ih, List.cons_append]

/-! ### Two walks of one skeleton -/

/-- **A walk is decided by the skeleton of its value.** -/
theorem infer_of_skeleton_eq (dates : Bool) {v v' : Value} (h : skeleton v' = skeleton v)
    (hint : String) (r : Registry) :
    (infer dates v' hint r).type = (infer dates v hint r).type ∧
      (infer dates v' hint r).registry = (infer dates v hint r).registry := by
  -- only one walk is followed, the other value is told from it by the skeletons
  refine (walk_induction dates
    (P := fun v hint r => ∀ v', skeleton v' = skeleton v →
      (infer dates v' hint r).type = (infer dates v hint r).type ∧
        (infer dates v' hint r).registry = (infer dates v hint r).registry)
    (Q := fun owner fields r => ∀ fields', skeletonFields fields' = skeletonFields fields →
      (inferFields dates owner fields' r).1 = (inferFields dates owner fields r).1 ∧
        (inferFields dates owner fields' r).2.1 = (inferFields dates owner fields r).2.1)
    ?leaf ?item ?known ?made ?nil ?cons).1 v hint r v' h
  case leaf =>
    intro v t hint r ht v' h
    have ht' : leafType? dates v' = some t := by
      rw [← leafType?_skeleton, h, leafType?_skeleton, ht]
    rw [(infer_leaf ht hint r).1, (infer_leaf ht hint r).2, (infer_leaf ht' hint r).1,
      (infer_leaf ht' hint r).2]
    exact ⟨rfl, rfl⟩
  case item =>
    intro a v hint r ha ih a' h
    have hitem : (firstItem? a').map skeleton = some (skeleton v) := by
      rw [← firstItem?_skeleton, h, firstItem?_skeleton, ha]
      rfl
    obtain ⟨v', ha', hv'⟩ := Option.map_eq_some_iff.mp hitem
    obtain ⟨htype, hregistry⟩ := ih v' hv'
    rw [(infer_item ha hint r).1, (infer_item ha hint r).2, (infer_item ha' hint r).1,
      (infer_item ha' hint r).2, htype, hregistry]
    exact ⟨rfl, rfl⟩
  case known =>
    intro fields hint r name hname v' h
    rw [skeleton] at h
    obtain ⟨fields', rfl, hfields⟩ := exists_of_skeleton_eq_object h
    have hname' : r.lookup (signature fields') = some name := by
      rw [signature_of_skeletonFields_eq hfields, hname]
    rw [infer_known hname, infer_known hname']
    exact ⟨rfl, rfl⟩
  case made =>
    intro fields hint r name reserved hnone hr ih v' h
    rw [skeleton] at h
    obtain ⟨fields', rfl, hfields⟩ := exists_of_skeleton_eq_object h
    have hsignature := signature_of_skeletonFields_eq hfields
    have hnone' : r.lookup (signature fields') = none := by rw [hsignature, hnone]
    obtain ⟨htyped, hwalked⟩ := ih fields' hfields
    rw [infer_made hnone hr, infer_made hnone' hr, htyped, hwalked, hsignature]
    exact ⟨rfl, rfl⟩
  case nil =>
    intro owner r fields' h
    cases fields' with
    | nil => exact ⟨rfl, rfl⟩
    | cons f rest => simp [skeletonFields] at h
  case cons =>
    intro owner k v rest r ihv ihrest fields' h
    cases fields' with
    | nil => simp [skeletonFields] at h
    | cons f rest' =>
      obtain ⟨k', v'⟩ := f
      rw [skeletonFields, skeletonFields, List.cons.injEq, Prod.mk.injEq] at h
      obtain ⟨⟨hk, hv⟩, hrest⟩ := h
      obtain ⟨htype, hregistry⟩ := ihv v' hv
      obtain ⟨htyped, hwalked⟩ := ihrest rest' hrest
      rw [inferFields_cons, inferFields_cons, hk, htype, hregistry, htyped, hwalked]
      exact ⟨rfl, rfl⟩

theorem skeleton_of_isNumber {v : Value} (h : isNumber v = true) : skeleton v = .number := by
  unfold isNumber at h
  split at h
  · rw [skeleton]
  · rw [skeleton]
  · cases h

theorem Change.skeleton_eq {v v' : Value} (h : Change v v') : skeleton v' = skeleton v := by
  induction h with
  | bool b b' => rw [skeleton, skeleton]
  | number h h' => rw [skeleton_of_isNumber h, skeleton_of_isNumber h']
  | string h => rw [skeleton, skeleton, h]
  | items v rest rest' => rw [skeleton, skeleton]
  | tupleItems v rest rest' => rw [skeleton, skeleton]
  | firstItem rest _ ih => rw [skeleton, skeleton, ih]
  | tupleFirstItem rest _ ih => rw [skeleton, skeleton, ih]
  | field before after k _ ih =>
    rw [skeleton, skeleton, skeletonFields_append, skeletonFields_append, skeletonFields,
      skeletonFields, ih]

/-- **Only the skeleton matters.** Values of one skeleton get the same declarations and the same type,
from any registry and under any hint. So do values that come from one another by any number of
changes to scalars within their kinds and to items behind the first. -/
theorem infer_sees_skeleton (dates : Bool) (hint : String) (r : Registry) :
    (∀ v v', skeleton v' = skeleton v →
      (infer dates v' hint r).type = (infer dates v hint r).type ∧
        (infer dates v' hint r).registry = (infer dates v hint r).registry) ∧
    ∀ v v', Relation.ReflTransGen Change v v' →
      (infer dates v' hint r).type = (infer dates v hint r).type ∧
        (infer dates v' hint r).registry = (infer dates v hint r).registry := by
  refine ⟨fun v v' h => infer_of_skeleton_eq dates h hint r, fun v v' h => ?_⟩
  have hskeleton : skeleton v' = skeleton v := by
    induction h with
    | refl => rfl
    | tail _ hstep ih => rw [hstep.skeleton_eq, ih]
  exact infer_of_skeleton_eq dates hskeleton hint r

/-- Another date, a number of the other kind, and no second item. -/
theorem infer_sees_skeleton_dated :
    skeleton (.array [.object [(.name "day", .string "1999-12-31T23:59:59"), (.name "n", .int 1)]]) =
      skeleton (.array [.object [(.name "day", .string "2024-02-29T03:04:05Z"),
        (.name "n", .float 2.5)], .null]) ∧
    (infer true (.array [.object [(.name "day", .string "1999-12-31T23:59:59"),
        (.name "n", .int 1)]]) "Root" .empty).registry =
      (infer true (.array [.object [(.name "day", .string "2024-02-29T03:04:05Z"),
        (.name "n", .float 2.5)], .null]) "Root" .empty).registry ∧
    Relation.ReflTransGen Change (.array [.null, .bool true]) (.array [.null]) ∧
    (infer true (.array [.null]) "Root" .empty).type =
      (infer true (.array [.null, .bool true]) "Root" .empty).type := by
  have h : skeleton (.array [.object [(.name "day", .string "1999-12-31T23:59:59"),
        (.name "n", .int 1)]]) =
      skeleton (.array [.object [(.name "day", .string "2024-02-29T03:04:05Z"),
        (.name "n", .float 2.5)], .null]) := by
    have hday : DateText.isDateText "1999-12-31T23:59:59" = true := by cbv
    have hleap : DateText.isDateText "2024-02-29T03:04:05Z" = true := by cbv
    simp only [skeleton, skeletonFields, hday, hleap]
  have hchange : Relation.ReflTransGen Change (.array [.null, .bool true]) (.array [.null]) :=
    .single (.items .null [.bool true] [])
  exact ⟨h, ((infer_sees_skeleton true "Root" .empty).1 _ _ h).2, hchange,
    ((infer_sees_skeleton true "Root" .empty).2 _ _ hchange).1⟩

end JsonShapes.Inference
