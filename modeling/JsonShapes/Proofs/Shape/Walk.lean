import JsonShapes.Shape.Inference
import JsonShapes.Proofs.Shape.Registry

/-! # Walks

A walk does one of four things at a value: it types it at once (`leafType?`), goes on with its first
item (`firstItem?`), refers to a declaration that is there, or makes one. `walk_induction` is the
induction over these four, `infer_consistent` and `infer_extends` say what every walk keeps.

`declaration_induction` is the induction for what can be said about the declarations alone. In a
consistent registry they determine what a walk does, except for the names it takes. -/

namespace JsonShapes.Inference

variable {dates : Bool}

/-! ### The four steps -/

/-- The type of a value inside which nothing is walked. -/
def leafType? (dates : Bool) : Value → Option TypeExpr
  | .null | .foreign => some .any
  | .bool _ => some .boolean
  | .int _ | .float _ => some .number
  | .string s => some (textType dates s)
  | .array [] | .tuple [] => some (.array .any)
  | .array (_ :: _) | .tuple (_ :: _) | .object _ => none

/-- The item that an array takes its type from. -/
def firstItem? : Value → Option Value
  | .array (v :: _) | .tuple (v :: _) => some v
  | _ => none

theorem infer_leaf {v : Value} {t : TypeExpr} (h : leafType? dates v = some t) (hint : String)
    (r : Registry) : (infer dates v hint r).type = t ∧ (infer dates v hint r).registry = r := by
  unfold leafType? at h
  split at h
  all_goals first
    | (cases h; exact ⟨by simp [infer], by simp [infer]⟩)
    | cases h

theorem infer_item {a v : Value} (h : firstItem? a = some v) (hint : String) (r : Registry) :
    (infer dates a hint r).type = .array (infer dates v (itemHint hint) r).type ∧
      (infer dates a hint r).registry = (infer dates v (itemHint hint) r).registry := by
  unfold firstItem? at h
  split at h
  all_goals first
    | (cases h; exact ⟨by simp [infer], by simp [infer]⟩)
    | cases h

theorem infer_known {fields : List (Key × Value)} {r : Registry} {name : String}
    (h : r.lookup (signature fields) = some name) (hint : String) :
    infer dates (.object fields) hint r = ⟨.ref name, r, []⟩ := by
  simp [infer, h]

theorem infer_made {fields : List (Key × Value)} {r reserved : Registry} {hint name : String}
    (h : r.lookup (signature fields) = none)
    (hr : r.reserve (Naming.typeName hint) = (name, reserved)) :
    infer dates (.object fields) hint r =
      ⟨.ref name,
        (inferFields dates name fields reserved).2.1.register
          ⟨name, signature fields, (inferFields dates name fields reserved).1⟩,
        nameEvents (Naming.typeName hint) name ++ (inferFields dates name fields reserved).2.2 ++
          [.declared name (signature fields)]⟩ := by
  simp [infer, h, hr]

theorem declarations_made (dates : Bool) {fields : List (Key × Value)} {r reserved : Registry}
    {hint name : String}
    (h : r.lookup (signature fields) = none)
    (hr : r.reserve (Naming.typeName hint) = (name, reserved)) :
    (infer dates (.object fields) hint r).registry.declarations =
      (inferFields dates name fields reserved).2.1.declarations ++
        [⟨name, signature fields, (inferFields dates name fields reserved).1⟩] := by
  rw [infer_made h hr]
  rfl

@[simp] theorem inferFields_nil (owner : String) (r : Registry) :
    inferFields dates owner [] r = ([], r, []) := by simp [inferFields]

theorem inferFields_cons (owner : String) (k : Key) (v : Value) (rest : List (Key × Value))
    (r : Registry) :
    inferFields dates owner ((k, v) :: rest) r =
      (⟨Naming.fieldName k.text, (infer dates v (fieldHint owner k.text) r).type⟩ ::
          (inferFields dates owner rest (infer dates v (fieldHint owner k.text) r).registry).1,
        (inferFields dates owner rest (infer dates v (fieldHint owner k.text) r).registry).2.1,
        (infer dates v (fieldHint owner k.text) r).events ++
          (inferFields dates owner rest
            (infer dates v (fieldHint owner k.text) r).registry).2.2) := by
  simp [inferFields]

theorem inferFields_append (owner : String) (before after : List (Key × Value)) (r : Registry) :
    inferFields dates owner (before ++ after) r =
      ((inferFields dates owner before r).1 ++
          (inferFields dates owner after (inferFields dates owner before r).2.1).1,
        (inferFields dates owner after (inferFields dates owner before r).2.1).2.1,
        (inferFields dates owner before r).2.2 ++
          (inferFields dates owner after (inferFields dates owner before r).2.1).2.2) := by
  induction before generalizing r with
  | nil => simp
  | cons f before ih =>
    obtain ⟨k, v⟩ := f
    rw [List.cons_append, inferFields_cons, inferFields_cons, ih]
    simp

/-! ### The induction -/

/-- **Induction over walks**: over a value `P`, over the fields of an object `Q`. -/
theorem walk_induction (dates : Bool) {P : Value → String → Registry → Prop}
    {Q : String → List (Key × Value) → Registry → Prop}
    (leaf : ∀ v t hint r, leafType? dates v = some t → P v hint r)
    (item : ∀ a v hint r, firstItem? a = some v → P v (itemHint hint) r → P a hint r)
    (known : ∀ fields hint r name, r.lookup (signature fields) = some name →
      P (.object fields) hint r)
    (made : ∀ fields hint r name reserved, r.lookup (signature fields) = none →
      r.reserve (Naming.typeName hint) = (name, reserved) → Q name fields reserved →
      P (.object fields) hint r)
    (nil : ∀ owner r, Q owner [] r)
    (cons : ∀ owner k v rest r, P v (fieldHint owner k.text) r →
      Q owner rest (infer dates v (fieldHint owner k.text) r).registry →
      Q owner ((k, v) :: rest) r) :
    (∀ v hint r, P v hint r) ∧ ∀ owner fields r, Q owner fields r := by
  apply infer.mutual_induct dates P Q
  case case1 => exact fun hint r => leaf _ _ hint r rfl
  case case2 => exact fun hint b r => leaf _ _ hint r rfl
  case case3 => exact fun hint i r => leaf _ _ hint r rfl
  case case4 => exact fun hint x r => leaf _ _ hint r rfl
  case case5 => exact fun hint s r => leaf _ _ hint r rfl
  case case6 => exact fun hint r => leaf _ _ hint r rfl
  case case7 => exact fun v tail hint r ih => item _ v hint r rfl ih
  case case8 => exact fun hint r => leaf _ _ hint r rfl
  case case9 => exact fun v tail hint r ih => item _ v hint r rfl ih
  case case10 => exact fun fields hint r name h => known fields hint r name h
  case case11 =>
    exact fun fields hint r h name reserved hr _ _ _ _ ih => made fields hint r name reserved h hr ih
  case case12 => exact fun hint r => leaf _ _ hint r rfl
  case case13 => exact nil
  case case14 => exact fun owner k v rest r _ _ _ _ ihv ihrest => cons owner k v rest r ihv ihrest

/-! ### What every walk keeps -/

theorem walk_keeps :
    (∀ v hint r, r.Extends (infer dates v hint r).registry ∧
      ∀ pending, r.Consistent pending → (infer dates v hint r).registry.Consistent pending) ∧
    ∀ owner fields r, r.Extends (inferFields dates owner fields r).2.1 ∧
      ∀ pending, r.Consistent pending →
        (inferFields dates owner fields r).2.1.Consistent pending := by
  refine walk_induction dates ?leaf ?item ?known ?made ?nil ?cons
  case leaf =>
    intro v t hint r h
    rw [(infer_leaf h hint r).2]
    exact ⟨.refl r, fun _ hc => hc⟩
  case item =>
    intro a v hint r h ih
    rw [(infer_item h hint r).2]
    exact ih
  case known =>
    intro fields hint r name h
    rw [infer_known h]
    exact ⟨.refl r, fun _ hc => hc⟩
  case made =>
    intro fields hint r name reserved h hr ⟨hext, hcons⟩
    rw [infer_made h hr]
    refine ⟨((Registry.extends_reserve hr).trans hext).trans (Registry.extends_register _ _),
      fun pending hc => ?_⟩
    exact (hcons _ (hc.reserve hr)).register
  case nil =>
    intro owner r
    rw [inferFields_nil]
    exact ⟨.refl r, fun _ hc => hc⟩
  case cons =>
    intro owner k v rest r ⟨hext, hcons⟩ ⟨hext', hcons'⟩
    rw [inferFields_cons]
    exact ⟨hext.trans hext', fun pending hc => hcons' pending (hcons pending hc)⟩

theorem infer_extends (dates : Bool) (v : Value) (hint : String) (r : Registry) :
    r.Extends (infer dates v hint r).registry := (walk_keeps.1 v hint r).1

/-- **A walk leaves the types pending that were pending before.** -/
theorem infer_consistent (dates : Bool) {r : Registry} {pending : List String}
    (h : r.Consistent pending) (v : Value) (hint : String) :
    (infer dates v hint r).registry.Consistent pending :=
  (walk_keeps.1 v hint r).2 pending h

theorem inferFields_extends (dates : Bool) (owner : String) (fields : List (Key × Value))
    (r : Registry) :
    r.Extends (inferFields dates owner fields r).2.1 := (walk_keeps.2 owner fields r).1

theorem inferFields_consistent (dates : Bool) {r : Registry} {pending : List String}
    (h : r.Consistent pending) (owner : String) (fields : List (Key × Value)) :
    (inferFields dates owner fields r).2.1.Consistent pending :=
  (walk_keeps.2 owner fields r).2 pending h

/-! ### The declarations alone -/

/-- **Induction over what walks do to the declarations.** `P v D t D'` is about a value `v` that
gets the type `t` and takes the declarations from `D` to `D'`, and `Q` likewise about fields. -/
theorem declaration_induction {P : Value → List Declaration → TypeExpr → List Declaration → Prop}
    {Q : List (Key × Value) → List Declaration → List Field → List Declaration → Prop}
    (leaf : ∀ v D t, leafType? dates v = some t → P v D t D)
    (item : ∀ a v D t D', firstItem? a = some v → P v D t D' → P a D (.array t) D')
    (known : ∀ fields D d, (D.map (·.name)).Nodup → d ∈ D → d.signature = signature fields →
      P (.object fields) D (.ref d.name) D)
    (made : ∀ fields D D' (d : Declaration), (∀ e ∈ D, e.signature ≠ signature fields) → D <+: D' →
      d.signature = signature fields → ((D' ++ [d]).map (·.name)).Nodup → Q fields D d.fields D' →
      P (.object fields) D (.ref d.name) (D' ++ [d]))
    (nil : ∀ D, Q [] D [] D)
    (cons : ∀ k v rest D t D₁ typed D₂, D <+: D₁ → D₁ <+: D₂ → (D₂.map (·.name)).Nodup →
      P v D t D₁ → Q rest D₁ typed D₂ →
      Q ((k, v) :: rest) D (⟨Naming.fieldName k.text, t⟩ :: typed) D₂)
    (v : Value) (hint : String) {r : Registry} {pending : List String} (h : r.Consistent pending) :
    P v r.declarations (infer dates v hint r).type (infer dates v hint r).registry.declarations := by
  have key : (∀ v hint r, ∀ pending, Registry.Consistent r pending →
      P v r.declarations (infer dates v hint r).type
        (infer dates v hint r).registry.declarations) ∧
      ∀ owner fields r, ∀ pending, Registry.Consistent r pending →
        Q fields r.declarations (inferFields dates owner fields r).1
          (inferFields dates owner fields r).2.1.declarations := by
    refine walk_induction dates ?leaf ?item ?known ?made ?nil ?cons
    case leaf =>
      intro v t hint r ht pending hc
      rw [(infer_leaf ht hint r).1, (infer_leaf ht hint r).2]
      exact leaf v _ t ht
    case item =>
      intro a v hint r hv ih pending hc
      rw [(infer_item hv hint r).1, (infer_item hv hint r).2]
      exact item a v _ _ _ hv (ih pending hc)
    case known =>
      intro fields hint r name hname pending hc
      rw [infer_known hname]
      obtain ⟨d, hd, hs, rfl⟩ := hc.exists_of_lookup hname
      exact known fields _ d hc.nodup hd hs
    case made =>
      intro fields hint r name reserved hnone hr ih pending hc
      have hQ := ih _ (hc.reserve hr)
      have hpre := (inferFields_extends dates name fields reserved).declarations
      have hlast := infer_consistent dates hc (.object fields) hint
      rw [(Registry.reserve_eq hr).2.2.1] at hQ hpre
      rw [infer_made hnone hr] at hlast ⊢
      exact made fields _ _ ⟨name, signature fields, _⟩ (hc.lookup_eq_none_iff.mp hnone) hpre rfl
        hlast.nodup hQ
    case nil =>
      intro owner r pending hc
      rw [inferFields_nil]
      exact nil _
    case cons =>
      intro owner k v rest r ihv ihrest pending hc
      have hmid := infer_consistent dates hc v (fieldHint owner k.text)
      rw [inferFields_cons]
      exact cons k v rest _ _ _ _ _ (infer_extends dates v _ r).declarations
        (inferFields_extends dates owner rest _).declarations
        (inferFields_consistent dates hmid owner rest).nodup (ihv pending hc) (ihrest pending hmid)
  exact key.1 v hint r pending h

end JsonShapes.Inference
