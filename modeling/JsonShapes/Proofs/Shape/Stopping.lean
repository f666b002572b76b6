import JsonShapes.Proofs.Shape.Fitting

/-! # Where a walk stops

A walk stops at an object with a key that is too long to be written out. It takes the same steps as a
walk that comes to its end, so a registry in which it stops is reached by whole walks, of fields before
the one it stops in, and by taking names for the objects around it (`stop_induction`): it has everything
that was there before, and it is consistent, with some of the names it took pending for ever.

Where all keys that can be reached are short, as they are in a value that has a JSON form, no walk
stops (`stop?_eq_none`). -/

namespace JsonShapes.Inference

variable {dates : Bool}

/-! ### The steps -/

theorem stop?_leaf {v : Value} {t : TypeExpr} (h : leafType? dates v = some t) (hint : String)
    (r : Registry) : stop? dates v hint r = none := by
  unfold leafType? at h
  split at h
  all_goals first
    | (cases h; simp [stop?])
    | cases h

theorem stop?_item {a v : Value} (h : firstItem? a = some v) (hint : String) (r : Registry) :
    stop? dates a hint r = stop? dates v (itemHint hint) r := by
  unfold firstItem? at h
  split at h
  all_goals first
    | (cases h; simp [stop?])
    | cases h

theorem stop?_long {fields : List (Key × Value)} (h : hasShortKeys fields = false) (hint : String)
    (r : Registry) : stop? dates (.object fields) hint r = some (r, []) := by
  simp [stop?, h]

theorem stop?_known {fields : List (Key × Value)} {r : Registry} {name : String}
    (hkeys : hasShortKeys fields = true) (h : r.lookup (signature fields) = some name)
    (hint : String) : stop? dates (.object fields) hint r = none := by
  simp [stop?, hkeys, h]

theorem stop?_made {fields : List (Key × Value)} {r reserved : Registry} {hint name : String}
    (hkeys : hasShortKeys fields = true) (h : r.lookup (signature fields) = none)
    (hr : r.reserve (Naming.typeName hint) = (name, reserved)) :
    stop? dates (.object fields) hint r = (stopFields? dates name fields reserved).map fun stopped =>
      (stopped.1, nameEvents (Naming.typeName hint) name ++ stopped.2) := by
  simp [stop?, hkeys, h, hr]

@[simp] theorem stopFields?_nil (owner : String) (r : Registry) :
    stopFields? dates owner [] r = none := by simp [stopFields?]

theorem stopFields?_cons (owner : String) (k : Key) (v : Value) (rest : List (Key × Value))
    (r : Registry) : stopFields? dates owner ((k, v) :: rest) r =
      (stop? dates v (fieldHint owner k.text) r).or
        ((stopFields? dates owner rest (infer dates v (fieldHint owner k.text) r).registry).map
          fun stopped =>
            (stopped.1, (infer dates v (fieldHint owner k.text) r).events ++ stopped.2)) := by
  rw [stopFields?]
  cases stop? dates v (fieldHint owner k.text) r <;> rfl

/-! ### What holds where a walk stops -/

/-- **Induction over the steps to where a walk stops**: what every whole walk keeps, and the taking of a
name as well, holds there. -/
theorem stop_induction {P : Registry → Prop}
    (walk : ∀ v hint r, P r → P (infer dates v hint r).registry)
    (reserve : ∀ r candidate, P r → P (r.reserve candidate).2) {v : Value} {hint : String}
    {r left : Registry} {events : List Event} (h : stop? dates v hint r = some (left, events))
    (hr : P r) : P left := by
  have key : (∀ v hint r, ∀ stopped, stop? dates v hint r = some stopped → P r → P stopped.1) ∧
      ∀ owner fields r, ∀ stopped, stopFields? dates owner fields r = some stopped → P r →
        P stopped.1 := by
    refine walk_induction dates ?leaf ?item ?known ?made ?nil ?cons
    case leaf =>
      intro v t hint r ht stopped hs
      rw [stop?_leaf ht] at hs
      cases hs
    case item =>
      intro a v hint r ha ih stopped hs
      rw [stop?_item ha] at hs
      exact ih stopped hs
    case known =>
      intro fields hint r name hname stopped hs hP
      cases hkeys : hasShortKeys fields with
      | false =>
        rw [stop?_long hkeys] at hs
        cases hs
        exact hP
      | true =>
        rw [stop?_known hkeys hname] at hs
        cases hs
    case made =>
      intro fields hint r name reserved hnone hres ih stopped hs hP
      cases hkeys : hasShortKeys fields with
      | false =>
        rw [stop?_long hkeys] at hs
        cases hs
        exact hP
      | true =>
        rw [stop?_made hkeys hnone hres] at hs
        obtain ⟨inner, hinner, rfl⟩ := Option.map_eq_some_iff.mp hs
        have hreserved := reserve r (Naming.typeName hint) hP
        rw [hres] at hreserved
        exact ih inner hinner hreserved
    case nil =>
      intro owner r stopped hs
      rw [stopFields?_nil] at hs
      cases hs
    case cons =>
      intro owner k v rest r ih ihrest stopped hs hP
      rw [stopFields?_cons, Option.or_eq_some_iff] at hs
      rcases hs with hs | ⟨-, hs⟩
      · exact ih stopped hs hP
      · obtain ⟨inner, hinner, rfl⟩ := Option.map_eq_some_iff.mp hs
        exact ihrest inner hinner (walk v _ r hP)
  exact key.1 v hint r _ h hr

section
variable {v : Value} {hint : String} {r left : Registry} {events : List Event}

theorem stop_extends (h : stop? dates v hint r = some (left, events)) : r.Extends left := by
  refine stop_induction (P := r.Extends) (fun v' hint' r' hr' => ?_) (fun r' candidate hr' => ?_) h
    (.refl r)
  · exact hr'.trans (infer_extends dates v' hint' r')
  · exact hr'.trans (Registry.extends_reserve rfl)

/-- A walk that stops leaves a consistent registry, in which names may stay pending. -/
theorem exists_pending_of_stop (h : stop? dates v hint r = some (left, events))
    (hr : ∃ pending, r.Consistent pending) : ∃ pending, left.Consistent pending := by
  refine stop_induction (P := fun r => ∃ pending, r.Consistent pending)
    (fun v' hint' r' hr' => ?_) (fun r' candidate hr' => ?_) h hr
  · obtain ⟨pending, hc⟩ := hr'
    exact ⟨pending, infer_consistent dates hc v' hint'⟩
  · obtain ⟨pending, hc⟩ := hr'
    exact ⟨_, hc.reserve rfl⟩

end

theorem eq_infer_of_walk {v : Value} {hint : String} {r : Registry} {found : Result}
    (h : walk dates v hint r = .ok found) : found = infer dates v hint r := by
  unfold walk at h
  split at h
  · cases h
  · exact (Except.ok.inj h).symm

/-! ### Short keys -/

/-- **No key that a walk can come to is too long to be written out**, as an integer of more than
`Json.maxIntegerDigits` digits is. -/
def ShortKeys (v : Value) : Prop := ∀ fields, Inside fields v → hasShortKeys fields = true

theorem ShortKeys.of_firstItem {a v : Value} (h : ShortKeys a) (ha : firstItem? a = some v) :
    ShortKeys v := fun fields hin => h fields (hin.of_firstItem ha)

theorem ShortKeys.of_mem {outer : List (Key × Value)} {f : Key × Value} (h : ShortKeys (.object outer))
    (hf : f ∈ outer) : ShortKeys f.2 := fun fields hin => h fields (.field hf hin)

/-- What holds of a value and of all that a walk comes to inside it may tell that the keys are short. -/
theorem ShortKeys.of_closed {P : Value → Prop}
    (object : ∀ fields, P (.object fields) → hasShortKeys fields = true ∧ ∀ f ∈ fields, P f.2)
    (array : ∀ v rest, P (.array (v :: rest)) → P v)
    (tuple : ∀ v rest, P (.tuple (v :: rest)) → P v) {v : Value} (h : P v) : ShortKeys v := by
  intro inner hin
  induction hin with
  | here => exact (object _ h).1
  | array rest _ ih => exact ih (array _ _ h)
  | tuple rest _ ih => exact ih (tuple _ _ h)
  | field hf _ ih => exact ih ((object _ h).2 _ hf)

theorem shortKeys_of_isWritable {v : Value} (h : v.isWritable = true) : ShortKeys v := by
  have hall : ∀ fields : List (Key × Value), Value.isWritable.allFieldsWritable fields = true →
      ∀ f ∈ fields, f.1.isShort = true ∧ f.2.isWritable = true := by
    intro fields hfields
    induction fields with
    | nil => exact List.forall_mem_nil _
    | cons f rest ih =>
      rw [Value.isWritable.allFieldsWritable, Bool.and_eq_true, Bool.and_eq_true] at hfields
      exact List.forall_mem_cons.mpr ⟨hfields.1, ih hfields.2⟩
  refine ShortKeys.of_closed (P := fun v => v.isWritable = true) (fun fields hfields => ?_) ?_ ?_ h
  · have hboth := hall fields hfields
    exact ⟨List.all_eq_true.mpr fun f hf => (hboth f hf).1, fun f hf => (hboth f hf).2⟩
  · exact fun v rest hitems => ((Bool.and_eq_true _ _).mp hitems).1
  · exact fun v rest hitems => ((Bool.and_eq_true _ _).mp hitems).1

/-- **No walk stops where the keys are short.** -/
theorem stop?_eq_none {v : Value} (h : ShortKeys v) (hint : String) (r : Registry) :
    stop? dates v hint r = none := by
  have key : (∀ v hint r, ShortKeys v → stop? dates v hint r = none) ∧
      ∀ owner fields r, (∀ f ∈ fields, ShortKeys f.2) → stopFields? dates owner fields r = none := by
    refine walk_induction dates ?leaf ?item ?known ?made ?nil ?cons
    case leaf => exact fun v t hint r ht _ => stop?_leaf ht hint r
    case item =>
      intro a v hint r ha ih h
      rw [stop?_item ha]
      exact ih (h.of_firstItem ha)
    case known => exact fun fields hint r name hname h => stop?_known (h fields .here) hname hint
    case made =>
      intro fields hint r name reserved hnone hr ih h
      rw [stop?_made (h fields .here) hnone hr, ih fun f hf => h.of_mem hf]
      rfl
    case nil => exact fun owner r _ => stopFields?_nil owner r
    case cons =>
      intro owner k v rest r ih ihrest h
      rw [List.forall_mem_cons] at h
      rw [stopFields?_cons, ih h.1, ihrest h.2]
      rfl
  exact key.1 v hint r h

end JsonShapes.Inference
