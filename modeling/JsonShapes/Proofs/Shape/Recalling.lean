import JsonShapes.Proofs.Shape.Inferrer

/-! # Values that were typed before

The registry that a walk leaves behind remembers the signature of the object that the value is, or that
the first items of an array lead to; so it has a type for the value (`Recalls`). A later walk of the value
gives that type under every hint, and it adds nothing and does not stop (`infer_again`).

The first walk need not give that type itself: of an object and an object of its signature inside it, the
inner one is declared first and remembered, and the walk refers to the outer one. -/

namespace JsonShapes

namespace Inference

variable {dates : Bool} {r : Registry} {v : Value} {t : TypeExpr}

/-- **The type that a registry has for a value** without a new declaration. -/
inductive Recalls (dates : Bool) (r : Registry) : Value → TypeExpr → Prop
  | leaf {v : Value} {t : TypeExpr} (h : leafType? dates v = some t) : Recalls dates r v t
  | item {a v : Value} {t : TypeExpr} (ha : firstItem? a = some v) (h : Recalls dates r v t) :
    Recalls dates r a (.array t)
  | known {fields : List (Key × Value)} {name : String}
    (h : r.lookup (signature fields) = some name) : Recalls dates r (.object fields) (.ref name)

/-- A walk gives the type that is recalled, and adds nothing. -/
theorem Recalls.infer_eq (h : Recalls dates r v t) (hint : String) :
    (infer dates v hint r).type = t ∧ (infer dates v hint r).registry = r := by
  induction h generalizing hint with
  | leaf h => exact infer_leaf h hint r
  | item ha _ ih =>
    obtain ⟨htype, hregistry⟩ := infer_item ha hint r
    obtain ⟨hitem, hsame⟩ := ih (itemHint hint)
    exact ⟨by rw [htype, hitem], hregistry.trans hsame⟩
  | known h =>
    rw [infer_known h]
    exact ⟨rfl, rfl⟩

theorem Recalls.stop?_eq_none (h : Recalls dates r v t) {hint : String} {r' : Registry}
    (hend : stop? dates v hint r' = none) (hint' : String) : stop? dates v hint' r = none := by
  induction h generalizing hint hint' with
  | leaf h => exact stop?_leaf h hint' r
  | item ha _ ih =>
    rw [stop?_item ha] at hend ⊢
    exact ih hend _
  | @known fields name h =>
    cases hkeys : hasShortKeys fields with
    | false =>
      rw [stop?_long hkeys] at hend
      cases hend
    | true => exact stop?_known hkeys h hint'

/-- **A walk leaves a registry that recalls its value.** -/
theorem exists_recalls (dates : Bool) (v : Value) (hint : String) (r : Registry) :
    ∃ t, Recalls dates (infer dates v hint r).registry v t := by
  -- what an object's fields leave behind does not matter: its own signature is registered last
  refine (walk_induction dates
    (P := fun v hint r => ∃ t, Recalls dates (infer dates v hint r).registry v t)
    (Q := fun _ _ _ => True) ?leaf ?item ?known ?made ?nil ?cons).1 v hint r
  case leaf =>
    intro v t hint r h
    exact ⟨t, .leaf h⟩
  case item =>
    intro a v hint r ha ⟨t, ht⟩
    rw [(infer_item ha hint r).2]
    exact ⟨.array t, .item ha ht⟩
  case known =>
    intro fields hint r name h
    rw [infer_known h]
    exact ⟨.ref name, .known h⟩
  case made =>
    intro fields hint r name reserved h hr _
    rw [infer_made h hr]
    obtain ⟨remembered, hlookup⟩ := Registry.exists_lookup_register
      (inferFields dates name fields reserved).2.1
      ⟨name, signature fields, (inferFields dates name fields reserved).1⟩
    exact ⟨.ref remembered, .known hlookup⟩
  case nil => exact fun _ _ => trivial
  case cons => exact fun _ _ _ _ _ _ _ => trivial

end Inference

namespace Inferrer

open Inference (Hint Recalls ShortKeys stop?)

theorem infer_of_recalls {i : Inferrer} {v : Value} {t : TypeExpr}
    (h : Recalls i.dates i.registry v t) (hend : ∀ s, stop? i.dates v s i.registry = none)
    (hint : Hint) :
    i.infer v hint = (.ok t, i) ∨ ∃ fault, i.infer v hint = (.error (.hint fault), i) := by
  have hdoes := i.infer_does v hint
  generalize i.infer v hint = outcome at hdoes ⊢
  cases hdoes with
  | hint fault => exact Or.inr ⟨fault, rfl⟩
  | stopped hstop =>
    rw [hend] at hstop
    cases hstop
  | @walked s _ =>
    obtain ⟨htype, hregistry⟩ := h.infer_eq s
    exact Or.inl (by rw [htype, hregistry])

/-- **Typing a value again changes nothing.** A call with a text as its hint stops at a key that is too
long to be written out, or it types its value, and behind it the inferrer has a type for the value. Every
further call with a text gives this type and leaves the inferrer as it is; a call with another hint does
so too, or its hint fails and it leaves the inferrer as it is. -/
theorem infer_again (i : Inferrer) (v : Value) (n : String) :
    (¬ ShortKeys v ∧ ∃ left events, (i.infer v (.text n)).1 = .error (.stopped left events)) ∨
      ∃ t after, i.infer v (.text n) = (.ok t, after) ∧ ∃ u, Recalls after.dates after.registry v u ∧
        (∀ m : String, after.infer v (.text m) = (.ok u, after)) ∧
        ∀ hint, after.infer v hint = (.ok u, after) ∨
          ∃ fault, after.infer v hint = (.error (.hint fault), after) := by
  cases hend : stop? i.dates v n i.registry with
  | some stopped =>
    refine Or.inl ⟨fun hshort => ?_, _, _, congrArg Prod.fst (infer_text_of_stop hend)⟩
    rw [Inference.stop?_eq_none hshort] at hend
    cases hend
  | none =>
    obtain ⟨u, hu⟩ := Inference.exists_recalls i.dates v n i.registry
    have hagain := hu.stop?_eq_none hend
    refine Or.inr ⟨_, _, infer_text_of_end hend, u, hu, fun m => ?_, infer_of_recalls hu hagain⟩
    rw [infer_text_of_end (hagain m)]
    obtain ⟨htype, hregistry⟩ := hu.infer_eq m
    exact congrArg₂ Prod.mk (congrArg Except.ok htype) (congrArg (Inferrer.mk i.dates) hregistry)

/-- The first call refers to the outer object, the second one to the object inside it. -/
example :
    let first := (fresh false).infer (.object [(.name "a", .object [(.name "a", .int 1)])]) (.text "Root")
    first.1 = .ok (.ref "Root") ∧
      first.2.infer (.object [(.name "a", .object [(.name "a", .int 1)])]) (.text "Other") =
        (.ok (.ref "RootA"), first.2) := by
  refine ⟨?_, ?_⟩ <;> cbv

end Inferrer

end JsonShapes
