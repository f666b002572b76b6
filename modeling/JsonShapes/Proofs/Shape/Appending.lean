import JsonShapes.Proofs.Shape.Fitting

/-! # Fields behind the last one

The walk of an object takes the name of its type before it looks at a field, and the fields in their
order. So when fields are put behind the last one, the walk does the same until it comes to them: what
was declared for the old fields is declared first, the type keeps its name and its members, and the
new declarations stand between (`appended_fields_keep_types`). The signature of the object is another
one, but the memo learns it only at the end. -/

namespace JsonShapes.Inference

theorem inferFields_fits (dates : Bool) (owner : String) (fields : List (Key × Value))
    {r : Registry} {pending : List String} (h : r.Consistent pending) :
    List.Forall₂ (FieldFits dates (inferFields dates owner fields r).2.1.declarations) fields
      (inferFields dates owner fields r).1 := by
  induction fields generalizing r with
  | nil =>
    rw [inferFields_nil]
    exact .nil
  | cons f rest ih =>
    obtain ⟨k, v⟩ := f
    have hmid := infer_consistent dates h v (fieldHint owner k.text)
    have hfits := (infer_fits_and_describes dates v (fieldHint owner k.text) h).1
    have hlast := (inferFields_consistent dates hmid owner rest).nodup
    have hpre := (inferFields_extends dates owner rest
      (infer dates v (fieldHint owner k.text) r).registry).declarations
    rw [inferFields_cons]
    exact .cons ⟨rfl, hfits.mono hlast hpre.subset⟩ (ih hmid)

/-- **Appended fields disturb nothing.** With more fields behind its last one, an object gets the type
of the same name. What was declared for the old fields is declared first and as before; the type has
the members that it had and one more for each new field, of its name and fitting its value. -/
theorem appended_fields_keep_types (dates : Bool) (fields more : List (Key × Value))
    (name : String) :
    ∃ (before between : List Declaration) (root root' : Declaration) (added : List Field),
      (infer dates (.object fields) name .empty).registry.declarations = before ++ [root] ∧
      (infer dates (.object (fields ++ more)) name .empty).registry.declarations =
        before ++ between ++ [root'] ∧
      (infer dates (.object fields) name .empty).type = .ref root.name ∧
      (infer dates (.object (fields ++ more)) name .empty).type = .ref root'.name ∧
      root'.name = root.name ∧ root'.fields = root.fields ++ added ∧
      List.Forall₂ (FieldFits dates (before ++ between ++ [root'])) more added := by
  have hnew : ∀ s, Registry.empty.lookup s = none := fun _ => rfl
  obtain ⟨owner, reserved, hr⟩ : ∃ owner reserved,
      Registry.empty.reserve (Naming.typeName name) = (owner, reserved) := ⟨_, _, rfl⟩
  have hold := inferFields_consistent dates (Registry.consistent_empty.reserve hr) owner fields
  have hlast := infer_consistent dates Registry.consistent_empty (.object (fields ++ more)) name
  -- the walk of the new fields starts where that of the old ones ends
  have hadded := inferFields_fits dates owner more hold
  obtain ⟨between, hbetween⟩ := (inferFields_extends dates owner more
    (inferFields dates owner fields reserved).2.1).declarations
  have hdeclared := declarations_made dates (hnew (signature (fields ++ more))) hr
  rw [inferFields_append] at hdeclared
  dsimp only at hdeclared
  rw [← hbetween] at hdeclared hadded
  have hnodup := hlast.nodup
  rw [hdeclared] at hnodup
  refine ⟨_, between, _, _, _, declarations_made dates (hnew _) hr, hdeclared, ?_, ?_, rfl, rfl, ?_⟩
  · rw [infer_made (hnew _) hr]
  · rw [infer_made (hnew _) hr]
  · exact hadded.imp fun _ _ hf => hf.mono hnodup (List.subset_append_left _ _)

/-- The value of the new field has the keys that the object had, and asks for its name. -/
example :
    (infer false (.object [(.name "a", .object [(.name "b", .null)]), (.name "", .object
      [(.name "a", .null)])]) "Root" .empty).registry.declarations =
        [⟨"RootA", "b", [⟨"b", .any⟩]⟩, ⟨"Root2", "a", [⟨"a", .any⟩]⟩,
          ⟨"Root", ",a", [⟨"a", .ref "RootA"⟩, ⟨"\"\"", .ref "Root2"⟩]⟩] := by
  cbv

end JsonShapes.Inference
