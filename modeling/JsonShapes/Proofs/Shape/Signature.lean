import JsonShapes.Proofs.Shape.Inferrer
import JsonShapes.Proofs.Shape.Members
import JsonShapes.Proofs.Shape.Nesting

/-! # What a signature tells about the keys

A signature without commas in its keys can be cut at its commas again: the pieces are the keys in
ascending order (`split_signature`). It stands for the set of keys, except that no keys and the empty
key alone are written alike (`OneBlank`).

So while no key has a comma, a declared type has the members of the keys of every object that is
given it, with the same exception (`signature_identifies_keys`). -/

namespace JsonShapes.Inference

/-- The keys are distinct and without commas. -/
structure PlainKeys (fields : List (Key × Value)) : Prop where
  distinct : (keyTexts fields).Nodup
  no_comma : ∀ key ∈ keyTexts fields, ',' ∉ key.toList

/-- The keys of an object in ascending order. -/
def sortedKeys (fields : List (Key × Value)) : List String :=
  (keyTexts fields).mergeSort fun a b => decide (a ≤ b)

/-- **No keys, and the empty key alone.** -/
def OneBlank (keys keys' : List String) : Prop :=
  (keys = [] ∧ keys' = [""]) ∨ (keys = [""] ∧ keys' = [])

/-! ### Signatures and keys -/

theorem signature_eq_intercalate (fields : List (Key × Value)) :
    signature fields = String.intercalate "," (sortedKeys fields) := rfl

theorem sortedKeys_perm (fields : List (Key × Value)) : (sortedKeys fields).Perm (keyTexts fields) :=
  List.mergeSort_perm _ _

theorem sortedKeys_eq_iff {o o' : List (Key × Value)} :
    sortedKeys o = sortedKeys o' ↔ (keyTexts o).Perm (keyTexts o') := by
  constructor
  · intro h
    exact (sortedKeys_perm o).symm.trans (h ▸ sortedKeys_perm o')
  · intro h
    have hperm := (sortedKeys_perm o).trans (h.trans (sortedKeys_perm o').symm)
    exact hperm.eq_of_sortedLE List.sortedLE_mergeSort List.sortedLE_mergeSort

/-- **The pieces of a signature are the keys**, or the empty text when there are none. -/
theorem split_signature {fields : List (Key × Value)}
    (h : ∀ key ∈ keyTexts fields, ',' ∉ key.toList) :
    ((signature fields).split ',').toList.map (·.copy) =
      if sortedKeys fields = [] then [""] else sortedKeys fields := by
  rw [signature_eq_intercalate]
  refine String.toList_split_intercalate fun key hkey => ?_
  exact h key ((sortedKeys_perm fields).mem_iff.mp hkey)

theorem sortedKeys_eq_nil_iff {fields : List (Key × Value)} :
    sortedKeys fields = [] ↔ keyTexts fields = [] := by
  have hperm := sortedKeys_perm fields
  constructor <;> intro h <;> rw [h] at hperm
  · exact hperm.symm.eq_nil
  · exact hperm.eq_nil

theorem sortedKeys_eq_singleton_iff {fields : List (Key × Value)} {key : String} :
    sortedKeys fields = [key] ↔ keyTexts fields = [key] := by
  have hperm := sortedKeys_perm fields
  constructor <;> intro h <;> rw [h] at hperm
  · exact List.perm_singleton.mp hperm.symm
  · exact List.perm_singleton.mp hperm

theorem OneBlank.signature_eq {o o' : List (Key × Value)} (h : OneBlank (keyTexts o) (keyTexts o')) :
    signature o = signature o' := by
  rcases h with ⟨h, h'⟩ | ⟨h, h'⟩
  · rw [signature_eq_intercalate, signature_eq_intercalate, sortedKeys_eq_nil_iff.mpr h,
      sortedKeys_eq_singleton_iff.mpr h']
    rfl
  · rw [signature_eq_intercalate, signature_eq_intercalate, sortedKeys_eq_singleton_iff.mpr h,
      sortedKeys_eq_nil_iff.mpr h']
    rfl

/-- **When two objects have one signature**: when they have the same keys, or one of them has none
and the other the empty key alone. -/
theorem signature_eq_iff {o o' : List (Key × Value)} (h : ∀ key ∈ keyTexts o, ',' ∉ key.toList)
    (h' : ∀ key ∈ keyTexts o', ',' ∉ key.toList) :
    signature o = signature o' ↔
      (keyTexts o).Perm (keyTexts o') ∨ OneBlank (keyTexts o) (keyTexts o') := by
  constructor
  · intro heq
    have hpieces := split_signature h
    rw [heq, split_signature h'] at hpieces
    split_ifs at hpieces with he' he he
    · exact Or.inl (sortedKeys_eq_iff.mp (he.trans he'.symm))
    · exact Or.inr (Or.inr
        ⟨sortedKeys_eq_singleton_iff.mp hpieces.symm, sortedKeys_eq_nil_iff.mp he'⟩)
    · exact Or.inr (Or.inl
        ⟨sortedKeys_eq_nil_iff.mp he, sortedKeys_eq_singleton_iff.mp hpieces⟩)
    · exact Or.inl (sortedKeys_eq_iff.mp hpieces.symm)
  · rintro (hperm | hblank)
    · rw [signature_eq_intercalate, signature_eq_intercalate, sortedKeys_eq_iff.mpr hperm]
    · exact hblank.signature_eq

theorem OneBlank.length_ne {keys keys' : List String} (h : OneBlank keys keys') :
    keys.length ≠ keys'.length := by
  rcases h with ⟨rfl, rfl⟩ | ⟨rfl, rfl⟩ <;> decide

/-! ### Keys and declarations -/

/-- Every declaration was made for an object. -/
def MadeForObjects (r : Registry) : Prop := ∀ d ∈ r.declarations, ∃ o, Outlines o d

theorem infer_madeForObjects (dates : Bool) (v : Value) (hint : String) {r : Registry}
    {pending : List String} (hc : r.Consistent pending) (h : MadeForObjects r) :
    MadeForObjects (infer dates v hint r).registry := by
  obtain ⟨new, hnew, houtlines⟩ := infer_outlines dates v hint hc
  intro d hd
  rw [hnew] at hd
  rcases List.mem_append.mp hd with hd | hd
  · exact h d hd
  · obtain ⟨o, -, ho⟩ := exists_left_of_forall₂ houtlines d hd
    exact ⟨o, ho⟩

theorem run_madeForObjects (dates : Bool) (calls : List (Value × Hint)) :
    MadeForObjects ((Inferrer.fresh dates).run calls).registry := by
  have hwalk : ∀ v s r, (∃ pending, r.Consistent pending) ∧ MadeForObjects r →
      (∃ pending, (infer dates v s r).registry.Consistent pending) ∧
        MadeForObjects (infer dates v s r).registry := by
    rintro v s r ⟨⟨pending, hc⟩, h⟩
    exact ⟨⟨pending, infer_consistent dates hc v s⟩, infer_madeForObjects dates v s hc h⟩
  refine (Inferrer.run_induction
    (P := fun r => (∃ pending, r.Consistent pending) ∧ MadeForObjects r) calls
    (Inferrer.fresh dates) ⟨⟨[], Registry.consistent_empty⟩, ?_⟩ (fun call _ => hwalk call.1) ?_).2
  · exact fun d hd => absurd hd List.not_mem_nil
  · intro call _ s r left events hstop
    refine stop_induction hwalk ?_ hstop
    rintro r candidate ⟨⟨pending, hc⟩, h⟩
    exact ⟨⟨_, hc.reserve rfl⟩, h⟩

section Meets
variable {dates : Bool} {o o' : List (Key × Value)} {v : Value} {name hint : String} {r : Registry}
  {pending : List String} {d : Declaration}

theorem Meets.signature_eq (hm : Meets dates o name v hint r) (hc : r.Consistent pending)
    (hd : d ∈ (infer dates v hint r).registry.declarations) (hname : d.name = name) :
    d.signature = signature o := by
  obtain ⟨e, he, rfl, hs⟩ := (hm.fits hc).exists_declaration
  have hnames := (infer_consistent dates hc v hint).nodup
  rwa [List.inj_on_of_nodup_map hnames hd he hname]

/-- **The members of the type that an object gets** are those of its keys, when the type was made for
an object with plain keys; only with no keys and the empty key alone they are not. -/
theorem Meets.members_perm_iff (hm : Meets dates o name v hint r) (hc : r.Consistent pending)
    (hd : d ∈ (infer dates v hint r).registry.declarations) (hname : d.name = name)
    (h : PlainKeys o) (h' : PlainKeys o') (ho' : Outlines o' d) :
    (d.fields.map (·.name)).Perm ((keyTexts o).map Naming.fieldName) ↔
      ¬ OneBlank (keyTexts o) (keyTexts o') := by
  have hkeys := (signature_eq_iff h.no_comma h'.no_comma).mp
    ((hm.signature_eq hc hd hname).symm.trans ho'.1.symm)
  rw [ho'.2]
  constructor
  · intro hperm hblank
    have hlength := hperm.length_eq
    rw [List.length_map, List.length_map] at hlength
    exact hblank.length_ne hlength.symm
  · intro hblank
    exact ((hkeys.resolve_right hblank).symm).map _

end Meets

/-- **When a signature stands for the keys.** Of two objects with distinct keys and no commas in them,
the signatures are equal exactly when the keys are, unless one has no keys and the other the empty key
alone. When the first is given a type, in any sequence of values typed one after the other, the type
was made for some object; if that is the second, the type has the members of the keys of the first,
with the same exception. -/
theorem signature_identifies_keys {o o' : List (Key × Value)} (h : PlainKeys o) (h' : PlainKeys o') :
    ((signature o = signature o' ↔ ∀ key, key ∈ keyTexts o ↔ key ∈ keyTexts o') ↔
        ¬ OneBlank (keyTexts o) (keyTexts o')) ∧
      ∀ (dates : Bool) (calls : List (Value × Hint)) (v : Value) (hint name : String),
        Meets dates o name v hint ((Inferrer.fresh dates).run calls).registry →
        (∃ d ∈ (infer dates v hint
            ((Inferrer.fresh dates).run calls).registry).registry.declarations,
          d.name = name ∧ ∃ made, Outlines made d) ∧
        ∀ d ∈ (infer dates v hint
            ((Inferrer.fresh dates).run calls).registry).registry.declarations,
          d.name = name → Outlines o' d →
          ((d.fields.map (·.name)).Perm ((keyTexts o).map Naming.fieldName) ↔
            ¬ OneBlank (keyTexts o) (keyTexts o')) := by
  constructor
  · rw [signature_eq_iff h.no_comma h'.no_comma, ← List.perm_ext_iff_of_nodup h.distinct h'.distinct]
    constructor
    · intro hiff hblank
      exact hblank.length_ne (hiff.mp (Or.inr hblank)).length_eq
    · intro hblank
      exact ⟨fun hor => hor.resolve_right hblank, Or.inl⟩
  · intro dates calls v hint name hm
    obtain ⟨pending, hc⟩ := Inferrer.run_consistent dates calls
    refine ⟨?_, fun d hd hname ho' => hm.members_perm_iff hc hd hname h h' ho'⟩
    obtain ⟨d, hd, hname, -⟩ := (hm.fits hc).exists_declaration
    have hmade := infer_madeForObjects dates v hint hc (run_madeForObjects dates calls)
    exact ⟨d, hd, hname, hmade d hd⟩

/-- The second value has the keys of the first in another order: it is given its type, and the type
has its members. -/
theorem signature_identifies_reordered :
    PlainKeys [(.name "a", .null), (.name "b", .null)] ∧
      PlainKeys [(.name "b", .int 1), (.name "a", .int 2)] ∧
      signature [(.name "a", .null), (.name "b", .null)] =
        signature [(.name "b", .int 1), (.name "a", .int 2)] ∧
      ∃ d ∈ (infer false (.object [(.name "a", .null), (.name "b", .null)]) "Second"
          ((Inferrer.fresh false).run [(.object [(.name "b", .int 1), (.name "a", .int 2)],
            .text "First")]).registry).registry.declarations,
        d.name = "First" ∧ Outlines [(.name "b", .int 1), (.name "a", .int 2)] d ∧
          (d.fields.map (·.name)).Perm ["a", "b"] := by
  have h : PlainKeys [(.name "a", .null), (.name "b", .null)] := ⟨by decide, by decide⟩
  have h' : PlainKeys [(.name "b", .int 1), (.name "a", .int 2)] := ⟨by decide, by decide⟩
  have hblank : ¬ OneBlank ["a", "b"] ["b", "a"] := by simp [OneBlank]
  have hsame : (keyTexts [(.name "a", .null), (.name "b", .null)]).Perm
      (keyTexts [(.name "b", .int 1), (.name "a", .int 2)]) := by decide
  have hnames : (keyTexts [(.name "a", .null), (.name "b", .null)]).map Naming.fieldName =
      ["a", "b"] := by decide +kernel
  have hsignature : signature [(.name "b", .int 1), (.name "a", .int 2)] = "a,b" := by cbv
  have hmade : Outlines [(.name "b", .int 1), (.name "a", .int 2)]
      ⟨"First", "a,b", [⟨"b", .number⟩, ⟨"a", .number⟩]⟩ := ⟨hsignature, by decide +kernel⟩
  have hwalk : (infer false (.object [(.name "a", .null), (.name "b", .null)]) "Second"
      ((Inferrer.fresh false).run [(.object [(.name "b", .int 1), (.name "a", .int 2)],
        .text "First")]).registry) = ⟨.ref "First", ⟨["First"],
          [⟨"First", "a,b", [⟨"b", .number⟩, ⟨"a", .number⟩]⟩], [("a,b", "First")]⟩, []⟩ := by cbv
  have hkeys := signature_identifies_keys h h'
  have hmembers := (hkeys.2 false _ _ "Second" "First" (.here (by rw [hwalk]))).2
  rw [hwalk] at hmembers ⊢
  have hperm := (hmembers _ List.mem_cons_self rfl hmade).mpr hblank
  rw [hnames] at hperm
  exact ⟨h, h', (hkeys.1.mpr hblank).mpr fun _ => hsame.mem_iff, _, List.mem_cons_self, rfl, hmade,
    hperm⟩

/-- No keys and the empty key alone have one signature: the object with the empty key is given the
type without members that the other one was declared with. -/
theorem keyless_shares_type :
    PlainKeys [] ∧ PlainKeys [(.name "", .int 1)] ∧
      ¬ (signature [] = signature [(.name "", .int 1)] ↔
        ∀ key, key ∈ keyTexts [] ↔ key ∈ keyTexts [(.name "", .int 1)]) ∧
      (infer false (.object [(.name "a", .object []), (.name "b", .object [(.name "", .int 1)])])
        "Root" .empty).registry.declarations =
          [⟨"RootA", "", []⟩, ⟨"Root", "a,b", [⟨"a", .ref "RootA"⟩, ⟨"b", .ref "RootA"⟩]⟩] := by
  refine ⟨⟨by decide, by decide⟩, ⟨by decide, by decide⟩, fun h => ?_, by cbv⟩
  have hkeys := h.mp (OneBlank.signature_eq (Or.inl ⟨rfl, rfl⟩))
  exact List.not_mem_nil ((hkeys "").mpr List.mem_cons_self)

end JsonShapes.Inference
