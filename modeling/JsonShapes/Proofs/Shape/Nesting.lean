import JsonShapes.Proofs.Shape.Fitting

/-! # Objects inside objects of their signature

The memo learns a signature when its first object is left. An object inside that one, with the same
signature, is entered before and gets a declaration of its own; the signature is then declared twice.

* `signaturesAfter v known`: the signatures declared after the walk of `v`, in order, when `known`
  were before. They depend on the value alone (`signatures_infer`).
* `recurs v around known`: the walk of `v` enters an object inside an object of its signature, where
  `around` are the signatures of the objects that `v` is inside of.
* `Meets`: the objects that a walk comes to, each with the name that it gets.

Signatures are declared once, and the objects met of one signature get one name, exactly when the
value does not recur (`signatures_distinct_iff`). -/

namespace JsonShapes.Inference

mutual

/-- The signatures that are declared after a value is walked. -/
def signaturesAfter : Value → (known : List String) → List String
  | .array (v :: _), known => signaturesAfter v known
  | .tuple (v :: _), known => signaturesAfter v known
  | .object fields, known =>
    if signature fields ∈ known then known
    else signaturesAfterFields fields known ++ [signature fields]
  | _, known => known

def signaturesAfterFields : List (Key × Value) → (known : List String) → List String
  | [], known => known
  | (_, v) :: rest, known => signaturesAfterFields rest (signaturesAfter v known)

end

mutual

/-- **Whether an object is entered inside one of its signature.** -/
def recurs : Value → (around known : List String) → Bool
  | .array (v :: _), around, known => recurs v around known
  | .tuple (v :: _), around, known => recurs v around known
  | .object fields, around, known =>
    signature fields ∉ known &&
      (signature fields ∈ around || recursFields fields (signature fields :: around) known)
  | _, _, _ => false

def recursFields : List (Key × Value) → (around known : List String) → Bool
  | [], _, _ => false
  | (_, v) :: rest, around, known =>
    recurs v around known || recursFields rest around (signaturesAfter v known)

end

/-- **The objects met in a walk**, with the name each of them gets. -/
inductive Meets (dates : Bool) (fields : List (Key × Value)) (name : String) :
    Value → String → Registry → Prop
  | here {hint : String} {r : Registry}
    (h : (infer dates (.object fields) hint r).type = .ref name) :
    Meets dates fields name (.object fields) hint r
  | item {a v : Value} {hint : String} {r : Registry} (ha : firstItem? a = some v)
    (h : Meets dates fields name v (itemHint hint) r) : Meets dates fields name a hint r
  | field {before after : List (Key × Value)} {k : Key} {v : Value} {hint owner : String}
    {r reserved : Registry} (hnone : r.lookup (signature (before ++ (k, v) :: after)) = none)
    (hr : r.reserve (Naming.typeName hint) = (owner, reserved))
    (h : Meets dates fields name v (fieldHint owner k.text)
      (inferFields dates owner before reserved).2.1) :
    Meets dates fields name (.object (before ++ (k, v) :: after)) hint r

variable {dates : Bool}

/-! ### The signatures declared -/

theorem signaturesAfter_leaf {v : Value} {t : TypeExpr} (h : leafType? dates v = some t)
    (known : List String) : signaturesAfter v known = known := by
  unfold leafType? at h
  split at h <;> cases h
  all_goals simp [signaturesAfter]

theorem signaturesAfter_item {a v : Value} (h : firstItem? a = some v) (known : List String) :
    signaturesAfter a known = signaturesAfter v known := by
  unfold firstItem? at h
  split at h <;> cases h <;> simp [signaturesAfter]

/-- **A walk declares the signatures of its value**, whatever the names and dates. -/
theorem signatures_infer (dates : Bool) (v : Value) (hint : String) {r : Registry}
    {pending : List String} (h : r.Consistent pending) :
    (infer dates v hint r).registry.declarations.map (·.signature) =
      signaturesAfter v (r.declarations.map (·.signature)) := by
  refine declaration_induction
    (P := fun v D _ D' => D'.map (·.signature) = signaturesAfter v (D.map (·.signature)))
    (Q := fun fields D _ D' =>
      D'.map (·.signature) = signaturesAfterFields fields (D.map (·.signature)))
    ?leaf ?item ?known ?made ?nil ?cons v hint h
  case leaf =>
    intro v D t ht
    rw [signaturesAfter_leaf ht]
  case item =>
    intro a v D t D' ha ih
    rw [signaturesAfter_item ha, ih]
  case known =>
    intro fields D d _ hd hs
    rw [signaturesAfter, if_pos (List.mem_map.mpr ⟨d, hd, hs⟩)]
  case made =>
    intro fields D D' d hnew _ hs _ ih
    have hmem : signature fields ∉ D.map (·.signature) := by
      intro hmem
      obtain ⟨e, he, hes⟩ := List.mem_map.mp hmem
      exact hnew e he hes
    rw [signaturesAfter, if_neg hmem, List.map_append, ih, List.map_singleton, hs]
  case nil =>
    intro D
    rw [signaturesAfterFields]
  case cons =>
    intro k v rest D t D₁ typed D₂ _ _ _ ihv ihrest
    rw [signaturesAfterFields, ← ihv, ihrest]

theorem prefix_signaturesAfter :
    (∀ v known, known <+: signaturesAfter v known) ∧
      ∀ fields known, known <+: signaturesAfterFields fields known := by
  apply signaturesAfter.mutual_induct
    (fun v known => known <+: signaturesAfter v known)
    (fun fields known => known <+: signaturesAfterFields fields known)
  case case1 => intro v tail known ih; rwa [signaturesAfter]
  case case2 => intro v tail known ih; rwa [signaturesAfter]
  case case3 => intro fields known h; rw [signaturesAfter, if_pos h]
  case case4 =>
    intro fields known h ih
    rw [signaturesAfter, if_neg h]
    exact ih.trans (List.prefix_append _ _)
  case case5 => intro v known h1 h2 h3; rw [signaturesAfter]; all_goals assumption
  case case6 => intro known; rw [signaturesAfterFields]
  case case7 =>
    intro k v rest known ihv ihrest
    rw [signaturesAfterFields]
    exact ihv.trans ihrest

/-- Signatures that are declared once stay apart, and apart from those around, unless the value
recurs: a signature around is not declared yet, and an object that has it is entered. -/
theorem nodup_signaturesAfter_iff :
    (∀ v known around, (known ++ around).Nodup →
      ((signaturesAfter v known ++ around).Nodup ↔ recurs v around known = false)) ∧
    ∀ fields known around, (known ++ around).Nodup →
      ((signaturesAfterFields fields known ++ around).Nodup ↔
        recursFields fields around known = false) := by
  apply signaturesAfter.mutual_induct
    (fun v known => ∀ around, (known ++ around).Nodup →
      ((signaturesAfter v known ++ around).Nodup ↔ recurs v around known = false))
    (fun fields known => ∀ around, (known ++ around).Nodup →
      ((signaturesAfterFields fields known ++ around).Nodup ↔
        recursFields fields around known = false))
  case case1 =>
    intro v tail known ih around hn
    rw [signaturesAfter, recurs]
    exact ih around hn
  case case2 =>
    intro v tail known ih around hn
    rw [signaturesAfter, recurs]
    exact ih around hn
  case case3 =>
    intro fields known h around hn
    rw [signaturesAfter, if_pos h, recurs]
    simp [hn, h]
  case case4 =>
    intro fields known h ih around hn
    rw [signaturesAfter, if_neg h, recurs, List.append_assoc, List.singleton_append]
    -- the signature comes after those of the fields, so for them it is one of those around
    by_cases hs : signature fields ∈ around
    · have hdup : ¬ (signaturesAfterFields fields known ++ signature fields :: around).Nodup := by
        intro hd
        exact (List.nodup_cons.mp hd.of_append_right).1 hs
      simp [hdup, h, hs]
    · have hn' : (known ++ signature fields :: around).Nodup := by
        rw [List.nodup_middle, List.nodup_cons, List.mem_append]
        exact ⟨by rintro (hk | hk) <;> contradiction, hn⟩
      rw [ih _ hn']
      simp [h, hs]
  case case5 =>
    intro v known h1 h2 h3 around hn
    rw [signaturesAfter, recurs]
    · simp [hn]
    all_goals assumption
  case case6 =>
    intro known around hn
    rw [signaturesAfterFields, recursFields]
    simp [hn]
  case case7 =>
    intro k v rest known ihv ihrest around hn
    rw [signaturesAfterFields, recursFields]
    by_cases hv : recurs v around known = false
    · have hn' := (ihv around hn).mpr hv
      rw [ihrest around hn']
      simp [hv]
    · have hdup : ¬ (signaturesAfterFields rest (signaturesAfter v known) ++ around).Nodup := by
        intro hd
        have hsub := (prefix_signaturesAfter.2 rest (signaturesAfter v known)).sublist
        exact hv ((ihv around hn).mp (hd.sublist (hsub.append_right around)))
      simp [hdup, hv]

/-! ### The objects met -/

theorem extends_of_field {before after : List (Key × Value)} {k : Key} {v : Value}
    {hint owner : String} {r reserved : Registry}
    (hnone : r.lookup (signature (before ++ (k, v) :: after)) = none)
    (hr : r.reserve (Naming.typeName hint) = (owner, reserved)) :
    (infer dates v (fieldHint owner k.text)
      (inferFields dates owner before reserved).2.1).registry.Extends
      (infer dates (.object (before ++ (k, v) :: after)) hint r).registry := by
  rw [infer_made hnone hr, inferFields_append, inferFields_cons]
  exact (inferFields_extends dates owner after _).trans (Registry.extends_register _ _)

theorem Meets.fits {fields : List (Key × Value)} {name hint : String} {v : Value} {r : Registry}
    (hm : Meets dates fields name v hint r) {pending : List String} (h : r.Consistent pending) :
    Fits dates (infer dates v hint r).registry.declarations (.object fields) (.ref name) := by
  induction hm generalizing pending with
  | @here hint r ht => exact ht ▸ (infer_fits_and_describes dates (.object fields) hint h).1
  | item ha _ ih =>
    rw [(infer_item ha _ _).2]
    exact ih h
  | @field before after k v hint owner r reserved hnone hr _ ih =>
    have hfits := ih (inferFields_consistent dates (h.reserve hr) owner before)
    have hlast := infer_consistent dates h (.object (before ++ (k, v) :: after)) hint
    exact hfits.mono hlast.nodup (extends_of_field hnone hr).declarations.subset

theorem exists_meets (dates : Bool) (v : Value) (hint : String) (r : Registry) :
    ∀ d ∈ (infer dates v hint r).registry.declarations, d ∈ r.declarations ∨
      ∃ fields, signature fields = d.signature ∧ Meets dates fields d.name v hint r := by
  refine (walk_induction dates
    (P := fun v hint r => ∀ d ∈ (infer dates v hint r).registry.declarations,
      d ∈ r.declarations ∨ ∃ fields, signature fields = d.signature ∧
        Meets dates fields d.name v hint r)
    (Q := fun owner fields r => ∀ d ∈ (inferFields dates owner fields r).2.1.declarations,
      d ∈ r.declarations ∨ ∃ before k v after, fields = before ++ (k, v) :: after ∧
        ∃ inner, signature inner = d.signature ∧ Meets dates inner d.name v
          (fieldHint owner k.text) (inferFields dates owner before r).2.1)
    ?leaf ?item ?known ?made ?nil ?cons).1 v hint r
  case leaf =>
    intro v t hint r ht d hd
    rw [(infer_leaf ht hint r).2] at hd
    exact Or.inl hd
  case item =>
    intro a v hint r ha ih d hd
    rw [(infer_item ha hint r).2] at hd
    refine (ih d hd).imp_right ?_
    rintro ⟨fields, hs, hm⟩
    exact ⟨fields, hs, .item ha hm⟩
  case known =>
    intro fields hint r name hname d hd
    rw [infer_known hname] at hd
    exact Or.inl hd
  case made =>
    intro fields hint r name reserved hnone hr ih d hd
    rw [infer_made hnone hr] at hd
    rcases List.mem_append.mp hd with hd | hd
    · rcases ih d hd with hd | ⟨before, k, v, after, rfl, inner, hs, hm⟩
      · exact Or.inl ((Registry.reserve_eq hr).2.2.1 ▸ hd)
      · exact Or.inr ⟨inner, hs, .field hnone hr hm⟩
    · obtain rfl := List.mem_singleton.mp hd
      exact Or.inr ⟨fields, rfl, .here (by rw [infer_made hnone hr])⟩
  case nil =>
    intro owner r d hd
    rw [inferFields_nil] at hd
    exact Or.inl hd
  case cons =>
    intro owner k v rest r ihv ihrest d hd
    rw [inferFields_cons] at hd
    rcases ihrest d hd with hd | ⟨before, k', v', after, rfl, inner, hs, hm⟩
    · refine (ihv d hd).imp_right ?_
      rintro ⟨inner, hs, hm⟩
      exact ⟨[], k, v, rest, rfl, inner, hs, by rwa [inferFields_nil]⟩
    · exact Or.inr ⟨(k, v) :: before, k', v', after, rfl, inner, hs, by rwa [inferFields_cons]⟩

theorem same_name_iff (dates : Bool) (v : Value) (name : String) :
    (∀ fields fields' n n', Meets dates fields n v name .empty →
        Meets dates fields' n' v name .empty → signature fields = signature fields' → n = n') ↔
      ((infer dates v name .empty).registry.declarations.map (·.signature)).Nodup := by
  have hnames := (infer_consistent dates Registry.consistent_empty v name).nodup
  constructor
  · intro h
    refine List.Nodup.map_on (fun d hd e he hs => ?_) hnames.of_map
    obtain ⟨fields, hf, hm⟩ :=
      (exists_meets dates v name .empty d hd).resolve_left List.not_mem_nil
    obtain ⟨fields', hf', hm'⟩ :=
      (exists_meets dates v name .empty e he).resolve_left List.not_mem_nil
    exact List.inj_on_of_nodup_map hnames hd he (h _ _ _ _ hm hm' (by rw [hf, hf', hs]))
  · intro h fields fields' n n' hm hm' hs
    obtain ⟨d, hd, rfl, hds⟩ := (hm.fits Registry.consistent_empty).exists_declaration
    obtain ⟨e, he, rfl, hes⟩ := (hm'.fits Registry.consistent_empty).exists_declaration
    rw [List.inj_on_of_nodup_map h hd he (by rw [hds, hes, hs])]

/-- **When every signature is declared once**: exactly when no object is entered inside one of its
signature. The objects that are met then get their names by signature. -/
theorem signatures_distinct_iff (dates : Bool) (v : Value) (name : String) :
    (((infer dates v name .empty).registry.declarations.map (·.signature)).Nodup ↔
        recurs v [] [] = false) ∧
      ((∀ fields fields' n n', Meets dates fields n v name .empty →
          Meets dates fields' n' v name .empty → signature fields = signature fields' → n = n') ↔
        recurs v [] [] = false) := by
  have hdecl : ((infer dates v name .empty).registry.declarations.map (·.signature)).Nodup ↔
      recurs v [] [] = false := by
    rw [signatures_infer dates v name Registry.consistent_empty]
    have h := nodup_signaturesAfter_iff.1 v [] [] (by simp)
    rwa [List.append_nil] at h
  exact ⟨hdecl, (same_name_iff dates v name).trans hdecl⟩

/-- An object of a known signature is not entered, whatever is inside it. -/
example : recurs (.object [(.name "x", .object [(.name "a", .null)]),
    (.name "y", .object [(.name "a", .object [(.name "a", .null)])])]) [] [] = false := by
  cbv

/-- The object and its only field have the same keys, and each is declared. -/
theorem nested_signature_declared_twice :
    (infer false (.object [(.name "a", .object [(.name "a", .int 1)])]) "Root"
      .empty).registry.declarations =
        [⟨"RootA", "a", [⟨"a", .number⟩]⟩, ⟨"Root", "a", [⟨"a", .ref "RootA"⟩]⟩] ∧
      ¬ ((infer false (.object [(.name "a", .object [(.name "a", .int 1)])]) "Root"
        .empty).registry.declarations.map (·.signature)).Nodup := by
  have h : (infer false (.object [(.name "a", .object [(.name "a", .int 1)])]) "Root"
      .empty).registry.declarations =
        [⟨"RootA", "a", [⟨"a", .number⟩]⟩, ⟨"Root", "a", [⟨"a", .ref "RootA"⟩]⟩] := by
    decide +kernel
  exact ⟨h, by rw [h]; decide⟩

end JsonShapes.Inference
