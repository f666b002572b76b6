import JsonShapes.Proofs.Naming.TypeName
import JsonShapes.Proofs.Shape.Nesting

/-! # The names of the declared types

A declared type has the type name of its hint, with digits behind it when that was taken (`Made`). A
hint is the given one, or the name of the type around it and the key of the field, with `Item` for
every array between.

* `makesType v known`: a walk of `v` makes a type of the hint it is given;
* `namingKeys v known`: the keys that the other types made in it are named after.

All names of a value are identifiers exactly when the given name is nameable and these keys can be
spelled (`type_names_identifiers_iff`). A type around has such a name itself, so only the key is asked
for, and the digits and `Item` never matter. -/

namespace JsonShapes

namespace Registry

theorem exists_digits_freshName (taken : List String) (candidate : String) :
    ∃ t, Naming.Digits t ∧ freshName taken candidate = candidate ++ t := by
  have hnone : Naming.Digits "" := by
    intro c hc
    cases hc
  rcases isDue_freshName taken candidate with ⟨-, hname⟩ | ⟨-, k, -, hname⟩
  · exact ⟨"", hnone, hname.trans String.append_empty.symm⟩
  · refine ⟨toString k, fun c hc => ?_, hname⟩
    rw [Nat.toString_eq_repr, Nat.toList_repr] at hc
    exact Nat.isDigit_of_mem_toDigits (by decide) (by decide) hc

end Registry

namespace Inference

open Naming

/-- **A name that was made for a hint.** -/
def Made (name hint : String) : Prop := ∃ t, Digits t ∧ name = typeName hint ++ t

theorem made_of_reserve {r reserved : Registry} {hint name : String}
    (h : r.reserve (typeName hint) = (name, reserved)) : Made name hint := by
  cases h
  exact Registry.exists_digits_freshName r.names (typeName hint)

section Made
variable {name hint : String}

theorem Made.chars (h : Made name hint) : ∀ c ∈ name.toList, Text.isNameChar c = true := by
  obtain ⟨t, ht, rfl⟩ := h
  rw [String.toList_append, List.forall_mem_append]
  exact ⟨typeName_chars hint, ht.nameChar⟩

theorem Made.head (h : Made name hint) : ∃ c cs, name.toList = c :: cs ∧ c.isLower = false := by
  obtain ⟨t, -, rfl⟩ := h
  obtain ⟨c, cs, hcs, hlower⟩ := typeName_head hint
  exact ⟨c, cs ++ t.toList, by rw [String.toList_append, hcs, List.cons_append], hlower⟩

theorem Made.isIdentifier_iff (h : Made name hint) : isIdentifier name = true ↔ Nameable hint := by
  obtain ⟨t, ht, rfl⟩ := h
  obtain ⟨c, cs, hcs, -⟩ := typeName_head hint
  rw [ht.isIdentifier_append (by rw [hcs]; exact List.cons_ne_nil _ _), isIdentifier_typeName_iff]

theorem Made.nameable_fieldHint_iff (h : Made name hint) (hn : Nameable hint) (key : String) :
    Nameable (fieldHint name key) ↔ Spellable key := by
  obtain ⟨t, ht, rfl⟩ := h
  obtain ⟨d, hd, -⟩ := exists_firstLetter?_typeName hint
  have hname : Nameable (typeName hint ++ t) :=
    (nameable_append_iff ⟨d, hd⟩ t).mpr ⟨nameable_typeName hn, ht.spellable⟩
  have hfirst : firstLetter? (typeName hint ++ t) = some d := by
    rw [firstLetter?_append, hd, Option.some_or]
  rw [fieldHint, nameable_append_iff ⟨d, hfirst⟩, spellable_capitalize_iff]
  exact and_iff_right hname

end Made

theorem nameable_itemHint_iff (hint : String) : Nameable (itemHint hint) ↔ Nameable hint := by
  have hitem : Spellable "Item" := spellable_of_isIdentifier (by decide)
  unfold itemHint
  cases h : firstLetter? hint with
  | some c => rw [nameable_append_iff ⟨c, h⟩, and_iff_left hitem]
  | none =>
    have hi : firstLetter? "Item" = some 'I' := by decide
    have hstart : Text.isIdentifierStart 'I' = true := by decide
    have hhint := nameable_of_firstLetter?_eq_none h
    refine iff_of_true ⟨(spellable_append_iff _ _).mpr ⟨hhint.spellable, hitem⟩, fun c hc => ?_⟩ hhint
    rw [firstLetter?_append, h, Option.none_or, hi] at hc
    exact Or.inr (Option.some.inj hc ▸ hstart)

/-! ### Names handed out in a walk -/

theorem made_of_mem_names (dates : Bool) (v : Value) (hint : String) (r : Registry) :
    ∀ name ∈ (infer dates v hint r).registry.names, name ∈ r.names ∨ ∃ h, Made name h := by
  refine (walk_induction dates
    (P := fun v hint r => ∀ name ∈ (infer dates v hint r).registry.names,
      name ∈ r.names ∨ ∃ h, Made name h)
    (Q := fun owner fields r => ∀ name ∈ (inferFields dates owner fields r).2.1.names,
      name ∈ r.names ∨ ∃ h, Made name h)
    ?leaf ?item ?known ?made ?nil ?cons).1 v hint r
  case leaf =>
    intro v t hint r ht name hname
    rw [(infer_leaf ht hint r).2] at hname
    exact Or.inl hname
  case item =>
    intro a v hint r ha ih name hname
    rw [(infer_item ha hint r).2] at hname
    exact ih name hname
  case known =>
    intro fields hint r name h name' hname
    rw [infer_known h] at hname
    exact Or.inl hname
  case made =>
    intro fields hint r owner reserved hnone hr ih name hname
    rw [infer_made hnone hr] at hname
    rcases ih name hname with hname | hmade
    · rw [(Registry.reserve_eq hr).2.1, List.mem_append, List.mem_singleton] at hname
      rcases hname with hname | rfl
      · exact Or.inl hname
      · exact Or.inr ⟨hint, made_of_reserve hr⟩
    · exact Or.inr hmade
  case nil =>
    intro owner r name hname
    rw [inferFields_nil] at hname
    exact Or.inl hname
  case cons =>
    intro owner k v rest r ihv ihrest name hname
    rw [inferFields_cons] at hname
    rcases ihrest name hname with hname | hmade
    · exact ihv name hname
    · exact Or.inr hmade

theorem exists_made (dates : Bool) (v : Value) (name : String) :
    ∀ d ∈ (infer dates v name .empty).registry.declarations, ∃ hint, Made d.name hint := by
  intro d hd
  have hnames := (infer_consistent dates Registry.consistent_empty v name).names
  have hmem : d.name ∈ (infer dates v name .empty).registry.names :=
    hnames.mem_iff.mpr (List.mem_append_left _ (List.mem_map_of_mem hd))
  exact (made_of_mem_names dates v name .empty d.name hmem).resolve_left List.not_mem_nil

/-! ### Which keys name types -/

/-- Whether a walk makes a type of the hint it is given, when the signatures `known` are declared. -/
def makesType : Value → (known : List String) → Bool
  | .array (v :: _), known => makesType v known
  | .tuple (v :: _), known => makesType v known
  | .object fields, known => signature fields ∉ known
  | _, _ => false

mutual

/-- **The keys that types are named after**, when the signatures `known` are declared. -/
def namingKeys : Value → (known : List String) → List String
  | .array (v :: _), known => namingKeys v known
  | .tuple (v :: _), known => namingKeys v known
  | .object fields, known =>
    if signature fields ∈ known then [] else namingKeysFields fields known
  | _, _ => []

def namingKeysFields : List (Key × Value) → (known : List String) → List String
  | [], _ => []
  | (k, v) :: rest, known =>
    (if makesType v known then [k.text] else []) ++ namingKeys v known ++
      namingKeysFields rest (signaturesAfter v known)

end

theorem makesType_leaf {dates : Bool} {v : Value} {t : TypeExpr} (h : leafType? dates v = some t)
    (known : List String) : makesType v known = false ∧ namingKeys v known = [] := by
  unfold leafType? at h
  split at h <;> cases h
  all_goals simp [makesType, namingKeys]

theorem makesType_item {a v : Value} (h : firstItem? a = some v) (known : List String) :
    makesType a known = makesType v known ∧ namingKeys a known = namingKeys v known := by
  unfold firstItem? at h
  split at h <;> cases h <;> simp [makesType, namingKeys]

theorem mem_signatures_iff {r : Registry} {pending : List String} (h : r.Consistent pending)
    (s : String) : s ∈ r.declarations.map (·.signature) ↔ r.lookup s ≠ none := by
  rw [ne_eq, h.lookup_eq_none_iff, List.mem_map]
  push Not
  rfl

/-- **From any consistent registry, the new names are identifiers** exactly when the hint is nameable,
if a type is made of it, and the keys that name the other types can be spelled. -/
theorem infer_identifiers_iff (dates : Bool) (v : Value) (hint : String) {r : Registry}
    {pending : List String} (h : r.Consistent pending) :
    ∃ new, (infer dates v hint r).registry.declarations = r.declarations ++ new ∧
      ((∀ d ∈ new, isIdentifier d.name = true) ↔
        (makesType v (r.declarations.map (·.signature)) = true → Nameable hint) ∧
          ∀ key ∈ namingKeys v (r.declarations.map (·.signature)), Spellable key) := by
  -- of the fields of a type we only ask when its own name is a good one
  refine (walk_induction dates
    (P := fun v hint r => ∀ pending, Registry.Consistent r pending →
      ∃ new, (infer dates v hint r).registry.declarations = r.declarations ++ new ∧
        ((∀ d ∈ new, isIdentifier d.name = true) ↔
          (makesType v (r.declarations.map (·.signature)) = true → Nameable hint) ∧
            ∀ key ∈ namingKeys v (r.declarations.map (·.signature)), Spellable key))
    (Q := fun owner fields r => ∀ pending hint, Registry.Consistent r pending →
      Made owner hint → Nameable hint →
      ∃ new, (inferFields dates owner fields r).2.1.declarations = r.declarations ++ new ∧
        ((∀ d ∈ new, isIdentifier d.name = true) ↔
          ∀ key ∈ namingKeysFields fields (r.declarations.map (·.signature)), Spellable key))
    ?leaf ?item ?known ?made ?nil ?cons).1 v hint r pending h
  case leaf =>
    intro v t hint r ht pending hc
    rw [(infer_leaf ht hint r).2, (makesType_leaf ht _).1, (makesType_leaf ht _).2]
    exact ⟨[], (List.append_nil _).symm, by simp⟩
  case item =>
    intro a v hint r ha ih pending hc
    rw [(infer_item ha hint r).2, (makesType_item ha _).1, (makesType_item ha _).2,
      ← nameable_itemHint_iff hint]
    exact ih pending hc
  case known =>
    intro fields hint r name hname pending hc
    have hmem : signature fields ∈ r.declarations.map (·.signature) :=
      (mem_signatures_iff hc _).mpr (by rw [hname]; exact Option.some_ne_none _)
    rw [infer_known hname, makesType, namingKeys, if_pos hmem]
    exact ⟨[], (List.append_nil _).symm, by simp [hmem]⟩
  case made =>
    intro fields hint r name reserved hnone hr ih pending hc
    have hmem : signature fields ∉ r.declarations.map (·.signature) := by
      rw [mem_signatures_iff hc, hnone]
      exact fun hne => hne rfl
    have hmade := made_of_reserve hr
    have hdecl := (Registry.reserve_eq hr).2.2.1
    obtain ⟨d, hd, hname⟩ : ∃ d, (infer dates (.object fields) hint r).registry.declarations =
        (inferFields dates name fields reserved).2.1.declarations ++ [d] ∧ d.name = name :=
      ⟨_, declarations_made dates hnone hr, rfl⟩
    have hlast : (∀ e ∈ [d], isIdentifier e.name = true) ↔ Nameable hint := by
      rw [List.forall_mem_singleton, hname, hmade.isIdentifier_iff]
    rw [hd, makesType, namingKeys, if_neg hmem]
    by_cases hn : Nameable hint
    · obtain ⟨new, hnew, hiff⟩ := ih _ hint (hc.reserve hr) hmade hn
      rw [hdecl] at hnew hiff
      refine ⟨new ++ [d], by rw [hnew, List.append_assoc], ?_⟩
      rw [List.forall_mem_append, hiff, hlast]
      simp [hn]
    · obtain ⟨new, hnew⟩ := (inferFields_extends dates name fields reserved).declarations
      rw [hdecl] at hnew
      refine ⟨new ++ [d], by rw [← hnew, List.append_assoc], ?_⟩
      rw [List.forall_mem_append, hlast]
      simp [hn, hmem]
  case nil =>
    intro owner r pending hint _ _ _
    rw [inferFields_nil, namingKeysFields]
    exact ⟨[], (List.append_nil _).symm, by simp⟩
  case cons =>
    intro owner k v rest r ihv ihrest pending hint hc hmade hn
    have hmid := infer_consistent dates hc v (fieldHint owner k.text)
    obtain ⟨new, hnew, hiff⟩ := ihv pending hc
    obtain ⟨new', hnew', hiff'⟩ := ihrest pending hint hmid hmade hn
    rw [signatures_infer dates v (fieldHint owner k.text) hc] at hiff'
    rw [inferFields_cons, namingKeysFields]
    refine ⟨new ++ new', by rw [hnew', hnew, List.append_assoc], ?_⟩
    rw [List.forall_mem_append, hiff, hiff', hmade.nameable_fieldHint_iff hn,
      List.forall_mem_append, List.forall_mem_append]
    refine and_congr_left' (and_congr_left' ?_)
    split_ifs with hmakes <;> simp [hmakes]

/-- **When all type names of a value are identifiers**, those of its declarations and the one it is
exported under: exactly when the given name is nameable, and the keys that types are named after can be
spelled. -/
theorem type_names_identifiers_iff (dates : Bool) (v : Value) (name : String) :
    ((∀ d ∈ (infer dates v name .empty).registry.declarations, isIdentifier d.name = true) ∧
        isIdentifier (typeName name) = true) ↔
      Nameable name ∧ ∀ key ∈ namingKeys v [], Spellable key := by
  obtain ⟨new, hnew, hiff⟩ := infer_identifiers_iff dates v name Registry.consistent_empty
  have hnew : (infer dates v name .empty).registry.declarations = new := hnew
  rw [hnew, hiff, isIdentifier_typeName_iff]
  constructor
  · rintro ⟨⟨-, hkeys⟩, hn⟩
    exact ⟨hn, hkeys⟩
  · rintro ⟨hn, hkeys⟩
    exact ⟨⟨fun _ => hn, hkeys⟩, hn⟩

/-- A key names no type when its value is no object, or one of a known signature. -/
example : namingKeys (.object [(.name "a", .array [.object [(.name "b²", .null)]]),
    (.name "c²", .object [(.name "b²", .null)])]) [] = ["a"] := by
  cbv

/-- A superscript two is a word character with a digit value, and stands in no identifier. -/
theorem superscript_name_no_identifier :
    (infer false (.object [(.name "a", .int 1)]) "²" .empty).registry.declarations =
        [⟨"_²", "a", [⟨"a", .number⟩]⟩] ∧
      ¬ ((∀ d ∈ (infer false (.object [(.name "a", .int 1)]) "²" .empty).registry.declarations,
          isIdentifier d.name = true) ∧ isIdentifier (typeName "²") = true) := by
  have hd : (infer false (.object [(.name "a", .int 1)]) "²" .empty).registry.declarations =
      [⟨"_²", "a", [⟨"a", .number⟩]⟩] := by cbv
  have hname : isIdentifier "_²" = false := by decide
  refine ⟨hd, fun h => ?_⟩
  rw [hd, List.forall_mem_singleton, hname] at h
  exact Bool.false_ne_true h.1

end Inference

end JsonShapes
